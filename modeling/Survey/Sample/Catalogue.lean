import Survey.Sample.BirdRatings
import Survey.Sample.BirdWatching
import Survey.Sample.Onboarding
import Survey.Sample.WordOrder

/-!
# The samples by name
-/

namespace Survey.Sample

/-- The samples and their names. -/
def catalogue : List (String × Definition) :=
  [("bird_watching", birdWatching), ("bird_ratings", birdRatings), ("word_order", wordOrder), ("onboarding", onboarding)]

/-- The sample of a name. -/
def named? (name : String) : Option Definition := (catalogue.find? (·.1 = name)).map (·.2)

end Survey.Sample
