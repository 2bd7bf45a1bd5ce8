import Survey.Questionnaire.Basic

/-!
# Sample: bird watching

Two steps. The first asks whether and which birds were seen; the second follows up on a cockatoo that was typed in beside the
option for other birds, and on how the birds behaved.
-/

namespace Survey.Sample

/-- The definition of the bird watching questionnaire. -/
def birdWatching : Definition where
  id := 5
  title := "Bird watching"
  description := some "A few questions about your last walk."
  terms := some "Your answers are shared with the local bird watchers' club."
  questions := [
    { id := 1, position := 0, body := "Did you go bird watching this year?", kind := .singleOption, mandatory := true,
      options := [{ id := 10, body := "Yes" }, { id := 11, body := "No" }] },
    { id := 2, position := 1, body := "Which birds did you see?", kind := .multipleOption, mandatory := true,
      maxChoices := some 3,
      options := [{ id := 20, body := "Parrot" }, { id := 21, body := "Pigeon" }, { id := 22, body := "Crow" },
        { id := 23, body := "Other", freeText := true }],
      conditions := [(DisplayCondition.equal 1 10).asMandatory] },
    { id := 3, position := 2, body := "Why not?", kind := .longAnswer, maxCharacters := 280,
      conditions := [.equal 1 11] },
    .separator 4 3,
    { id := 5, position := 4, body := "Where did you see the cockatoo?", kind := .shortAnswer, mandatory := true,
      maxCharacters := 60, conditions := [.matching 2 "cacatua"] },
    { id := 6, position := 5, body := "How did the birds behave?", kind := .matrixSingle,
      rows := [{ id := 100, body := "Parrot" }, { id := 101, body := "Crow" }],
      options := [{ id := 60, body := "Calm" }, { id := 61, body := "Noisy" }],
      conditions := [.equal 2 20, .equal 2 22] }]

end Survey.Sample
