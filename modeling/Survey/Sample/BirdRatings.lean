import Survey.Questionnaire.Basic

/-!
# Sample: bird ratings

A mandatory matrix with one option in a row, and a matrix with up to two options in a row.
-/

namespace Survey.Sample

/-- The birds that are rated. -/
def birds : List MatrixRow := [{ id := 100, body := "Parrot" }, { id := 101, body := "Pigeon" }]

/-- The definition of the bird ratings. -/
def birdRatings : Definition where
  id := 3
  title := "Bird ratings"
  questions := [
    { id := 1, position := 0, body := "How much do you like them?", kind := .matrixSingle, mandatory := true, rows := birds,
      options := [{ id := 10, body := "A lot" }, { id := 11, body := "Not at all" }] },
    { id := 2, position := 1, body := "Which traits fit?", kind := .matrixMultiple, maxChoices := some 2, rows := birds,
      options := [{ id := 20, body := "Loud" }, { id := 21, body := "Colourful" }, { id := 22, body := "Clever" }] }]

end Survey.Sample
