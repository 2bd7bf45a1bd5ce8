import Survey.Questionnaire.Basic

/-!
# Sample: word order

Five words to be put in the order of a sentence. The options stand out of that order, which is: We all like dark chocolate.
-/

namespace Survey.Sample

/-- The definition of the word order questionnaire. -/
def wordOrder : Definition where
  id := 2
  title := "Word order"
  questions := [
    { id := 1, position := 0, body := "Put the words in order", kind := .sorting, mandatory := true,
      options := [{ id := 10, body := "chocolate" }, { id := 11, body := "like" }, { id := 12, body := "We" },
        { id := 13, body := "dark" }, { id := 14, body := "all" }] }]

end Survey.Sample
