import Survey.Question.Basic

/-!
# Definitions of questionnaires

What an author writes: the questions in any order, with their positions, and what stands around them. The revision counts
the changes of the questions.
-/

namespace Survey

/-- A questionnaire as its author wrote it. Nothing of it has been checked. -/
structure Definition where
  id : QuestionnaireId
  title : String
  description : Option String := none
  terms : Option String := none
  revision : UInt64 := 0
  questions : List Question
  deriving DecidableEq, Repr

end Survey
