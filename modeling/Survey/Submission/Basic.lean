import Survey.Ident

/-!
# Submissions

What is kept of a completed questionnaire. A stored choice carries the body its option had, so a submission can be read without
the questionnaire it answers.
-/

namespace Survey

/-- An option that was chosen or ranked. A ranked option has its place, from zero; an option chosen in a matrix has its row. -/
structure StoredChoice where
  option : OptionId
  body : String
  customBody : Option String := none
  position : Option UInt32 := none
  row : Option RowId := none
  deriving DecidableEq, Repr

/-- The answer to a question: text, or options. -/
structure StoredAnswer where
  question : QuestionId
  body : Option String := none
  choices : List StoredChoice := []
  deriving DecidableEq, Repr

/-- The answers of a respondent to a questionnaire at a revision. -/
structure Submission where
  questionnaire : QuestionnaireId
  revision : UInt64
  respondent : RespondentId
  answers : List StoredAnswer
  deriving DecidableEq, Repr

/-- The answer to a question. -/
def Submission.answer? (s : Submission) (question : QuestionId) : Option StoredAnswer :=
  s.answers.find? (·.question = question)

end Survey
