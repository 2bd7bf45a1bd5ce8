import Survey.Question.Condition

/-!
# Questions

A question has a place among the questions of its questionnaire, a text, a kind and the limits, options, rows and conditions
that go with its kind. Nothing is checked here: whether a list of questions makes a questionnaire is decided when it is built.
-/

namespace Survey

/-- An option of a question. A free-text option asks for some text of the respondent's own when it is chosen. -/
structure AnswerOption where
  id : OptionId
  body : String
  freeText : Bool := false
  deriving DecidableEq, Repr

/-- A row of a matrix question. -/
structure MatrixRow where
  id : RowId
  body : String
  deriving DecidableEq, Repr

/-- A question, or a separator between steps. A limit on characters of zero is no limit; the limit on choices holds for each row
of a matrix. -/
structure Question where
  id : QuestionId
  position : UInt32
  body : String
  description : Option String := none
  kind : QuestionKind
  mandatory : Bool := false
  maxCharacters : UInt32 := 0
  maxChoices : Option UInt32 := none
  options : List AnswerOption := []
  rows : List MatrixRow := []
  conditions : List DisplayCondition := []
  deriving DecidableEq, Repr

namespace Question

/-- A separator, which has no text. -/
def separator (id : QuestionId) (position : UInt32) : Question := { id, position, body := "", kind := .separator }

/-- The same question, shown under one more condition. -/
def withCondition (q : Question) (c : DisplayCondition) : Question := { q with conditions := q.conditions ++ [c] }

/-- Whether a question is a separator. -/
def isSeparator (q : Question) : Bool := q.kind.isSeparator

/-- The first option of an identifier. -/
def option? (q : Question) (id : OptionId) : Option AnswerOption := q.options.find? (·.id = id)

/-- The place of the first option of an identifier, from zero. -/
def optionIndex? (q : Question) (id : OptionId) : Option Nat := q.options.findIdx? (·.id = id)

/-- The place of the first row of an identifier, from zero. -/
def rowIndex? (q : Question) (id : RowId) : Option Nat := q.rows.findIdx? (·.id = id)

end Question

end Survey
