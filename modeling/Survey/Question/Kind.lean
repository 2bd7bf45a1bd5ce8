/-!
# Kinds of questions

A question asks for text, for a choice of options, for a ranking of options, or for options row by row. A separator asks for
nothing: it ends a step.
-/

namespace Survey

/-- What a question asks for. -/
inductive QuestionKind where
  | shortAnswer | longAnswer | singleOption | multipleOption | sorting | matrixSingle | matrixMultiple | separator
  deriving DecidableEq, Repr

namespace QuestionKind

/-- Every kind. -/
def all : List QuestionKind :=
  [.shortAnswer, .longAnswer, .singleOption, .multipleOption, .sorting, .matrixSingle, .matrixMultiple, .separator]

/-- The name of a kind in messages and in records. -/
def name : QuestionKind → String
  | .shortAnswer => "short_answer"
  | .longAnswer => "long_answer"
  | .singleOption => "single_option"
  | .multipleOption => "multiple_option"
  | .sorting => "sorting"
  | .matrixSingle => "matrix_single"
  | .matrixMultiple => "matrix_multiple"
  | .separator => "separator"

/-- The kind of a name. -/
def ofName? (name : String) : Option QuestionKind := all.find? (·.name = name)

theorem ofName?_name (k : QuestionKind) : ofName? k.name = some k := by
  cases k <;> decide

/-- Not answered at all. -/
def isSeparator (k : QuestionKind) : Bool := k = .separator

/-- Answered in text. -/
def isText : QuestionKind → Bool
  | .shortAnswer | .longAnswer => true
  | _ => false

/-- Answered by choosing among options. -/
def isChoice : QuestionKind → Bool
  | .singleOption | .multipleOption => true
  | _ => false

/-- Answered by choosing options in each row. -/
def isMatrix : QuestionKind → Bool
  | .matrixSingle | .matrixMultiple => true
  | _ => false

/-- Answered with options, chosen or ranked. -/
def hasOptions (k : QuestionKind) : Bool := k.isChoice || k.isMatrix || k = .sorting

end QuestionKind

end Survey
