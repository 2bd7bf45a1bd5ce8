import Survey.Ident
import Survey.Text.Blank

/-!
# Values

What a respondent gives as the answer to one question. A value has one of four shapes, whatever question it is given to;
whether it suits the question is checked elsewhere.
-/

namespace Survey

/-- An option a respondent chose, with text of the respondent's own. -/
structure Choice where
  option : OptionId
  customBody : Option String := none
  deriving DecidableEq, Repr

/-- An option a respondent chose in a row of a matrix. -/
structure MatrixCell where
  row : RowId
  option : OptionId
  deriving DecidableEq, Repr

/-- The shapes of values. -/
inductive ValueShape where
  | text | choices | sorting | matrix
  deriving DecidableEq, Repr

namespace ValueShape

/-- Every shape. -/
def all : List ValueShape := [.text, .choices, .sorting, .matrix]

/-- The name of a shape in messages. -/
def title : ValueShape → String
  | .text => "Text"
  | .choices => "Choices"
  | .sorting => "Sorting"
  | .matrix => "Matrix"

/-- The name of a shape in records. -/
def name : ValueShape → String
  | .text => "text"
  | .choices => "choices"
  | .sorting => "sorting"
  | .matrix => "matrix"

/-- The shape of a name. -/
def ofName? (name : String) : Option ValueShape := all.find? (·.name = name)

theorem ofName?_name (s : ValueShape) : ofName? s.name = some s := by
  cases s <;> decide

end ValueShape

/-- The answer to a question. A ranking lists options from first to last. -/
inductive AnswerValue where
  | text (body : String)
  | choices (chosen : List Choice)
  | sorting (order : List OptionId)
  | matrix (cells : List MatrixCell)
  deriving DecidableEq, Repr

namespace AnswerValue

/-- The choice of options, without text of the respondent's own. -/
def ofOptions (options : List OptionId) : AnswerValue := .choices (options.map fun option => { option })

/-- The choice of one option with text of the respondent's own. -/
def ofCustom (option : OptionId) (text : String) : AnswerValue := .choices [{ option, customBody := some text }]

/-- The shape of a value. -/
def shape : AnswerValue → ValueShape
  | .text _ => .text
  | .choices _ => .choices
  | .sorting _ => .sorting
  | .matrix _ => .matrix

/-- Whether a value says nothing: blank text, or nothing selected. -/
def isBlank : AnswerValue → Bool
  | .text body => Text.isBlank body
  | .choices chosen => chosen.isEmpty
  | .sorting order => order.isEmpty
  | .matrix cells => cells.isEmpty

/-- The text of a value in text. -/
def text? : AnswerValue → Option String
  | .text body => some body
  | _ => none

/-- The choices of a value that chooses. -/
def choices? : AnswerValue → Option (List Choice)
  | .choices chosen => some chosen
  | _ => none

/-- The ranking of a value that ranks. -/
def sorting? : AnswerValue → Option (List OptionId)
  | .sorting order => some order
  | _ => none

/-- The cells of a value that chooses row by row. -/
def matrix? : AnswerValue → Option (List MatrixCell)
  | .matrix cells => some cells
  | _ => none

/-- The options a value names, in its order and as often as it names them. -/
def selected : AnswerValue → List OptionId
  | .text _ => []
  | .choices chosen => chosen.map (·.option)
  | .sorting order => order
  | .matrix cells => cells.map (·.option)

end AnswerValue

end Survey
