import Survey.Answer.Value
import Survey.Question.Basic

/-!
# Values that suit a question

A value suits a question when its shape is the one the question's kind asks for and all options and rows it names are the
question's own. It may still be blank, too long or incomplete.
-/

namespace Survey

/-- Why a value does not suit a question. -/
inductive Misfit where
  | wrongShape (kind : QuestionKind) (shape : ValueShape)
  | unknownOption (option : OptionId)
  | unknownRow (row : RowId)
  deriving DecidableEq, Repr

/-- An error in words. -/
def Misfit.message : Misfit → String
  | .wrongShape kind shape => s!"a {shape.title} answer does not fit a {kind.name} question"
  | .unknownOption option => s!"{option} is not one of its options"
  | .unknownRow row => s!"{row} is not one of its rows"

/-- Whether a question of kind `k` is answered by values of a shape. -/
def QuestionKind.takes (k : QuestionKind) : ValueShape → Bool
  | .text => k.isText
  | .choices => k.isChoice
  | .sorting => k = .sorting
  | .matrix => k.isMatrix

/-- The rows a value names. -/
def AnswerValue.rows : AnswerValue → List RowId
  | .matrix cells => cells.map (·.row)
  | _ => []

/-- Why a value does not suit a question: its shape, or else the first option, or else the first row that is not the question's. -/
def Question.misfit? (q : Question) (value : AnswerValue) : Option Misfit :=
  if q.kind.takes value.shape then
    ((value.selected.find? fun option => (q.option? option).isNone).map .unknownOption).or
      ((value.rows.find? fun row => (q.rowIndex? row).isNone).map .unknownRow)
  else some (.wrongShape q.kind value.shape)

end Survey
