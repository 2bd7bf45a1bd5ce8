import Survey.Sorting
import Survey.Submission.Basic
import Survey.Visibility

/-!
# From answers to a submission

A submission holds the answers to the visible questions that say something, in the order of the questions. What a question does
not have is dropped from them. Chosen options are stored in the order in which the question lists them, and those of a matrix
row by row, each once; a ranking keeps its own order. Text of the respondent's own goes with free-text options only, and only
if it says something.
-/

namespace Survey

namespace Question

/-- How a chosen option is stored. -/
def storeChoice (option : AnswerOption) (choice : Choice) : StoredChoice :=
  { option := option.id, body := option.body,
    customBody := choice.customBody.filter fun body => option.freeText && !Text.isBlank body }

/-- Where a choice stands among those stored, at the place of its option, and how it is stored, if the question has its option. -/
def placeChoice? (q : Question) (choice : Choice) : Option (Nat × StoredChoice) := do
  let place ← q.optionIndex? choice.option
  let option ← q.options[place]?
  return (place, storeChoice option choice)

/-- How chosen options are stored: in the order of the question's options, and of several choices of one option the first. -/
def storeChoices (q : Question) (chosen : List Choice) : List StoredChoice :=
  (sortOnce (fun i j => i ≤ j) (chosen.filterMap q.placeChoice?)).map (·.2)

/-- How a ranking is stored. -/
def storeOrder (q : Question) (order : List OptionId) : List StoredChoice :=
  (order.filterMap q.option?).mapIdx fun place option =>
    { option := option.id, body := option.body, position := some (UInt32.ofNat place) }

/-- Where a cell stands among those stored, at the places of its row and its option, and how it is stored, if the question has both. -/
def placeCell? (q : Question) (cell : MatrixCell) : Option ((Nat × Nat) × StoredChoice) := do
  let row ← q.rowIndex? cell.row
  let place ← q.optionIndex? cell.option
  let option ← q.options[place]?
  return ((row, place), { option := cell.option, body := option.body, row := some cell.row })

/-- Cells are compared by their rows, and those of one row by their options. -/
def rowThenOption (a b : Nat × Nat) : Bool := a.1 < b.1 || (a.1 = b.1 && a.2 ≤ b.2)

/-- How the cells chosen in a matrix are stored: row by row in the order of the question, each once. -/
def storeCells (q : Question) (cells : List MatrixCell) : List StoredChoice :=
  (sortOnce rowThenOption (cells.filterMap q.placeCell?)).map (·.2)

/-- How a value is stored. -/
def store (q : Question) : AnswerValue → StoredAnswer
  | .text body => { question := q.id, body := some body }
  | .choices chosen => { question := q.id, choices := q.storeChoices chosen }
  | .sorting order => { question := q.id, choices := q.storeOrder order }
  | .matrix cells => { question := q.id, choices := q.storeCells cells }

/-- How the answer to a question is stored, if there is one that says something. -/
def storeAnswer? (q : Question) (answers : Answers) : Option StoredAnswer :=
  ((answers.value? q.id).filter fun value => !value.isBlank).map q.store

end Question

/-- The submission of a respondent's answers to the visible questions. -/
def Questionnaire.compile (q : Questionnaire) (respondent : RespondentId) (answers : Answers) (v : Visibility) :
    Submission :=
  { questionnaire := q.id, revision := q.revision, respondent,
    answers := (q.answerable.filter fun question => v.shows question.id).filterMap (·.storeAnswer? answers) }

end Survey
