import Survey.Answer.Value
import Survey.Settings
import Survey.Question.Basic
import Survey.Validation.Faults

/-!
# Checking the answer to a question

A mandatory question must have an answer that says something. Any answer that says something must keep the question's limits:
characters of a text, options of a choice or of each row of a matrix, the text that goes with a free-text option, every option
in a ranking, and every row of a mandatory matrix.
-/

namespace Survey

/-- The number of different options in a list. -/
def countDistinct : List OptionId → Nat
  | [] => 0
  | x :: rest => if x ∈ rest then countDistinct rest else countDistinct rest + 1

/-- A kind of fault, where there is one. -/
def faultIf (found : Bool) (kind : FaultKind) : List FaultKind := if found then [kind] else []

namespace Question

/-- How many options a choice may name. -/
def choiceLimit (q : Question) : Option Nat :=
  if q.kind = .singleOption then some 1 else q.maxChoices.map (·.toNat)

/-- How many options may be chosen in a row of a matrix. -/
def rowLimit (q : Question) : Option Nat :=
  if q.kind = .matrixSingle then some 1 else q.maxChoices.map (·.toNat)

/-- Whether text is longer than the question allows. -/
def isTooLong (q : Question) (text : String) : Bool := 0 < q.maxCharacters.toNat && q.maxCharacters.toNat < text.length

/-- Whether a choice names a free-text option and no text comes with it. -/
def lacksCustomText (q : Question) (choice : Choice) : Bool :=
  (q.option? choice.option).any (·.freeText) && choice.customBody.all Text.isBlank

/-- Whether every option is ranked, and ranked once. -/
def isCompleteOrder (q : Question) (order : List OptionId) : Bool :=
  order.length = q.options.length && countDistinct order = order.length

/-- The options chosen in a row. -/
def rowOptions (cells : List MatrixCell) (row : RowId) : List OptionId :=
  (cells.filter (·.row = row)).map (·.option)

/-- Whether more options than allowed are chosen in some row. -/
def exceedsRowLimit (q : Question) (cells : List MatrixCell) : Bool :=
  q.rowLimit.any fun limit => q.rows.any fun row => limit < countDistinct (rowOptions cells row.id)

/-- Whether some option is chosen in every row. -/
def coversRows (q : Question) (cells : List MatrixCell) : Bool :=
  q.rows.all fun row => cells.any (·.row = row.id)

/-- What is wrong where nothing is answered. -/
def checkBlank (q : Question) : List FaultKind := faultIf (q.mandatory && !q.isSeparator) .blank

/-- What is wrong with a value that says something. -/
def checkGiven (q : Question) (settings : SessionSettings) : AnswerValue → List FaultKind
  | .text body => faultIf (settings.enforceMaxCharacters && q.isTooLong body) .tooLong
  | .choices chosen =>
    faultIf (q.choiceLimit.any fun limit => limit < countDistinct (chosen.map (·.option))) .tooManyChoices ++
      faultIf (chosen.any q.lacksCustomText) .missingCustomText
  | .sorting order => faultIf (!q.isCompleteOrder order) .incompleteSorting
  | .matrix cells =>
    faultIf (q.exceedsRowLimit cells) .tooManyChoices ++ faultIf (q.mandatory && !q.coversRows cells) .incompleteMatrix

/-- What is wrong with the answer to a question. -/
def check (q : Question) (settings : SessionSettings) (value : Option AnswerValue) : List FaultKind :=
  match value with
  | none => q.checkBlank
  | some v => if v.isBlank then q.checkBlank else q.checkGiven settings v

end Question

end Survey
