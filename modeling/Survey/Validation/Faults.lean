import Survey.Ident

/-!
# Faults in answers

Everything that is wrong with an answer sheet is found at once, so that a respondent sees it at once: which question has which
kind of fault, each pair once and in the order found, and whether the terms were not accepted.
-/

namespace Survey

/-- What can be wrong with the answer to a question. -/
inductive FaultKind where
  | blank | tooManyChoices | incompleteMatrix | incompleteSorting | missingCustomText | tooLong
  deriving DecidableEq, Repr

namespace FaultKind

/-- Every kind of fault. -/
def all : List FaultKind :=
  [.blank, .tooManyChoices, .incompleteMatrix, .incompleteSorting, .missingCustomText, .tooLong]

/-- The name of a kind of fault in records. -/
def name : FaultKind → String
  | .blank => "blank"
  | .tooManyChoices => "too_many_choices"
  | .incompleteMatrix => "incomplete_matrix"
  | .incompleteSorting => "incomplete_sorting"
  | .missingCustomText => "missing_custom_text"
  | .tooLong => "too_long"

/-- The kind of fault of a name. -/
def ofName? (name : String) : Option FaultKind := all.find? (·.name = name)

/-- The key under which a wording for respondents is looked up. An incomplete matrix and an incomplete ranking share one. -/
def wordingKey : FaultKind → String
  | .incompleteMatrix | .incompleteSorting => "incomplete"
  | kind => kind.name

end FaultKind

/-- A fault in the answer to a question. -/
structure Fault where
  question : QuestionId
  kind : FaultKind
  deriving DecidableEq, Repr

/-- The faults of a sheet of answers. -/
structure Faults where
  entries : List Fault := []
  termsMissing : Bool := false
  deriving DecidableEq, Repr

namespace Faults

/-- No faults. -/
def none : Faults := {}

/-- Adds a fault, unless it is there already. -/
def push (f : Faults) (question : QuestionId) (kind : FaultKind) : Faults :=
  if f.entries.contains ⟨question, kind⟩ then f else { f with entries := f.entries ++ [⟨question, kind⟩] }

/-- Notes that the terms were not accepted. -/
def flagTerms (f : Faults) : Faults := { f with termsMissing := true }

/-- Whether nothing is wrong. -/
def isEmpty (f : Faults) : Bool := f.entries.isEmpty && !f.termsMissing

/-- The number of faults, the missing agreement to the terms among them. -/
def size (f : Faults) : Nat := f.entries.length + if f.termsMissing then 1 else 0

/-- The kinds of fault of a question. -/
def kindsOf (f : Faults) (question : QuestionId) : List FaultKind :=
  (f.entries.filter (·.question = question)).map (·.kind)

/-- The questions of faults that are not among `seen`, each once and in the order of their first faults. -/
def questionsAfter (seen : List QuestionId) : List Fault → List QuestionId
  | [] => []
  | fault :: rest =>
    if fault.question ∈ seen then questionsAfter seen rest
    else fault.question :: questionsAfter (fault.question :: seen) rest

/-- The questions with faults, each once and in the order of their first faults. -/
def questions (f : Faults) : List QuestionId := questionsAfter [] f.entries

/-- Faults in words. -/
def message (f : Faults) : String := s!"{f.size} validation error(s)"

/-- Success where there are no faults. -/
def toExcept (f : Faults) : Except Faults Unit := if f.isEmpty then .ok () else .error f

end Faults

end Survey
