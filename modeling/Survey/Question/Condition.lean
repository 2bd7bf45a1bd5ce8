import Survey.Ident
import Survey.Question.Kind

/-!
# Display conditions

A question may be shown or hidden according to the answers before it. Each of its conditions looks at the answer to one
other question and holds or fails. How the outcomes of several conditions are put together is a matter of visibility.
-/

namespace Survey

/-- How a condition looks at an answer. -/
inductive ConditionType where
  | answered | notAnswered | equal | notEqual | matching
  deriving DecidableEq, Repr

namespace ConditionType

/-- Every condition type. -/
def all : List ConditionType := [.answered, .notAnswered, .equal, .notEqual, .matching]

/-- The name of a condition type in records. -/
def name : ConditionType → String
  | .answered => "answered"
  | .notAnswered => "not_answered"
  | .equal => "equal"
  | .notEqual => "not_equal"
  | .matching => "match"

/-- The condition type of a name. -/
def ofName? (name : String) : Option ConditionType := all.find? (·.name = name)

theorem ofName?_name (t : ConditionType) : ofName? t.name = some t := by
  cases t <;> decide

/-- The name of a condition type in messages. -/
def title : ConditionType → String
  | .answered => "Answered"
  | .notAnswered => "NotAnswered"
  | .equal => "Equal"
  | .notEqual => "NotEqual"
  | .matching => "Match"

/-- Whether a condition of this type compares with an option. -/
def comparesOption : ConditionType → Bool
  | .equal | .notEqual => true
  | _ => false

/-- Whether a condition of this type on a question of kind `k` can have more than one outcome. A ranking names every option,
so comparing it with one says nothing; and only answers in text or of chosen options hold text to match. -/
def canVaryOn (t : ConditionType) (k : QuestionKind) : Bool :=
  match t with
  | .answered | .notAnswered => true
  | .equal | .notEqual => k ≠ .sorting
  | .matching => k.isText || k.isChoice

end ConditionType

/-- A rule on the answer to `question`: what `type` says of it, with the option or the text it compares with. The conditions of
a question that are mandatory must all hold; of the others one must. -/
structure DisplayCondition where
  question : QuestionId
  type : ConditionType
  option : Option OptionId := none
  text : Option String := none
  mandatory : Bool := false
  deriving DecidableEq, Repr

namespace DisplayCondition

/-- Holds when the question is answered. -/
def answered (question : QuestionId) : DisplayCondition := { question, type := .answered }

/-- Holds when the question is not answered. -/
def notAnswered (question : QuestionId) : DisplayCondition := { question, type := .notAnswered }

/-- Holds when the question is answered and the option is among those selected. -/
def equal (question : QuestionId) (option : OptionId) : DisplayCondition := { question, type := .equal, option := some option }

/-- Holds when the question is answered and the option is not among those selected. -/
def notEqual (question : QuestionId) (option : OptionId) : DisplayCondition :=
  { question, type := .notEqual, option := some option }

/-- Holds when the text occurs in the answer, whatever the case of its letters. -/
def matching (question : QuestionId) (text : String) : DisplayCondition := { question, type := .matching, text := some text }

/-- The same condition, which must hold. -/
def asMandatory (c : DisplayCondition) : DisplayCondition := { c with mandatory := true }

end DisplayCondition

end Survey
