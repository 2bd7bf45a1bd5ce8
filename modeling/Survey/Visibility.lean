import Survey.Questionnaire.Steps
import Survey.Answer.Answers
import Survey.Text.Occurs
import Survey.Text.Lowercase

/-!
# Visibility

Which questions are shown. A condition is judged by the value of the question it looks at; the outcomes of a question's
conditions are combined; and a question is visible when the combination holds.

`Questionnaire.reveals` judges one question by the answers as they are. `Questionnaire.visibility` judges all questions in the
order of their positions and counts the value of a hidden question as not given, so an answer left behind in a hidden
question shows and hides nothing. One pass is enough: conditions look only at questions that come before.
-/

namespace Survey

/-- Whether text occurs in other text, whatever the case of the letters of both. -/
def Text.matchesIn (needle text : String) : Bool :=
  Text.occursIn (Text.lowercase needle.toList) (Text.lowercase text.toList)

/-- Whether text occurs in a value: in the text given, or in the body of a chosen option, or in the text of the respondent's
own that goes with a chosen free-text option. -/
def AnswerValue.matchesText (needle : String) (question : Question) : AnswerValue → Bool
  | .text body => Text.matchesIn needle body
  | .choices chosen => chosen.any fun choice =>
    match question.option? choice.option with
    | none => false
    | some option => Text.matchesIn needle option.body || (option.freeText && choice.customBody.any (Text.matchesIn needle))
  | .sorting _ | .matrix _ => false

namespace DisplayCondition

/-- Whether the option a condition compares with is selected in a value. -/
def selects (c : DisplayCondition) (value : AnswerValue) : Bool := c.option.any (value.selected.contains ·)

/-- Whether a condition on a question holds, given the value of that question. -/
def holds (c : DisplayCondition) (question : Question) (value : Option AnswerValue) : Bool :=
  let answered := value.any (fun v => !v.isBlank)
  match c.type with
  | .answered => answered
  | .notAnswered => !answered
  | .equal => answered && value.any c.selects
  | .notEqual => answered && !value.any c.selects
  | .matching =>
    match value, c.text with
    | some v, some needle => v.matchesText needle question
    | _, _ => false

end DisplayCondition

/-- The outcome of a condition: whether it is mandatory and whether it holds. -/
abbrev Outcome := Bool × Bool

/-- Combines outcomes one by one: a mandatory one that fails decides at once; otherwise it matters whether there was an optional
one and whether one of these held. -/
def verdictFrom (optional held : Bool) : List Outcome → Bool
  | [] => !optional || held
  | (true, false) :: _ => false
  | (true, true) :: rest => verdictFrom optional held rest
  | (false, holds) :: rest => verdictFrom true (held || holds) rest

/-- Whether a question is shown, by the outcomes of its conditions. -/
def verdict (outcomes : List Outcome) : Bool := verdictFrom false false outcomes

/-- Whether the conditions of a question are fulfilled by the values of the questions they look at. A condition on a question
that the questionnaire does not have fails. -/
def Questionnaire.shows (q : Questionnaire) (question : Question) (value : QuestionId → Option AnswerValue) : Bool :=
  verdict <| question.conditions.map fun c =>
    (c.mandatory, (q.question? c.question).any fun target => c.holds target (value c.question))

/-- Whether a question, which need not be one of the questionnaire, is visible by answers as they are. -/
def Questionnaire.reveals (q : Questionnaire) (answers : Answers) (question : Question) : Bool :=
  q.shows question answers.value?

/-- Which questions of a questionnaire are hidden, in the order of their positions. -/
structure Visibility where
  hidden : List QuestionId := []
  deriving DecidableEq, Repr

namespace Visibility

/-- Whether a question is not hidden. -/
def shows (v : Visibility) (id : QuestionId) : Bool := !v.hidden.contains id

/-- The values that count: those of questions that are not hidden. -/
def mask (v : Visibility) (answers : Answers) (id : QuestionId) : Option AnswerValue :=
  if v.shows id then answers.value? id else none

/-- Judges one more question by the values of the questions before it. -/
def judge (q : Questionnaire) (answers : Answers) (v : Visibility) (question : Question) : Visibility :=
  if q.shows question (v.mask answers) then v else ⟨v.hidden ++ [question.id]⟩

end Visibility

/-- What answers hide: the questions are judged in the order of their positions. -/
def Questionnaire.visibility (q : Questionnaire) (answers : Answers) : Visibility :=
  q.answerable.foldl (Visibility.judge q answers) {}

end Survey
