import Survey.Answer.Value

/-!
# The journal

What sessions and stores report while they work, for whoever keeps a log. An operation gives the events of one call along with
its result; nothing is reported of calls that change nothing and are refused without a look at the answers.
-/

namespace Survey

/-- Something worth reporting. -/
inductive Event where
  | questionnaireStored (questionnaire : QuestionnaireId)
  | questionsChanged (questionnaire : QuestionnaireId) (revision : UInt64) (deleted : Nat)
  | questionnairePublished (questionnaire : QuestionnaireId) (deleted : Nat)
  | alreadyAnswered (questionnaire : QuestionnaireId) (respondent : RespondentId)
  | answerChanged (question : QuestionId) (shape : ValueShape)
  | stepHasFaults (step faults : Nat)
  | movedToNextStep (step : Nat)
  | movedToPreviousStep (step : Nat)
  | submissionRejected (questionnaire : QuestionnaireId) (faults : Nat)
  | submissionSaved (questionnaire : QuestionnaireId) (respondent : RespondentId) (answers : Nat)
  | changedWhileAnswering (questionnaire : QuestionnaireId) (answered current : UInt64)
  deriving DecidableEq, Repr

/-- How much attention an event deserves. -/
inductive EventLevel where
  | debug | info | warn
  deriving DecidableEq, Repr

/-- What an event says about one of its fields. -/
inductive EventField where
  | text (text : String)
  | number (n : Nat)
  deriving DecidableEq, Repr

/-- The name of a level. -/
def EventLevel.name : EventLevel → String
  | .debug => "debug"
  | .info => "info"
  | .warn => "warn"

/-- A field that holds an identifier. -/
def EventField.ident {kind : IdentKind} (id : Ident kind) : EventField := .text id.display

namespace Event

/-- The level of an event: a warning where submissions are lost or refused for a change of the questionnaire, information where
something of note was done or held up, and debugging for the rest. -/
def level : Event → EventLevel
  | .questionsChanged .. | .changedWhileAnswering .. => .warn
  | .questionnairePublished .. | .stepHasFaults .. | .submissionRejected .. | .submissionSaved .. => .info
  | .questionnaireStored .. | .alreadyAnswered .. | .answerChanged .. | .movedToNextStep .. | .movedToPreviousStep .. => .debug

/-- An event in words. -/
def message : Event → String
  | .questionnaireStored .. => "Questionnaire stored"
  | .questionsChanged .. => "Questions changed, answers deleted"
  | .questionnairePublished .. => "Questionnaire published"
  | .alreadyAnswered .. => "Already answered"
  | .answerChanged .. => "Answer changed"
  | .stepHasFaults .. => "Step has errors"
  | .movedToNextStep .. => "Moved to next step"
  | .movedToPreviousStep .. => "Moved to previous step"
  | .submissionRejected .. => "Submission rejected"
  | .submissionSaved .. => "Submission saved"
  | .changedWhileAnswering .. => "Questionnaire changed while answering"

/-- What an event is about, by name. -/
def fields : Event → List (String × EventField)
  | .questionnaireStored questionnaire => [("questionnaire", .ident questionnaire)]
  | .questionsChanged questionnaire revision deleted =>
    [("questionnaire", .ident questionnaire), ("revision", .number revision.toNat), ("deleted", .number deleted)]
  | .questionnairePublished questionnaire deleted => [("questionnaire", .ident questionnaire), ("deleted", .number deleted)]
  | .alreadyAnswered questionnaire respondent =>
    [("questionnaire", .ident questionnaire), ("respondent", .ident respondent)]
  | .answerChanged question shape => [("question", .ident question), ("value", .text shape.title)]
  | .stepHasFaults step faults => [("step", .number step), ("errors", .number faults)]
  | .movedToNextStep step => [("step", .number step)]
  | .movedToPreviousStep step => [("step", .number step)]
  | .submissionRejected questionnaire faults => [("questionnaire", .ident questionnaire), ("errors", .number faults)]
  | .submissionSaved questionnaire respondent answers =>
    [("questionnaire", .ident questionnaire), ("respondent", .ident respondent), ("answers", .number answers)]
  | .changedWhileAnswering questionnaire answered current =>
    [("questionnaire", .ident questionnaire), ("answered", .number answered.toNat), ("current", .number current.toNat)]

end Event

/-- The outcome of an operation on a state: its result, the state it leaves, and what it reports. A failed operation leaves a
state as well, which need not be the one it found. -/
structure Reply (σ ε α : Type) where
  result : Except ε α
  state : σ
  events : List Event := []

end Survey
