import Survey.Validation.Sheet

/-!
# What a session can refuse

`SessionError` is about values and steps, `SubmissionError` about starting and submitting, where the keeper may fail too.
-/

namespace Survey

/-- Why a session refuses a value or a move. -/
inductive SessionError where
  | invalid (faults : Faults)
  | noPreviousStep
  | noNextStep
  | notOnLastStep
  | completed
  | unknownQuestion (question : QuestionId)
  | notAnswerable (question : QuestionId)
  | invalidValue (question : QuestionId) (problem : Misfit)
  deriving DecidableEq, Repr

namespace SessionError

/-- An error in words. -/
def message : SessionError → String
  | .invalid faults => s!"The current step has errors: {faults.message}"
  | .noPreviousStep => "Already on the first step"
  | .noNextStep => "Already on the last step"
  | .notOnLastStep => "Only the last step can be submitted"
  | .completed => "The questionnaire has been submitted"
  | .unknownQuestion question => s!"{question} is not part of this questionnaire"
  | .notAnswerable question => s!"Separator {question} takes no answer"
  | .invalidValue question problem => s!"Invalid value for {question}: {problem.message}"

/-- The faults in the answers, if these are the reason. -/
def faults? : SessionError → Option Faults
  | .invalid faults => some faults
  | _ => none

end SessionError

/-- Why a session does not start, or its answers are not submitted. A keeper that failed gives its own reason. -/
inductive SubmissionError (ε : Type) where
  | invalid (faults : Faults)
  | stale (reason : StaleReason)
  | alreadyAnswered
  | session (problem : SessionError)
  | store (problem : ε)
  deriving DecidableEq, Repr

namespace SubmissionError

variable {ε : Type}

/-- An error in words, given words for the failures of the keeper. -/
def message (describe : ε → String) : SubmissionError ε → String
  | .invalid faults => s!"There was a problem answering: {faults.message}"
  | .stale reason => s!"The questionnaire changed while answering: {reason.message}"
  | .alreadyAnswered => "You have already answered this form"
  | .session problem => problem.message
  | .store problem => "Store error: " ++ describe problem

/-- The faults in the answers, if these are the reason. -/
def faults? : SubmissionError ε → Option Faults
  | .invalid faults => some faults
  | _ => none

/-- Whether the questionnaire moved on while it was answered. -/
def isStale : SubmissionError ε → Bool
  | .stale _ => true
  | _ => false

end SubmissionError

end Survey
