import Survey.Journal
import Survey.Session.Error

/-!
# Sessions

A respondent answers a questionnaire in a session: gives values to questions, moves through the steps and looks at what is
shown. The session holds its own copy of the questionnaire. It moves to the next step only if the answers of the current one are
in order, and back at any time; values stay. Nothing is written anywhere before the answers are submitted.
-/

namespace Survey

/-- Where a session is: on a step, from zero, or done. -/
inductive SessionState where
  | answering (step : Nat)
  | completed
  deriving DecidableEq, Repr

/-- One respondent's answering of one questionnaire. `faults` are those for which the last move or submission was refused. -/
structure Session where
  questionnaire : Questionnaire
  respondent : RespondentId
  settings : SessionSettings := {}
  answers : Answers := .empty
  termsAccepted : Bool := false
  state : SessionState := .answering 0
  faults : Faults := .none
  deriving DecidableEq

namespace Session

/-- Whether the session is done. -/
def isCompleted (s : Session) : Bool := s.state = .completed

/-- The step the session is on. -/
def currentStep? (s : Session) : Option Nat :=
  match s.state with
  | .answering step => some step
  | .completed => none

/-- The step the session is on, counted from one, and the number of steps. -/
def progress? (s : Session) : Option (Nat × Nat) :=
  s.currentStep?.map fun step => (step + 1, s.questionnaire.stepCount)

/-- Whether there is no step to go back to. -/
def isOnFirstStep (s : Session) : Bool := s.currentStep? = some 0

/-- Whether the current step is the last, from which answers are submitted. -/
def isOnLastStep (s : Session) : Bool := s.currentStep?.any fun step => s.questionnaire.stepCount ≤ step + 1

/-- Whether the respondent is asked for agreement to the terms now. -/
def asksForTerms (s : Session) : Bool := s.isOnLastStep && s.questionnaire.requiresTerms s.settings

/-! ## Values -/

/-- The question a value is for, while the session takes values and the question can be answered. -/
def openQuestion (s : Session) (id : QuestionId) : Except SessionError Question :=
  if s.isCompleted then .error .completed
  else
    match s.questionnaire.question? id with
    | none => .error (.unknownQuestion id)
    | some question => if question.isSeparator then .error (.notAnswerable id) else .ok question

/-- Refuses and stays as it is. -/
def refuse {α : Type} (s : Session) (e : SessionError) : Reply Session SessionError α := { result := .error e, state := s }

/-- Gives a value to a question, if it suits the question. -/
def answer (s : Session) (id : QuestionId) (value : AnswerValue) : Reply Session SessionError Unit :=
  match s.openQuestion id with
  | .error e => s.refuse e
  | .ok question =>
    match question.misfit? value with
    | some problem => s.refuse (.invalidValue id problem)
    | none =>
      { result := .ok (), state := { s with answers := s.answers.set id value }, events := [.answerChanged id value.shape] }

/-- Takes the value of a question away. -/
def withdraw (s : Session) (id : QuestionId) : Reply Session SessionError Unit :=
  match s.openQuestion id with
  | .error e => s.refuse e
  | .ok _ => { result := .ok (), state := { s with answers := s.answers.erase id } }

/-- The value of a question. -/
def value? (s : Session) (id : QuestionId) : Option AnswerValue := s.answers.value? id

/-- Notes whether the respondent accepts the terms. -/
def acceptTerms (s : Session) (accepted : Bool) : Session := { s with termsAccepted := accepted }

/-! ## What is shown -/

/-- Which questions are hidden by the answers so far. -/
def visibility (s : Session) : Visibility := s.questionnaire.visibility s.answers

/-- Whether a question is visible by the answers so far. -/
def shows (s : Session) (id : QuestionId) : Bool := s.visibility.shows id

/-- The questions of the current step. -/
def currentQuestions (s : Session) : List Question :=
  match s.currentStep? with
  | none => []
  | some step => (s.questionnaire.step step).filterMap s.questionnaire.question?

/-- The visible questions of the current step. -/
def shownQuestions (s : Session) : List Question :=
  let v := s.visibility
  s.currentQuestions.filter fun question => v.shows question.id

/-- The number of characters that may still be given to a text question with a limit. -/
def remainingCharacters? (s : Session) (id : QuestionId) : Option Nat :=
  match s.questionnaire.question? id with
  | none => none
  | some question =>
    if question.maxCharacters = 0 || !question.kind.isText then none
    else
      let used := ((s.answers.value? id).bind AnswerValue.text?).elim 0 String.length
      some (question.maxCharacters.toNat - used)

/-- What a respondent is told about a question before moving on. -/
def warnings (s : Session) (id : QuestionId) : List FaultKind :=
  match s.questionnaire.question? id with
  | none => []
  | some question => (question.check s.settings (s.answers.value? id)).filter (· = .tooManyChoices)

/-! ## Moving through the steps -/

/-- The session on a step, with the faults of the last refusal gone. -/
def onStep (s : Session) (step : Nat) : Session := { s with state := .answering step, faults := .none }

/-- Moves to the next step, if the answers of the current one are in order. Gives the new step. -/
def advance (s : Session) : Reply Session SessionError Nat :=
  match s.currentStep? with
  | none => s.refuse .completed
  | some step =>
    if s.questionnaire.stepCount ≤ step + 1 then s.refuse .noNextStep
    else
      match s.questionnaire.checkStep s.settings step s.answers s.visibility with
      | .error faults =>
        { result := .error (.invalid faults), state := { s with faults }, events := [.stepHasFaults step faults.size] }
      | .ok _ => { result := .ok (step + 1), state := s.onStep (step + 1), events := [.movedToNextStep (step + 1)] }

/-- Moves to the previous step. Gives the new step. -/
def goBack (s : Session) : Reply Session SessionError Nat :=
  match s.currentStep? with
  | none => s.refuse .completed
  | some 0 => s.refuse .noPreviousStep
  | some (step + 1) => { result := .ok step, state := s.onStep step, events := [.movedToPreviousStep step] }

end Session

end Survey
