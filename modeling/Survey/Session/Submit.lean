import Survey.Session.Basic
import Survey.Store.Keeper
import Survey.Submission.Compile

/-!
# Starting and submitting

The two moments at which a session deals with a keeper. It starts with the questionnaire the keeper holds, unless the respondent
has answered it. On the last step, if the answers are in order, it hands a submission over, once; it is done when the keeper
saved that submission or has another one of the respondent. If the questionnaire has moved on, the reason given is the first
answer that no longer suits it, or else the revision.
-/

namespace Survey

/-- What comes of starting. -/
inductive SessionStart where
  | answerable (session : Session)
  | alreadyAnswered
  | noQuestions

namespace Session

variable {σ ε : Type}

/-- Starts a session, unless the respondent has answered the questionnaire or it has nothing to answer. -/
def start (k : Keeper σ ε) (id : QuestionnaireId) (respondent : RespondentId) (settings : SessionSettings) (store : σ) :
    Reply σ (SubmissionError ε) SessionStart :=
  match k.isAnsweredBy id respondent store with
  | (.error e, store) => { result := .error (.store e), state := store }
  | (.ok true, store) => { result := .ok .alreadyAnswered, state := store, events := [.alreadyAnswered id respondent] }
  | (.ok false, store) =>
    match k.fetch id store with
    | (.error e, store) => { result := .error (.store e), state := store }
    | (.ok questionnaire, store) =>
      { result := .ok (if questionnaire.isEmpty then .noQuestions else .answerable { questionnaire, respondent, settings }),
        state := store }

/-- The submission of the answers as they stand. -/
def submission (s : Session) : Submission := s.questionnaire.compile s.respondent s.answers s.visibility

/-- Checks all answers, and the agreement to the terms. -/
def validate (s : Session) : Except Faults Unit :=
  s.questionnaire.checkAll s.settings s.answers s.visibility s.termsAccepted

/-- Why the answers can not be saved against the questionnaire of a later revision. -/
def staleReason (s : Session) (k : Keeper σ ε) (current : UInt64) (store : σ) : SubmissionError ε × σ :=
  match k.fetch s.questionnaire.id store with
  | (.error e, store) => (.store e, store)
  | (.ok latest, store) => (.stale ((latest.stale? s.answers).getD (.revision s.questionnaire.revision current)), store)

/-- Hands a submission over and sees what becomes of it. -/
def handOver (k : Keeper σ ε) (s : Session) (store : σ) : Reply (Session × σ) (SubmissionError ε) Submission :=
  let submission := s.submission
  match k.save submission store with
  | (.error e, store) => { result := .error (.store e), state := (s, store) }
  | (.ok .saved, store) =>
    { result := .ok submission, state := ({ s with state := .completed, faults := .none }, store),
      events := [.submissionSaved submission.questionnaire submission.respondent submission.answers.length] }
  | (.ok (.stale current), store) =>
    let (reason, store) := s.staleReason k current store
    { result := .error reason, state := (s, store),
      events := [.changedWhileAnswering submission.questionnaire submission.revision current] }
  | (.ok .alreadyAnswered, store) =>
    { result := .error .alreadyAnswered, state := ({ s with state := .completed }, store) }

/-- Submits the answers on the last step, if they are in order. -/
def submit (k : Keeper σ ε) (s : Session) (store : σ) : Reply (Session × σ) (SubmissionError ε) Submission :=
  if s.isCompleted then { result := .error .alreadyAnswered, state := (s, store) }
  else if !s.isOnLastStep then { result := .error (.session .notOnLastStep), state := (s, store) }
  else
    match s.validate with
    | .error faults =>
      { result := .error (.invalid faults), state := ({ s with faults }, store),
        events := [.submissionRejected s.questionnaire.id faults.size] }
    | .ok _ => s.handOver k store

end Session

end Survey
