import Survey.Validation.Question
import Survey.Validation.Value
import Survey.Visibility

/-!
# Checking a sheet of answers

The answers to the questions of one step, or of the whole questionnaire, are checked together. Hidden questions are left out.
Only the check of the whole asks for agreement to the terms.

Apart from that, answers are *consistent* with a questionnaire when each of them belongs to one of its questions and suits it.
Answers that were given to an earlier revision may not be.
-/

namespace Survey

/-- Why answers no longer go with a questionnaire. -/
inductive StaleReason where
  | unknownQuestion (question : QuestionId)
  | answer (question : QuestionId) (problem : Misfit)
  | revision (answered current : UInt64)
  deriving DecidableEq, Repr

/-- A reason in words. -/
def StaleReason.message : StaleReason → String
  | .unknownQuestion question => s!"{question} no longer exists"
  | .answer question problem => s!"{question} no longer accepts its answer: {problem.message}"
  | .revision answered current =>
    s!"Answers were given against revision {answered}, but the questionnaire is at revision {current}"

namespace Questionnaire

/-- What makes an answer inconsistent with a questionnaire. -/
def staleEntry? (q : Questionnaire) (entry : AnswerEntry) : Option StaleReason :=
  match q.question? entry.1 with
  | none => some (.unknownQuestion entry.1)
  | some question => (question.misfit? entry.2).map (.answer entry.1)

/-- The first answer, by question, that is inconsistent with a questionnaire. -/
def stale? (q : Questionnaire) (answers : Answers) : Option StaleReason := answers.entries.findSome? q.staleEntry?

/-- The faults in the answer to a question, if it is visible. -/
def faultsOf (q : Questionnaire) (settings : SessionSettings) (answers : Answers) (v : Visibility) (id : QuestionId) :
    List FaultKind :=
  if v.shows id then
    match q.question? id with
    | some question => question.check settings (answers.value? id)
    | none => []
  else []

/-- The faults in the answers to questions, gathered. -/
def gather (q : Questionnaire) (settings : SessionSettings) (answers : Answers) (v : Visibility) (ids : List QuestionId) :
    Faults :=
  ids.foldl (fun found id => (q.faultsOf settings answers v id).foldl (·.push id ·) found) .none

/-- Checks the answers to the questions of a step. -/
def checkStep (q : Questionnaire) (settings : SessionSettings) (k : Nat) (answers : Answers) (v : Visibility) :
    Except Faults Unit :=
  (q.gather settings answers v (q.step k)).toExcept

/-- Whether the terms must be accepted. -/
def requiresTerms (q : Questionnaire) (settings : SessionSettings) : Bool := settings.requireTerms && q.terms.isSome

/-- Checks all answers, and the agreement to the terms. -/
def checkAll (q : Questionnaire) (settings : SessionSettings) (answers : Answers) (v : Visibility) (termsAccepted : Bool) :
    Except Faults Unit :=
  let found := q.gather settings answers v (q.answerable.map (·.id))
  (if q.requiresTerms settings && !termsAccepted then found.flagTerms else found).toExcept

end Questionnaire

end Survey
