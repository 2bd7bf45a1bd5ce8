import Survey.Questionnaire.Basic
import Survey.Submission.Basic

/-!
# Keepers

A session works with whatever keeps questionnaires and submissions. It makes three requests: for a questionnaire, whether a
respondent has answered it, and to save a submission. A keeper may answer them as it likes, may fail, and may change its state
with every request.
-/

namespace Survey

/-- What became of a submission that was handed over. -/
inductive SaveOutcome where
  | saved
  | stale (current : UInt64)
  | alreadyAnswered
  deriving DecidableEq, Repr

/-- Answers the requests of sessions, with failures in `ε` and a state in `σ`. -/
structure Keeper (σ ε : Type) where
  fetch : QuestionnaireId → σ → Except ε Questionnaire × σ
  isAnsweredBy : QuestionnaireId → RespondentId → σ → Except ε Bool × σ
  save : Submission → σ → Except ε SaveOutcome × σ

end Survey
