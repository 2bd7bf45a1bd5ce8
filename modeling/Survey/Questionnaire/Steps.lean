import Survey.Questionnaire.Basic

/-!
# Steps

Separators cut the questions of a questionnaire into steps. Steps without questions are left out, so separators at either end
or next to one another make none, and a questionnaire of nothing but separators has no steps at all.
-/

namespace Survey

/-- Adds a step in front of others, unless it is empty. -/
def consStep (step : List QuestionId) (steps : List (List QuestionId)) : List (List QuestionId) :=
  if step.isEmpty then steps else step :: steps

/-- Questions cut at the separators: what stands before the first separator, and the steps after it. -/
def cutAtSeparators : List Question → List QuestionId × List (List QuestionId)
  | [] => ([], [])
  | q :: rest =>
    let (step, later) := cutAtSeparators rest
    if q.isSeparator then ([], consStep step later) else (q.id :: step, later)

namespace Questionnaire

/-- The steps of a questionnaire, each with the identifiers of its questions. -/
def steps (q : Questionnaire) : List (List QuestionId) :=
  let (step, later) := cutAtSeparators q.questions
  consStep step later

/-- The number of steps. -/
def stepCount (q : Questionnaire) : Nat := q.steps.length

/-- Whether there is nothing to answer. -/
def isEmpty (q : Questionnaire) : Bool := q.steps.isEmpty

/-- The identifiers of the questions of a step, counted from zero; none beyond the last step. -/
def step (q : Questionnaire) (k : Nat) : List QuestionId := q.steps.getD k []

/-- The step a question belongs to. -/
def stepOf? (q : Questionnaire) (id : QuestionId) : Option Nat := q.steps.findIdx? (·.contains id)

end Questionnaire

end Survey
