import Survey.Store.Keeper

/-!
# Scripted keepers

A keeper that gives the same answers whatever it is asked. Every behaviour a session can meet in one call of a keeper is met
with one of these.
-/

namespace Survey

/-- The answers of a keeper. -/
structure Script (ε : Type) where
  fetch : Except ε Questionnaire
  isAnsweredBy : Except ε Bool
  save : Except ε SaveOutcome

/-- The keeper that follows a script. -/
def Script.keeper {ε : Type} (script : Script ε) : Keeper Unit ε where
  fetch _ _ := (script.fetch, ())
  isAnsweredBy _ _ _ := (script.isAnsweredBy, ())
  save _ _ := (script.save, ())

end Survey
