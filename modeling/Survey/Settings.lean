/-!
# Configuration of sessions
-/

namespace Survey

/-- What a session insists on. Both settings are on unless they are switched off. -/
structure SessionSettings where
  /-- The terms of the questionnaire, if it has any, must be accepted before the last step is submitted. -/
  requireTerms : Bool := true
  /-- The limits on characters are kept. -/
  enforceMaxCharacters : Bool := true
  deriving DecidableEq, Repr

end Survey
