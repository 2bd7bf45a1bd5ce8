import Survey.Questionnaire.Basic

/-!
# Sample: onboarding

Three steps that mix mandatory and optional conditions. The club is asked for when the respondent is a member; joining is
offered when membership was left unanswered or denied; and more is asked of members who gave a nickname.
-/

namespace Survey.Sample

/-- The definition of the onboarding questionnaire. -/
def onboarding : Definition where
  id := 4
  title := "Welcome"
  description := some "A short introduction before your first walk."
  terms := some "We keep your answers until you leave the club."
  questions := [
    { id := 1, position := 0, body := "What is your name?", kind := .shortAnswer, mandatory := true, maxCharacters := 40 },
    { id := 2, position := 1, body := "Nickname", kind := .shortAnswer, maxCharacters := 20 },
    .separator 3 2,
    { id := 4, position := 3, body := "Are you a club member?", kind := .singleOption,
      options := [{ id := 40, body := "Yes" }, { id := 41, body := "No" }] },
    { id := 5, position := 4, body := "Which club?", kind := .shortAnswer, mandatory := true, conditions := [.equal 4 40] },
    { id := 6, position := 5, body := "Would you like to join?", kind := .singleOption,
      options := [{ id := 60, body := "Yes" }, { id := 61, body := "No" }],
      conditions := [.notAnswered 4, .equal 4 41] },
    .separator 7 6,
    { id := 8, position := 7, body := "Tell us more", kind := .longAnswer,
      conditions := [(DisplayCondition.equal 4 40).asMandatory, (DisplayCondition.answered 2).asMandatory] }]

end Survey.Sample
