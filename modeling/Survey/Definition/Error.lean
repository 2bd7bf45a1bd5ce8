import Survey.Question.Basic

/-!
# What can be wrong with a definition

Each error names the questions, options and rows at fault.
-/

namespace Survey

/-- Why a definition makes no questionnaire. -/
inductive DefinitionError where
  | duplicatePosition (position : UInt32) (first second : QuestionId)
  | duplicateQuestion (question : QuestionId)
  | duplicateOption (question : QuestionId) (option : OptionId)
  | duplicateRow (question : QuestionId) (row : RowId)
  | unknownConditionQuestion (question target : QuestionId)
  | forwardReference (question target : QuestionId)
  | conditionOnSeparator (question target : QuestionId)
  | conditionalSeparator (question : QuestionId)
  | unsupportedCondition (question target : QuestionId) (type : ConditionType) (kind : QuestionKind)
  | missingConditionOption (question : QuestionId) (type : ConditionType)
  | missingConditionText (question : QuestionId)
  | foreignConditionOption (question target : QuestionId) (option : OptionId)
  deriving DecidableEq, Repr

/-- An error in words. -/
def DefinitionError.message : DefinitionError → String
  | .duplicatePosition position first second => s!"Position {position} is used by both {first} and {second}"
  | .duplicateQuestion question => s!"{question} appears more than once"
  | .duplicateOption _ option => s!"{option} appears more than once"
  | .duplicateRow question row => s!"{row} appears more than once in {question}"
  | .unknownConditionQuestion question target => s!"{question} has a display condition on unknown {target}"
  | .forwardReference question target =>
    s!"{question} has a display condition on {target}, which does not come before it"
  | .conditionOnSeparator question target => s!"{question} has a display condition on separator {target}"
  | .conditionalSeparator question => s!"Separator {question} cannot have display conditions"
  | .unsupportedCondition question target type kind =>
    s!"{question} has a {type.title} condition on {target}, which as a {kind.name} question never changes its outcome"
  | .missingConditionOption question type => s!"{question} has a {type.title} condition without a target option"
  | .missingConditionText question => s!"{question} has a match condition without a value"
  | .foreignConditionOption question target option =>
    s!"{question} has a condition on {option}, which is not an option of {target}"

end Survey
