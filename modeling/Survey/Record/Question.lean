import Survey.Definition.Basic
import Survey.Questionnaire.Basic
import Survey.Record.Ident

/-!
# Questions and definitions in records

Each type has a form in JSON (`toJson`) and is read back from it (`ofJson?`). Fields that hold nothing are left out. A
questionnaire is written as its definition, and what is read as a questionnaire is built.
-/

namespace Survey

/-- A kind by its name. -/
def QuestionKind.toJson (k : QuestionKind) : Json := .text k.name

/-- Reads a kind from its name. -/
def QuestionKind.ofJson? : Json → Option QuestionKind := Json.name? ofName?

/-- A condition type by its name. -/
def ConditionType.toJson (t : ConditionType) : Json := .text t.name

/-- Reads a condition type from its name. -/
def ConditionType.ofJson? : Json → Option ConditionType := Json.name? ofName?

namespace DisplayCondition

/-- The fields of a condition in their order. -/
def fieldNames : List String := ["condition_question", "condition_type", "answer_option", "condition_value", "mandatory"]

/-- A condition as a record; the option and the text are left out where there is none. -/
def toJson (c : DisplayCondition) : Json :=
  .record <|
    [("condition_question", c.question.toJson), ("condition_type", c.type.toJson)] ++
      Json.optionalField "answer_option" Ident.toJson c.option ++
      Json.optionalField "condition_value" .text c.text ++
      [("mandatory", .bool c.mandatory)]

/-- Reads a condition, which is not mandatory unless it says so. -/
def ofJson? (v : Json) : Option DisplayCondition := do
  let fields ← v.fields? fieldNames
  let question ← Json.required "condition_question" Ident.ofJson? fields
  let type ← Json.required "condition_type" ConditionType.ofJson? fields
  let option ← Json.optional "answer_option" Ident.ofJson? fields
  let text ← Json.optional "condition_value" Json.text? fields
  let mandatory ← Json.defaulted "mandatory" false Json.bool? fields
  return { question, type, option, text, mandatory }

end DisplayCondition

namespace AnswerOption

/-- The fields of an option in their order. -/
def fieldNames : List String := ["id", "body", "free_text"]

/-- An option as a record. -/
def toJson (o : AnswerOption) : Json :=
  .record [("id", o.id.toJson), ("body", .text o.body), ("free_text", .bool o.freeText)]

/-- Reads an option, which takes no free text unless it says so. -/
def ofJson? (v : Json) : Option AnswerOption := do
  let fields ← v.fields? fieldNames
  let id ← Json.required "id" Ident.ofJson? fields
  let body ← Json.required "body" Json.text? fields
  let freeText ← Json.defaulted "free_text" false Json.bool? fields
  return { id, body, freeText }

end AnswerOption

namespace MatrixRow

/-- The fields of a row in their order. -/
def fieldNames : List String := ["id", "body"]

/-- A row as a record. -/
def toJson (r : MatrixRow) : Json := .record [("id", r.id.toJson), ("body", .text r.body)]

/-- Reads a row. -/
def ofJson? (v : Json) : Option MatrixRow := do
  let fields ← v.fields? fieldNames
  let id ← Json.required "id" Ident.ofJson? fields
  let body ← Json.required "body" Json.text? fields
  return { id, body }

end MatrixRow

namespace Question

/-- The fields of a question in their order. -/
def fieldNames : List String :=
  ["id", "position", "body", "description", "kind", "mandatory", "max_characters", "max_choices", "options", "rows",
    "display_conditions"]

/-- A question as a record; options, rows and conditions are left out where there are none. -/
def toJson (q : Question) : Json :=
  .record <|
    [("id", q.id.toJson), ("position", .ofWord32 q.position), ("body", .text q.body)] ++
      Json.optionalField "description" .text q.description ++
      [("kind", q.kind.toJson), ("mandatory", .bool q.mandatory), ("max_characters", .ofWord32 q.maxCharacters)] ++
      Json.optionalField "max_choices" .ofWord32 q.maxChoices ++
      Json.listField "options" AnswerOption.toJson q.options ++
      Json.listField "rows" MatrixRow.toJson q.rows ++
      Json.listField "display_conditions" DisplayCondition.toJson q.conditions

/-- Reads a question. What it may leave out is not mandatory, unlimited, or empty. -/
def ofJson? (v : Json) : Option Question := do
  let fields ← v.fields? fieldNames
  let id ← Json.required "id" Ident.ofJson? fields
  let position ← Json.required "position" Json.word32? fields
  let body ← Json.required "body" Json.text? fields
  let description ← Json.optional "description" Json.text? fields
  let kind ← Json.required "kind" QuestionKind.ofJson? fields
  let mandatory ← Json.defaulted "mandatory" false Json.bool? fields
  let maxCharacters ← Json.defaulted "max_characters" 0 Json.word32? fields
  let maxChoices ← Json.optional "max_choices" Json.word32? fields
  let options ← Json.defaulted "options" [] (Json.list? AnswerOption.ofJson?) fields
  let rows ← Json.defaulted "rows" [] (Json.list? MatrixRow.ofJson?) fields
  let conditions ← Json.defaulted "display_conditions" [] (Json.list? DisplayCondition.ofJson?) fields
  return { id, position, body, description, kind, mandatory, maxCharacters, maxChoices, options, rows, conditions }

end Question

namespace Definition

/-- The fields of a definition in their order. -/
def fieldNames : List String := ["id", "title", "description", "tos", "revision", "questions"]

/-- A definition as a record. -/
def toJson (d : Definition) : Json :=
  .record <|
    [("id", d.id.toJson), ("title", .text d.title)] ++
      Json.optionalField "description" .text d.description ++
      Json.optionalField "tos" .text d.terms ++
      [("revision", .ofWord64 d.revision), ("questions", .ofList Question.toJson d.questions)]

/-- Reads a definition, which is at revision zero unless it says otherwise. -/
def ofJson? (v : Json) : Option Definition := do
  let fields ← v.fields? fieldNames
  let id ← Json.required "id" Ident.ofJson? fields
  let title ← Json.required "title" Json.text? fields
  let description ← Json.optional "description" Json.text? fields
  let terms ← Json.optional "tos" Json.text? fields
  let revision ← Json.defaulted "revision" 0 Json.word64? fields
  let questions ← Json.required "questions" (Json.list? Question.ofJson?) fields
  return { id, title, description, terms, revision, questions }

end Definition

namespace Questionnaire

/-- Why no questionnaire is read from a record. -/
inductive RecordError where
  | malformed
  | definition (problem : DefinitionError)
  deriving DecidableEq, Repr

/-- A questionnaire as the record of its definition. -/
def toJson (q : Questionnaire) : Json := q.definition.toJson

/-- Reads a definition and builds it. -/
def ofJson (v : Json) : Except RecordError Questionnaire :=
  match Definition.ofJson? v with
  | none => .error .malformed
  | some d => d.build.mapError .definition

end Questionnaire

end Survey
