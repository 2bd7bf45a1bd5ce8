import Survey.Record.Ident
import Survey.Submission.Basic

/-!
# Submissions in records
-/

namespace Survey

namespace StoredChoice

/-- The fields of a stored choice in their order. -/
def fieldNames : List String := ["option", "body", "custom_body", "position", "row"]

/-- A stored choice as a record; what it does not have is left out. -/
def toJson (c : StoredChoice) : Json :=
  .record <|
    [("option", c.option.toJson), ("body", .text c.body)] ++
      Json.optionalField "custom_body" .text c.customBody ++
      Json.optionalField "position" .ofWord32 c.position ++
      Json.optionalField "row" Ident.toJson c.row

/-- Reads a stored choice. -/
def ofJson? (v : Json) : Option StoredChoice := do
  let fields ← v.fields? fieldNames
  let option ← Json.required "option" Ident.ofJson? fields
  let body ← Json.required "body" Json.text? fields
  let customBody ← Json.optional "custom_body" Json.text? fields
  let position ← Json.optional "position" Json.word32? fields
  let row ← Json.optional "row" Ident.ofJson? fields
  return { option, body, customBody, position, row }

end StoredChoice

namespace StoredAnswer

/-- The fields of a stored answer in their order. -/
def fieldNames : List String := ["question", "body", "choices"]

/-- A stored answer as a record; the text and the choices are left out where there are none. -/
def toJson (a : StoredAnswer) : Json :=
  .record <|
    [("question", a.question.toJson)] ++
      Json.optionalField "body" .text a.body ++
      Json.listField "choices" StoredChoice.toJson a.choices

/-- Reads a stored answer. -/
def ofJson? (v : Json) : Option StoredAnswer := do
  let fields ← v.fields? fieldNames
  let question ← Json.required "question" Ident.ofJson? fields
  let body ← Json.optional "body" Json.text? fields
  let choices ← Json.defaulted "choices" [] (Json.list? StoredChoice.ofJson?) fields
  return { question, body, choices }

end StoredAnswer

namespace Submission

/-- The fields of a submission in their order. -/
def fieldNames : List String := ["questionnaire", "revision", "respondent", "answers"]

/-- A submission as a record. -/
def toJson (s : Submission) : Json :=
  .record
    [("questionnaire", s.questionnaire.toJson), ("revision", .ofWord64 s.revision), ("respondent", s.respondent.toJson),
      ("answers", .ofList StoredAnswer.toJson s.answers)]

/-- Reads a submission. -/
def ofJson? (v : Json) : Option Submission := do
  let fields ← v.fields? fieldNames
  let questionnaire ← Json.required "questionnaire" Ident.ofJson? fields
  let revision ← Json.required "revision" Json.word64? fields
  let respondent ← Json.required "respondent" Ident.ofJson? fields
  let answers ← Json.required "answers" (Json.list? StoredAnswer.ofJson?) fields
  return { questionnaire, revision, respondent, answers }

end Submission

end Survey
