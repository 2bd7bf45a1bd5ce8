import Survey.Answer.Answers
import Survey.Record.Ident

/-!
# Values and answers in records

A value is written with the name of its shape beside what it holds. Answers are written as one object, with the identifiers of
the questions as keys; of two members of one key the later counts.
-/

namespace Survey

namespace Choice

/-- The fields of a choice in their order. -/
def fieldNames : List String := ["option", "custom_body"]

/-- A choice as a record; the respondent's own text is left out where there is none. -/
def toJson (c : Choice) : Json :=
  .record (("option", c.option.toJson) :: Json.optionalField "custom_body" .text c.customBody)

/-- Reads a choice. -/
def ofJson? (v : Json) : Option Choice := do
  let fields ← v.fields? fieldNames
  let option ← Json.required "option" Ident.ofJson? fields
  let customBody ← Json.optional "custom_body" Json.text? fields
  return { option, customBody }

end Choice

namespace MatrixCell

/-- The fields of a cell in their order. -/
def fieldNames : List String := ["row", "option"]

/-- A cell as a record. -/
def toJson (c : MatrixCell) : Json := .record [("row", c.row.toJson), ("option", c.option.toJson)]

/-- Reads a cell. -/
def ofJson? (v : Json) : Option MatrixCell := do
  let fields ← v.fields? fieldNames
  let row ← Json.required "row" Ident.ofJson? fields
  let option ← Json.required "option" Ident.ofJson? fields
  return { row, option }

end MatrixCell

namespace AnswerValue

/-- The fields of a value in their order. -/
def fieldNames : List String := ["type", "value"]

/-- What a value holds, apart from its shape. -/
def payload : AnswerValue → Json
  | .text body => .text body
  | .choices chosen => .ofList Choice.toJson chosen
  | .sorting order => .ofList Ident.toJson order
  | .matrix cells => .ofList MatrixCell.toJson cells

/-- The value of a shape that holds what is written. -/
def ofPayload? (v : Json) : ValueShape → Option AnswerValue
  | .text => v.text?.map .text
  | .choices => (v.list? Choice.ofJson?).map .choices
  | .sorting => (v.list? Ident.ofJson?).map .sorting
  | .matrix => (v.list? MatrixCell.ofJson?).map .matrix

/-- A value as a record: its shape and what it holds. -/
def toJson (value : AnswerValue) : Json := .record [("type", .text value.shape.name), ("value", value.payload)]

/-- Reads a value from its fields: the shape first, then what is held in that shape. What is written before its shape has to be
whole, for it is taken in before it is known what may be passed over. -/
def ofFields? (fields : List Json.Field) : Option AnswerValue := do
  let shape ← Json.required "type" (Json.name? ValueShape.ofName?) fields
  let held ← Json.field? "value" fields
  if fields.head?.any (·.1 = "value") && !held.isWhole then none else ofPayload? held shape

/-- Reads a value: from an object, or from an array of the name of its shape and what it holds. -/
def ofJson? : Json → Option AnswerValue
  | .array [.text name, held] => (ValueShape.ofName? name).bind (ofPayload? held)
  | .object members => (Json.fields? fieldNames (.object members)).bind ofFields?
  | _ => none

end AnswerValue

namespace Answers

/-- Answers as an object with a member for each question that has a value. -/
def toJson (a : Answers) : Json := .object (a.entries.map fun (id, value) => (id.toKey, value.toJson))

/-- Adds the answer of a member. -/
def addMember? (a : Answers) (member : Json.Member) : Option Answers := do
  return a.set (← Ident.ofKey? member.1) (← AnswerValue.ofJson? member.2)

/-- Reads answers, member by member. -/
def ofJson? : Json → Option Answers
  | .object members => members.foldlM addMember? .empty
  | _ => none

end Answers

end Survey
