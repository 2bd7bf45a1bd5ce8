import Survey.Json.Token
import Survey.Json.Value

/-!
# Reading a JSON text

`Json.read?` takes the tokens of a text one by one. What it is in the middle of is a `ReadState`: what may come next, and the
arrays and objects that are still open, innermost first. A text is read when its last token completes a value.
-/

namespace Survey.Json

/-- An array or an object that is still open, with what it holds so far, last first. An object waits for the value of a key. Of
an object with a broken key neither members nor key are kept. -/
inductive OpenValue where
  | array (items : List Json)
  | object (members : Option (List Member)) (key : Option Key)

/-- What may come next. -/
inductive ReadState where
  /-- A value. -/
  | value (outer : List OpenValue)
  /-- The first item of an array, or its end. -/
  | firstItem (outer : List OpenValue)
  /-- The first key of an object, or its end. -/
  | firstKey (outer : List OpenValue)
  /-- A key. -/
  | key (members : Option (List Member)) (outer : List OpenValue)
  /-- The colon behind a key. -/
  | colon (members : Option (List Member)) (key : Option Key) (outer : List OpenValue)
  /-- A comma or the end of an array. -/
  | afterItem (items : List Json) (outer : List OpenValue)
  /-- A comma or the end of an object. -/
  | afterMember (members : Option (List Member)) (outer : List OpenValue)
  /-- Nothing. -/
  | done (value : Json)

/-- Adds a member to an object, unless the key is broken or one of the keys before was. -/
def addMember? (members : Option (List Member)) (key : Option Key) (v : Json) : Option (List Member) := do
  return (← key, v) :: (← members)

/-- What may come next when a value is complete. -/
def complete (v : Json) : List OpenValue → ReadState
  | [] => .done v
  | .array items :: outer => .afterItem (v :: items) outer
  | .object members key :: outer => .afterMember (addMember? members key v) outer

/-- How many arrays and objects may stand inside one another. -/
def maxDepth : Nat := 127

/-- What may come next when an array or an object is complete. One that is nested too deeply is foreign. -/
def completeNested (v : Json) (outer : List OpenValue) : ReadState :=
  complete (if (outer.drop (maxDepth - 1)).isEmpty then v else .foreign) outer

/-- The object of members, last first. -/
def ofMembers : Option (List Member) → Json
  | some members => .object members.reverse
  | none => .foreign

/-- What may come next when a value begins with a token. -/
def beginValue? (outer : List OpenValue) : Token → Option ReadState
  | .leftBracket => some (.firstItem outer)
  | .leftBrace => some (.firstKey outer)
  | .null => some (complete .null outer)
  | .bool b => some (complete (.bool b) outer)
  | .nat n => some (complete (.nat n) outer)
  | .number source => some (complete (.number source) outer)
  | .text s _ => some (complete (.text s) outer)
  | .hugeNumber | .brokenText => some (complete .foreign outer)
  | .rightBracket | .rightBrace | .colon | .comma => none

/-- What may come next when a member begins with a token. -/
def beginMember? (members : Option (List Member)) (outer : List OpenValue) : Token → Option ReadState
  | .text s escaped => some (.colon members (some ⟨s, escaped⟩) outer)
  | .brokenText => some (.colon members none outer)
  | _ => none

/-- Takes one token. -/
def ReadState.take? : ReadState → Token → Option ReadState
  | .value outer, t => beginValue? outer t
  | .firstItem outer, .rightBracket => some (completeNested (.array []) outer)
  | .firstItem outer, t => beginValue? (.array [] :: outer) t
  | .firstKey outer, .rightBrace => some (completeNested (.object []) outer)
  | .firstKey outer, t => beginMember? (some []) outer t
  | .key members outer, t => beginMember? members outer t
  | .colon members k outer, .colon => some (.value (.object members k :: outer))
  | .afterItem items outer, .comma => some (.value (.array items :: outer))
  | .afterItem items outer, .rightBracket => some (completeNested (.array items.reverse) outer)
  | .afterMember members outer, .comma => some (.key members outer)
  | .afterMember members outer, .rightBrace => some (completeNested (ofMembers members) outer)
  | _, _ => none

/-- The value of a JSON text. -/
def read? (text : String) : Option Json := do
  let tokens ← scan? text.toList
  match ← tokens.foldlM ReadState.take? (.value []) with
  | .done v => some v
  | _ => none

end Survey.Json
