/-!
# JSON values

A JSON text denotes a value. Of numbers the values keep apart the natural ones, which are written as digits alone; they are the
only numbers that records hold. Any other number is kept as it is written.

A text may be written correctly and yet hold what has no value: a number too large for a double, a string with half a surrogate
pair, an object with such a string as a key, arrays and objects nested too deeply. Each of these is a `foreign` value. It may be
passed over, but nothing is read from it.

The members of an object stand in the order in which they are written, and a key may stand more than once.
-/

namespace Survey

/-- The key of a member. It matters in one place whether some character of it was written as an escape: a key that stands for a
number has to be written in digits. -/
structure Json.Key where
  text : String
  escaped : Bool := false
  deriving DecidableEq, Repr, Inhabited

/-- The value of a JSON text. -/
inductive Json where
  | null
  | bool (b : Bool)
  | nat (n : Nat)
  | number (source : String)
  | text (s : String)
  | foreign
  | array (items : List Json)
  | object (members : List (Json.Key × Json))
  deriving Inhabited

/-- A member of an object. -/
abbrev Json.Member := Json.Key × Json

/-- A field of a record: its name and its value. -/
abbrev Json.Field := String × Json

namespace Json

/-- The object of fields. -/
def record (fields : List Field) : Json := .object (fields.map fun (name, v) => ({ text := name }, v))

/-- The array of the forms of the members of a list. -/
def ofList {α : Type} (form : α → Json) (xs : List α) : Json := .array (xs.map form)

/-- The form of a thing, or null where there is none. -/
def ofOption {α : Type} (form : α → Json) : Option α → Json
  | none => .null
  | some x => form x

mutual

/-- Whether no part of a value is foreign. -/
def isWhole : Json → Bool
  | .foreign => false
  | .array items => areWhole items
  | .object members => areWholeMembers members
  | _ => true

/-- Whether no part of any item is foreign. -/
def areWhole : List Json → Bool
  | [] => true
  | v :: rest => isWhole v && areWhole rest

/-- Whether no part of the value of any member is foreign. -/
def areWholeMembers : List (Key × Json) → Bool
  | [] => true
  | (_, v) :: rest => isWhole v && areWholeMembers rest

end

/-- Adds a member in front of members that have no member of its key. -/
def consLast (key : String) (v : Json) (members : List Member) : List Member :=
  if members.any (·.1.text = key) then members else ({ text := key }, v) :: members

mutual

/-- The value with one member for each key of an object, the last that was written, and no trace of how keys were written. -/
def merged : Json → Json
  | .array items => .array (mergedItems items)
  | .object members => .object (mergedMembers members)
  | v => v

/-- The items of an array, each with one member for each key. -/
def mergedItems : List Json → List Json
  | [] => []
  | v :: rest => merged v :: mergedItems rest

/-- The last members of their keys. -/
def mergedMembers : List (Key × Json) → List (Key × Json)
  | [] => []
  | (key, v) :: rest => consLast key.text (merged v) (mergedMembers rest)

end

end Json

end Survey
