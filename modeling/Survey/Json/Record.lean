import Survey.Json.Value

/-!
# Records in JSON

A record is written as an object with a member for each of its fields. It may also be read from an array of the fields in their
order. Members of other keys are passed over; a field that stands twice is an error, and so are more items than fields. What a
missing field means is said by the way it is read: it is required, or it has a default, or it is optional and null means none.
-/

namespace Survey.Json

/-! ## Reading -/

/-- The fields of a record that are written in a value, in the order in which they are written. -/
def fields? (names : List String) : Json → Option (List Field)
  | .object members =>
    let known := (members.map fun (key, v) => (key.text, v)).filter fun field => names.contains field.1
    if (known.map (·.1)).Nodup then some known else none
  | .array items => if items.length ≤ names.length then some (names.zip items) else none
  | _ => none

/-- The value of a field. -/
def field? (name : String) (fields : List Field) : Option Json := (fields.find? (·.1 = name)).map (·.2)

variable {α : Type}

/-- Reads a field that must be there. -/
def required (name : String) (read : Json → Option α) (fields : List Field) : Option α := (field? name fields).bind read

/-- Reads a field that has a default. -/
def defaulted (name : String) (default : α) (read : Json → Option α) (fields : List Field) : Option α :=
  match field? name fields with
  | none => some default
  | some v => read v

/-- Reads a value that may be null. -/
def nullable? (read : Json → Option α) : Json → Option (Option α)
  | .null => some none
  | v => (read v).map some

/-- Reads a field that may be missing or null. -/
def optional (name : String) (read : Json → Option α) (fields : List Field) : Option (Option α) :=
  defaulted name none (nullable? read) fields

/-- Reads a truth value. -/
def bool? : Json → Option Bool
  | .bool b => some b
  | _ => none

/-- Reads a string. -/
def text? : Json → Option String
  | .text s => some s
  | _ => none

/-- Reads a natural number below a bound. -/
def below? (bound : Nat) : Json → Option Nat
  | .nat n => if n < bound then some n else none
  | _ => none

/-- Reads a number of 32 bits. -/
def word32? (v : Json) : Option UInt32 := (v.below? UInt32.size).map UInt32.ofNat

/-- Reads a number of 64 bits. -/
def word64? (v : Json) : Option UInt64 := (v.below? UInt64.size).map UInt64.ofNat

/-- Reads an array, item by item. -/
def list? (read : Json → Option α) : Json → Option (List α)
  | .array items => items.mapM read
  | _ => none

/-- Reads a name: a string, or an object whose one member has the name as its key and null as its value. -/
def name? (ofName? : String → Option α) : Json → Option α
  | .text s => ofName? s
  | .object [(key, .null)] => ofName? key.text
  | _ => none

/-- Reads an array of exactly two items. -/
def pair? {β : Type} (first : Json → Option α) (second : Json → Option β) : Json → Option (α × β)
  | .array [a, b] => do return (← first a, ← second b)
  | _ => none

/-! ## Writing -/

/-- A number of 32 bits. -/
def ofWord32 (n : UInt32) : Json := .nat n.toNat

/-- A number of 64 bits. -/
def ofWord64 (n : UInt64) : Json := .nat n.toNat

/-- A field that is left out where there is nothing. -/
def optionalField (name : String) (form : α → Json) : Option α → List Field
  | none => []
  | some x => [(name, form x)]

/-- A field that is left out where a list is empty. -/
def listField (name : String) (form : α → Json) : List α → List Field
  | [] => []
  | xs => [(name, ofList form xs)]

end Survey.Json
