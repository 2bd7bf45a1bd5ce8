import Survey.Ident
import Survey.Json.Record

/-!
# Identifiers in records

An identifier is written as its number. Where it serves as a key it is written as a string of its decimal digits.
-/

namespace Survey.Ident

variable {kind : IdentKind}

/-- An identifier as a number. -/
def toJson (id : Ident kind) : Json := .ofWord64 id.raw

/-- Reads an identifier from its number. -/
def ofJson? (v : Json) : Option (Ident kind) := v.word64?.map Ident.mk

/-- The key of an identifier. -/
def toKey (id : Ident kind) : Json.Key := { text := toString id.raw.toNat }

/-- The identifier that has a key: the number of its digits, if it is in range and written like this, without escapes. -/
def ofKey? (key : Json.Key) : Option (Ident kind) :=
  let n := Nat.ofDigitChars 10 key.text.toList 0
  if key.escaped = false ∧ n < UInt64.size ∧ toString n = key.text then some ⟨UInt64.ofNat n⟩ else none

end Survey.Ident
