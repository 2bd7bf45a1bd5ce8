import Survey.Json.Value

/-!
# Writing a JSON text

`Json.compact` writes a value on one line without any space. `Json.pretty` writes every item and every member on a line of its
own, two spaces further in than what holds it; an empty array or object stays on its line. What has no value is written as null.
-/

namespace Survey.Json

/-- The hexadecimal digit of a number below sixteen. -/
def hexChar (n : Nat) : Char := Char.ofNat (if n < 10 then 48 + n else 87 + n)

/-- How a character stands in a string: a quote, a backslash and the control characters are escaped. -/
def escapeChar (c : Char) : List Char :=
  match c with
  | '"' => ['\\', '"']
  | '\\' => ['\\', '\\']
  | '\n' => ['\\', 'n']
  | '\r' => ['\\', 'r']
  | '\t' => ['\\', 't']
  | '\x08' => ['\\', 'b']
  | '\x0c' => ['\\', 'f']
  | c => if c.toNat < 0x20 then ['\\', 'u', '0', '0', hexChar (c.toNat / 16), hexChar (c.toNat % 16)] else [c]

/-- Text between quotes. -/
def quote (s : String) : String := String.ofList ('"' :: s.toList.flatMap escapeChar ++ ['"'])

mutual

/-- A value on one line. -/
def compact : Json → String
  | .null => "null"
  | .bool b => if b then "true" else "false"
  | .nat n => toString n
  | .text s => quote s
  | .number source => source
  | .foreign => "null"
  | .array items => "[" ++ compactItems items ++ "]"
  | .object members => "\x7b" ++ compactMembers members ++ "\x7d"

/-- The items of an array on one line. -/
def compactItems : List Json → String
  | [] => ""
  | [v] => compact v
  | v :: rest => compact v ++ "," ++ compactItems rest

/-- The members of an object on one line. -/
def compactMembers : List (Key × Json) → String
  | [] => ""
  | [(key, v)] => quote key.text ++ ":" ++ compact v
  | (key, v) :: rest => quote key.text ++ ":" ++ compact v ++ "," ++ compactMembers rest

end

/-- The end of a line and the space before the next. -/
def newline (depth : Nat) : String := String.ofList ('\n' :: List.replicate (2 * depth) ' ')

mutual

/-- A value over several lines, at a depth. -/
def prettyAt (depth : Nat) : Json → String
  | .array (v :: items) => "[" ++ prettyItems (depth + 1) (v :: items) ++ newline depth ++ "]"
  | .object (m :: members) => "\x7b" ++ prettyMembers (depth + 1) (m :: members) ++ newline depth ++ "\x7d"
  | v => compact v

/-- The items of an array, each on a line at a depth. -/
def prettyItems (depth : Nat) : List Json → String
  | [] => ""
  | [v] => newline depth ++ prettyAt depth v
  | v :: rest => newline depth ++ prettyAt depth v ++ "," ++ prettyItems depth rest

/-- The members of an object, each on a line at a depth. -/
def prettyMembers (depth : Nat) : List (Key × Json) → String
  | [] => ""
  | [(key, v)] => newline depth ++ quote key.text ++ ": " ++ prettyAt depth v
  | (key, v) :: rest => newline depth ++ quote key.text ++ ": " ++ prettyAt depth v ++ "," ++ prettyMembers depth rest

end

/-- A value over several lines. -/
def pretty (v : Json) : String := prettyAt 0 v

end Survey.Json
