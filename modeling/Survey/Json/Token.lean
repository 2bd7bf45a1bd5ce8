import Survey.Json.Number

/-!
# Tokens of a JSON text

`Token.scan?` cuts a text into the six marks, the three words, numbers and strings, and passes over the white space between
them. It fails where a text holds anything else: a string that is not closed, holds a bare control character or an unknown
escape, a number with a leading zero, and so on. Whether the tokens stand in a sensible order is not its business; as no two
values ever stand side by side in a JSON text, cutting as long a number or word as possible loses nothing.
-/

namespace Survey.Json

/-- A piece of a JSON text. A text is broken where half a surrogate pair stands alone. -/
inductive Token where
  | leftBrace | rightBrace | leftBracket | rightBracket | colon | comma
  | null
  | bool (b : Bool)
  | nat (n : Nat)
  | number (source : String)
  | hugeNumber
  | text (s : String) (escaped : Bool)
  | brokenText
  deriving DecidableEq, Repr

/-- White space between tokens. -/
def isSpace (c : Char) : Bool := c = ' ' || c = '\t' || c = '\n' || c = '\r'

/-! ## Numbers -/

/-- The characters that make up numbers. -/
def isNumberChar (c : Char) : Bool := c.isDigit || c = '-' || c = '+' || c = '.' || c = 'e' || c = 'E'

/-- The token of the characters of a number. -/
def numberToken? (cs : List Char) : Option Token :=
  (Numeral.ofChars? cs).map fun x =>
    if !x.fits then .hugeNumber
    else if isNatural cs then .nat (ofDigits cs)
    else .number (String.ofList cs)

/-! ## Words -/

/-- The token of the letters of a word. -/
def wordToken? (cs : List Char) : Option Token :=
  if cs = ['n', 'u', 'l', 'l'] then some .null
  else if cs = ['t', 'r', 'u', 'e'] then some (.bool true)
  else if cs = ['f', 'a', 'l', 's', 'e'] then some (.bool false)
  else none

/-! ## Strings -/

/-- The value of a hexadecimal digit. -/
def hexDigit? (c : Char) : Option Nat :=
  if c.isDigit then some (c.toNat - 48)
  else if 'a' ≤ c ∧ c ≤ 'f' then some (c.toNat - 87)
  else if 'A' ≤ c ∧ c ≤ 'F' then some (c.toNat - 55)
  else none

/-- The code unit of four hexadecimal digits. -/
def hexUnit? (a b c d : Char) : Option Nat := do
  return 4096 * (← hexDigit? a) + 256 * (← hexDigit? b) + 16 * (← hexDigit? c) + (← hexDigit? d)

/-- The code unit of a character that follows a backslash. -/
def escapeUnit? : Char → Option Nat
  | '"' => some 0x22
  | '\\' => some 0x5C
  | '/' => some 0x2F
  | 'b' => some 0x08
  | 'f' => some 0x0C
  | 'n' => some 0x0A
  | 'r' => some 0x0D
  | 't' => some 0x09
  | _ => none

/-- What is read of a string: its code units, where an escape of four digits may give half of a surrogate pair; whether there was
an escape; and the characters behind the closing quote. -/
structure StringBody where
  units : List Nat
  escaped : Bool
  after : List Char
  deriving DecidableEq, Repr

/-- A string that begins with one more unit. -/
def StringBody.cons (unit : Nat) (b : StringBody) : StringBody := { b with units := unit :: b.units }

/-- A string that begins with one more unit, which was written as an escape. -/
def StringBody.consEscape (unit : Nat) (b : StringBody) : StringBody := { b with units := unit :: b.units, escaped := true }

/-- Reads a string from behind its opening quote. -/
def readString? : List Char → Option StringBody
  | [] => none
  | '"' :: rest => some ⟨[], false, rest⟩
  | '\\' :: 'u' :: a :: b :: c :: d :: rest =>
    match hexUnit? a b c d with
    | some unit => (readString? rest).map (·.consEscape unit)
    | none => none
  | '\\' :: e :: rest =>
    match escapeUnit? e with
    | some unit => (readString? rest).map (·.consEscape unit)
    | none => none
  | c :: rest => if c.toNat < 0x20 || c = '\\' then none else (readString? rest).map (·.cons c.toNat)

/-- What is behind a string is shorter than the text it was read from. -/
theorem length_of_readString? {cs : List Char} {body : StringBody} (h : readString? cs = some body) :
    body.after.length < cs.length := by
  fun_induction readString? cs generalizing body with
  | case1 => simp at h
  | case2 rest =>
    obtain rfl := Option.some.inj h
    simp
  | case3 a b c d rest unit hu ih =>
    obtain ⟨tail, ht, rfl⟩ := Option.map_eq_some_iff.1 h
    have := ih ht
    simp only [StringBody.consEscape, List.length_cons]
    omega
  | case4 => simp at h
  | case5 e rest _ unit hu ih =>
    obtain ⟨tail, ht, rfl⟩ := Option.map_eq_some_iff.1 h
    have := ih ht
    simp only [StringBody.consEscape, List.length_cons]
    omega
  | case6 => simp at h
  | case7 => simp_all
  | case8 c rest _ _ _ _ ih =>
    obtain ⟨tail, ht, rfl⟩ := Option.map_eq_some_iff.1 h
    have := ih ht
    simp only [StringBody.cons, List.length_cons]
    omega

/-- The first half of a surrogate pair. -/
def isHighSurrogate (n : Nat) : Bool := 0xD800 ≤ n && n ≤ 0xDBFF

/-- The second half of a surrogate pair. -/
def isLowSurrogate (n : Nat) : Bool := 0xDC00 ≤ n && n ≤ 0xDFFF

/-- The characters of code units, if no half of a surrogate pair stands alone. -/
def joinUnits? : List Nat → Option (List Char)
  | [] => some []
  | [n] => if isHighSurrogate n || isLowSurrogate n then none else some [Char.ofNat n]
  | n :: m :: rest =>
    if isHighSurrogate n then
      if isLowSurrogate m then (joinUnits? rest).map (Char.ofNat (0x10000 + 0x400 * (n - 0xD800) + (m - 0xDC00)) :: ·)
      else none
    else if isLowSurrogate n then none
    else (joinUnits? (m :: rest)).map (Char.ofNat n :: ·)

/-- The token of a string. -/
def textToken (body : StringBody) : Token :=
  match joinUnits? body.units with
  | some cs => .text (String.ofList cs) body.escaped
  | none => .brokenText

/-! ## The whole text -/

/-- The token of a mark. -/
def mark? : Char → Option Token
  | '\x7b' => some .leftBrace
  | '\x7d' => some .rightBrace
  | '[' => some .leftBracket
  | ']' => some .rightBracket
  | ':' => some .colon
  | ',' => some .comma
  | _ => none

/-- Cuts a text into tokens. -/
def scan? (cs : List Char) : Option (List Token) :=
  match cs with
  | [] => some []
  | c :: rest =>
    if isSpace c then scan? rest
    else
      match mark? c with
      | some t => (scan? rest).map (t :: ·)
      | none =>
        if c = '"' then
          match _h : readString? rest with
          | none => none
          | some body => (scan? body.after).map (textToken body :: ·)
        else if isNumberChar c && !c.isAlpha then
          match numberToken? (c :: rest.takeWhile isNumberChar) with
          | none => none
          | some t => (scan? (rest.dropWhile isNumberChar)).map (t :: ·)
        else
          match wordToken? (c :: rest.takeWhile Char.isAlpha) with
          | none => none
          | some t => (scan? (rest.dropWhile Char.isAlpha)).map (t :: ·)
termination_by cs.length
decreasing_by
  · simp
  · simp
  · have := length_of_readString? _h
    simp only [List.length_cons]
    omega
  · have := (List.dropWhile_suffix (p := isNumberChar) (l := rest)).length_le
    simp only [List.length_cons]
    omega
  · have := (List.dropWhile_suffix (p := Char.isAlpha) (l := rest)).length_le
    simp only [List.length_cons]
    omega

end Survey.Json
