/-!
# Numbers in a JSON text

A number is a minus sign or none, a natural number without leading zeros, then a fraction or none, then a power of ten or none.
`Numeral.ofChars?` accepts exactly these.

A number is understood as a double, and `Numeral.fits` says whether it is one. Its digits are taken from the left for as long as
they make a number of 64 bits; digits of the whole part that are left over count as powers of ten and those of the fraction
not at all. The number of the digits and the power of ten are rounded to the precision of doubles one by one, and then their
product is. So a number very close to the largest double may be refused though it would round to a double, or the other
way round.
-/

namespace Survey.Json

/-- At least one digit, and nothing else. -/
def areDigits (cs : List Char) : Bool := !cs.isEmpty && cs.all Char.isDigit

/-- Digits without a leading zero. -/
def isNatural (cs : List Char) : Bool := areDigits cs && (cs.length = 1 || cs.head? ≠ some '0')

/-- The number of decimal digits. -/
def ofDigits (cs : List Char) : Nat := Nat.ofDigitChars 10 cs 0

/-- The characters before the first of a kind, and those after it if there is one. -/
def splitAtFirst (p : Char → Bool) : List Char → List Char × Option (List Char)
  | [] => ([], none)
  | c :: rest =>
    if p c then ([], some rest)
    else
      let (before, after) := splitAtFirst p rest
      (c :: before, after)

/-- Characters after a minus sign, which may be missing. -/
def dropMinus : List Char → List Char
  | '-' :: rest => rest
  | cs => cs

/-- A number without its sign: the digits before the point, those behind it, and the power of ten they are multiplied by. -/
structure Numeral where
  whole : List Char
  fraction : List Char
  exponent : Int
  deriving DecidableEq, Repr

namespace Numeral

/-- The power of ten that the characters behind an `e` stand for: digits behind a sign or none. -/
def exponent? : List Char → Option Int
  | '-' :: digits => if areDigits digits then some (-(ofDigits digits : Int)) else none
  | '+' :: digits => if areDigits digits then some (ofDigits digits : Int) else none
  | digits => if areDigits digits then some (ofDigits digits : Int) else none

/-- The number that characters stand for, less its sign. -/
def ofChars? (cs : List Char) : Option Numeral :=
  let (mantissa, power) := splitAtFirst (fun c => c = 'e' || c = 'E') cs
  let (whole, fraction) := splitAtFirst (· = '.') mantissa
  if isNatural (dropMinus whole) && fraction.all areDigits then
    (power.elim (some 0) exponent?).map fun exponent => ⟨dropMinus whole, fraction.getD [], exponent⟩
  else none

/-- Takes digits behind those of `n` for as long as they make a number of 64 bits. Gives that number, and how many digits are
left over. -/
def takeDigits (n : Nat) : List Char → Nat × Nat
  | [] => (n, 0)
  | c :: rest =>
    let m := 10 * n + (c.toNat - 48)
    if m < UInt64.size then takeDigits m rest else (n, rest.length + 1)

/-- The number of the digits that are taken, and the power of ten it is multiplied by. -/
def scaled (x : Numeral) : Nat × Int :=
  let (whole, left) := takeDigits 0 x.whole
  let (digits, unused) := takeDigits whole x.fraction
  (digits, x.exponent + left - (x.fraction.length - unused))

/-- The nearest number with 53 significant bits; a tie goes to the even one. -/
def roundToDouble (n : Nat) : Nat :=
  let unit := Nat.pow 2 (n.log2 + 1 - 53)
  let q := n / unit
  let r := n % unit
  if unit < 2 * r || (unit = 2 * r && q % 2 = 1) then (q + 1) * unit else q * unit

/-- Whether a number is not too large for a double. -/
def fits (x : Numeral) : Bool :=
  let (digits, exponent) := x.scaled
  digits = 0 || exponent < 0 ||
    (exponent ≤ 308 && roundToDouble (roundToDouble digits * roundToDouble (Nat.pow 10 exponent.toNat)) < Nat.pow 2 1024)

end Numeral

end Survey.Json
