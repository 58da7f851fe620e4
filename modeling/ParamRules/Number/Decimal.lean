import ParamRules.Number.Binary64

/-!
# Decimal notation

A number written in decimal notation is a sign, a whole coefficient and a power of
ten.  Number texts may have a plus sign, a bare point or the name of a value that is not
finite.  Reading is exact; only `Decimal.toBinary64` rounds.
-/

namespace ParamRules

/-- The number `coefficient * 10 ^ exponent` with a sign. -/
structure Decimal where
  negative : Bool
  coefficient : Nat
  exponent : Int
deriving DecidableEq

namespace Decimal

/-- The value of a row of decimal digits. -/
def digitsValue (digits : List Char) : Nat :=
  Nat.ofDigitChars 10 digits 0

/-- The decimal digits of a whole number, without leading zeros. -/
def digitsOf (n : Nat) : List Char :=
  Nat.toDigits 10 n

theorem digitsValue_digitsOf (n : Nat) : digitsValue (digitsOf n) = n :=
  Nat.ofDigitChars_toDigits (by decide) (by decide)

/-- The number with these digits before and after the point, scaled by a power of
ten. -/
def ofParts (negative : Bool) (whole fraction : List Char) (scale : Int) : Decimal :=
  ⟨negative, digitsValue (whole ++ fraction), scale - fraction.length⟩

/-- Reads the digits of an exponent, which must be there and end the text. -/
def exponentDigits? (digits : List Char) : Option Nat :=
  if digits.isEmpty || !digits.all Char.isDigit then none else some (digitsValue digits)

/-- Reads what may follow the digits of a number: nothing, or `e` and a whole
exponent with an optional sign. -/
def scale? : List Char → Option Int
  | [] => some 0
  | mark :: rest =>
      if mark = 'e' ∨ mark = 'E' then
        match rest with
        | '-' :: digits => (exponentDigits? digits).map fun n => -(n : Int)
        | '+' :: digits => (exponentDigits? digits).map Int.ofNat
        | digits => (exponentDigits? digits).map Int.ofNat
      else
        none

/-- The binary number for a decimal one; `round` finds the one nearest to a fraction with a
sign.  Far outside the range of binary numbers the power of ten is not computed. -/
def toBinary64With (round : Bool → Nat → Nat → Binary64) (d : Decimal) : Binary64 :=
  let lead := d.exponent + (digitsOf d.coefficient).length
  if d.coefficient = 0 ∨ lead < -400 then
    .finite (.zero d.negative)
  else if 400 < lead then
    .infinite d.negative
  else if 0 ≤ d.exponent then
    round d.negative (d.coefficient * Nat.pow 10 d.exponent.toNat) 1
  else
    round d.negative d.coefficient (Nat.pow 10 (-d.exponent).toNat)

/-- The number nearest to a decimal one. -/
def toBinary64 (d : Decimal) : Binary64 :=
  d.toBinary64With .ofRatio

/-- The number of single precision nearest to a decimal one. -/
def toBinary64Single (d : Decimal) : Binary64 :=
  d.toBinary64With .ofRatioSingle

end Decimal

namespace Binary64

/-- A number text after its sign: a name in any case, or digits with an optional
point and exponent, where one side of the point may be empty. -/
def unsignedOfChars? (round : Decimal → Binary64) (negative : Bool) (cs : List Char) :
    Option Binary64 :=
  let name := String.ofList (cs.map Char.toLower)
  if name = "nan" then
    some .nan
  else if name = "inf" ∨ name = "infinity" then
    some (.infinite negative)
  else
    let whole := cs.takeWhile Char.isDigit
    let (fraction, rest) :=
      match cs.dropWhile Char.isDigit with
      | '.' :: rest => (rest.takeWhile Char.isDigit, rest.dropWhile Char.isDigit)
      | rest => ([], rest)
    if whole.isEmpty && fraction.isEmpty then
      none
    else
      (Decimal.scale? rest).map fun scale => round (.ofParts negative whole fraction scale)

/-- Reads a number text with an optional sign, rounding as told. -/
def ofStringWith? (round : Decimal → Binary64) (text : String) : Option Binary64 :=
  match text.toList with
  | '-' :: rest => unsignedOfChars? round true rest
  | '+' :: rest => unsignedOfChars? round false rest
  | cs => unsignedOfChars? round false cs

/-- Reads a number text in double precision. -/
def ofString? (text : String) : Option Binary64 :=
  ofStringWith? Decimal.toBinary64 text

/-- Reads a number text in single precision. -/
def ofStringSingle? (text : String) : Option Binary64 :=
  ofStringWith? Decimal.toBinary64Single text

end Binary64

end ParamRules
