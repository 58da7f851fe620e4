import ParamRules.Number.Decimal

/-!
# Numerals

The numerals of JSON have an optional minus, digits without a superfluous leading zero,
and then optionally a point with digits and an exponent.

A numeral is read into one word.  Its significand is made of the leading digits that fit
64 bits; digits before the point that no longer fit count for their place only, and
those after it count for nothing.  The significand is rounded to a binary number, and
that number is multiplied or divided by a rounded power of ten.  So a numeral of many
digits may be read as a neighbour of the nearest binary number.
-/

namespace ParamRules

/-- A numeral as it is written: its sign, the digits before and after the point, and the
exponent.  It is plain if it has neither point nor exponent. -/
structure Numeral where
  negative : Bool
  whole : List Char
  fraction : List Char
  exponent : Int
  plain : Bool
deriving DecidableEq

namespace Numeral

/-- The part of a numeral after its sign. -/
def unsigned? (negative : Bool) (cs : List Char) : Option Numeral :=
  let whole := cs.takeWhile Char.isDigit
  if whole.isEmpty || whole.length != 1 && whole.head? == some '0' then
    none
  else
    match cs.dropWhile Char.isDigit with
    | [] => some ⟨negative, whole, [], 0, true⟩
    | '.' :: rest =>
        let fraction := rest.takeWhile Char.isDigit
        if fraction.isEmpty then
          none
        else
          (Decimal.scale? (rest.dropWhile Char.isDigit)).map fun exponent =>
            ⟨negative, whole, fraction, exponent, false⟩
    | rest =>
        (Decimal.scale? rest).map fun exponent => ⟨negative, whole, [], exponent, false⟩

/-- Reads a numeral. -/
def ofChars? : List Char → Option Numeral
  | '-' :: rest => unsigned? true rest
  | cs => unsigned? false cs

/-- Appends digits to a significand while it fits 64 bits, and counts them. -/
def absorb (significand : Nat) : List Char → Nat × Nat
  | [] => (significand, 0)
  | c :: rest =>
      let next := significand * 10 + Decimal.digitsValue [c]
      if next < 0x10000000000000000 then
        let (significand, count) := absorb next rest
        (significand, count + 1)
      else
        (significand, 0)

/-- The significand of a numeral, and the power of ten that scales it. -/
def scaledSignificand (n : Numeral) : Nat × Int :=
  let (significand, wholeCount) := absorb 0 n.whole
  let (significand, fractionCount) := absorb significand n.fraction
  (significand, (n.whole.length : Int) - wholeCount - fractionCount + n.exponent)

/-- The whole number that a plain numeral stands for, if its digits fit 64 bits. -/
def whole? (n : Numeral) : Option Int :=
  let (value, count) := absorb 0 n.whole
  if n.plain && count = n.whole.length then
    some (if n.negative then -(value : Int) else value)
  else
    none

end Numeral

namespace FiniteBinary64

/-- The greatest power of ten that is finite has this exponent. -/
def greatestTenExponent : Nat := 308

/-- The finite number nearest to a power of ten up to the greatest one. -/
def tenPower (exponent : Nat) : FiniteBinary64 :=
  ((Binary64.ofRatio false (Nat.pow 10 exponent) 1).finite?).getD default

/-- Divides by a power of ten. -/
def overTenPower (x : FiniteBinary64) (exponent : Nat) : FiniteBinary64 :=
  (Binary64.quotient x (tenPower exponent)).finite?.getD default

/-- Divides so many times by the greatest power of ten, until nothing is left. -/
def shrink : Nat → FiniteBinary64 → FiniteBinary64
  | 0, x => x
  | n + 1, x => if x.units = 0 then x else shrink n (x.overTenPower greatestTenExponent)

/-- Multiplies by a power of ten, if the result is finite.  A negative exponent is
divided off in steps of the greatest power of ten. -/
def scale? (x : FiniteBinary64) : Int → Option FiniteBinary64
  | .ofNat exponent =>
      if exponent ≤ greatestTenExponent then (Binary64.product x (tenPower exponent)).finite?
      else if x.units = 0 then some x
      else none
  | .negSucc n =>
      some ((shrink (n / greatestTenExponent) x).overTenPower (n % greatestTenExponent + 1))

end FiniteBinary64

namespace Numeral

/-- The finite binary number as which a numeral is read. -/
def toFinite? (n : Numeral) : Option FiniteBinary64 :=
  let (significand, exponent) := n.scaledSignificand
  (Binary64.ofRatio n.negative significand 1).finite?.bind fun x => x.scale? exponent

end Numeral

end ParamRules
