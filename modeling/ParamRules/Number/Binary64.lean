/-!
# Binary floating-point numbers

A finite number of the 64-bit binary format is a sign and a magnitude counted in
units of `2 ^ -1074`, the least positive number of the format.  Rounding,
comparison and the stored bits are all exact arithmetic on that count.

Rounding goes to the nearest representable magnitude, and a tie to the one whose
significand is even.  Comparison is the order of the signed counts, with the
infinities outside every finite number and no answer for a number that is not one.
-/

namespace ParamRules

/-- A binary format, measured in units of `2 ^ -1074`. -/
structure BinaryFormat where
  /-- How many binary digits a significand has. -/
  digits : Nat
  /-- The exponent of the least spacing between two magnitudes. -/
  leastExponent : Nat
  /-- The exponent of the least magnitude that is too large. -/
  overflowExponent : Nat

namespace BinaryFormat

/-- Double precision: the unit itself is the least spacing. -/
def double : BinaryFormat := ⟨53, 0, 2098⟩

/-- Single precision: the least spacing is `2 ^ -149`. -/
def single : BinaryFormat := ⟨24, 925, 1202⟩

/-- The exponent of the spacing between the magnitudes around `units`. -/
def spacingExponent (format : BinaryFormat) (units : Nat) : Nat :=
  max format.leastExponent (units.log2 - (format.digits - 1))

/-- The spacing between the magnitudes of the format around `units`. -/
def spacing (format : BinaryFormat) (units : Nat) : Nat :=
  Nat.pow 2 (format.spacingExponent units)

/-- The magnitude of the format nearest to `num / den` units, of two equally near
ones the one with an even significand. -/
def round (format : BinaryFormat) (num den : Nat) : Nat :=
  let step := format.spacing (num / den)
  let significand := num / (den * step)
  let rest := num % (den * step)
  if den * step < 2 * rest ∨ den * step = 2 * rest ∧ significand % 2 = 1 then
    (significand + 1) * step
  else
    significand * step

/-- `units` is a magnitude of the format. -/
def holds (format : BinaryFormat) (units : Nat) : Bool :=
  units.log2 < format.overflowExponent && units % format.spacing units == 0

end BinaryFormat

/-- A finite number of the 64-bit format.  Both zeros are present. -/
structure FiniteBinary64 where
  /-- The sign, which zero has too. -/
  negative : Bool
  /-- The magnitude in units of `2 ^ -1074`. -/
  units : Nat
  /-- The format has this magnitude. -/
  holds_units : BinaryFormat.double.holds units = true
deriving DecidableEq

/-- A number of the 64-bit binary format. -/
inductive Binary64 where
  /-- Not a number. -/
  | nan
  /-- An infinity of either sign. -/
  | infinite (negative : Bool)
  /-- A finite number. -/
  | finite (value : FiniteBinary64)
deriving DecidableEq

namespace FiniteBinary64

/-- Zero with a sign. -/
def zero (negative : Bool) : FiniteBinary64 :=
  ⟨negative, 0, by decide⟩

instance : Inhabited FiniteBinary64 := ⟨zero false⟩

/-- The value in units of `2 ^ -1074`. -/
def signedUnits (x : FiniteBinary64) : Int :=
  if x.negative then -(x.units : Int) else x.units

/-- How many units make one. -/
def unitsPerOne : Nat := Nat.pow 2 1074

/-- The stored form without the sign: an exponent field above 52 significand bits. -/
def magnitudeBits (x : FiniteBinary64) : Nat :=
  let least := Nat.pow 2 52
  if x.units < least then
    x.units
  else
    let exponent := x.units.log2 - 52
    (exponent + 1) * least + (x.units / Nat.pow 2 exponent - least)

end FiniteBinary64

namespace Binary64

/-- The number with the given sign and magnitude, infinite when the format has no
such magnitude. -/
def ofUnits (negative : Bool) (units : Nat) : Binary64 :=
  if h : BinaryFormat.double.holds units = true then
    .finite ⟨negative, units, h⟩
  else
    .infinite negative

/-- The number nearest to `num / den`, with the given sign. -/
def ofRatio (negative : Bool) (num den : Nat) : Binary64 :=
  ofUnits negative (BinaryFormat.double.round (num * FiniteBinary64.unitsPerOne) den)

/-- The number nearest to `num / den` among those of single precision. -/
def ofRatioSingle (negative : Bool) (num den : Nat) : Binary64 :=
  let units := BinaryFormat.single.round (num * FiniteBinary64.unitsPerOne) den
  if units.log2 < BinaryFormat.single.overflowExponent then
    ofUnits negative units
  else
    .infinite negative

/-- The number nearest to the product of two finite ones. -/
def product (a b : FiniteBinary64) : Binary64 :=
  ofRatio (a.negative != b.negative) (a.units * b.units)
    (FiniteBinary64.unitsPerOne * FiniteBinary64.unitsPerOne)

/-- The number nearest to the quotient of two finite ones, of which the second is not
zero. -/
def quotient (a b : FiniteBinary64) : Binary64 :=
  ofRatio (a.negative != b.negative) a.units b.units

/-- The finite number that a number is. -/
def finite? : Binary64 → Option FiniteBinary64
  | .finite x => some x
  | _ => none

/-- The number nearest to a whole number. -/
def ofInt (n : Int) : Binary64 :=
  ofRatio (n < 0) n.natAbs 1

/-- A number of units that no finite magnitude reaches. -/
def unreachedUnits : Int :=
  Nat.pow 2 BinaryFormat.double.overflowExponent

/-- The place of a number in the order, in units; the infinities lie beyond every
finite number. -/
def rank? : Binary64 → Option Int
  | .nan => none
  | .infinite negative => some (if negative then -unreachedUnits else unreachedUnits)
  | .finite x => some x.signedUnits

/-- The order of two numbers, if neither is `nan`; the two zeros are equal. -/
def compare? (a b : Binary64) : Option Ordering :=
  match a.rank?, b.rank? with
  | some x, some y => some (compare x y)
  | _, _ => none

/-- The 64 stored bits; there is one bit pattern for `nan`. -/
def bits : Binary64 → Nat
  | .nan => 0x7FF8000000000000
  | .infinite negative =>
      (if negative then 0x8000000000000000 else 0) + 0x7FF0000000000000
  | .finite x => (if x.negative then 0x8000000000000000 else 0) + x.magnitudeBits

theorem compare?_eq_some_iff {a b : Binary64} {o : Ordering} :
    compare? a b = some o ↔
      ∃ x y, a.rank? = some x ∧ b.rank? = some y ∧ compare x y = o := by
  unfold compare?
  split
  · rename_i x y hx hy
    constructor
    · intro h
      exact ⟨x, y, hx, hy, by simpa using h⟩
    · rintro ⟨x', y', hx', hy', h⟩
      rw [hx] at hx'
      rw [hy] at hy'
      cases hx'
      cases hy'
      rw [h]
  · rename_i h
    constructor
    · intro h'
      cases h'
    · rintro ⟨x, y, hx, hy, _⟩
      exact absurd hy (h x y hx)

theorem compare?_eq_gt_iff {a b : Binary64} :
    compare? a b = some .gt ↔ compare? b a = some .lt := by
  simp only [compare?_eq_some_iff, Int.compare_eq_gt, Int.compare_eq_lt]
  constructor
  · rintro ⟨x, y, hx, hy, hlt⟩
    exact ⟨y, x, hy, hx, hlt⟩
  · rintro ⟨y, x, hy, hx, hlt⟩
    exact ⟨x, y, hx, hy, hlt⟩

end Binary64

end ParamRules
