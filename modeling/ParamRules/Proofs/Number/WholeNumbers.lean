import Mathlib.Order.MinMax
import ParamRules.Proofs.Number.Rounding

/-!
# Whole numbers as binary numbers

The binary numbers nearest to whole numbers are in the order of these numbers, except that
neighbours may coincide.  Up to a magnitude of `2 ^ 53` none do, since every whole number
there is a binary number itself.
-/

namespace ParamRules

theorem BinaryFormat.holds_iff_lt (format : BinaryFormat) {n : Nat}
    (hformat : 0 < format.overflowExponent) (hdvd : format.spacing n ∣ n) :
    format.holds n = true ↔ n < 2 ^ format.overflowExponent := by
  have hmod : n % format.spacing n = 0 := Nat.mod_eq_zero_of_dvd hdvd
  rw [holds, hmod, beq_self_eq_true, Bool.and_true, decide_eq_true_eq]
  by_cases hn : n = 0
  · subst hn
    exact iff_of_true (by simpa using hformat) (Nat.two_pow_pos _)
  · exact Nat.log2_lt hn

/-- Numbers of at most 53 binary digits above the exponent have no wider spacing than it
gives. -/
theorem BinaryFormat.spacingExponent_double_le {n e : Nat} (h : n < 2 ^ (e + 53)) :
    double.spacingExponent n ≤ e := by
  have hlog : n.log2 < e + 53 := by
    by_cases hn : n = 0
    · subst hn
      simp
    · exact (Nat.log2_lt hn).mpr h
  simp only [spacingExponent, double]
  omega

theorem BinaryFormat.spacing_double_dvd {k : Nat} (hk : k ≤ 2 ^ 53) (e : Nat) :
    double.spacing (k * 2 ^ e) ∣ k * 2 ^ e := by
  rcases Nat.lt_or_eq_of_le hk with hlt | rfl
  · have hexponent : double.spacingExponent (k * 2 ^ e) ≤ e := by
      apply spacingExponent_double_le
      rw [Nat.pow_add, Nat.mul_comm]
      exact Nat.mul_lt_mul_of_pos_left hlt (Nat.two_pow_pos e)
    exact Nat.dvd_trans (double.spacing_dvd_two_pow hexponent) (Nat.dvd_mul_left _ _)
  · rw [← Nat.pow_add]
    apply double.spacing_dvd_two_pow
    apply spacingExponent_double_le
    exact Nat.pow_lt_pow_right (by decide) (by omega)

/-- One is a power of two units, and far below the magnitudes that are too large. -/
theorem FiniteBinary64.exists_unitsPerOne_eq :
    ∃ e, unitsPerOne = 2 ^ e ∧ 53 + e < BinaryFormat.double.overflowExponent :=
  ⟨1074, Nat.pow_eq, by decide⟩

theorem FiniteBinary64.unitsPerOne_pos : 0 < unitsPerOne := by
  obtain ⟨e, he, -⟩ := exists_unitsPerOne_eq
  rw [he]
  exact Nat.two_pow_pos e

namespace Binary64

open FiniteBinary64

/-- The place in the order of the number nearest to a whole number that is not negative. -/
def nearestUnits (k : Nat) : Nat :=
  min (BinaryFormat.double.round (k * unitsPerOne) 1)
    (2 ^ BinaryFormat.double.overflowExponent)

/-- The place in the order of the number nearest to a whole number. -/
def nearestPlace (n : Int) : Int :=
  if n < 0 then -(nearestUnits n.natAbs : Int) else nearestUnits n.natAbs

theorem unreachedUnits_eq :
    unreachedUnits = ((2 ^ BinaryFormat.double.overflowExponent : Nat) : Int) := by
  rw [unreachedUnits, Nat.pow_eq]

theorem rank?_ofUnits (negative : Bool) {n : Nat}
    (hdvd : BinaryFormat.double.spacing n ∣ n) :
    (ofUnits negative n).rank? =
      some (if negative then
        -((min n (2 ^ BinaryFormat.double.overflowExponent) : Nat) : Int)
      else (min n (2 ^ BinaryFormat.double.overflowExponent) : Nat)) := by
  have hholds := BinaryFormat.double.holds_iff_lt (by decide) hdvd
  unfold ofUnits
  split
  · next h =>
      rw [Nat.min_eq_left (hholds.mp h).le]
      rfl
  · next h =>
      rw [Nat.min_eq_right (Nat.le_of_not_lt (mt hholds.mpr h)), ← unreachedUnits_eq]
      rfl

theorem rank?_ofInt (n : Int) : (ofInt n).rank? = some (nearestPlace n) := by
  rw [ofInt, ofRatio, rank?_ofUnits _ (BinaryFormat.spacing_round_dvd _ _)]
  simp only [decide_eq_true_eq]
  rfl

theorem compare?_ofInt (m n : Int) :
    (ofInt m).compare? (ofInt n) = some (compare (nearestPlace m) (nearestPlace n)) := by
  rw [compare?, rank?_ofInt, rank?_ofInt]

/-! ## Monotonicity -/

theorem nearestUnits_mono {j k : Nat} (h : j ≤ k) : nearestUnits j ≤ nearestUnits k :=
  min_le_min_right _ (BinaryFormat.double.round_mono (Nat.mul_le_mul_right _ h))

/-- Rounding keeps the order of whole numbers. -/
theorem nearestPlace_mono {m n : Int} (h : m ≤ n) : nearestPlace m ≤ nearestPlace n := by
  unfold nearestPlace
  split
  · split
    · have hunits := nearestUnits_mono (show n.natAbs ≤ m.natAbs by omega)
      omega
    · omega
  · split
    · omega
    · have hunits := nearestUnits_mono (show m.natAbs ≤ n.natAbs by omega)
      omega

/-- A lesser whole number that is not rounded to the same place as a greater one is rounded
to a lesser place. -/
theorem lt_iff_nearestPlace_lt {m n : Int} (hne : m < n → nearestPlace m ≠ nearestPlace n) :
    m < n ↔ nearestPlace m < nearestPlace n := by
  constructor
  · intro hlt
    exact lt_of_le_of_ne (nearestPlace_mono hlt.le) (hne hlt)
  · intro hlt
    by_contra hle
    exact absurd (nearestPlace_mono (not_lt.mp hle)) (not_le.mpr hlt)

/-! ## Exactness -/

/-- Whole numbers up to `2 ^ 53` are not too large. -/
theorem mul_unitsPerOne_lt {k : Nat} (hk : k ≤ 2 ^ 53) :
    k * unitsPerOne < 2 ^ BinaryFormat.double.overflowExponent := by
  obtain ⟨e, he, hlarge⟩ := exists_unitsPerOne_eq
  calc
    k * unitsPerOne ≤ 2 ^ 53 * 2 ^ e := he ▸ Nat.mul_le_mul_right _ hk
    _ = 2 ^ (53 + e) := (Nat.pow_add ..).symm
    _ < 2 ^ BinaryFormat.double.overflowExponent := Nat.pow_lt_pow_right (by decide) hlarge

theorem nearestUnits_eq {k : Nat} (hk : k ≤ 2 ^ 53) : nearestUnits k = k * unitsPerOne := by
  have hreached := (mul_unitsPerOne_lt hk).le
  obtain ⟨e, he, -⟩ := exists_unitsPerOne_eq
  have hround := BinaryFormat.double.round_eq_self_of_dvd (BinaryFormat.spacing_double_dvd hk e)
  rw [← he] at hround
  rw [nearestUnits, hround, Nat.min_eq_left hreached]

/-- The units of a whole number, from the units of its magnitude. -/
theorem intCast_mul_unitsPerOne (n : Int) :
    n * unitsPerOne =
      if n < 0 then -((n.natAbs * unitsPerOne : Nat) : Int)
      else ((n.natAbs * unitsPerOne : Nat) : Int) := by
  rw [Int.natCast_mul]
  split
  · next hneg => rw [← Int.neg_mul, Int.ofNat_natAbs_of_nonpos hneg.le, Int.neg_neg]
  · next hpos => rw [Int.natAbs_of_nonneg (Int.not_lt.mp hpos)]

/-- Whole numbers up to `2 ^ 53` are binary numbers. -/
theorem nearestPlace_eq {n : Int} (hn : n.natAbs ≤ 2 ^ 53) :
    nearestPlace n = n * unitsPerOne := by
  rw [nearestPlace, nearestUnits_eq hn, intCast_mul_unitsPerOne]

/-- Of two whole numbers up to `2 ^ 53`, the lesser one is rounded to the lesser number. -/
theorem nearestPlace_lt {m n : Int} (hm : m.natAbs ≤ 2 ^ 53) (hn : n.natAbs ≤ 2 ^ 53)
    (h : m < n) : nearestPlace m < nearestPlace n := by
  rw [nearestPlace_eq hm, nearestPlace_eq hn]
  exact Int.mul_lt_mul_of_pos_right h (Int.natCast_pos.mpr unitsPerOne_pos)

end Binary64

end ParamRules
