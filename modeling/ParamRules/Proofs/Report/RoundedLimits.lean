import Mathlib.Order.Compare
import ParamRules.Proofs.Number.WholeNumbers
import ParamRules.Proofs.Report.Equivalence
import ParamRules.Proofs.Report.FailingChecks

/-!
# Limits that are equal as numbers

Two limits of one kind, whole or binary, that are equal as numbers are violated by the same
values.  A whole limit and the binary number nearest to it need not be: the comparison with
the binary one rounds first, and what the whole limit refuses may be rounded to the limit
itself.  A whole limit that this happens to at no value is kept by rounding.  All limits
below a magnitude of `2 ^ 53` are.
-/

namespace ParamRules

namespace Limit

/-- No whole quantity of a value of the type that the limit `n` refuses is rounded to the
same binary number as `n`. -/
def KeepsRounded (limit : Limit) (type : FieldType) (n : Int) : Prop :=
  ∀ v m, type.quantity? v = some (.whole m) → compare m n = limit.refused →
    (Binary64.ofInt m).compare? (Binary64.ofInt n) ≠ some .eq

/-- Rounding keeps the limit if one of the two quantities is whole and the other one is
not. -/
def AgreesOn (limit : Limit) (type : FieldType) : Quantity → Quantity → Prop
  | .whole n, .fractional _ => limit.KeepsRounded type n
  | .fractional _, .whole n => limit.KeepsRounded type n
  | _, _ => True

end Limit

/-! ## Comparison with equal limits -/

theorem Binary64.rank?_eq_of_compare?_eq
    {x y : Binary64} (h : x.compare? y = some .eq) : x.rank? = y.rank? := by
  obtain ⟨i, j, hi, hj, hij⟩ := compare?_eq_some_iff.mp h
  rw [hi, hj, compare_eq_iff_eq.mp hij]

theorem Binary64.compare?_right_eq_of_rank?_eq
    {x y : Binary64} (h : x.rank? = y.rank?) (z : Binary64) : z.compare? x = z.compare? y := by
  unfold compare?
  rw [h]

namespace Limit

/-- Where rounding keeps a limit, a whole quantity is refused by the limit if and only if
it still is after both were rounded. -/
theorem compare_nearestPlace_iff
    {limit : Limit} {type : FieldType} {n : Int} (hkeeps : limit.KeepsRounded type n)
    {v : Json} {m : Int} (hm : type.quantity? v = some (.whole m)) :
    compare m n = limit.refused ↔
      compare (Binary64.nearestPlace m) (Binary64.nearestPlace n) = limit.refused := by
  have hne (hrefused : compare m n = limit.refused) :
      Binary64.nearestPlace m ≠ Binary64.nearestPlace n := by
    have hdiffer := hkeeps v m hm hrefused
    rw [Binary64.compare?_ofInt, ne_eq, Option.some.injEq, compare_eq_iff_eq] at hdiffer
    exact hdiffer
  cases limit with
  | min =>
      simp only [refused, compare_lt_iff_lt] at hne ⊢
      exact Binary64.lt_iff_nearestPlace_lt hne
  | max =>
      simp only [refused, compare_gt_iff_gt] at hne ⊢
      exact Binary64.lt_iff_nearestPlace_lt fun hgt => (hne hgt).symm

theorem compare?_whole_iff
    {limit : Limit} {type : FieldType} {n : Int} {x : Binary64}
    (hkeeps : limit.KeepsRounded type n) (hrank : (Binary64.ofInt n).rank? = x.rank?)
    {v : Json} {actual : Quantity}
    (hactual : type.quantity? v = some actual) :
    actual.compare? (.whole n) = some limit.refused ↔
      actual.compare? (.fractional x) = some limit.refused := by
  have hright (y : Binary64) : y.compare? (Binary64.ofInt n) = y.compare? x :=
    Binary64.compare?_right_eq_of_rank?_eq hrank y
  rw [Quantity.compare?_fractional_right]
  cases actual with
  | whole m =>
      rw [Quantity.compare?, Quantity.toBinary64, ← hright, Binary64.compare?_ofInt,
        Option.some.injEq, Option.some.injEq]
      exact compare_nearestPlace_iff hkeeps hactual
  | fractional y =>
      rw [Quantity.compare?_fractional, Quantity.toBinary64, Quantity.toBinary64, hright]

/-- Limits that are equal as numbers, and that rounding keeps if need be, refuse the same
quantities. -/
theorem compare?_iff_of_beq
    {limit : Limit} {type : FieldType} {p q : Quantity} (hequal : (p == q) = true)
    (hagrees : limit.AgreesOn type p q) {v : Json} {actual : Quantity}
    (hactual : type.quantity? v = some actual) :
    actual.compare? p = some limit.refused ↔ actual.compare? q = some limit.refused := by
  have hcompare : p.compare? q = some .eq := beq_iff_eq.mp hequal
  cases p with
  | whole n =>
      cases q with
      | whole n' =>
          have heq : n = n' := compare_eq_iff_eq.mp (Option.some.inj hcompare)
          rw [heq]
      | fractional x =>
          rw [Quantity.compare?_fractional_right] at hcompare
          have hrank := Binary64.rank?_eq_of_compare?_eq hcompare
          exact compare?_whole_iff hagrees hrank hactual
  | fractional x =>
      rw [Quantity.compare?_fractional] at hcompare
      have hrank := Binary64.rank?_eq_of_compare?_eq hcompare
      cases q with
      | whole n => exact (compare?_whole_iff hagrees hrank.symm hactual).symm
      | fractional y =>
          have hright : actual.toBinary64.compare? x = actual.toBinary64.compare? y :=
            Binary64.compare?_right_eq_of_rank?_eq hrank _
          rw [Quantity.compare?_fractional_right, Quantity.compare?_fractional_right, hright]

/-- Rounding has to keep a limit for the limit and the binary number nearest to it to
refuse the same quantities. -/
theorem keepsRounded_iff {limit : Limit} {type : FieldType} {n : Int} :
    limit.KeepsRounded type n ↔
      ∀ v actual, type.quantity? v = some actual →
        (actual.compare? (.whole n) = some limit.refused ↔
          actual.compare? (.fractional (.ofInt n)) = some limit.refused) := by
  constructor
  · intro hkeeps v actual hactual
    exact compare?_whole_iff hkeeps rfl hactual
  · intro hsame v m hm hrefused hequal
    have hrounded := (hsame v (.whole m) hm).mp (congrArg some hrefused)
    rw [Quantity.compare?_fractional_right, Quantity.toBinary64, hequal] at hrounded
    cases limit <;> cases hrounded

/-- Rounding keeps every limit below a magnitude of `2 ^ 53`. -/
theorem keepsRounded_of_natAbs_lt
    {limit : Limit} {type : FieldType} {n : Int} (hn : n.natAbs < 2 ^ 53) :
    limit.KeepsRounded type n := by
  intro v m _ hrefused hequal
  rw [Binary64.compare?_ofInt, Option.some.injEq, compare_eq_iff_eq] at hequal
  -- the neighbour of `n` on the refused side is a binary number other than `n`
  cases limit with
  | min =>
      have hlt : m < n := compare_lt_iff_lt.mp hrefused
      have hmono := Binary64.nearestPlace_mono (show m ≤ n - 1 by omega)
      have hneighbour : Binary64.nearestPlace (n - 1) < Binary64.nearestPlace n :=
        Binary64.nearestPlace_lt (by omega) (by omega) (by omega)
      omega
  | max =>
      have hgt : n < m := compare_gt_iff_gt.mp hrefused
      have hmono := Binary64.nearestPlace_mono (show n + 1 ≤ m by omega)
      have hneighbour : Binary64.nearestPlace n < Binary64.nearestPlace (n + 1) :=
        Binary64.nearestPlace_lt (by omega) (by omega) (by omega)
      omega

end Limit

end ParamRules
