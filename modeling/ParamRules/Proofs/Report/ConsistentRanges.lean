import ParamRules.Proofs.Report.ExactLimits
import ParamRules.Proofs.Report.LocationText

/-!
# Consistent ranges

Quantities are in a strict order, although some of them are compared exactly and others
after rounding.  The order is lexicographic: the binary numbers nearest to two quantities
decide, and whole numbers that have the same one are in their own order.  Hence no quantity
is below the least and above the greatest one of a range, unless the greatest one is below
the least one; a group reports no value of a field and no element of a list twice as out of
range.
-/

namespace ParamRules

namespace Quantity

/-! ## The order of quantities -/

/-- The place of a quantity among the binary numbers, of a whole one after rounding. -/
def place? (q : Quantity) : Option Int :=
  q.toBinary64.rank?

/-- Both quantities are whole, and the first number is the lesser one. -/
inductive WholeBelow : Quantity → Quantity → Prop
  | of_lt {m n : Int} (h : m < n) : WholeBelow (.whole m) (.whole n)

variable {a b c : Quantity}

theorem not_wholeBelow_self (a : Quantity) : ¬a.WholeBelow a := by
  intro h
  cases h with
  | of_lt h => exact Int.lt_irrefl _ h

theorem WholeBelow.trans (hab : a.WholeBelow b) (hbc : b.WholeBelow c) : a.WholeBelow c := by
  obtain ⟨hmn⟩ := hab
  obtain ⟨hnk⟩ := hbc
  exact .of_lt (hmn.trans hnk)

theorem place?_whole (n : Int) : (whole n).place? = some (Binary64.nearestPlace n) :=
  Binary64.rank?_ofInt n

theorem isBelow_whole_iff {m n : Int} : (whole m).isBelow (.whole n) = true ↔ m < n := by
  rw [isBelow, beq_iff_eq, compare?, Option.some.injEq, compare_lt_iff_lt]

theorem isBelow_iff_of_rounded (h : a.compare? b = a.toBinary64.compare? b.toBinary64) :
    a.isBelow b = true ↔ ∃ i j, a.place? = some i ∧ b.place? = some j ∧ i < j := by
  rw [isBelow, beq_iff_eq, h, Binary64.compare?_eq_some_iff]
  simp only [compare_lt_iff_lt]
  rfl

/-- The order is lexicographic: rounded places come first, and whole numbers that share a
place are compared exactly. -/
theorem isBelow_iff :
    a.isBelow b = true ↔
      ∃ i j, a.place? = some i ∧ b.place? = some j ∧ (i < j ∨ i = j ∧ a.WholeBelow b) := by
  by_cases hwhole : ∃ m n, a = .whole m ∧ b = .whole n
  · obtain ⟨m, n, rfl, rfl⟩ := hwhole
    rw [isBelow_whole_iff]
    constructor
    · intro hlt
      refine ⟨_, _, place?_whole m, place?_whole n, ?_⟩
      -- rounding keeps the order, except that it may make the numbers equal
      rcases (Binary64.nearestPlace_mono hlt.le).lt_or_eq with hplace | hplace
      · exact .inl hplace
      · exact .inr ⟨hplace, .of_lt hlt⟩
    · rintro ⟨i, j, hi, hj, hplaces⟩
      rw [place?_whole, Option.some.injEq] at hi hj
      subst hi hj
      rcases hplaces with hlt | ⟨-, ⟨hlt⟩⟩
      · exact (Binary64.lt_iff_nearestPlace_lt fun _ => hlt.ne).mpr hlt
      · exact hlt
  · have hrounded : a.compare? b = a.toBinary64.compare? b.toBinary64 := by
      cases a with
      | whole m =>
          cases b with
          | whole n => exact absurd ⟨m, n, rfl, rfl⟩ hwhole
          | fractional y => exact compare?_fractional_right _ y
      | fractional x => exact compare?_fractional x b
    have hnot : ¬a.WholeBelow b := by
      rintro ⟨_⟩
      exact hwhole ⟨_, _, rfl, rfl⟩
    rw [isBelow_iff_of_rounded hrounded]
    simp only [hnot, and_false, or_false]

theorem isBelow_self (a : Quantity) : a.isBelow a = false := by
  rw [← Bool.not_eq_true, isBelow_iff]
  rintro ⟨i, j, hi, hj, hplaces⟩
  cases hi.symm.trans hj
  rcases hplaces with hlt | ⟨-, hwhole⟩
  · exact Int.lt_irrefl _ hlt
  · exact not_wholeBelow_self a hwhole

/-- The order is transitive, whichever of the three comparisons round. -/
theorem isBelow_trans (hab : a.isBelow b = true) (hbc : b.isBelow c = true) :
    a.isBelow c = true := by
  obtain ⟨i, j, hi, hj, hij⟩ := isBelow_iff.mp hab
  obtain ⟨j', k, hj', hk, hjk⟩ := isBelow_iff.mp hbc
  cases hj.symm.trans hj'
  refine isBelow_iff.mpr ⟨i, k, hi, hk, ?_⟩
  rcases hij with hij | ⟨rfl, hab⟩
  · rcases hjk with hjk | ⟨rfl, -⟩
    · exact .inl (hij.trans hjk)
    · exact .inl hij
  · rcases hjk with hjk | ⟨rfl, hbc⟩
    · exact .inl hjk
    · exact .inr ⟨rfl, hab.trans hbc⟩

theorem isBelow_iff_isAbove : a.isBelow b = true ↔ b.isAbove a = true := by
  rw [isBelow, isAbove, beq_iff_eq, beq_iff_eq, compare?_eq_gt_iff]

theorem beq_iff_compare? : (a == b) = true ↔ a.compare? b = some .eq := by
  change a.equals b = true ↔ _
  rw [equals, beq_iff_eq]

/-- Equal quantities are in no order. -/
theorem not_isBelow_and_not_isAbove_of_beq (h : (a == b) = true) :
    a.isBelow b = false ∧ a.isAbove b = false := by
  rw [beq_iff_compare?] at h
  rw [isBelow, isAbove, h]
  exact ⟨rfl, rfl⟩

/-- Equality is not transitive, since different whole numbers may be equal to the binary
number that both are rounded to. -/
example :
    (Quantity.whole 9007199254740993 == .fractional (.ofInt 9007199254740992)) = true ∧
      (Quantity.fractional (.ofInt 9007199254740992) == .whole 9007199254740992) = true ∧
      (Quantity.whole 9007199254740993 == .whole 9007199254740992) = false := by
  decide +kernel

end Quantity

namespace Constraints

/-! ## The limits of a group -/

/-- If a group has both limits, then the greatest quantity is not below the least one. -/
def HasConsistentRange (group : Constraints) : Prop :=
  ∀ min max, group.min = some min → group.max = some max → max.isBelow min = false

section Value

variable {group : Constraints} {type : FieldType} {v : Json}

/-- No value is below the least quantity of a consistent range and above the greatest
one. -/
theorem HasConsistentRange.not_both
    (hrange : group.HasConsistentRange) {x y : Violation}
    (hmin : group.limitViolation? .min type v = some x) :
    group.limitViolation? .max type v ≠ some y := by
  intro hmax
  obtain ⟨min, actual, hleast, hactual, hbelow, -⟩ := limitViolation?_eq_some_iff.mp hmin
  obtain ⟨max, actual', hgreatest, hactual', habove, -⟩ := limitViolation?_eq_some_iff.mp hmax
  cases hactual.symm.trans hactual'
  have hcrossed : max.isBelow min = true :=
    Quantity.isBelow_trans (Quantity.isBelow_iff_isAbove.mpr habove) hbelow
  rw [hrange min max hleast hgreatest] at hcrossed
  cases hcrossed

/-- A value is out of a consistent range in one way only. -/
theorem HasConsistentRange.eq_of_mem_valueViolations
    (hrange : group.HasConsistentRange) {x y : Violation}
    (hx : x ∈ group.valueViolations type v) (hy : y ∈ group.valueViolations type v)
    (hxkind : x.kind = .outOfRange) (hykind : y.kind = .outOfRange) : x = y := by
  obtain ⟨limit, hx⟩ := exists_limitViolation?_of_outOfRange hx hxkind
  obtain ⟨limit', hy⟩ := exists_limitViolation?_of_outOfRange hy hykind
  cases limit with
  | min =>
      cases limit' with
      | min => exact Option.some.inj (hx.symm.trans hy)
      | max => exact absurd hy (hrange.not_both hx)
  | max =>
      cases limit' with
      | min => exact absurd hx (hrange.not_both hy)
      | max => exact Option.some.inj (hx.symm.trans hy)

theorem FailsOn.mem_valueViolations
    {violation : Violation} (h : group.FailsOn type v violation)
    (hkind : violation.kind = .outOfRange) : violation ∈ group.valueViolations type v := by
  have hmem := mem_violations_iff.mpr h
  unfold violations at hmem
  split at hmem
  · exact hmem
  · rw [List.mem_singleton] at hmem
    subst hmem
    cases hkind

theorem HasConsistentRange.eq_of_failsOn
    (hrange : group.HasConsistentRange) {x y : Violation} (hx : group.FailsOn type v x)
    (hy : group.FailsOn type v y) (hxkind : x.kind = .outOfRange)
    (hykind : y.kind = .outOfRange) : x = y :=
  hrange.eq_of_mem_valueViolations (hx.mem_valueViolations hxkind)
    (hy.mem_valueViolations hykind) hxkind hykind

end Value

section Report

variable {group : Constraints} {rule : FieldRule} {location : Location}
  {container : Option Json.Fields}

/-- What a group finds out of range is the value of the field, or an element of it. -/
theorem Fails.outOfRange_cases
    {key : Key} {issue : Issue} (h : group.Fails rule location container key issue)
    (hkind : issue.kind = .outOfRange) :
    (∃ v violation, HasValue container rule.field v ∧ group.FailsOn rule.type v violation ∧
      violation.kind = .outOfRange ∧ issue.place = location.text ∧ key = [violation.rank]) ∨
    ∃ items element i item violation, HasValue container rule.field (.array items) ∧
      group.element = some element ∧ items[i]? = some item ∧
      element.constraints.FailsOn element.type item violation ∧
      violation.kind = .outOfRange ∧ issue.place = (location.index i).text ∧
      key = [5, i, violation.rank] := by
  cases h with
  | missing _ _ hissue =>
      rw [hissue.kind_eq] at hkind
      cases hkind
  | value hv hfails hissue =>
      rw [hissue.kind_eq] at hkind
      exact .inl ⟨_, _, hv, hfails, hkind, hissue.place_eq, rfl⟩
  | element hv _ helement hitem hfails hissue =>
      rw [hissue.kind_eq] at hkind
      exact .inr ⟨_, _, _, _, _, hv, helement, hitem, hfails, hkind, hissue.place_eq, rfl⟩

/-- Failing checks of a group that find the value at one place out of range are the same
check. -/
theorem Fails.key_eq_of_outOfRange
    (hrange : group.HasConsistentRange)
    (helements : ∀ element, group.element = some element →
      element.constraints.HasConsistentRange)
    {key key' : Key} {issue issue' : Issue}
    (h : group.Fails rule location container key issue)
    (h' : group.Fails rule location container key' issue')
    (hkind : issue.kind = .outOfRange) (hkind' : issue'.kind = .outOfRange)
    (hplace : issue.place = issue'.place) : key = key' := by
  rcases h.outOfRange_cases hkind with
    ⟨v, x, hv, hfails, hx, hat, rfl⟩ |
      ⟨items, element, i, item, x, hv, helement, hitem, hfails, hx, hat, rfl⟩
  · rcases h'.outOfRange_cases hkind' with
      ⟨v', y, hv', hfails', hy, -, rfl⟩ | ⟨_, _, j, _, _, -, -, -, -, -, hat', rfl⟩
    · obtain rfl := hv.unique hv'
      rw [hrange.eq_of_failsOn hfails hfails' hx hy]
    · rw [hat, hat'] at hplace
      exact absurd hplace.symm (location.text_index_ne _)
  · rcases h'.outOfRange_cases hkind' with
      ⟨_, _, -, -, -, hat', rfl⟩ |
        ⟨items', element', j, item', y, hv', helement', hitem', hfails', hy, hat', rfl⟩
    · rw [hat, hat'] at hplace
      exact absurd hplace (location.text_index_ne _)
    · rw [hat, hat'] at hplace
      obtain rfl := Location.text_index_inj.mp hplace
      cases hv.unique hv'
      cases helement.symm.trans helement'
      cases hitem.symm.trans hitem'
      rw [(helements _ helement).eq_of_failsOn hfails hfails' hx hy]

/-- If the ranges of a group and of what it states for elements are consistent, then the
group reports no place twice as out of range. -/
theorem length_outOfRange_le_one
    (hrange : group.HasConsistentRange)
    (helements : ∀ element, group.element = some element →
      element.constraints.HasConsistentRange) (place : String) :
    ((group.issues rule.type location (presentValue? container rule.field)).filter
      fun issue => issue.place = place ∧ issue.kind = .outOfRange).length ≤ 1 := by
  rw [← map_snd_findings, List.filter_map, List.length_map]
  have hascending : Ascending
      (group.findings rule.type location (presentValue? container rule.field)) :=
    ascending_findings _
  apply Ascending.length_le_one (List.Pairwise.filter _ hascending)
  rintro ⟨key, issue⟩ hmem ⟨key', issue'⟩ hmem'
  rw [List.mem_filter, mem_findings_iff] at hmem hmem'
  obtain ⟨hfails, hfound⟩ := hmem
  obtain ⟨hfails', hfound'⟩ := hmem'
  obtain ⟨hplace, hkind⟩ := of_decide_eq_true hfound
  obtain ⟨hplace', hkind'⟩ := of_decide_eq_true hfound'
  exact hfails.key_eq_of_outOfRange hrange helements hfails' hkind hkind'
    (hplace.trans hplace'.symm)

end Report

/-- Quantities are strictly ordered by both comparisons, and equality excludes either.
Therefore a value that is held against a consistent range is not both below it and above
it, and no place is reported twice as out of range by one group, elements of lists
included. -/
theorem consistent_range_violated_at_most_once :
    (∀ a b c : Quantity,
      a.isBelow a = false ∧
        (a.isBelow b = true ↔ b.isAbove a = true) ∧
        (a.isBelow b = true → b.isBelow c = true → a.isBelow c = true) ∧
        ((a == b) = true ↔ a.compare? b = some .eq) ∧
        ((a == b) = true → a.isBelow b = false ∧ a.isAbove b = false)) ∧
      ∀ group : Constraints, group.HasConsistentRange →
        (∀ type v min max, .belowMin min ∈ group.valueViolations type v →
          .aboveMax max ∉ group.valueViolations type v) ∧
        ((∀ element, group.element = some element →
            element.constraints.HasConsistentRange) →
          ∀ (rule : FieldRule) location container place,
            ((group.issues rule.type location (presentValue? container rule.field)).filter
              fun issue => issue.place = place ∧ issue.kind = .outOfRange).length ≤ 1) := by
  constructor
  · intro a b c
    refine ⟨a.isBelow_self, Quantity.isBelow_iff_isAbove, ?_, Quantity.beq_iff_compare?, ?_⟩
    · intro hab hbc
      exact Quantity.isBelow_trans hab hbc
    · intro hequal
      exact Quantity.not_isBelow_and_not_isAbove_of_beq hequal
  · intro group hrange
    constructor
    · intro type v min max hmin hmax
      cases hrange.eq_of_mem_valueViolations hmin hmax rfl rfl
    · intro helements rule location container place
      exact length_outOfRange_le_one hrange helements place

/-- A range without any number in it, whose least number is rounded to the greatest one. -/
def roundedRange : Constraints where
  min := some (.whole 9007199254740993)
  max := some (.fractional (.ofInt 9007199254740992))

/-- A list of one number of that range. -/
def oneNumber : Constraints where
  min := some (.whole 1)
  max := some (.whole 1)
  element := some ⟨.wholeNumber, roundedRange⟩

theorem hasConsistentRange_roundedRange : roundedRange.HasConsistentRange := by
  intro min max hmin hmax
  cases hmin
  cases hmax
  decide +kernel

theorem hasConsistentRange_oneNumber : oneNumber.HasConsistentRange := by
  intro min max hmin hmax
  cases hmin
  cases hmax
  decide

/-- Two numbers in place of one are a list that is too long, with a number below the range
and one above it, and none of the three is out of range in another way. -/
theorem oneNumber_violated_at_most_once :
    let least : Quantity := .whole 9007199254740993
    let wide : Quantity := .fractional (.ofInt 9007199254740994)
    let numbers : Json :=
      .array [.number (.whole 9007199254740992), .number (.whole 9007199254740994)]
    let container : Option Json.Fields := some [("n", numbers)]
    let report :=
      oneNumber.issues .list (Location.root.key "n") (presentValue? container "n")
    (Quantity.whole 9007199254740992).isBelow least = true ∧ least.isBelow wide = true ∧
      (Quantity.whole 9007199254740992).isBelow wide = true ∧
      (least == .fractional (.ofInt 9007199254740992)) = true ∧
      least.isBelow (.fractional (.ofInt 9007199254740992)) = false ∧
      roundedRange.HasConsistentRange ∧
      .belowMin least ∈
        roundedRange.valueViolations .wholeNumber (.number (.whole 9007199254740992)) ∧
      .aboveMax (.fractional (.ofInt 9007199254740992)) ∉
        roundedRange.valueViolations .wholeNumber (.number (.whole 9007199254740992)) ∧
      report.map (fun issue => (issue.place, issue.kind)) =
        [("n", .outOfRange), ("n[0]", .outOfRange), ("n[1]", .outOfRange)] ∧
      ∀ place, (report.filter
        fun issue => issue.place = place ∧ issue.kind = .outOfRange).length ≤ 1 := by
  intro least wide numbers container report
  obtain ⟨horder, hranges⟩ := consistent_range_violated_at_most_once
  have hnear : (Quantity.whole 9007199254740992).isBelow least = true := by decide
  have hwide : least.isBelow wide = true := by decide +kernel
  have hequal : (least == .fractional (.ofInt 9007199254740992)) = true := by
    decide +kernel
  have hbelow : .belowMin least ∈
      roundedRange.valueViolations .wholeNumber (.number (.whole 9007199254740992)) := by
    decide +kernel
  obtain ⟨-, -, htrans, -, -⟩ := horder (.whole 9007199254740992) least wide
  obtain ⟨-, -, -, -, hexcluded⟩ :=
    horder least (.fractional (.ofInt 9007199254740992)) wide
  obtain ⟨honce, -⟩ := hranges roundedRange hasConsistentRange_roundedRange
  obtain ⟨-, hplaces⟩ := hranges oneNumber hasConsistentRange_oneNumber
  have helements : ∀ element, oneNumber.element = some element →
      element.constraints.HasConsistentRange := by
    intro element helement
    cases helement
    exact hasConsistentRange_roundedRange
  refine ⟨hnear, hwide, htrans hnear hwide, hequal, (hexcluded hequal).1,
    hasConsistentRange_roundedRange, hbelow, honce _ _ _ _ hbelow, by decide +kernel, ?_⟩
  intro place
  exact hplaces helements { field := "n", type := .list } (Location.root.key "n") container
    place

end Constraints

end ParamRules
