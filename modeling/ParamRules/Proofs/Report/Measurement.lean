import ParamRules.Report.FieldReport

/-!
# Types, quantities and limits

Three relations say what it means that a value has a type, that limits are held against a
quantity of a value, and that one quantity is below another one.  The checks decide these
relations, and a limit is violated by the quantities on its refused side.
-/

namespace ParamRules

/-- A value has a type. -/
inductive Json.HasType : Json → FieldType → Prop
  | text (s : String) : HasType (.string s) .text
  | wholeNumber {n : Int} (hleast : -0x8000000000000000 ≤ n)
      (hgreatest : n ≤ 0xFFFFFFFFFFFFFFFF) : HasType (.number (.whole n)) .wholeNumber
  | decimal (n : JsonNumber) : HasType (.number n) .decimal
  | boolean (b : Bool) : HasType (.bool b) .boolean
  | date {s : String} (hdate : Calendar.isDate s = true) : HasType (.string s) .date
  | timestamp {s : String} (htimestamp : Calendar.isTimestamp s = true) :
      HasType (.string s) .timestamp
  | object (fields : Json.Fields) : HasType (.object fields) .object
  | list (items : List Json) : HasType (.array items) .list

/-- The limits of a field of a type are held against this quantity of a value: the number
itself, which is rounded to a binary one if it is whole and beyond 64 bits, or the length of
text in characters or of a list in elements. -/
inductive FieldType.HasQuantity (type : FieldType) : Json → Quantity → Prop
  | whole {n : Int} (htype : type = .wholeNumber ∨ type = .decimal)
      (hleast : -0x8000000000000000 ≤ n) (hgreatest : n ≤ 0xFFFFFFFFFFFFFFFF) :
      HasQuantity type (.number (.whole n)) (.whole n)
  | wide {n : Int} {x : FiniteBinary64} (htype : type = .wholeNumber ∨ type = .decimal)
      (hwide : n < -0x8000000000000000 ∨ 0xFFFFFFFFFFFFFFFF < n)
      (hx : Binary64.ofInt n = .finite x) :
      HasQuantity type (.number (.whole n)) (.fractional (.finite x))
  | decimal {x : FiniteBinary64} (htype : type = .wholeNumber ∨ type = .decimal) :
      HasQuantity type (.number (.decimal x)) (.fractional (.finite x))
  | text {s : String} (htype : type = .text) :
      HasQuantity type (.string s) (.whole s.length)
  | list {items : List Json} (htype : type = .list) :
      HasQuantity type (.array items) (.whole items.length)

/-- A quantity is below another one: both are whole and the numbers are in this order, or
one is binary and the binary numbers nearest to both are. -/
inductive Quantity.Precedes : Quantity → Quantity → Prop
  | whole {m n : Int} (hlt : m < n) : Precedes (.whole m) (.whole n)
  | rounded {a b : Quantity} {i j : Int}
      (hbinary : (∃ x, a = .fractional x) ∨ ∃ y, b = .fractional y)
      (hi : a.toBinary64.rank? = some i) (hj : b.toBinary64.rank? = some j) (hlt : i < j) :
      Precedes a b

/-! ## Types and quantities -/

theorem fitsWord_eq_true_iff {n : Int} :
    fitsWord n = true ↔ -0x8000000000000000 ≤ n ∧ n ≤ 0xFFFFFFFFFFFFFFFF := by
  simp only [fitsWord, Bool.and_eq_true, decide_eq_true_eq]
  omega

theorem Json.hasType_iff {v : Json} {type : FieldType} :
    v.HasType type ↔ type.accepts v = true := by
  constructor
  · intro h
    cases h with
    | wholeNumber hleast hgreatest => exact fitsWord_eq_true_iff.mpr ⟨hleast, hgreatest⟩
    | date hdate => exact hdate
    | timestamp htimestamp => exact htimestamp
    | text | decimal | boolean | object | list => rfl
  · intro h
    unfold FieldType.accepts at h
    split at h
    · exact .text _
    · obtain ⟨hleast, hgreatest⟩ := fitsWord_eq_true_iff.mp h
      exact .wholeNumber hleast hgreatest
    · exact .decimal _
    · exact .boolean _
    · exact .date h
    · exact .timestamp h
    · exact .object _
    · exact .list _
    · cases h

theorem Json.not_hasType_iff {v : Json} {type : FieldType} :
    ¬v.HasType type ↔ type.accepts v = false := by
  rw [hasType_iff, Bool.not_eq_true]

namespace FieldType

variable {type : FieldType} {v : Json} {actual : Quantity}

theorem quantity?_number (htype : type = .wholeNumber ∨ type = .decimal) (n : JsonNumber) :
    type.quantity? (.number n) = Quantity.ofNumber? n := by
  rcases htype with rfl | rfl <;> rfl

theorem hasQuantity_of_ofNumber?
    (htype : type = .wholeNumber ∨ type = .decimal) {n : JsonNumber}
    (h : Quantity.ofNumber? n = some actual) : type.HasQuantity (.number n) actual := by
  unfold Quantity.ofNumber? at h
  split at h
  · next n =>
      split at h
      · next hword =>
          cases h
          obtain ⟨hleast, hgreatest⟩ := fitsWord_eq_true_iff.mp hword
          exact .whole htype hleast hgreatest
      · next hword =>
          rw [fitsWord_eq_true_iff] at hword
          split at h
          · next x hx =>
              cases h
              exact .wide htype (by omega) hx
          · cases h
  · cases h
    exact .decimal htype

/-- The quantity of a value is the one that the value has. -/
theorem hasQuantity_iff : type.HasQuantity v actual ↔ type.quantity? v = some actual := by
  constructor
  · intro h
    cases h with
    | whole htype hleast hgreatest =>
        rw [quantity?_number htype]
        exact Quantity.ofNumber?_whole (fitsWord_eq_true_iff.mpr ⟨hleast, hgreatest⟩)
    | @wide n x htype hwide hx =>
        have hword : ¬fitsWord n = true := by
          rw [fitsWord_eq_true_iff]
          omega
        rw [quantity?_number htype, Quantity.ofNumber?, if_neg hword, hx]
    | decimal htype => rw [quantity?_number htype, Quantity.ofNumber?_decimal]
    | text htype =>
        subst htype
        rfl
    | list htype =>
        subst htype
        rfl
  · intro h
    unfold quantity? at h
    split at h
    · exact hasQuantity_of_ofNumber? (.inl rfl) h
    · exact hasQuantity_of_ofNumber? (.inr rfl) h
    · cases h
      exact .text rfl
    · cases h
      exact .list rfl
    · cases h

end FieldType

/-! ## The order of quantities -/

namespace Quantity

variable {a b : Quantity}

theorem compare?_eq_of_binary (h : (∃ x, a = .fractional x) ∨ ∃ y, b = .fractional y) :
    a.compare? b = a.toBinary64.compare? b.toBinary64 := by
  rcases h with ⟨x, rfl⟩ | ⟨y, rfl⟩
  · exact compare?_fractional x b
  · exact compare?_fractional_right a y

theorem precedes_iff_compare? : a.Precedes b ↔ a.compare? b = some .lt := by
  constructor
  · intro h
    cases h with
    | whole hlt => exact congrArg some (Int.compare_eq_lt.mpr hlt)
    | rounded hbinary hi hj hlt =>
        rw [compare?_eq_of_binary hbinary]
        exact Binary64.compare?_eq_some_iff.mpr ⟨_, _, hi, hj, Int.compare_eq_lt.mpr hlt⟩
  · intro h
    by_cases hbinary : (∃ x, a = .fractional x) ∨ ∃ y, b = .fractional y
    · rw [compare?_eq_of_binary hbinary] at h
      obtain ⟨i, j, hi, hj, hlt⟩ := Binary64.compare?_eq_some_iff.mp h
      exact .rounded hbinary hi hj (Int.compare_eq_lt.mp hlt)
    · cases a with
      | fractional x => exact absurd (.inl ⟨x, rfl⟩) hbinary
      | whole m =>
          cases b with
          | fractional y => exact absurd (.inr ⟨y, rfl⟩) hbinary
          | whole n =>
              rw [compare?, Option.some.injEq] at h
              exact .whole (Int.compare_eq_lt.mp h)

theorem precedes_iff_isBelow : a.Precedes b ↔ a.isBelow b = true := by
  rw [precedes_iff_compare?, isBelow, beq_iff_eq]

theorem precedes_iff_isAbove : a.Precedes b ↔ b.isAbove a = true := by
  rw [precedes_iff_compare?, isAbove, beq_iff_eq, compare?_eq_gt_iff]

end Quantity

/-! ## Limits -/

namespace Limit

/-- How the quantities that violate the limit compare with it. -/
def refused : Limit → Ordering
  | .min => .lt
  | .max => .gt

theorem refuses_iff {limit : Limit} {bound actual : Quantity} :
    limit.refuses bound actual = true ↔ actual.compare? bound = some limit.refused := by
  cases limit <;> exact beq_iff_eq

end Limit

theorem Constraints.limitViolation?_eq_some_iff
    {group : Constraints} {limit : Limit} {type : FieldType} {v : Json}
    {violation : Violation} :
    group.limitViolation? limit type v = some violation ↔
      ∃ bound actual, limit.of group = some bound ∧ type.quantity? v = some actual ∧
        limit.refuses bound actual = true ∧ limit.violation bound = violation := by
  unfold limitViolation?
  split
  · next bound actual hbound hactual =>
      simp [hbound, hactual]
  · next hnone =>
      constructor
      · intro h
        cases h
      · rintro ⟨bound, actual, hbound, hactual, -⟩
        exact (hnone bound actual hbound hactual).elim

end ParamRules
