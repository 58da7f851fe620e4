import ParamRules.Proofs.Json.Equality
import ParamRules.Proofs.Report.Measurement
import ParamRules.Proofs.Report.Visited

/-!
# Equivalent containers

Two containers are equivalent for a row of rules if the rules see the same in both: the
field of each rule is absent in both or has equivalent values.  Values are equivalent for
a rule if they are equal, if they are objects that are equivalent for the nested rules, or
if they are lists of the same length whose elements are so, pair by pair.

What a group of constraints reports about a field depends on its value only up to this
equivalence.
-/

namespace ParamRules

open Json.Fields

/-- Nothing is held under a key, or `null`, or the empty string. -/
inductive IsAbsent : Option Json → Prop
  | missing : IsAbsent none
  | null : IsAbsent (some .null)
  | empty : IsAbsent (some (.string ""))

mutual

/-- The containers, given by what they hold under each key, are equivalent for the
rules. -/
inductive EquivalentFor :
    List FieldRule → (String → Option Json) → (String → Option Json) → Prop
  | intro {rules : List FieldRule} {a b : String → Option Json}
      (h : ∀ rule ∈ rules, rule.field ≠ "" →
        EquivalentAt rule (a rule.field) (b rule.field)) :
      EquivalentFor rules a b

/-- What two containers hold for the field of a rule is equivalent. -/
inductive EquivalentAt : FieldRule → Option Json → Option Json → Prop
  | absent {rule : FieldRule} {a? b? : Option Json}
      (ha : IsAbsent a?) (hb : IsAbsent b?) : EquivalentAt rule a? b?
  | present {rule : FieldRule} {v w : Json}
      (hv : ¬IsAbsent (some v)) (hw : ¬IsAbsent (some w)) (h : EquivalentValues rule v w) :
      EquivalentAt rule (some v) (some w)

/-- Two values of the field of a rule are equivalent. -/
inductive EquivalentValues : FieldRule → Json → Json → Prop
  | one {rule : FieldRule} {v w : Json} (h : EquivalentParts rule v w) :
      EquivalentValues rule v w
  | list {rule : FieldRule} {xs ys : List Json} (hlength : xs.length = ys.length)
      (h : ∀ (i : Nat) x y, xs[i]? = some x → ys[i]? = some y → EquivalentParts rule x y) :
      EquivalentValues rule (.array xs) (.array ys)

/-- Two values, or two elements of lists, are equal or objects that are equivalent for the
rules nested in a rule. -/
inductive EquivalentParts : FieldRule → Json → Json → Prop
  | equal {rule : FieldRule} {v w : Json} (h : v.Equal w) : EquivalentParts rule v w
  | object {rule : FieldRule} {a b : Json.Fields}
      (h : EquivalentFor rule.nested (get? a) (get? b)) :
      EquivalentParts rule (.object a) (.object b)

end

/-! ## Values that checks do not tell apart -/

/-- Values that no check of a single value tells apart. -/
inductive Json.Alike : Json → Json → Prop
  | null : Alike .null .null
  | bool (b : Bool) : Alike (.bool b) (.bool b)
  | number {m n : JsonNumber} (h : m.Equal n) : Alike (.number m) (.number n)
  | string (s : String) : Alike (.string s) (.string s)
  | array {xs ys : List Json} (hlength : xs.length = ys.length) :
      Alike (.array xs) (.array ys)
  | object (a b : Json.Fields) : Alike (.object a) (.object b)

theorem Json.Equal.alike {v w : Json} (h : v.Equal w) : v.Alike w := by
  cases h with
  | null => exact .null
  | bool b => exact .bool b
  | number h => exact .number h
  | string s => exact .string s
  | array hlength => exact .array hlength
  | object => exact .object _ _

theorem Binary64.compare?_eq_of_rank?_eq
    {a b : Binary64} (h : a.rank? = b.rank?) (c : Binary64) : a.compare? c = b.compare? c := by
  unfold compare?
  rw [h]

theorem JsonNumber.Equal.map_compare?_eq
    {m n : JsonNumber} (h : m.Equal n) (q : Quantity) :
    (Quantity.ofNumber? m).map (·.compare? q) = (Quantity.ofNumber? n).map (·.compare? q) := by
  cases h with
  | whole n => rfl
  | @decimal x y h =>
      have hrank : (Binary64.finite x).rank? = (Binary64.finite y).rank? := by
        rw [Binary64.rank?, Binary64.rank?, h]
      have hcompare := Binary64.compare?_eq_of_rank?_eq hrank q.toBinary64
      rw [Quantity.ofNumber?_decimal, Quantity.ofNumber?_decimal, Option.map_some,
        Option.map_some, Quantity.compare?_fractional, Quantity.compare?_fractional, hcompare]

namespace Json.Alike

variable {v w : Json}

theorem accepts_eq (h : v.Alike w) (type : FieldType) : type.accepts v = type.accepts w := by
  cases h with
  | number h =>
      cases h with
      | whole => rfl
      | decimal => cases type <;> rfl
  | null | bool | string => rfl
  | array | object => cases type <;> rfl

theorem map_compare?_eq (h : v.Alike w) (type : FieldType) (q : Quantity) :
    (type.quantity? v).map (·.compare? q) = (type.quantity? w).map (·.compare? q) := by
  cases h with
  | number h =>
      cases type with
      | wholeNumber | decimal => exact h.map_compare?_eq q
      | _ => rfl
  | array hlength =>
      cases type with
      | list => simp only [FieldType.quantity?, hlength]
      | _ => rfl
  | null | bool | string => rfl
  | object => cases type <;> rfl

end Json.Alike

namespace Constraints

theorem limitViolation?_eq (group : Constraints) (limit : Limit) (type : FieldType) (v : Json) :
    group.limitViolation? limit type v =
      (limit.of group).bind fun bound =>
        if (type.quantity? v).map (·.compare? bound) = some (some limit.refused) then
          some (limit.violation bound)
        else .none := by
  unfold limitViolation?
  cases limit.of group <;> cases type.quantity? v <;> simp [Limit.refuses_iff]

/-- Values that are alike violate the same constraints. -/
theorem violations_eq_of_alike
    {v w : Json} (h : v.Alike w) (group : Constraints) (type : FieldType) :
    group.violations type v = group.violations type w := by
  have hformat : group.formatViolation? v = group.formatViolation? w := by
    unfold formatViolation?
    cases group.format <;> cases h <;> rfl
  have hblank : group.blankViolation? v = group.blankViolation? w := by
    cases h <;> rfl
  simp only [violations, valueViolations, h.accepts_eq, limitViolation?_eq,
    h.map_compare?_eq, hformat, hblank]

end Constraints

/-! ## Equivalent values -/

section Values

variable {rule : FieldRule} {v w : Json}

theorem EquivalentParts.alike (h : EquivalentParts rule v w) : v.Alike w := by
  cases h with
  | equal h => exact h.alike
  | object => exact .object _ _

theorem EquivalentValues.alike (h : EquivalentValues rule v w) : v.Alike w := by
  cases h with
  | one h => exact h.alike
  | list hlength => exact .array hlength

/-- The elements of equivalent lists are equivalent pair by pair. -/
theorem EquivalentValues.parts
    {xs ys : List Json} (h : EquivalentValues rule (.array xs) (.array ys))
    {i : Nat} {x y : Json} (hx : xs[i]? = some x) (hy : ys[i]? = some y) :
    EquivalentParts rule x y := by
  cases h with
  | one h =>
      cases h with
      | equal h =>
          cases h with
          | array _ hequal => exact .equal (hequal i x y hx hy)
  | list _ h => exact h i x y hx hy

theorem isAbsent_some_iff : IsAbsent (some v) ↔ v.countsAsAbsent = true := by
  constructor
  · intro h
    cases h <;> rfl
  · intro h
    cases v with
    | null => exact .null
    | string s =>
        have hs : s = "" := by simpa [Json.countsAsAbsent] using h
        exact hs ▸ .empty
    | bool | number | array | object => cases h

theorem Json.Alike.countsAsAbsent_eq (h : v.Alike w) :
    v.countsAsAbsent = w.countsAsAbsent := by
  cases h <;> rfl

/-- Equal objects are equivalent for any rules. -/
theorem equivalentFor_of_equal
    {a b : Json.Fields} (h : (Json.object a).Equal (.object b)) (rules : List FieldRule) :
    EquivalentFor rules (get? a) (get? b) := by
  cases h with
  | object hkeys h =>
      refine .intro fun rule _ _ => ?_
      have hkey := hkeys rule.field
      cases hx : get? a rule.field with
      | none =>
          have hy : get? b rule.field = none := by simpa [hx] using hkey
          rw [hy]
          exact .absent .missing .missing
      | some x =>
          obtain ⟨y, hy⟩ : ∃ y, get? b rule.field = some y := by
            rw [hx, Option.isSome_some] at hkey
            exact Option.isSome_iff_exists.mp hkey.symm
          have hequal := h rule.field x y hx hy
          have habsent : IsAbsent (some x) ↔ IsAbsent (some y) := by
            rw [isAbsent_some_iff, isAbsent_some_iff, hequal.alike.countsAsAbsent_eq]
          rw [hy]
          by_cases hxabsent : IsAbsent (some x)
          · exact .absent hxabsent (habsent.mp hxabsent)
          · exact .present hxabsent (fun hyabsent => hxabsent (habsent.mpr hyabsent))
              (.one (.equal hequal))

theorem EquivalentParts.fields
    {a b : Json.Fields} (h : EquivalentParts rule (.object a) (.object b)) :
    EquivalentFor rule.nested (get? a) (get? b) := by
  cases h with
  | equal h => exact equivalentFor_of_equal h rule.nested
  | object h => exact h

theorem EquivalentValues.fields
    {a b : Json.Fields} (h : EquivalentValues rule (.object a) (.object b)) :
    EquivalentFor rule.nested (get? a) (get? b) := by
  cases h with
  | one h => exact h.fields

end Values

/-! ## Reports on one field -/

theorem flatMap_zipIdx_congr
    {α β : Type} {xs ys : List α} {f : α × Nat → List β} (hlength : xs.length = ys.length)
    (h : ∀ (i : Nat) x y, xs[i]? = some x → ys[i]? = some y → f (x, i) = f (y, i)) :
    xs.zipIdx.flatMap f = ys.zipIdx.flatMap f := by
  have hmap : xs.zipIdx.map f = ys.zipIdx.map f := by
    apply List.ext_getElem?
    intro i
    rw [List.getElem?_map, List.getElem?_map, List.getElem?_zipIdx, List.getElem?_zipIdx]
    cases hx : xs[i]? with
    | none =>
        have hy : ys[i]? = none := by
          rw [List.getElem?_eq_none_iff, ← hlength]
          exact List.getElem?_eq_none_iff.mp hx
        rw [hy]
    | some x =>
        obtain ⟨hi, -⟩ := List.getElem?_eq_some_iff.mp hx
        have hy : ys[i]? = some ys[i] := List.getElem?_eq_getElem (hlength ▸ hi)
        rw [hy]
        simpa using h i x _ hx hy
  rw [List.flatMap_def, hmap, ← List.flatMap_def]

/-- A group reports the same of equivalent values. -/
theorem EquivalentValues.presentIssues_eq
    {rule : FieldRule} {v w : Json} (h : EquivalentValues rule v w)
    (group : Constraints) (type : FieldType) (location : Location) :
    group.presentIssues type location v = group.presentIssues type location w := by
  have helements : group.elementIssues location v = group.elementIssues location w := by
    unfold Constraints.elementIssues
    cases group.element with
    | none => rfl
    | some element =>
        cases h.alike with
        | array hlength =>
            refine flatMap_zipIdx_congr hlength fun i x y hx hy => ?_
            have hitem := Constraints.violations_eq_of_alike (h.parts hx hy).alike
            simp only [hitem]
        | null | bool | number | string | object => rfl
  rw [Constraints.presentIssues, Constraints.presentIssues,
    Constraints.violations_eq_of_alike h.alike, h.alike.accepts_eq, helements]

end ParamRules
