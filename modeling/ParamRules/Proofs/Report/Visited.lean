import ParamRules.Proofs.Nesting
import ParamRules.Report.Verdict

/-!
# Which rules are visited

A rule is visited wherever the nesting of rules and the payload meet.  The relation
`Visited` says so step by step from the top, without mention of the traversal; the
traversal visits exactly these rules.
-/

namespace ParamRules

/-! ## Values that are present -/

/-- The container has the field, and its value is neither `null` nor the empty
string. -/
def HasValue (container : Option Json.Fields) (field : String) (v : Json) : Prop :=
  ∃ fields, container = some fields ∧ Json.Fields.get? fields field = some v ∧
    v ≠ .null ∧ v ≠ .string ""

theorem Json.countsAsAbsent_eq_false_iff (v : Json) :
    v.countsAsAbsent = false ↔ v ≠ .null ∧ v ≠ .string "" := by
  cases v <;> simp [countsAsAbsent]

theorem presentValue?_eq_some_iff
    {container : Option Json.Fields} {field : String} {v : Json} :
    presentValue? container field = some v ↔ HasValue container field v := by
  rw [presentValue?, Option.filter_eq_some_iff, Option.bind_eq_some_iff,
    Bool.not_eq_true', Json.countsAsAbsent_eq_false_iff]
  constructor
  · rintro ⟨⟨fields, hcontainer, hget⟩, hv⟩
    exact ⟨fields, hcontainer, hget, hv⟩
  · rintro ⟨fields, hcontainer, hget, hv⟩
    exact ⟨⟨fields, hcontainer, hget⟩, hv⟩

theorem presentValue?_eq_none_iff
    {container : Option Json.Fields} {field : String} :
    presentValue? container field = none ↔ ∀ v, ¬HasValue container field v := by
  rw [Option.eq_none_iff_forall_ne_some]
  exact forall_congr' fun v => not_congr presentValue?_eq_some_iff

theorem HasValue.unique
    {container : Option Json.Fields} {field : String} {v w : Json}
    (hv : HasValue container field v) (hw : HasValue container field w) : v = w := by
  rw [← presentValue?_eq_some_iff] at hv hw
  exact Option.some.inj (hv.symm.trans hw)

/-! ## Objects below a value -/

/-- The value at a location is an object, or a list with an object in it; the object
has these fields and its own location. -/
inductive HoldsObject (location : Location) : Json → Location → Json.Fields → Prop
  | object (fields : Json.Fields) :
      HoldsObject location (.object fields) location fields
  | item {items : List Json} {i : Nat} {fields : Json.Fields}
      (hitem : items[i]? = some (.object fields)) :
      HoldsObject location (.array items) (location.index i) fields

theorem Json.fields?_eq_some_iff {v : Json} {fields : Json.Fields} :
    v.fields? = some fields ↔ v = .object fields := by
  cases v <;> simp [fields?]

theorem FieldRule.mem_nestedObjects_iff
    {location inner : Location} {v? : Option Json} {fields : Json.Fields} :
    (inner, fields) ∈ nestedObjects location v? ↔
      ∃ v, v? = some v ∧ HoldsObject location v inner fields := by
  constructor
  · intro hmem
    unfold nestedObjects at hmem
    split at hmem
    · rw [List.mem_singleton, Prod.mk.injEq] at hmem
      obtain ⟨rfl, rfl⟩ := hmem
      exact ⟨_, rfl, .object _⟩
    · simp only [List.mem_filterMap, Option.map_eq_some_iff, Prod.exists,
        List.mem_zipIdx_iff_getElem?, Prod.mk.injEq, Json.fields?_eq_some_iff] at hmem
      obtain ⟨_, i, hitem, _, rfl, rfl, rfl⟩ := hmem
      exact ⟨_, rfl, .item hitem⟩
    · cases hmem
  · rintro ⟨v, rfl, hholds⟩
    cases hholds with
    | object => exact List.mem_singleton_self _
    | @item items i _ hitem =>
        rw [nestedObjects, List.mem_filterMap]
        exact ⟨(.object fields, i), List.mem_zipIdx_iff_getElem?.mpr hitem, rfl⟩

/-! ## Visited rules -/

/-- A rule with a field name is visited at a location, where its field is looked up in
a container: at the top in the payload, below a visited rule in each object that the
value of its field holds. -/
inductive Visited (rules : List FieldRule) (payload : Option Json.Fields) :
    FieldRule → Location → Option Json.Fields → Prop
  | top {rule : FieldRule} (hrule : rule ∈ rules) (hfield : rule.field ≠ "") :
      Visited rules payload rule (Location.root.key rule.field) payload
  | nested {rule child : FieldRule} {location inner : Location}
      {container : Option Json.Fields} {v : Json} {fields : Json.Fields}
      (hvisited : Visited rules payload rule location container)
      (hv : HasValue container rule.field v)
      (hholds : HoldsObject location v inner fields)
      (hchild : child ∈ rule.nested) (hfield : child.field ≠ "") :
      Visited rules payload child (inner.key child.field) (some fields)

namespace FieldRule

theorem visits_eq (rule : FieldRule) (base : Location)
    (container : Option Json.Fields) :
    rule.visits base container =
      ⟨rule, base, container⟩ ::
        if rule.field = "" then []
        else
          (nestedObjects (base.key rule.field)
              (presentValue? container rule.field)).flatMap
            fun (inner, fields) => visitsOfAll inner (some fields) rule.nested := by
  cases rule
  rfl

theorem mem_visitsOfAll_iff
    {base : Location} {container : Option Json.Fields}
    {rules : List FieldRule} {visit : Visit} :
    visit ∈ visitsOfAll base container rules ↔
      ∃ rule ∈ rules, visit ∈ rule.visits base container := by
  rw [visitsOfAll_eq_flatMap, List.mem_flatMap]

/-- The visits of nested rules are those of each of them in each object that the value
holds. -/
theorem mem_nestedVisits_iff
    {location : Location} {v? : Option Json} {nested : List FieldRule} {visit : Visit} :
    (visit ∈ (nestedObjects location v?).flatMap
        fun (inner, fields) => visitsOfAll inner (some fields) nested) ↔
      ∃ v inner fields, v? = some v ∧ HoldsObject location v inner fields ∧
        ∃ child ∈ nested, visit ∈ child.visits inner (some fields) := by
  simp only [List.mem_flatMap, Prod.exists, mem_nestedObjects_iff, mem_visitsOfAll_iff]
  constructor
  · rintro ⟨inner, fields, ⟨v, hv, hholds⟩, hchild⟩
    exact ⟨v, inner, fields, hv, hholds, hchild⟩
  · rintro ⟨v, inner, fields, hv, hholds, hchild⟩
    exact ⟨inner, fields, ⟨v, hv, hholds⟩, hchild⟩

/-- The visits of a rule are its own and those of the rules nested in it, in each object
that the value of its field holds. -/
theorem mem_visits_iff
    {rule : FieldRule} {base : Location}
    {container : Option Json.Fields} {visit : Visit} :
    visit ∈ rule.visits base container ↔
      visit = ⟨rule, base, container⟩ ∨
        rule.field ≠ "" ∧
          ∃ v inner fields, HasValue container rule.field v ∧
            HoldsObject (base.key rule.field) v inner fields ∧
            ∃ child ∈ rule.nested, visit ∈ child.visits inner (some fields) := by
  rw [visits_eq, List.mem_cons]
  by_cases hfield : rule.field = ""
  · simp [hfield]
  · rw [if_neg hfield, mem_nestedVisits_iff]
    simp only [presentValue?_eq_some_iff, hfield, ne_eq, not_false_eq_true, true_and]

end FieldRule

section Traversal

variable {rules : List FieldRule} {payload : Option Json.Fields}

theorem visited_of_mem_visits
    {rule : FieldRule} {base : Location} {container : Option Json.Fields}
    (hrule : rule.field ≠ "" → Visited rules payload rule (base.key rule.field) container)
    {visit : Visit} (hvisit : visit ∈ rule.visits base container)
    (hfield : visit.rule.field ≠ "") :
    Visited rules payload visit.rule visit.location visit.container := by
  induction rule using FieldRule.induction generalizing base container with
  | step rule ih =>
      rcases FieldRule.mem_visits_iff.mp hvisit with rfl | hbelow
      · exact hrule hfield
      · obtain ⟨hown, v, inner, fields, hv, hholds, child, hchild, hmem⟩ := hbelow
        exact ih child hchild (.nested (hrule hown) hv hholds hchild) hmem

/-- The visits of a visited rule, those below it included, are visits of the
traversal. -/
theorem Visited.visits_subset
    {rule : FieldRule} {location : Location} {container : Option Json.Fields}
    (hvisited : Visited rules payload rule location container) :
    rule.field ≠ "" ∧ ∃ base, location = base.key rule.field ∧
      rule.visits base container ⊆ FieldRule.visitsOfAll .root payload rules := by
  induction hvisited with
  | top hrule hfield =>
      exact ⟨hfield, .root, rfl, fun visit hvisit =>
        FieldRule.mem_visitsOfAll_iff.mpr ⟨_, hrule, hvisit⟩⟩
  | nested _ hv hholds hchild hfield ih =>
      obtain ⟨hparent, base, rfl, hsubset⟩ := ih
      refine ⟨hfield, _, rfl, fun visit hvisit => hsubset ?_⟩
      exact FieldRule.mem_visits_iff.mpr
        (.inr ⟨hparent, _, _, _, hv, hholds, _, hchild, hvisit⟩)

/-- The traversal visits exactly the visited rules, inert rules aside. -/
theorem visited_iff_mem_visitsOfAll
    {rule : FieldRule} {location : Location} {container : Option Json.Fields} :
    Visited rules payload rule location container ↔
      rule.field ≠ "" ∧ ∃ base, location = base.key rule.field ∧
        ⟨rule, base, container⟩ ∈ FieldRule.visitsOfAll .root payload rules := by
  constructor
  · intro hvisited
    obtain ⟨hfield, base, hlocation, hsubset⟩ := hvisited.visits_subset
    exact ⟨hfield, base, hlocation,
      hsubset (FieldRule.mem_visits_iff.mpr (.inl rfl))⟩
  · rintro ⟨hfield, base, rfl, hmem⟩
    obtain ⟨top, htop, hvisit⟩ := FieldRule.mem_visitsOfAll_iff.mp hmem
    exact visited_of_mem_visits (fun hname => .top htop hname) hvisit hfield

end Traversal

end ParamRules
