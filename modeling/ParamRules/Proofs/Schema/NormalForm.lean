import ParamRules.Proofs.Schema.Canonical

/-!
# The normal form of a schema

A description may be spelled in many ways, and much of it may be unreadable.  None of this
is left in the schema that is read from it: every rule names a field, every limit is a
whole number of 64 bits or a finite binary number, every pattern is the one that its text
denotes, and no field has two rules at the top.
A schema of this form is described without loss.  Its description is read as the schema
itself, and reading leaves nothing out.
-/

namespace ParamRules

/-- A rule stands in a row of rules, or is nested in a rule that occurs there. -/
inductive FieldRule.OccursIn (rules : List FieldRule) : FieldRule → Prop
  | top {rule : FieldRule} (hrule : rule ∈ rules) : OccursIn rules rule
  | nested {rule child : FieldRule} (hrule : OccursIn rules rule)
      (hchild : child ∈ rule.nested) : OccursIn rules child

/-- A group has a limit itself, or in what it states for elements, at any depth. -/
inductive Constraints.HasLimit : Constraints → Quantity → Prop
  | min {group : Constraints} {q : Quantity} (hmin : group.min = some q) : HasLimit group q
  | max {group : Constraints} {q : Quantity} (hmax : group.max = some q) : HasLimit group q
  | element {group : Constraints} {element : Typed Constraints} {q : Quantity}
      (helement : group.element = some element) (hlimit : HasLimit element.constraints q) :
      HasLimit group q

/-- Every rule names a field, every limit can be carried by a description, every pattern was
made from its text, and the fields at the top are distinct. -/
structure Schema.IsNormal (schema : Schema) : Prop where
  field_ne : ∀ rule, FieldRule.OccursIn schema.rules rule → rule.field ≠ ""
  limit_eq : ∀ rule, FieldRule.OccursIn schema.rules rule → ∀ group ∈ rule.groups,
    ∀ q, group.HasLimit q →
      (∃ n, q = .whole n ∧ -0x8000000000000000 ≤ n ∧ n ≤ 0xFFFFFFFFFFFFFFFF) ∨
        ∃ x, q = .fractional (.finite x)
  pattern_eq : ∀ rule, FieldRule.OccursIn schema.rules rule → ∀ group ∈ rule.groups,
    ∀ p ∈ group.patterns, p.IsCompiled
  nodup : (schema.rules.map (·.field)).Nodup

/-! ## Limits -/

theorem Quantity.isExpressible_iff (q : Quantity) :
    q.isExpressible = true ↔
      (∃ n, q = .whole n ∧ -0x8000000000000000 ≤ n ∧ n ≤ 0xFFFFFFFFFFFFFFFF) ∨
        ∃ x, q = .fractional (.finite x) := by
  cases q with
  | whole n =>
      simp only [isExpressible, fitsWord, Bool.and_eq_true, decide_eq_true_eq, whole.injEq,
        exists_eq_left', reduceCtorEq, exists_false, or_false]
      omega
  | fractional x => cases x <;> simp [isExpressible]

theorem Constraints.allLimits_iff_hasLimit (p : Quantity → Bool) (group : Constraints) :
    group.allLimits p = true ↔ ∀ q, group.HasLimit q → p q = true := by
  induction group using Constraints.induction with
  | step group ih =>
      rw [allLimits_iff]
      constructor
      · rintro ⟨hmin, hmax, helement⟩ q hlimit
        cases hlimit with
        | min h => exact hmin q h
        | max h => exact hmax q h
        | element h hinner => exact (ih _ h).mp (helement _ h) q hinner
      · intro h
        refine ⟨fun q hq => h q (.min hq), fun q hq => h q (.max hq), ?_⟩
        intro element helement
        exact (ih element helement).mpr fun q hq => h q (.element helement hq)

namespace FieldRule

/-! ## Reading what was described -/

/-- If each rule of a row is read from its description as it stands, so is the row, and no
entry is left out. -/
theorem readEntries_map_toJson_eq
    {rules : List FieldRule} (h : ∀ rule ∈ rules, readEntry rule.toJson = .kept rule [])
    (position : Nat) :
    readEntries position (rules.map toJson) = (rules, []) := by
  induction rules generalizing position with
  | nil => rfl
  | cons rule rest ih =>
      have hrule := h rule List.mem_cons_self
      have hrest := ih (fun other hother => h other (List.mem_cons_of_mem _ hother))
        (position + 1)
      rw [List.map_cons, readEntries, hrule, hrest]
      rfl

theorem readEntry_toJson_of_occursIn
    {schema : Schema} (h : schema.IsNormal) {rule : FieldRule}
    (hrule : OccursIn schema.rules rule) :
    readEntry rule.toJson = .kept rule [] := by
  induction rule using FieldRule.induction with
  | step rule ih =>
      have hfield := h.field_ne rule hrule
      have hcompiled := h.pattern_eq rule hrule
      have hgroups : ∀ group ∈ rule.groups, group.IsReadable := by
        intro group hgroup
        refine ⟨(group.allLimits_iff_hasLimit _).mpr fun q hq => ?_, fun p hp => ?_⟩
        · exact q.isExpressible_iff.mpr (h.limit_eq rule hrule group hgroup q hq)
        · exact (hcompiled group hgroup p hp).isReadable
      have hsame : rule.groups.map Constraints.recompiled = rule.groups :=
        map_eq_self_of_mem fun group hgroup =>
          Constraints.recompiled_eq_self (hcompiled group hgroup)
      have hnested := readEntries_map_toJson_eq
        (fun child hchild => ih child hchild (.nested hrule hchild)) 0
      rw [toJson_eq, readEntry, readItems_toFields, ofFields_toFields hgroups,
        if_neg hfield, hnested, hsame]
      cases rule
      rfl

/-- Every rule that occurs in a schema was read from some entry. -/
theorem exists_readEntry_of_occursIn
    {description : Json} {rule : FieldRule}
    (h : OccursIn (Schema.ofDescription description).rules rule) :
    ∃ entry below, readEntry entry = .kept rule below := by
  induction h with
  | top hrule =>
      obtain ⟨_, -, entry, -, below, hread⟩ := Schema.exists_of_mem_ofDescription hrule
      exact ⟨entry, below, hread⟩
  | nested _ hchild ih =>
      obtain ⟨entry, below, hread⟩ := ih
      obtain ⟨fields, rfl, -⟩ := readEntry_eq_kept hread
      obtain ⟨_, -, inner, -, below, hinner⟩ := exists_of_mem_nested hread hchild
      exact ⟨inner, below, hinner⟩

end FieldRule

namespace Schema

/-- The description of a schema in normal form is read as that schema, without events. -/
theorem IsNormal.readDescription_toJson {schema : Schema} (h : schema.IsNormal) :
    readDescription schema.toJson = (schema, []) := by
  have hentries := FieldRule.readEntries_map_toJson_eq
    (fun rule hrule => FieldRule.readEntry_toJson_of_occursIn h (.top hrule)) 0
  have hrules := ofRules_rules schema
  rw [readDescription, toJson, entries?]
  simp only [hentries, hrules]

/-- Every schema that is read from a description is in normal form. -/
theorem isNormal_ofDescription (description : Json) :
    (ofDescription description).IsNormal where
  field_ne := by
    intro rule hrule
    obtain ⟨_, _, hread⟩ := FieldRule.exists_readEntry_of_occursIn hrule
    exact FieldRule.field_ne_of_readEntry hread
  limit_eq := by
    intro rule hrule group hgroup q hq
    obtain ⟨_, _, hread⟩ := FieldRule.exists_readEntry_of_occursIn hrule
    have hlimits := ((rule.allLimits_iff _).mp (FieldRule.allLimits_of_readEntry hread)).1
    have hgroup := (group.allLimits_iff_hasLimit _).mp (hlimits group hgroup)
    exact q.isExpressible_iff.mp (hgroup q hq)
  pattern_eq := by
    intro rule hrule group hgroup p hp
    obtain ⟨_, _, hread⟩ := FieldRule.exists_readEntry_of_occursIn hrule
    exact FieldRule.isCompiled_of_readEntry hread p
      (FieldRule.mem_patterns_iff.mpr (.inl ⟨group, hgroup, hp⟩))
  nodup := (ofDescription description).nodup_fields

/-- Reading any value at all gives a schema in normal form, which its own description
gives again. -/
theorem reread_ofDescription (description : Json) :
    (ofDescription description).IsNormal ∧
      ofDescription (ofDescription description).toJson = ofDescription description ∧
      (readDescription (ofDescription description).toJson).2 = [] := by
  have hnormal := isNormal_ofDescription description
  have hread := hnormal.readDescription_toJson
  refine ⟨hnormal, ?_, ?_⟩
  · rw [ofDescription, hread]
  · rw [hread]

end Schema

end ParamRules
