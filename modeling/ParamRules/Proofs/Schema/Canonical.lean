import ParamRules.Proofs.Schema.PrintedForm
import ParamRules.Proofs.Schema.ReadRules

/-!
# Canonical schemas

A schema that was read from a description is the same after printing and reading it once
more.  Its description may nest one level deeper than the one it was read from: a group
that stood alone is printed inside a list.  It never nests two levels deeper, whatever the
rules are nested in, since only the innermost groups can do so.
-/

namespace ParamRules

namespace Constraints

theorem depth_toJson_le_of_ofDescription
    {fields : Json.Fields} {group : Constraints}
    (h : ofDescription (.object fields) = .ok group) :
    group.toJson.depth ≤ Json.fieldsDepth fields + 1 := by
  induction group using Constraints.induction generalizing fields with
  | step group ih =>
      obtain ⟨-, -, -, helement⟩ := ofDescription_object_eq_ok h
      refine depth_toJson_le_iff.mpr fun element hstated => ?_
      obtain ⟨inner, hget, hinner⟩ := helement element hstated
      calc
        element.constraints.toJson.depth ≤ Json.fieldsDepth inner + 1 :=
          ih element hstated hinner
        _ = (Json.object inner).depth := (Json.depth_object inner).symm
        _ ≤ Json.fieldsDepth fields :=
          Json.fieldsDepth_le_iff.mp le_rfl _ (Json.Fields.mem_of_get? hget)

end Constraints

namespace FieldRule

open Json.Fields

section ReadEntry

variable {fields : Json.Fields} {entry : Json} {rule : FieldRule} {below : List Event}

theorem exists_of_mem_nested
    (h : readEntry (.object fields) = .kept rule below) {child : FieldRule}
    (hchild : child ∈ rule.nested) :
    ∃ items, get? fields "items" = some (.array items) ∧
      ∃ inner ∈ items, ∃ below, readEntry inner = .kept child below := by
  obtain ⟨_, heq, -, -, hnested⟩ := readEntry_eq_kept h
  cases heq
  rw [hnested] at hchild
  exact exists_of_mem_readItems hchild

theorem field_ne_of_readEntry (h : readEntry entry = .kept rule below) :
    rule.field ≠ "" := by
  obtain ⟨_, -, hfield, -, -⟩ := readEntry_eq_kept h
  exact hfield

theorem dropInert_eq_self
    {rules : List FieldRule}
    (h : ∀ rule ∈ rules, rule.field ≠ "" ∧ rule.withoutInert = rule) :
    dropInert rules = rules := by
  induction rules with
  | nil => rfl
  | cons rule rest ih =>
      obtain ⟨hfield, hrule⟩ := h rule List.mem_cons_self
      have hrest := ih fun other hother => h other (List.mem_cons_of_mem _ hother)
      rw [dropInert, if_neg hfield, hrule, hrest]

theorem withoutInert_of_readEntry (h : readEntry entry = .kept rule below) :
    rule.withoutInert = rule := by
  induction rule using FieldRule.induction generalizing entry below with
  | step rule ih =>
      obtain ⟨fields, rfl, -, -, -⟩ := readEntry_eq_kept h
      have hnested : dropInert rule.nested = rule.nested := by
        refine dropInert_eq_self fun child hchild => ?_
        obtain ⟨_, -, inner, -, _, hinner⟩ := exists_of_mem_nested h hchild
        exact ⟨field_ne_of_readEntry hinner, ih child hchild hinner⟩
      cases rule
      rw [withoutInert]
      exact congrArg _ hnested

theorem allLimits_of_readEntry (h : readEntry entry = .kept rule below) :
    rule.allLimits Quantity.isExpressible = true := by
  induction rule using FieldRule.induction generalizing entry below with
  | step rule ih =>
      obtain ⟨fields, rfl, -, hgroups, -⟩ := readEntry_eq_kept h
      refine (rule.allLimits_iff _).mpr ⟨fun group hgroup => ?_, fun child hchild => ?_⟩
      · obtain ⟨_, inner, -, hread, -⟩ := Constraints.exists_of_mem_readGroups hgroups hgroup
        exact Constraints.allLimits_of_ofDescription hread
      · obtain ⟨_, -, inner, -, _, hinner⟩ := exists_of_mem_nested h hchild
        exact ih child hchild hinner

theorem isCompiled_of_readEntry (h : readEntry entry = .kept rule below) :
    ∀ p ∈ rule.patterns, p.IsCompiled := by
  induction rule using FieldRule.induction generalizing entry below with
  | step rule ih =>
      obtain ⟨fields, rfl, -, hgroups, -⟩ := readEntry_eq_kept h
      intro p hp
      rcases mem_patterns_iff.mp hp with ⟨group, hgroup, hp⟩ | ⟨child, hchild, hp⟩
      · obtain ⟨_, inner, -, hread, -⟩ := Constraints.exists_of_mem_readGroups hgroups hgroup
        exact Constraints.isCompiled_of_ofDescription hread p hp
      · obtain ⟨_, -, inner, -, _, hinner⟩ := exists_of_mem_nested h hchild
        exact ih child hchild hinner p hp

theorem depth_group_le_of_readEntry
    (h : readEntry (.object fields) = .kept rule below) {group : Constraints}
    (hgroup : group ∈ rule.groups) :
    group.toJson.depth ≤ Json.fieldsDepth fields := by
  obtain ⟨_, heq, -, hgroups, -⟩ := readEntry_eq_kept h
  cases heq
  obtain ⟨opts, inner, hopts, hread, hplace⟩ :=
    Constraints.exists_of_mem_readGroups hgroups hgroup
  have hdepth := Constraints.depth_toJson_le_of_ofDescription hread
  have hinside : opts.depth ≤ Json.fieldsDepth fields :=
    Json.fieldsDepth_le_iff.mp le_rfl _ (mem_of_get? hopts)
  rcases hplace with rfl | ⟨items, rfl, hmem⟩
  · rw [Json.depth_object] at hinside
    omega
  · have hitem := Json.itemsDepth_le_iff.mp le_rfl _ hmem
    rw [Json.depth_array] at hinside
    rw [Json.depth_object] at hitem
    omega

/-- The description of a rule that is read nests at most one level deeper than the entry
for it. -/
theorem depth_toJson_le_of_readEntry (h : readEntry entry = .kept rule below) :
    rule.toJson.depth ≤ entry.depth + 1 := by
  induction rule using FieldRule.induction generalizing entry below with
  | step rule ih =>
      obtain ⟨fields, rfl, -, -, -⟩ := readEntry_eq_kept h
      rw [Json.depth_object]
      refine depth_toJson_le_iff.mpr ⟨fun group hgroup => ?_, fun child hchild => ?_⟩
      · exact depth_group_le_of_readEntry h hgroup
      · -- the list and the entry in it make up for the level that the child may add
        obtain ⟨items, hitems, inner, hmem, _, hinner⟩ := exists_of_mem_nested h hchild
        have hchildDepth := ih child hchild hinner
        have hitem := Json.itemsDepth_le_iff.mp le_rfl _ hmem
        have hinside : (Json.array items).depth ≤ Json.fieldsDepth fields :=
          Json.fieldsDepth_le_iff.mp le_rfl _ (mem_of_get? hitems)
        rw [Json.depth_array] at hinside
        omega

end ReadEntry

theorem mem_of_mem_insertInto
    {rule other : FieldRule} {rules : List FieldRule}
    (h : other ∈ rule.insertInto rules) : other = rule ∨ other ∈ rules := by
  induction rules with
  | nil => exact .inl (List.mem_singleton.mp h)
  | cons first rest ih =>
      rw [insertInto] at h
      split at h
      · rcases List.mem_cons.mp h with heq | h
        · exact .inl heq
        · exact .inr (List.mem_cons_of_mem _ h)
      · rcases List.mem_cons.mp h with rfl | h
        · exact .inr List.mem_cons_self
        · exact (ih h).imp_right (List.mem_cons_of_mem _)

end FieldRule

namespace Schema

theorem mem_rules_foldl_insert
    {rules : List FieldRule} {schema : Schema} {rule : FieldRule}
    (h : rule ∈ (rules.foldl insert schema).rules) :
    rule ∈ schema.rules ∨ rule ∈ rules := by
  induction rules generalizing schema with
  | nil => exact .inl h
  | cons first rest ih =>
      rw [List.foldl_cons] at h
      rcases ih h with h | h
      · rcases FieldRule.mem_of_mem_insertInto h with rfl | h
        · exact .inr List.mem_cons_self
        · exact .inl h
      · exact .inr (List.mem_cons_of_mem _ h)

/-- Every rule of a schema was read from an entry of its description. -/
theorem exists_of_mem_ofDescription
    {description : Json} {rule : FieldRule}
    (h : rule ∈ (ofDescription description).rules) :
    ∃ entries, entries? description = some entries ∧
      ∃ entry ∈ entries, ∃ below, FieldRule.readEntry entry = .kept rule below := by
  rw [ofDescription, readDescription] at h
  cases hentries : entries? description with
  | none =>
      rw [hentries] at h
      cases h
  | some entries =>
      rw [hentries] at h
      rcases mem_rules_foldl_insert h with h | h
      · cases h
      · exact ⟨entries, rfl, FieldRule.exists_of_mem_readEntries h⟩

theorem withoutInert_ofDescription (description : Json) :
    (ofDescription description).withoutInert = ofDescription description := by
  refine ext_rules (FieldRule.dropInert_eq_self fun rule hrule => ?_)
  obtain ⟨_, -, entry, -, _, hread⟩ := exists_of_mem_ofDescription hrule
  exact ⟨FieldRule.field_ne_of_readEntry hread, FieldRule.withoutInert_of_readEntry hread⟩

theorem allLimits_ofDescription (description : Json) :
    (ofDescription description).allLimits Quantity.isExpressible = true := by
  refine (FieldRule.allLimitsOfRow_iff _ _).mpr fun rule hrule => ?_
  obtain ⟨_, -, entry, -, _, hread⟩ := exists_of_mem_ofDescription hrule
  exact FieldRule.allLimits_of_readEntry hread

theorem isCompiled_ofDescription (description : Json) :
    ∀ p ∈ (ofDescription description).patterns, p.IsCompiled := by
  intro p hp
  obtain ⟨rule, hrule, hp⟩ := FieldRule.mem_patternsOfRow_iff.mp hp
  obtain ⟨_, -, entry, -, _, hread⟩ := exists_of_mem_ofDescription hrule
  exact FieldRule.isCompiled_of_readEntry hread p hp

theorem depth_lt_of_entries?
    {description entry : Json} {entries : List Json}
    (h : entries? description = some entries) (hentry : entry ∈ entries) :
    entry.depth + 1 ≤ description.depth := by
  cases description with
  | array items =>
      cases h
      rw [Json.depth_array, Nat.add_le_add_iff_right]
      exact Json.itemsDepth_le_iff.mp le_rfl _ hentry
  | object fields =>
      cases h
      obtain ⟨field, hfield, rfl⟩ := List.mem_map.mp hentry
      rw [Json.depth_object, Nat.add_le_add_iff_right]
      exact Json.fieldsDepth_le_iff.mp le_rfl _ hfield
  | null | bool | number | string => cases h

/-- The description of a schema that was read nests at most one level deeper than what it
was read from. -/
theorem depth_toJson_ofDescription_le (description : Json) :
    (ofDescription description).toJson.depth ≤ description.depth + 1 := by
  refine depth_toJson_le_iff.mpr fun rule hrule => ?_
  obtain ⟨entries, hentries, entry, hentry, _, hread⟩ := exists_of_mem_ofDescription hrule
  have hrule := FieldRule.depth_toJson_le_of_readEntry hread
  have hdescription := depth_lt_of_entries? hentries hentry
  omega

/-- Reading the description of a schema that was read gives the schema back. -/
theorem ofDescription_toJson_ofDescription (description : Json) :
    ofDescription (ofDescription description).toJson = ofDescription description := by
  rw [ofDescription_toJson_of_isCompiled (allLimits_ofDescription description)
    (isCompiled_ofDescription description), withoutInert_ofDescription]

end Schema

end ParamRules
