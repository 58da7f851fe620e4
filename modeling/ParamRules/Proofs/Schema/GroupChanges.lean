import ParamRules.Proofs.Nesting
import ParamRules.Schema.Basic

/-!
# Changing the groups of a schema

A change of groups is carried out throughout a schema, at every depth of rules.  It leaves
the fields, the types and the order of the rules as they are, and a change that leaves every
group as it is leaves the whole schema so.
-/

namespace ParamRules

theorem map_eq_self_of_mem
    {α : Type} {f : α → α} {xs : List α} (h : ∀ x ∈ xs, f x = x) : xs.map f = xs :=
  (List.map_congr_left h).trans (List.map_id xs)

namespace FieldRule

variable (f : FieldType → Constraints → Constraints)

mutual

/-- Changes the groups of a rule and of the rules nested in it; the change may depend on
the type of the rule. -/
def mapGroups : FieldRule → FieldRule
  | ⟨field, type, groups, nested⟩ => ⟨field, type, groups.map (f type), mapGroupsOfAll nested⟩

/-- Changes the groups of each rule of a row. -/
def mapGroupsOfAll : List FieldRule → List FieldRule
  | [] => []
  | rule :: rest => rule.mapGroups :: mapGroupsOfAll rest

end

theorem mapGroupsOfAll_eq_map (rules : List FieldRule) :
    mapGroupsOfAll f rules = rules.map (mapGroups f) := by
  induction rules with
  | nil => rfl
  | cons rule rest ih => rw [mapGroupsOfAll, ih, List.map_cons]

theorem mapGroups_eq (rule : FieldRule) :
    rule.mapGroups f =
      { field := rule.field, type := rule.type, groups := rule.groups.map (f rule.type)
        nested := rule.nested.map (mapGroups f) } := by
  cases rule
  rw [mapGroups, mapGroupsOfAll_eq_map]

@[simp]
theorem field_mapGroups (rule : FieldRule) : (rule.mapGroups f).field = rule.field := by
  rw [mapGroups_eq]

@[simp]
theorem nested_mapGroups (rule : FieldRule) :
    (rule.mapGroups f).nested = rule.nested.map (mapGroups f) := by
  rw [mapGroups_eq]

theorem fieldsOf_map_mapGroups (rules : List FieldRule) :
    fieldsOf (rules.map (mapGroups f)) = fieldsOf rules := by
  simp [fieldsOf, Function.comp_def]

variable {f}

theorem mapGroups_eq_self
    {rule : FieldRule} (hgroups : ∀ group ∈ rule.groups, f rule.type group = group)
    (hnested : ∀ child ∈ rule.nested, child.mapGroups f = child) :
    rule.mapGroups f = rule := by
  rw [mapGroups_eq, map_eq_self_of_mem hgroups, map_eq_self_of_mem hnested]
  cases rule
  rfl

end FieldRule

/-- Changes the groups of every rule, at every depth. -/
def Schema.mapGroups (f : FieldType → Constraints → Constraints) (schema : Schema) :
    Schema where
  rules := schema.rules.map (FieldRule.mapGroups f)
  nodup_fields := by
    rw [FieldRule.fieldsOf_map_mapGroups]
    exact schema.nodup_fields

end ParamRules
