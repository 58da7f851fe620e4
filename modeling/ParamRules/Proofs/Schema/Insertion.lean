import Mathlib.Data.List.Induction
import Mathlib.Data.List.Nodup
import ParamRules.Proofs.Schema.Reload

/-!
# Schemas as runs of insertions

A schema that is made from a row of rules has their fields in the order of their first
mention, and for each field the last rule of the row.  These two facts determine it: a
schema is known as soon as its fields in order and the rule for each of them are.
-/

namespace ParamRules

namespace FieldRule

theorem fieldsOf_concat (rules : List FieldRule) (rule : FieldRule) :
    fieldsOf (rules ++ [rule]) = fieldsOf rules ++ [rule.field] := by
  simp [fieldsOf]

/-- Of rules for distinct fields, each is the one that is found for its field. -/
theorem find?_field_of_mem
    {rules : List FieldRule} {rule : FieldRule}
    (hnodup : (fieldsOf rules).Nodup) (hmem : rule ∈ rules) :
    find? rules rule.field = some rule := by
  cases hfound : find? rules rule.field with
  | none =>
      have hnone := List.find?_eq_none.mp hfound rule hmem
      exact absurd (beq_self_eq_true rule.field) hnone
  | some other =>
      have hother : other ∈ rules := List.mem_of_find?_eq_some hfound
      have hfield := List.find?_some hfound
      rw [List.inj_on_of_nodup_map hnodup hother hmem (beq_iff_eq.mp hfield)]

end FieldRule

namespace Schema

theorem ofRules_concat (rules : List FieldRule) (rule : FieldRule) :
    ofRules (rules ++ [rule]) = (ofRules rules).insert rule :=
  List.foldl_concat insert empty rule rules

/-- The fields of a row of rules are listed in the order of their first mention. -/
theorem fields_ofRules (rules : List FieldRule) :
    (ofRules rules).fields = (FieldRule.fieldsOf rules).eraseDups := by
  induction rules using List.reverseRecOn with
  | nil => rfl
  | append_singleton rules rule ih =>
      rw [ofRules_concat, fields_insert, ih, FieldRule.fieldsOf_concat, List.eraseDups_append]
      by_cases hmem : rule.field ∈ FieldRule.fieldsOf rules
      · simp [List.removeAll, hmem]
      · simp [List.removeAll, hmem, List.eraseDups_cons]

/-- Of all rules for a field, the last one counts. -/
theorem get?_ofRules (rules : List FieldRule) (field : String) :
    (ofRules rules).get? field = FieldRule.find? rules.reverse field := by
  induction rules using List.reverseRecOn with
  | nil => rfl
  | append_singleton rules rule ih =>
      rw [ofRules_concat, get?_insert, ih, List.reverse_concat, FieldRule.find?_cons]

theorem filterMap_find?_fieldsOf
    {rules : List FieldRule} (h : (FieldRule.fieldsOf rules).Nodup) :
    (FieldRule.fieldsOf rules).filterMap (FieldRule.find? rules) = rules := by
  have hfound : ∀ rule ∈ rules, FieldRule.find? rules rule.field = some rule :=
    fun rule hmem => FieldRule.find?_field_of_mem h hmem
  rw [FieldRule.fieldsOf, List.filterMap_map]
  calc
    rules.filterMap (FieldRule.find? rules ∘ (·.field)) = rules.filterMap some :=
      List.filterMap_congr hfound
    _ = rules := List.filterMap_some

/-- Schemas with the same fields in the same order and the same rule for each field are
equal. -/
theorem ext_fields_get?
    {a b : Schema} (hfields : a.fields = b.fields)
    (hget : ∀ field, a.get? field = b.get? field) : a = b := by
  refine ext_rules ?_
  calc
    a.rules = a.fields.filterMap a.get? := (filterMap_find?_fieldsOf a.nodup_fields).symm
    _ = b.fields.filterMap b.get? := by rw [hfields, funext hget]
    _ = b.rules := filterMap_find?_fieldsOf b.nodup_fields

end Schema

end ParamRules
