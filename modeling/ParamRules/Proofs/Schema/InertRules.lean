import ParamRules.Proofs.Report.Exactness

/-!
# Schemas without inert rules

An inert rule names no field.  Leaving out all inert rules, at every depth and with what
is nested in them, changes nothing else about a schema, and no report: an inert rule and
the rules nested in it have no issues.
-/

namespace ParamRules

namespace FieldRule

mutual

/-- The rule without the inert rules nested in it, at every depth. -/
def withoutInert : FieldRule → FieldRule
  | ⟨field, type, groups, nested⟩ => ⟨field, type, groups, dropInert nested⟩

/-- The rules of a row that are not inert, each without the inert rules nested in it. -/
def dropInert : List FieldRule → List FieldRule
  | [] => []
  | rule :: rest =>
      if rule.field = "" then dropInert rest else rule.withoutInert :: dropInert rest

end

@[simp]
theorem field_withoutInert (rule : FieldRule) : rule.withoutInert.field = rule.field := by
  cases rule
  rfl

@[simp]
theorem type_withoutInert (rule : FieldRule) : rule.withoutInert.type = rule.type := by
  cases rule
  rfl

@[simp]
theorem groups_withoutInert (rule : FieldRule) :
    rule.withoutInert.groups = rule.groups := by
  cases rule
  rfl

@[simp]
theorem nested_withoutInert (rule : FieldRule) :
    rule.withoutInert.nested = dropInert rule.nested := by
  cases rule
  rfl

theorem dropInert_eq (rules : List FieldRule) :
    dropInert rules =
      (rules.filter fun rule => !rule.isInert).map withoutInert := by
  induction rules with
  | nil => rfl
  | cons rule rest ih =>
      rw [dropInert, ih]
      by_cases hfield : rule.field = ""
      · simp [hfield, isInert]
      · simp [hfield, isInert]

theorem fieldsOf_dropInert (rules : List FieldRule) :
    fieldsOf (dropInert rules) =
      fieldsOf (rules.filter fun rule => !rule.isInert) := by
  rw [dropInert_eq, fieldsOf, fieldsOf, List.map_map]
  exact List.map_congr_left fun rule _ => rule.field_withoutInert

theorem nodup_fieldsOf_dropInert
    {rules : List FieldRule} (h : (fieldsOf rules).Nodup) :
    (fieldsOf (dropInert rules)).Nodup := by
  rw [fieldsOf_dropInert]
  exact h.sublist (List.filter_sublist.map _)

/-! ## Reports -/

/-- The issues of a rule and of the rules nested in it. -/
theorem flatMap_issues_visits_of_isInert
    {rule : FieldRule} (hinert : rule.isInert = true)
    (base : Location) (container : Option Json.Fields) :
    (rule.visits base container).flatMap Visit.issues = [] := by
  have hfield : rule.field = "" := by simpa [isInert] using hinert
  rw [visits_eq, if_pos hfield, List.flatMap_singleton, Visit.issues, if_pos hinert]

theorem flatMap_issues_visitsOfAll_dropInert
    {rules : List FieldRule}
    (ih : ∀ rule ∈ rules, ∀ base container,
      (rule.withoutInert.visits base container).flatMap Visit.issues =
        (rule.visits base container).flatMap Visit.issues)
    (base : Location) (container : Option Json.Fields) :
    (visitsOfAll base container (dropInert rules)).flatMap Visit.issues =
      (visitsOfAll base container rules).flatMap Visit.issues := by
  induction rules with
  | nil => rfl
  | cons rule rest ihrest =>
      have hrest := ihrest fun other hother => ih other (List.mem_cons_of_mem _ hother)
      rw [dropInert, visitsOfAll, List.flatMap_append]
      split
      · next hfield =>
          have hinert : rule.isInert = true := by simp [isInert, hfield]
          rw [flatMap_issues_visits_of_isInert hinert, List.nil_append, hrest]
      · rw [visitsOfAll, List.flatMap_append, hrest, ih rule List.mem_cons_self]

theorem flatMap_issues_visits_withoutInert
    (rule : FieldRule) (base : Location) (container : Option Json.Fields) :
    (rule.withoutInert.visits base container).flatMap Visit.issues =
      (rule.visits base container).flatMap Visit.issues := by
  induction rule using FieldRule.induction generalizing base container with
  | step rule ih =>
      have hown : Visit.issues ⟨rule.withoutInert, base, container⟩ =
          Visit.issues ⟨rule, base, container⟩ := by
        simp [Visit.issues, isInert, Visit.location, Visit.value?]
      rw [visits_eq, visits_eq, List.flatMap_cons, List.flatMap_cons, hown,
        field_withoutInert, nested_withoutInert]
      congr 1
      split
      · rfl
      · rw [List.flatMap_assoc, List.flatMap_assoc]
        exact List.flatMap_congr fun place _ =>
          flatMap_issues_visitsOfAll_dropInert ih place.1 (some place.2)

end FieldRule

namespace Schema

/-- The schema without its inert rules, at every depth. -/
def withoutInert (schema : Schema) : Schema :=
  ⟨FieldRule.dropInert schema.rules,
    FieldRule.nodup_fieldsOf_dropInert schema.nodup_fields⟩

/-- Inert rules have no part in any report. -/
theorem issues_withoutInert (schema : Schema) (payload : Json) :
    (schema.withoutInert.verdict payload).issues = (schema.verdict payload).issues := by
  rw [issues_verdict, issues_verdict]
  exact FieldRule.flatMap_issues_visitsOfAll_dropInert
    (fun rule _ => rule.flatMap_issues_visits_withoutInert) .root payload.fields?

end Schema

end ParamRules
