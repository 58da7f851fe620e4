import Mathlib.Data.List.Forall2
import ParamRules.Proofs.Report.DeclaredFields

/-!
# Reports of rules

The report of a rule is what its own groups report, and then the reports of the rules
nested in it, in each object that the value of its field holds.  So two rules for the same
field have related reports as soon as their groups and their nested rules have, for every
relation that may be shown of the parts of a report one by one.
-/

namespace ParamRules

namespace FieldRule

/-- The issues of a rule and of the rules nested in it. -/
def report (rule : FieldRule) (base : Location) (container : Option Json.Fields) :
    List Issue :=
  (rule.visits base container).flatMap Visit.issues

/-- The issues of the groups of a rule. -/
def ownReport (rule : FieldRule) (location : Location) (v? : Option Json) : List Issue :=
  rule.groups.flatMap fun group => group.issues rule.type location v?

/-- The issues of a row of rules in one container. -/
def reportOfAll (rules : List FieldRule) (base : Location)
    (container : Option Json.Fields) : List Issue :=
  rules.flatMap fun rule => rule.report base container

theorem flatMap_issues_visitsOfAll (rules : List FieldRule) (base : Location)
    (container : Option Json.Fields) :
    (visitsOfAll base container rules).flatMap Visit.issues =
      reportOfAll rules base container := by
  rw [visitsOfAll_eq_flatMap, List.flatMap_assoc]
  rfl

theorem report_of_field_eq {rule : FieldRule} (hfield : rule.field = "")
    (base : Location) (container : Option Json.Fields) :
    rule.report base container = [] := by
  apply flatMap_issues_visits_of_isInert
  simp [isInert, hfield]

/-- A visit of a rule with a field name yields the issues of the groups of the rule. -/
theorem issues_visit {rule : FieldRule} (hfield : rule.field ≠ "")
    (base : Location) (container : Option Json.Fields) :
    Visit.issues ⟨rule, base, container⟩ =
      rule.ownReport (base.key rule.field) (presentValue? container rule.field) := by
  have hinert : rule.isInert = false := by simpa [isInert] using hfield
  rw [Visit.issues, hinert]
  rfl

theorem report_eq_append_nestedIssues {rule : FieldRule} (hfield : rule.field ≠ "")
    (base : Location) (container : Option Json.Fields) :
    rule.report base container =
      rule.ownReport (base.key rule.field) (presentValue? container rule.field) ++
        nestedIssues rule.nested (base.key rule.field)
          (presentValue? container rule.field) := by
  rw [report, flatMap_issues_visits rule hfield, issues_visit hfield]

theorem report_of_field_ne {rule : FieldRule} (hfield : rule.field ≠ "")
    (base : Location) (container : Option Json.Fields) :
    rule.report base container =
      rule.ownReport (base.key rule.field) (presentValue? container rule.field) ++
        (nestedObjects (base.key rule.field) (presentValue? container rule.field)).flatMap
          fun place => reportOfAll rule.nested place.1 (some place.2) := by
  rw [report_eq_append_nestedIssues hfield, nestedIssues, List.flatMap_assoc]
  simp only [flatMap_issues_visitsOfAll]

end FieldRule

namespace Schema

theorem issues_verdictOf (schema : Schema) (payload : Payload) :
    (schema.verdictOf payload).issues =
      FieldRule.reportOfAll schema.rules .root payload.fields? := by
  rw [← FieldRule.flatMap_issues_visitsOfAll]
  unfold verdictOf
  split
  · next hempty =>
      have hrules : schema.rules = [] := List.isEmpty_iff.mp hempty
      rw [hrules]
      rfl
  · rfl

theorem issues_verdictOf_withoutInert (schema : Schema) (payload : Payload) :
    (schema.withoutInert.verdictOf payload).issues = (schema.verdictOf payload).issues := by
  rw [issues_verdictOf, issues_verdictOf, ← FieldRule.flatMap_issues_visitsOfAll,
    ← FieldRule.flatMap_issues_visitsOfAll]
  exact FieldRule.flatMap_issues_visitsOfAll_dropInert
    (fun rule _ => rule.flatMap_issues_visits_withoutInert) .root payload.fields?

end Schema

/-! ## Relations between reports -/

/-- A relation between reports that holds of two reports if it holds of their parts. -/
structure IsPartwise (rel : List Issue → List Issue → Prop) : Prop where
  nil : rel [] []
  append {a b c d : List Issue} (hfirst : rel a b) (hsecond : rel c d) :
    rel (a ++ c) (b ++ d)

theorem isPartwise_eq : IsPartwise (· = ·) where
  nil := rfl
  append hfirst hsecond := by rw [hfirst, hsecond]

theorem isPartwise_sublist : IsPartwise List.Sublist where
  nil := .slnil
  append hfirst hsecond := hfirst.append hsecond

/-- Both reports have an issue, or neither has one. -/
theorem isPartwise_eq_nil_iff : IsPartwise fun a b => a = [] ↔ b = [] where
  nil := Iff.rfl
  append hfirst hsecond := by
    rw [List.append_eq_nil_iff, List.append_eq_nil_iff, hfirst, hsecond]

namespace IsPartwise

variable {rel : List Issue → List Issue → Prop}

theorem flatMap (h : IsPartwise rel) {α : Type} {xs : List α} {f g : α → List Issue}
    (hparts : ∀ x ∈ xs, rel (f x) (g x)) : rel (xs.flatMap f) (xs.flatMap g) := by
  induction xs with
  | nil => exact h.nil
  | cons x rest ih =>
      have hrest := ih fun y hy => hparts y (List.mem_cons_of_mem _ hy)
      exact h.append (hparts x List.mem_cons_self) hrest

/-- Rows of related parts have related reports. -/
theorem flatMap_forall₂ (h : IsPartwise rel) {α β : Type} {r : α → β → Prop}
    {xs : List α} {ys : List β} {f : α → List Issue} {g : β → List Issue}
    (hrows : List.Forall₂ r xs ys)
    (hparts : ∀ x y, (x, y) ∈ xs.zip ys → r x y → rel (f x) (g y)) :
    rel (xs.flatMap f) (ys.flatMap g) := by
  induction hrows with
  | nil => exact h.nil
  | @cons x y xs ys hxy _ ih =>
      have hfirst := hparts x y List.mem_cons_self hxy
      exact h.append hfirst (ih fun u v huv => hparts u v (List.mem_cons_of_mem _ huv))

/-- Rules for the same field have related reports if their own groups and their nested
rules have. -/
theorem report (h : IsPartwise rel) {rule other : FieldRule}
    (hfield : rule.field = other.field)
    (hown : ∀ location v?, rel (rule.ownReport location v?) (other.ownReport location v?))
    (hnested : ∀ base fields,
      rel (FieldRule.reportOfAll rule.nested base (some fields))
        (FieldRule.reportOfAll other.nested base (some fields)))
    (base : Location) (container : Option Json.Fields) :
    rel (rule.report base container) (other.report base container) := by
  by_cases hname : rule.field = ""
  · have hother : other.field = "" := hfield ▸ hname
    rw [FieldRule.report_of_field_eq hname, FieldRule.report_of_field_eq hother]
    exact h.nil
  · have hother : other.field ≠ "" := hfield ▸ hname
    rw [FieldRule.report_of_field_ne hname, FieldRule.report_of_field_ne hother, hfield]
    apply h.append
    · exact hown _ _
    · exact h.flatMap fun place _ => hnested place.1 place.2

end IsPartwise

end ParamRules
