import Mathlib.Data.List.Forall2
import Mathlib.Data.List.Nodup
import Mathlib.Data.List.Perm.Subperm
import Mathlib.Data.Option.Basic
import ParamRules.Proofs.Nesting
import ParamRules.Schema.Basic

/-!
# Parts of equal schemas

Equality of groups, rules and schemas is a comparison that looks at limits as numbers, at
the texts of patterns and, at the top of a schema, not at the order of the rules.  The lemmas below say what it means
for the parts: they are the same or equal in their turn, pair by pair.
-/

namespace ParamRules

section BEq

variable {α : Type} [BEq α]

theorem optionRel_of_beq {a b : Option α} (h : (a == b) = true) :
    Option.Rel (fun x y => (x == y) = true) a b := by
  cases a with
  | none =>
      cases b with
      | none => exact .none
      | some y => cases h
  | some x =>
      cases b with
      | none => cases h
      | some y => exact .some h

theorem forall₂_of_beq {xs ys : List α} (h : (xs == ys) = true) :
    List.Forall₂ (fun x y => (x == y) = true) xs ys := by
  induction xs generalizing ys with
  | nil =>
      cases ys with
      | nil => exact .nil
      | cons y ys => cases h
  | cons x xs ih =>
      cases ys with
      | nil => cases h
      | cons y ys =>
          obtain ⟨hxy, hrest⟩ := (Bool.and_eq_true_iff).mp h
          exact .cons hxy (ih hrest)

end BEq

/-- The parts of two groups are equal. -/
structure Constraints.EqualParts (group other : Constraints) : Prop where
  required : group.required = other.required
  message : group.message = other.message
  min : Option.Rel (fun p q => (p == q) = true) group.min other.min
  max : Option.Rel (fun p q => (p == q) = true) group.max other.max
  format : Option.Rel (fun p q => (p == q) = true) group.format other.format
  notBlank : group.notBlank = other.notBlank
  element : Option.Rel
    (fun stated stated' =>
      stated.type = stated'.type ∧ (stated.constraints == stated'.constraints) = true)
    group.element other.element

/-- Comparison of what two groups state for elements. -/
def Constraints.equalElements : Option (Typed Constraints) → Option (Typed Constraints) → Bool
  | .none, .none => true
  | some stated, some stated' =>
      decide (stated.type = stated'.type) && stated.constraints == stated'.constraints
  | _, _ => false

theorem Constraints.beq_eq (group other : Constraints) :
    (group == other) =
      (group.required == other.required && group.message == other.message &&
        group.min == other.min && group.max == other.max &&
        group.format == other.format && group.notBlank == other.notBlank &&
        equalElements group.element other.element) := by
  obtain ⟨_, _, _, _, _, _, element⟩ := group
  obtain ⟨_, _, _, _, _, _, element'⟩ := other
  cases element <;> cases element' <;> rfl

theorem Constraints.equalParts_of_beq
    {group other : Constraints} (h : (group == other) = true) : group.EqualParts other := by
  rw [beq_eq] at h
  simp only [Bool.and_eq_true, beq_iff_eq] at h
  obtain ⟨⟨⟨⟨⟨⟨hrequired, hmessage⟩, hmin⟩, hmax⟩, hformat⟩, hnotBlank⟩, helement⟩ := h
  refine ⟨hrequired, hmessage, optionRel_of_beq hmin, optionRel_of_beq hmax,
    optionRel_of_beq hformat, hnotBlank, ?_⟩
  generalize group.element = element at helement
  generalize other.element = element' at helement
  cases element with
  | none =>
      cases element' with
      | none => exact .none
      | some stated' => cases helement
  | some stated =>
      cases element' with
      | none => cases helement
      | some stated' =>
          rw [equalElements, Bool.and_eq_true, decide_eq_true_eq] at helement
          exact .some helement

/-- The parts of two rules are equal. -/
structure FieldRule.EqualParts (rule other : FieldRule) : Prop where
  field : rule.field = other.field
  type : rule.type = other.type
  groups : List.Forall₂ (fun group group' => (group == group') = true)
    rule.groups other.groups
  nested : List.Forall₂ (fun child child' => (child == child') = true)
    rule.nested other.nested

theorem FieldRule.equalLists_eq_beq (rules others : List FieldRule) :
    equalLists rules others = (rules == others) := by
  induction rules generalizing others with
  | nil => cases others <;> rfl
  | cons rule rest ih =>
      cases others with
      | nil => rfl
      | cons other others =>
          rw [equalLists, ih]
          rfl

theorem FieldRule.equalParts_of_beq
    {rule other : FieldRule} (h : (rule == other) = true) : rule.EqualParts other := by
  obtain ⟨field, type, groups, nested⟩ := rule
  obtain ⟨field', type', groups', nested'⟩ := other
  change FieldRule.equals _ _ = true at h
  simp only [equals, equalLists_eq_beq, Bool.and_eq_true, beq_iff_eq, decide_eq_true_eq] at h
  obtain ⟨⟨⟨hfield, htype⟩, hgroups⟩, hnested⟩ := h
  exact ⟨hfield, htype, forall₂_of_beq hgroups, forall₂_of_beq hnested⟩

namespace Schema

variable {a b : Schema}

/-- Each rule of a schema has an equal one in every schema that is equal. -/
theorem exists_beq_rule (h : (a == b) = true) {rule : FieldRule} (hrule : rule ∈ a.rules) :
    ∃ other ∈ b.rules, (rule == other) = true := by
  obtain ⟨-, hall⟩ := (Bool.and_eq_true_iff).mp h
  have hpartner := List.all_eq_true.mp hall rule hrule
  obtain ⟨other, hget, hequal⟩ := (Option.any_eq_true ..).mp hpartner
  exact ⟨_, List.mem_of_find?_eq_some hget, hequal⟩

theorem fields_perm_of_beq (h : (a == b) = true) : a.fields.Perm b.fields := by
  obtain ⟨hsize, -⟩ := (Bool.and_eq_true_iff).mp h
  have hlength : a.rules.length = b.rules.length := beq_iff_eq.mp hsize
  have hsubset : a.fields ⊆ b.fields := by
    intro field hfield
    obtain ⟨rule, hrule, rfl⟩ := List.mem_map.mp hfield
    obtain ⟨other, hother, hequal⟩ := exists_beq_rule h hrule
    rw [(FieldRule.equalParts_of_beq hequal).field]
    exact List.mem_map_of_mem hother
  apply (List.subperm_of_subset a.nodup_fields hsubset).perm_of_length_le
  simp [fields, FieldRule.fieldsOf, hlength]

theorem exists_rule_beq (h : (a == b) = true) {other : FieldRule} (hother : other ∈ b.rules) :
    ∃ rule ∈ a.rules, (rule == other) = true := by
  have hfield : other.field ∈ a.fields :=
    (fields_perm_of_beq h).mem_iff.mpr (List.mem_map_of_mem hother)
  obtain ⟨rule, hrule, hsame⟩ := List.mem_map.mp hfield
  obtain ⟨partner, hpartner, hequal⟩ := exists_beq_rule h hrule
  -- the fields of a schema are distinct, so the partner is the rule at hand
  have hpartnerField : partner.field = other.field := by
    rw [← (FieldRule.equalParts_of_beq hequal).field, hsame]
  obtain rfl := List.inj_on_of_nodup_map b.nodup_fields hpartner hother hpartnerField
  exact ⟨rule, hrule, hequal⟩

end Schema

end ParamRules
