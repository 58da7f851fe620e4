import ParamRules.Proofs.Nesting
import ParamRules.Schema.Basic

/-!
# Limits in a schema

A property of limits holds throughout a schema if every limit in it has the property, at
every depth of rules and of element constraints.  The main instance is that limits are
expressible: a description can carry whole numbers of 64 bits and finite binary numbers,
and no others.
-/

namespace ParamRules

/-- The limit is a whole number of 64 bits or a finite binary number. -/
def Quantity.isExpressible : Quantity → Bool
  | .whole n => fitsWord n
  | .fractional (.finite _) => true
  | .fractional _ => false

/-- Reading the number that describes an expressible limit gives the limit. -/
theorem Quantity.ofNumber?_toJson
    {q : Quantity} (h : q.isExpressible = true) :
    q.toJson.number?.bind ofNumber? = some q := by
  cases q with
  | whole n =>
      have hword : fitsWord n = true := h
      rw [toJson, Json.number?, Option.bind_some, ofNumber?_whole hword]
  | fractional x =>
      cases x with
      | finite x => exact ofNumber?_decimal x
      | nan | infinite => cases h

section AllLimits

variable (p : Quantity → Bool)

/-- All limits of a group have the property, those for elements included. -/
def Constraints.allLimits : Constraints → Bool
  | ⟨_, _, min, max, _, _, element⟩ =>
      min.all p && max.all p &&
        match element with
        | .none => true
        | some ⟨_, group⟩ => group.allLimits

theorem Constraints.allLimits_iff (group : Constraints) :
    group.allLimits p = true ↔
      (∀ q, group.min = some q → p q = true) ∧
        (∀ q, group.max = some q → p q = true) ∧
        ∀ element, group.element = some element →
          element.constraints.allLimits p = true := by
  obtain ⟨required, message, min, max, format, notBlank, element⟩ := group
  cases min <;> cases max <;> cases element <;> simp [allLimits, and_assoc]

namespace FieldRule

mutual

/-- All limits of a rule and of the rules nested in it have the property. -/
def allLimits : FieldRule → Bool
  | ⟨_, _, groups, nested⟩ =>
      groups.all (Constraints.allLimits p) && allLimitsOfRow nested

/-- All limits of a row of rules have the property. -/
def allLimitsOfRow : List FieldRule → Bool
  | [] => true
  | rule :: rest => rule.allLimits && allLimitsOfRow rest

end

theorem allLimitsOfRow_iff (rules : List FieldRule) :
    allLimitsOfRow p rules = true ↔ ∀ rule ∈ rules, rule.allLimits p = true := by
  induction rules with
  | nil => simp [allLimitsOfRow]
  | cons rule rest ih => simp [allLimitsOfRow, ih]

theorem allLimits_iff (rule : FieldRule) :
    rule.allLimits p = true ↔
      (∀ group ∈ rule.groups, group.allLimits p = true) ∧
        ∀ child ∈ rule.nested, child.allLimits p = true := by
  cases rule
  rw [allLimits, Bool.and_eq_true, List.all_eq_true, allLimitsOfRow_iff]

end FieldRule

/-- All limits of a schema have the property. -/
def Schema.allLimits (schema : Schema) : Bool :=
  FieldRule.allLimitsOfRow p schema.rules

end AllLimits

end ParamRules
