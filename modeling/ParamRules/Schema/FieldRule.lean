import ParamRules.Schema.Constraints

/-!
# Field rules

A rule states what the value of one field must be.  Its nested rules state the same for
the fields of the object that the field holds, or of every object in the list that it
holds.  A rule without a field name is inert: it states nothing, and neither do the rules
nested in it.
-/

namespace ParamRules

/-- The rule for one field. -/
structure FieldRule where
  /-- The key of the value. -/
  field : String
  type : FieldType
  /-- The groups of constraints, each held against the value on its own. -/
  groups : List Constraints := []
  /-- The rules for the fields of nested objects. -/
  nested : List FieldRule := []

namespace FieldRule

/-- The rule names no field. -/
def isInert (rule : FieldRule) : Bool :=
  rule.field == ""

/-- Some group requires the value to be present. -/
def isMandatory (rule : FieldRule) : Bool :=
  rule.groups.any (·.required)

mutual

/-- The same rule, with limits that are equal as numbers. -/
def equals : FieldRule → FieldRule → Bool
  | ⟨field, type, groups, nested⟩, ⟨field', type', groups', nested'⟩ =>
      field == field' && decide (type = type') && groups == groups' &&
        equalLists nested nested'

/-- The same rules in the same order. -/
def equalLists : List FieldRule → List FieldRule → Bool
  | [], [] => true
  | rule :: rest, rule' :: rest' => rule.equals rule' && equalLists rest rest'
  | _, _ => false

end

/-- Equality up to the way in which limits are written. -/
instance : BEq FieldRule := ⟨equals⟩

mutual

/-- The description of a rule. -/
def toJson : FieldRule → Json
  | ⟨field, type, groups, nested⟩ =>
      .object <|
        [("field", .string field), ("type", .string type.tag),
          ("opts", .array (groups.map Constraints.toJson))] ++
        if nested.isEmpty then [] else [("items", .array (listToJson nested))]

/-- The descriptions of a row of rules. -/
def listToJson : List FieldRule → List Json
  | [] => []
  | rule :: rest => rule.toJson :: listToJson rest

end

theorem listToJson_eq_map (rules : List FieldRule) :
    listToJson rules = rules.map toJson := by
  induction rules with
  | nil => rfl
  | cons rule rest ih => rw [listToJson, ih, List.map_cons]

end FieldRule

end ParamRules
