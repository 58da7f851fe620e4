import ParamRules.Pattern.Basic
import ParamRules.Schema.Quantity
import ParamRules.Schema.FieldType

/-!
# Constraints

Constraints come in groups.  A field may have several groups, each of which is held
against its value on its own.  A group may state a type and constraints for the elements
of a list, and these constraints may again do so.
-/

namespace ParamRules

/-- A type together with what further constrains values of it. -/
structure Typed (α : Type) where
  type : FieldType
  constraints : α

/-- A group of constraints. -/
structure Constraints where
  /-- The value must be present. -/
  required : Bool := false
  /-- The message of every issue of this group, instead of the usual ones. -/
  message : Option String := none
  /-- The least number, or the least length of text and lists. -/
  min : Option Quantity := none
  /-- The greatest number, or the greatest length of text and lists. -/
  max : Option Quantity := none
  /-- A pattern that text must match. -/
  format : Option Pattern := none
  /-- Text must have a character that is not blank. -/
  notBlank : Bool := false
  /-- What every element of a list must satisfy. -/
  element : Option (Typed Constraints) := none

/-- One of the two limits of a group. -/
inductive Limit where
  | min
  | max

/-- The limit of a group. -/
def Limit.of (limit : Limit) (group : Constraints) : Option Quantity :=
  match limit with
  | .min => group.min
  | .max => group.max

namespace Constraints

/-- The group that constrains nothing. -/
def none : Constraints := {}

instance : Inhabited Constraints := ⟨none⟩

/-- The same constraints, with limits that are equal as numbers and patterns that have the
same text. -/
def equals : Constraints → Constraints → Bool
  | ⟨required, message, min, max, format, notBlank, element⟩,
    ⟨required', message', min', max', format', notBlank', element'⟩ =>
      required == required' && message == message' && min == min' && max == max' &&
        format == format' && notBlank == notBlank' &&
        match element, element' with
        | .none, .none => true
        | some ⟨t, group⟩, some ⟨t', group'⟩ => decide (t = t') && group.equals group'
        | _, _ => false

/-- Equality up to the way in which limits are written and to what patterns match. -/
instance : BEq Constraints := ⟨equals⟩

/-- The fields that describe a group; what it does not constrain is left out. -/
def toFields : Constraints → List (String × Json)
  | ⟨required, message, min, max, format, notBlank, element⟩ =>
      (if required then [("required", .bool true)] else []) ++
      (message.map fun m => ("message", Json.string m)).toList ++
      (min.map fun q => ("min", q.toJson)).toList ++
      (max.map fun q => ("max", q.toJson)).toList ++
      (format.map fun p => ("format", Json.string p.betweenSlashes)).toList ++
      (if notBlank then [("blank_disallowed", .bool true)] else []) ++
      match element with
      | .none => []
      | some ⟨t, group⟩ =>
          [("element", .object (("type", .string t.tag) :: group.toFields))]

/-- The description of a group. -/
def toJson (group : Constraints) : Json :=
  .object group.toFields

end Constraints

end ParamRules
