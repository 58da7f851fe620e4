import ParamRules.Report.Violation

/-!
# Reports on one field

A group of constraints is held against the value of a field, or against its absence.  A
value of the wrong type has that violation alone; a value of the right type is held
against every other constraint of the group, and so is each element of a list against
what the group states for elements.
-/

namespace ParamRules

/-- `null` and the empty string count as absent. -/
def Json.countsAsAbsent : Json → Bool
  | .null => true
  | .string s => s == ""
  | _ => false

/-- The quantity that limits are about: the number itself, or the length of text in
characters or of a list in elements. -/
def FieldType.quantity? : FieldType → Json → Option Quantity
  | .wholeNumber, .number n => Quantity.ofNumber? n
  | .decimal, .number n => Quantity.ofNumber? n
  | .text, .string s => some (.whole s.length)
  | .list, .array items => some (.whole items.length)
  | _, _ => none

/-- The quantity lies beyond the limit: below the least one or above the greatest one. -/
def Limit.refuses (limit : Limit) (bound actual : Quantity) : Bool :=
  match limit with
  | .min => actual.isBelow bound
  | .max => actual.isAbove bound

namespace Constraints

/-- The quantity of the value lies beyond one of the limits. -/
def limitViolation? (group : Constraints) (limit : Limit) (t : FieldType) (v : Json) :
    Option Violation :=
  match limit.of group, t.quantity? v with
  | some bound, some actual =>
      if limit.refuses bound actual then some (limit.violation bound) else .none
  | _, _ => .none

/-- The value is a string that does not match the pattern. -/
def formatViolation? (group : Constraints) (v : Json) : Option Violation :=
  match group.format, v with
  | some pattern, .string s => if pattern.isMatch s then .none else some .badFormat
  | _, _ => .none

/-- The value is a blank string and must not be one. -/
def blankViolation? (group : Constraints) (v : Json) : Option Violation :=
  match v with
  | .string s => if group.notBlank && Text.allBlank s then some .blank else .none
  | _ => .none

/-- The violations of a group by a value of the right type, elements of lists aside. -/
def valueViolations (group : Constraints) (t : FieldType) (v : Json) : List Violation :=
  (group.limitViolation? .min t v).toList ++ (group.limitViolation? .max t v).toList ++
    (group.formatViolation? v).toList ++ (group.blankViolation? v).toList

/-- The violations of a group by a value: the wrong type, or else all others. -/
def violations (group : Constraints) (t : FieldType) (v : Json) : List Violation :=
  if t.accepts v then group.valueViolations t v else [.wrongType t]

/-- The issues of the elements of a list with what a group states for them. -/
def elementIssues (group : Constraints) (location : Location) (v : Json) : List Issue :=
  match group.element, v with
  | some element, .array items =>
      items.zipIdx.flatMap fun (item, i) =>
        (element.constraints.violations element.type item).map
          (element.constraints.issue (location.index i).text)
  | _, _ => []

/-- The issues of a group with a field that has a value. -/
def presentIssues (group : Constraints) (t : FieldType) (location : Location) (v : Json) :
    List Issue :=
  (group.violations t v).map (group.issue location.text) ++
    if t.accepts v then group.elementIssues location v else []

/-- The issues of a group with a field whose value may be absent. -/
def issues (group : Constraints) (t : FieldType) (location : Location) (v : Option Json) :
    List Issue :=
  match v with
  | some v => group.presentIssues t location v
  | .none => if group.required then [group.issue location.text .missing] else []

end Constraints

end ParamRules
