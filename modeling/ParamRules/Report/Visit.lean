import ParamRules.Report.FieldReport
import ParamRules.Schema.Basic

/-!
# Visits

Each rule of a schema is visited wherever its field may stand: a rule at the top in the
payload, a nested one in the object that the field of the rule around it holds, or in
each object of the list that it holds.  A rule is visited before those nested in it, and
these in the order of the list elements, then of their declaration.  All issues arise at
visits, so a report is read off their list.
-/

namespace ParamRules

/-- The value of a field in a container, unless it counts as absent.  Without a
container every field is absent. -/
def presentValue? (container : Option Json.Fields) (field : String) : Option Json :=
  (container.bind fun fields => Json.Fields.get? fields field).filter fun v => !v.countsAsAbsent

/-- A rule met at a place. -/
structure Visit where
  rule : FieldRule
  /-- The location of the container. -/
  base : Location
  /-- The fields among which the rule's field is looked up; none if there is no object. -/
  container : Option Json.Fields

namespace Visit

/-- The location of the value of the rule's field. -/
def location (visit : Visit) : Location :=
  visit.base.key visit.rule.field

/-- The value of the rule's field. -/
def value? (visit : Visit) : Option Json :=
  presentValue? visit.container visit.rule.field

/-- The issues that arise at a visit; an inert rule has none. -/
def issues (visit : Visit) : List Issue :=
  if visit.rule.isInert then
    []
  else
    visit.rule.groups.flatMap fun group =>
      group.issues visit.rule.type visit.location visit.value?

end Visit

namespace FieldRule

/-- The objects in which the nested rules of a field with this value apply, each with
its location. -/
def nestedObjects (location : Location) : Option Json → List (Location × Json.Fields)
  | some (.object fields) => [(location, fields)]
  | some (.array items) =>
      items.zipIdx.filterMap fun (item, i) =>
        item.fields?.map fun fields => (location.index i, fields)
  | _ => []

mutual

/-- The visits of a rule and of all rules nested in it. -/
def visits (base : Location) (container : Option Json.Fields) : FieldRule → List Visit
  | ⟨field, type, groups, nested⟩ =>
      ⟨⟨field, type, groups, nested⟩, base, container⟩ ::
        if field = "" then
          []
        else
          (nestedObjects (base.key field) (presentValue? container field)).flatMap
            fun (location, fields) => visitsOfAll location (some fields) nested

/-- The visits of a row of rules in one container. -/
def visitsOfAll (base : Location) (container : Option Json.Fields) :
    List FieldRule → List Visit
  | [] => []
  | rule :: rest => rule.visits base container ++ visitsOfAll base container rest

end

theorem visitsOfAll_eq_flatMap (base : Location) (container : Option Json.Fields)
    (rules : List FieldRule) :
    visitsOfAll base container rules = rules.flatMap (visits base container) := by
  induction rules with
  | nil => rfl
  | cons rule rest ih => rw [visitsOfAll, ih, List.flatMap_cons]

end FieldRule

end ParamRules
