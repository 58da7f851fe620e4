import ParamRules.Proofs.Report.RuleReports
import ParamRules.Proofs.Schema.GroupChanges

/-!
# Dead constraints

Not every constraint of a group can be violated.  Limits are about numbers and lengths,
patterns and the ban on blank text are about strings, and what a group states for elements
is about lists; of the group for the elements, neither the demand to be present nor what
it states for elements in its turn is ever consulted.  A schema without these constraints,
and without its inert rules, reports the same of every payload.
-/

namespace ParamRules

namespace FieldType

/-- Values of the type have a quantity that limits are held against. -/
def isMeasured : FieldType → Bool
  | .text | .wholeNumber | .decimal | .list => true
  | .boolean | .date | .timestamp | .object => false

/-- Values of the type are strings. -/
def isTextual : FieldType → Bool
  | .text | .date | .timestamp => true
  | .wholeNumber | .decimal | .boolean | .object | .list => false

theorem quantity?_of_not_isMeasured
    {type : FieldType} (h : type.isMeasured = false) (v : Json) :
    type.quantity? v = none := by
  cases type with
  | boolean | date | timestamp | object => rfl
  | text | wholeNumber | decimal | list => cases h

theorem isTextual_of_accepts_string
    {type : FieldType} {s : String} (h : type.accepts (.string s) = true) :
    type.isTextual = true := by
  cases type with
  | text | date | timestamp => rfl
  | wholeNumber | decimal | boolean | object | list => cases h

theorem eq_list_of_accepts_array
    {type : FieldType} {items : List Json} (h : type.accepts (.array items) = true) :
    type = .list := by
  cases type with
  | list => rfl
  | text | wholeNumber | decimal | boolean | date | timestamp | object => cases h

end FieldType

namespace Constraints

/-! ## The constraints that can be violated -/

/-- The group with those limits, patterns and bans on blank text only that are about
values of the type. -/
def forValues (type : FieldType) (group : Constraints) : Constraints :=
  { group with
    min := if type.isMeasured then group.min else .none
    max := if type.isMeasured then group.max else .none
    format := if type.isTextual then group.format else .none
    notBlank := type.isTextual && group.notBlank }

/-- What is stated for the elements of a list, as far as elements can violate it. -/
def forElements (element : Typed Constraints) : Typed Constraints where
  type := element.type
  constraints :=
    { element.constraints.forValues element.type with required := false, element := .none }

/-- The group as far as the field of a rule of the type can violate it. -/
def forField (type : FieldType) (group : Constraints) : Constraints :=
  { group.forValues type with
    element := if type = .list then group.element.map forElements else .none }

/-! ## Violations -/

section Violations

variable {type : FieldType} {v : Json}

theorem of_forValues (group : Constraints) (limit : Limit) (type : FieldType) :
    limit.of (group.forValues type) = if type.isMeasured then limit.of group else .none := by
  cases limit <;> rfl

theorem limitViolation?_forValues
    (group : Constraints) (limit : Limit) (type : FieldType) (v : Json) :
    (group.forValues type).limitViolation? limit type v =
      group.limitViolation? limit type v := by
  unfold limitViolation?
  rw [of_forValues]
  cases hmeasured : type.isMeasured with
  | true => rfl
  | false => simp [FieldType.quantity?_of_not_isMeasured hmeasured]

theorem formatViolation?_forValues
    (group : Constraints) (htype : type.accepts v = true) :
    (group.forValues type).formatViolation? v = group.formatViolation? v := by
  cases v with
  | string s =>
      have htextual := FieldType.isTextual_of_accepts_string htype
      simp [formatViolation?, forValues, htextual]
  | null | bool | number | array | object => simp [formatViolation?]

theorem blankViolation?_forValues
    (group : Constraints) (htype : type.accepts v = true) :
    (group.forValues type).blankViolation? v = group.blankViolation? v := by
  cases v with
  | string s =>
      have htextual := FieldType.isTextual_of_accepts_string htype
      simp [blankViolation?, forValues, htextual]
  | null | bool | number | array | object => rfl

/-- A group and the part of it that is about values of a type are violated alike. -/
theorem violations_forValues (group : Constraints) (type : FieldType) (v : Json) :
    (group.forValues type).violations type v = group.violations type v := by
  unfold violations
  split
  · next htype =>
      simp only [valueViolations, limitViolation?_forValues,
        formatViolation?_forValues group htype, blankViolation?_forValues group htype]
  · rfl

/-- Elements do not consult whether they are required, nor what is stated for their own
elements. -/
theorem violations_forElements (element : Typed Constraints) (item : Json) :
    (forElements element).constraints.violations (forElements element).type item =
      element.constraints.violations element.type item := by
  calc
    (forElements element).constraints.violations (forElements element).type item =
        (element.constraints.forValues element.type).violations element.type item := rfl
    _ = element.constraints.violations element.type item :=
      violations_forValues element.constraints element.type item

theorem elementIssues_forField
    (group : Constraints) (htype : type.accepts v = true) (location : Location) :
    (group.forField type).elementIssues location v = group.elementIssues location v := by
  cases v with
  | array items =>
      obtain rfl := FieldType.eq_list_of_accepts_array htype
      have hstated : (group.forField .list).element = group.element.map forElements := rfl
      unfold elementIssues
      rw [hstated]
      cases group.element with
      | none => rfl
      | some element =>
          refine List.flatMap_congr fun entry _ => ?_
          simp only [violations_forElements]
          rfl
  | null | bool | number | string | object => simp [elementIssues]

/-- A group and the part of it that a field can violate report the same. -/
theorem issues_forField
    (group : Constraints) (type : FieldType) (location : Location) (v? : Option Json) :
    (group.forField type).issues type location v? = group.issues type location v? := by
  cases v? with
  | none => rfl
  | some v =>
      have hviolations : (group.forField type).violations type v = group.violations type v :=
        violations_forValues group type v
      have hissue : (group.forField type).issue location.text =
          group.issue location.text := rfl
      change (group.forField type).presentIssues type location v =
        group.presentIssues type location v
      rw [presentIssues, presentIssues, hviolations, hissue]
      split
      · next htype => rw [elementIssues_forField group htype]
      · rfl

end Violations

end Constraints

/-! ## Rules and schemas -/

namespace FieldRule

theorem ownReport_mapGroups (f : FieldType → Constraints → Constraints) (rule : FieldRule)
    (location : Location) (v? : Option Json) :
    (rule.mapGroups f).ownReport location v? =
      rule.groups.flatMap fun group => (f rule.type group).issues rule.type location v? := by
  cases rule
  exact List.flatMap_map ..

/-- A change of groups that no report of a group shows is not shown by a report of a
rule. -/
theorem report_mapGroups
    {f : FieldType → Constraints → Constraints}
    (hf : ∀ type group location v?,
      (f type group).issues type location v? = group.issues type location v?)
    (rule : FieldRule) (base : Location) (container : Option Json.Fields) :
    (rule.mapGroups f).report base container = rule.report base container := by
  induction rule using FieldRule.induction generalizing base container with
  | step rule ih =>
      apply isPartwise_eq.report (rule.field_mapGroups f)
      · intro location v?
        rw [ownReport_mapGroups]
        simp only [hf]
        rfl
      · intro inner fields
        rw [nested_mapGroups, reportOfAll, reportOfAll, List.flatMap_map]
        exact List.flatMap_congr fun child hchild => ih child hchild inner (some fields)

end FieldRule

namespace Schema

/-- The schema without inert rules and without constraints that cannot be violated, at
every depth. -/
def withoutDead (schema : Schema) : Schema :=
  schema.withoutInert.mapGroups Constraints.forField

theorem issues_verdictOf_mapGroups
    {f : FieldType → Constraints → Constraints}
    (hf : ∀ type group location v?,
      (f type group).issues type location v? = group.issues type location v?)
    (schema : Schema) (payload : Payload) :
    ((schema.mapGroups f).verdictOf payload).issues = (schema.verdictOf payload).issues := by
  rw [issues_verdictOf, issues_verdictOf]
  change (schema.rules.map (FieldRule.mapGroups f)).flatMap _ = _
  rw [List.flatMap_map]
  exact List.flatMap_congr fun rule _ => rule.report_mapGroups hf .root payload.fields?

/-- Dead constraints have no part in any report. -/
theorem issues_verdictOf_withoutDead (schema : Schema) (payload : Payload) :
    (schema.withoutDead.verdictOf payload).issues = (schema.verdictOf payload).issues := by
  have hlive : (schema.withoutDead.verdictOf payload).issues =
      (schema.withoutInert.verdictOf payload).issues :=
    issues_verdictOf_mapGroups (fun type group => group.issues_forField type)
      schema.withoutInert payload
  rw [hlive, issues_verdictOf_withoutInert]

end Schema

end ParamRules
