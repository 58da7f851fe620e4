import ParamRules.Proofs.Report.RuleReports
import ParamRules.Proofs.Schema.Reload

/-!
# Nested reports

The rules nested in a rule report of an object what they report of it as a schema of their
own, moved to the location of the object.  An issue keeps its kind.  The location goes in
front of its place, and so it does in the usual message, whereas the message of a group
stays as it is.

A list of issues does not tell which messages are usual ones.  A breach does, since it keeps
the group that found it, and the issues of a report are those of its breaches.
-/

namespace ParamRules

/-- A violation of a group at a location. -/
structure Breach where
  location : Location
  group : Constraints
  violation : Violation

namespace Breach

/-- The issue that reports a breach. -/
def issue (breach : Breach) : Issue :=
  breach.group.issue breach.location.text breach.violation

/-- The issue that reports a breach in an object which itself stands at a location. -/
def issueUnder (outer : Location) (breach : Breach) : Issue :=
  breach.group.issue (outer.text ++ "." ++ breach.location.text) breach.violation

/-- An issue of the breach has been moved under a location: its place is longer, its kind
is the same, and its message is the same if it is the message of the group, or else the
usual one for the longer place. -/
structure MovesUnder (breach : Breach) (outer : Location) (issue moved : Issue) : Prop where
  place_eq : moved.place = outer.text ++ "." ++ issue.place
  kind_eq : moved.kind = issue.kind
  message_eq : ∀ message, breach.group.message = some message →
    issue.message = message ∧ moved.message = message
  usualMessage_eq : breach.group.message = none →
    issue.message = breach.violation.usualMessage issue.place ∧
      moved.message = breach.violation.usualMessage moved.place

theorem movesUnder (breach : Breach) (outer : Location) :
    breach.MovesUnder outer breach.issue (breach.issueUnder outer) where
  place_eq := rfl
  kind_eq := rfl
  message_eq := by
    intro message h
    simp [issue, issueUnder, Constraints.issue, h]
  usualMessage_eq := by
    intro h
    simp [issue, issueUnder, Constraints.issue, h]

end Breach

/-! ## Locations under a location -/

namespace Location

/-- A location inside the value at another one. -/
def append (outer inner : Location) : Location :=
  ⟨outer.steps ++ inner.steps⟩

theorem append_root (outer : Location) : outer.append root = outer := by
  simp [append, root]

theorem append_key (outer inner : Location) (name : String) :
    outer.append (inner.key name) = (outer.append inner).key name := by
  simp [append, key]

theorem append_index (outer inner : Location) (i : Nat) :
    outer.append (inner.index i) = (outer.append inner).index i := by
  simp [append, index]

theorem isRoot_key (location : Location) (name : String) :
    (location.key name).isRoot = false := by
  simp [isRoot, key]

theorem isRoot_index (location : Location) (i : Nat) :
    (location.index i).isRoot = false := by
  simp [isRoot, index]

/-- The first step leads into a field. -/
def BeginsWithKey (location : Location) : Prop :=
  ∃ name rest, location.steps = .key name :: rest

theorem beginsWithKey_root_key (name : String) : (root.key name).BeginsWithKey :=
  ⟨name, [], rfl⟩

theorem BeginsWithKey.of_beginning
    {location inner : Location} (h : location.BeginsWithKey)
    (hbeginning : location.steps <+: inner.steps) : inner.BeginsWithKey := by
  obtain ⟨name, rest, hsteps⟩ := h
  obtain ⟨more, hmore⟩ := hbeginning
  exact ⟨name, rest ++ more, by rw [← hmore, hsteps, List.cons_append]⟩

/-- A location that begins with a key is joined to the one around it by a dot. -/
theorem text_append
    {outer inner : Location} (houter : outer.isRoot = false)
    (hinner : inner.BeginsWithKey) :
    (outer.append inner).text = outer.text ++ "." ++ inner.text := by
  obtain ⟨name, rest, hsteps⟩ := hinner
  obtain ⟨steps⟩ := outer
  cases steps with
  | nil => cases houter
  | cons first more =>
      have hchars : (append ⟨first :: more⟩ inner).chars =
          chars ⟨first :: more⟩ ++ '.' :: inner.chars := by
        simp [append, chars, hsteps, Step.lead, Step.suffix]
      apply String.toList_injective
      simp [text, hchars]

end Location

/-! ## Breaches -/

namespace Constraints

/-- The breaches of what a group states for the elements of a list. -/
def elementBreaches (group : Constraints) (location : Location) (v : Json) : List Breach :=
  match group.element, v with
  | some element, .array items =>
      items.zipIdx.flatMap fun (item, i) =>
        (element.constraints.violations element.type item).map
          (Breach.mk (location.index i) element.constraints)
  | _, _ => []

/-- The breaches of a group by a field whose value may be absent. -/
def breaches (group : Constraints) (type : FieldType) (location : Location) :
    Option Json → List Breach
  | some v =>
      (group.violations type v).map (Breach.mk location group) ++
        if type.accepts v then group.elementBreaches location v else []
  | .none => if group.required then [⟨location, group, .missing⟩] else []

theorem mem_elementBreaches_iff
    {group : Constraints} {location : Location} {v : Json} {breach : Breach} :
    breach ∈ group.elementBreaches location v ↔
      ∃ items element i item violation,
        v = .array items ∧ group.element = some element ∧ items[i]? = some item ∧
          element.constraints.FailsOn element.type item violation ∧
          breach = ⟨location.index i, element.constraints, violation⟩ := by
  unfold elementBreaches
  split
  · next element items helement =>
      simp only [List.mem_flatMap, List.mem_map, Prod.exists, List.mem_zipIdx_iff_getElem?,
        mem_violations_iff]
      constructor
      · rintro ⟨item, i, hitem, violation, hfails, rfl⟩
        exact ⟨items, element, i, item, violation, rfl, helement, hitem, hfails, rfl⟩
      · rintro ⟨_, other, i, item, violation, hitems, hother, hitem, hfails, rfl⟩
        cases hitems
        rw [helement, Option.some.injEq] at hother
        subst hother
        exact ⟨item, i, hitem, violation, hfails, rfl⟩
  · next hnone =>
      constructor
      · intro hmem
        cases hmem
      · rintro ⟨items, element, _, _, _, hv, helement, -⟩
        exact (hnone element items helement hv).elim

/-- A breach of a group is one of presence, one of the value at the location, or one of an
element of the list there. -/
theorem mem_breaches_iff
    {group : Constraints} {type : FieldType} {location : Location} {v? : Option Json}
    {breach : Breach} :
    breach ∈ group.breaches type location v? ↔
      (v? = .none ∧ group.required = true ∧ breach = ⟨location, group, .missing⟩) ∨
      (∃ v violation, v? = some v ∧ group.FailsOn type v violation ∧
        breach = ⟨location, group, violation⟩) ∨
      ∃ items element i item violation, v? = some (.array items) ∧
        type.accepts (.array items) = true ∧ group.element = some element ∧
        items[i]? = some item ∧ element.constraints.FailsOn element.type item violation ∧
        breach = ⟨location.index i, element.constraints, violation⟩ := by
  cases v? with
  | none => by_cases hrequired : group.required = true <;> simp [breaches, hrequired]
  | some v =>
      rw [breaches, List.mem_append, List.mem_map]
      simp only [mem_violations_iff, reduceCtorEq, false_and, false_or, Option.some.injEq]
      apply or_congr
      · constructor
        · rintro ⟨violation, hfails, rfl⟩
          exact ⟨v, violation, rfl, hfails, rfl⟩
        · rintro ⟨_, violation, rfl, hfails, rfl⟩
          exact ⟨violation, hfails, rfl⟩
      · constructor
        · intro hmem
          split at hmem
          next htype =>
            obtain ⟨items, element, i, item, violation, rfl, hrest⟩ :=
              mem_elementBreaches_iff.mp hmem
            exact ⟨items, element, i, item, violation, rfl, htype, hrest⟩
          next => cases hmem
        · rintro ⟨items, element, i, item, violation, rfl, htype, hrest⟩
          rw [if_pos htype]
          exact mem_elementBreaches_iff.mpr ⟨items, element, i, item, violation, rfl, hrest⟩

theorem map_issue_elementBreaches (group : Constraints) (location : Location) (v : Json) :
    (group.elementBreaches location v).map Breach.issue = group.elementIssues location v := by
  unfold elementBreaches elementIssues
  cases group.element with
  | none => rfl
  | some element =>
      cases v with
      | array items =>
          simp only [List.map_flatMap, List.map_map]
          rfl
      | _ => rfl

theorem map_issue_breaches
    (group : Constraints) (type : FieldType) (location : Location) (v? : Option Json) :
    (group.breaches type location v?).map Breach.issue = group.issues type location v? := by
  cases v? with
  | none =>
      rw [breaches, issues]
      split <;> rfl
  | some v =>
      rw [breaches, issues, presentIssues, List.map_append, List.map_map]
      split
      · rw [map_issue_elementBreaches]
        rfl
      · rfl

end Constraints

namespace Visit

/-- The breaches that are found at a visit. -/
def breaches (visit : Visit) : List Breach :=
  if visit.rule.isInert then
    []
  else
    visit.rule.groups.flatMap fun group =>
      group.breaches visit.rule.type visit.location visit.value?

theorem map_issue_breaches (visit : Visit) :
    visit.breaches.map Breach.issue = visit.issues := by
  unfold breaches issues
  split
  · rfl
  · rw [List.map_flatMap]
    exact List.flatMap_congr fun group _ => group.map_issue_breaches _ _ _

end Visit

/-- The breaches of a schema by a payload. -/
def Schema.breaches (schema : Schema) (payload : Json) : List Breach :=
  (schema.visits payload.fields?).flatMap Visit.breaches

theorem Schema.map_issue_breaches (schema : Schema) (payload : Json) :
    (schema.breaches payload).map Breach.issue = (schema.verdict payload).issues := by
  rw [issues_verdict, issues, breaches, List.map_flatMap]
  exact List.flatMap_congr fun visit _ => visit.map_issue_breaches

/-! ## Moving a traversal under a location -/

/-- The same breach in an object that stands at a location. -/
def Breach.under (outer : Location) (breach : Breach) : Breach :=
  { breach with location := outer.append breach.location }

/-- The same visit in an object that stands at a location. -/
def Visit.under (outer : Location) (visit : Visit) : Visit :=
  { visit with base := outer.append visit.base }

theorem Constraints.elementBreaches_append
    (group : Constraints) (outer inner : Location) (v : Json) :
    group.elementBreaches (outer.append inner) v =
      (group.elementBreaches inner v).map (Breach.under outer) := by
  unfold elementBreaches
  split
  · rw [List.map_flatMap]
    refine List.flatMap_congr fun (item, i) _ => ?_
    simp only [List.map_map, ← Location.append_index]
    rfl
  · rfl

theorem Constraints.breaches_append
    (group : Constraints) (type : FieldType) (outer inner : Location) (v? : Option Json) :
    group.breaches type (outer.append inner) v? =
      (group.breaches type inner v?).map (Breach.under outer) := by
  cases v? with
  | none =>
      rw [breaches, breaches]
      split <;> rfl
  | some v =>
      rw [breaches, breaches, List.map_append, List.map_map]
      split
      · rw [elementBreaches_append]
        rfl
      · rfl

theorem Visit.breaches_under (outer : Location) (visit : Visit) :
    (visit.under outer).breaches = visit.breaches.map (Breach.under outer) := by
  unfold breaches
  rw [under]
  split
  · rfl
  · rw [List.map_flatMap]
    refine List.flatMap_congr fun group _ => ?_
    rw [location, ← Location.append_key, Constraints.breaches_append]
    rfl

namespace FieldRule

theorem nestedObjects_append (outer inner : Location) (v? : Option Json) :
    nestedObjects (outer.append inner) v? =
      (nestedObjects inner v?).map fun place => (outer.append place.1, place.2) := by
  unfold nestedObjects
  split
  · rfl
  · rw [List.map_filterMap]
    refine List.filterMap_congr fun (item, i) _ => ?_
    simp only [Option.map_map, ← Location.append_index]
    rfl
  · rfl

/-- The visits of a rule under a location are its visits elsewhere, moved there. -/
theorem visits_append
    (rule : FieldRule) (outer base : Location) (container : Option Json.Fields) :
    rule.visits (outer.append base) container =
      (rule.visits base container).map (Visit.under outer) := by
  induction rule using FieldRule.induction generalizing base container with
  | step rule ih =>
      rw [visits_eq, visits_eq, List.map_cons]
      split
      · rfl
      · rw [← Location.append_key, nestedObjects_append, List.flatMap_map, List.map_flatMap]
        congr 1
        refine List.flatMap_congr fun (inner, fields) _ => ?_
        simp only [visitsOfAll_eq_flatMap, List.map_flatMap]
        exact List.flatMap_congr fun child hchild => ih child hchild inner (some fields)

theorem visitsOfAll_append
    (rules : List FieldRule) (outer base : Location) (container : Option Json.Fields) :
    visitsOfAll (outer.append base) container rules =
      (visitsOfAll base container rules).map (Visit.under outer) := by
  rw [visitsOfAll_eq_flatMap, visitsOfAll_eq_flatMap, List.map_flatMap]
  exact List.flatMap_congr fun rule _ => rule.visits_append outer base container

/-! ## Where the visits of a rule lead -/

/-- A rule and the rules nested in it are visited at the location of its field and further
down. -/
theorem steps_prefix_of_mem_visits
    {rule : FieldRule} {base : Location} {container : Option Json.Fields} {visit : Visit}
    (hvisit : visit ∈ rule.visits base container) :
    (base.key rule.field).steps <+: visit.location.steps := by
  induction rule using FieldRule.induction generalizing base container with
  | step rule ih =>
      rcases mem_visits_iff.mp hvisit with rfl | ⟨-, v, inner, fields, -, hholds, hbelow⟩
      · exact List.prefix_refl _
      · obtain ⟨child, hchild, hmem⟩ := hbelow
        have hinner : (base.key rule.field).steps <+: inner.steps := by
          cases hholds with
          | object => exact List.prefix_refl _
          | item => exact List.prefix_append _ _
        have hkey : inner.steps <+: (inner.key child.field).steps := List.prefix_append _ _
        exact (hinner.trans hkey).trans (ih child hchild hmem)

end FieldRule

theorem Constraints.steps_prefix_of_mem_breaches
    {group : Constraints} {type : FieldType} {location : Location} {v? : Option Json}
    {breach : Breach} (hbreach : breach ∈ group.breaches type location v?) :
    location.steps <+: breach.location.steps := by
  rcases mem_breaches_iff.mp hbreach with hmissing | hvalue | helement
  · obtain ⟨-, -, rfl⟩ := hmissing
    exact List.prefix_refl _
  · obtain ⟨_, _, -, -, rfl⟩ := hvalue
    exact List.prefix_refl _
  · obtain ⟨_, _, _, _, _, -, -, -, -, -, rfl⟩ := helement
    exact List.prefix_append _ _

/-- The breaches of a schema are found in the fields of the payload and below. -/
theorem Schema.beginsWithKey_of_mem_breaches
    {schema : Schema} {payload : Json} {breach : Breach}
    (hbreach : breach ∈ schema.breaches payload) : breach.location.BeginsWithKey := by
  obtain ⟨visit, hvisit, hmem⟩ := List.mem_flatMap.mp hbreach
  obtain ⟨rule, -, hrule⟩ := FieldRule.mem_visitsOfAll_iff.mp hvisit
  have hlocation : visit.location.BeginsWithKey :=
    (Location.beginsWithKey_root_key rule.field).of_beginning
      (FieldRule.steps_prefix_of_mem_visits hrule)
  unfold Visit.breaches at hmem
  split at hmem
  · cases hmem
  · obtain ⟨group, -, hgroup⟩ := List.mem_flatMap.mp hmem
    exact hlocation.of_beginning (Constraints.steps_prefix_of_mem_breaches hgroup)

/-! ## Reports under a location -/

namespace Schema

/-- Under a location, the rules of a schema report the breaches of the schema by the object
there, moved under the location. -/
theorem flatMap_issues_visitsOfAll_under
    (schema : Schema) {outer : Location} (houter : outer.isRoot = false)
    (fields : Json.Fields) :
    (FieldRule.visitsOfAll outer (some fields) schema.rules).flatMap Visit.issues =
      (schema.breaches (.object fields)).map (Breach.issueUnder outer) := by
  have hvisits : FieldRule.visitsOfAll outer (some fields) schema.rules =
      (schema.visits (some fields)).map (Visit.under outer) := by
    rw [visits, ← FieldRule.visitsOfAll_append, Location.append_root]
  have hissue : ∀ breach ∈ schema.breaches (.object fields),
      (breach.under outer).issue = breach.issueUnder outer := by
    intro breach hbreach
    rw [Breach.issue, Breach.issueUnder,
      ← Location.text_append houter (beginsWithKey_of_mem_breaches hbreach)]
    rfl
  calc
    (FieldRule.visitsOfAll outer (some fields) schema.rules).flatMap Visit.issues =
        (schema.visits (some fields)).flatMap fun visit => (visit.under outer).issues := by
      rw [hvisits, List.flatMap_map]
    _ = (schema.visits (some fields)).flatMap fun visit =>
          visit.breaches.map fun breach => (breach.under outer).issue := by
      refine List.flatMap_congr fun visit _ => ?_
      rw [← Visit.map_issue_breaches, Visit.breaches_under, List.map_map]
      rfl
    _ = (schema.breaches (.object fields)).map fun breach => (breach.under outer).issue := by
      rw [breaches, List.map_flatMap]
      rfl
    _ = (schema.breaches (.object fields)).map (Breach.issueUnder outer) :=
      List.map_congr_left hissue

/-- What a schema reports of an element of a list at a location; of other values than
objects it reports nothing. -/
def itemReport (schema : Schema) (outer : Location) : Json → List Issue
  | .object fields => (schema.breaches (.object fields)).map (Breach.issueUnder outer)
  | _ => []

theorem itemIssues_rules
    (schema : Schema) {outer : Location} (houter : outer.isRoot = false) (item : Json) :
    FieldRule.itemIssues schema.rules outer item = schema.itemReport outer item := by
  cases item with
  | object fields => exact schema.flatMap_issues_visitsOfAll_under houter fields
  | _ => rfl

end Schema

/-- The report of a rule is that of its groups, followed by what its nested rules report as
a schema of their own of the object that the field holds, or of the objects in the list
that it holds, moved under the location of each. -/
theorem FieldRule.nested_report_is_moved_report
    {rule : FieldRule} (hfield : rule.field ≠ "") (hnested : (fieldsOf rule.nested).Nodup)
    (base : Location) (container : Option Json.Fields) :
    let location := base.key rule.field
    let nested := Schema.ofRules rule.nested
    let below := nestedIssues rule.nested location (presentValue? container rule.field)
    rule.report base container =
        rule.ownReport location (presentValue? container rule.field) ++ below ∧
      (∀ fields, HasValue container rule.field (.object fields) →
        below = (nested.breaches (.object fields)).map (Breach.issueUnder location)) ∧
      (∀ items, HasValue container rule.field (.array items) →
        below = items.zipIdx.flatMap fun (item, i) =>
          nested.itemReport (location.index i) item) ∧
      ((∀ fields, ¬HasValue container rule.field (.object fields)) →
        (∀ items, ¬HasValue container rule.field (.array items)) → below = []) ∧
      (∀ v, (nested.verdict v).issues = (nested.breaches v).map Breach.issue) ∧
      ∀ breach outer, Breach.MovesUnder breach outer breach.issue (breach.issueUnder outer) := by
  intro location nested below
  have hrules : nested.rules = rule.nested :=
    congrArg Schema.rules (Schema.ofRules_rules ⟨rule.nested, hnested⟩)
  have hroot : location.isRoot = false := Location.isRoot_key base rule.field
  refine ⟨report_eq_append_nestedIssues hfield base container, ?_, ?_, ?_,
    fun v => (nested.map_issue_breaches v).symm, fun breach outer => breach.movesUnder outer⟩
  · intro fields hv
    simp only [below]
    rw [presentValue?_eq_some_iff.mpr hv, nestedIssues_object, ← hrules]
    exact nested.flatMap_issues_visitsOfAll_under hroot fields
  · intro items hv
    simp only [below]
    rw [presentValue?_eq_some_iff.mpr hv, nestedIssues_array, ← hrules]
    refine List.flatMap_congr fun (item, i) _ => ?_
    exact nested.itemIssues_rules (Location.isRoot_index location i) item
  · intro hobject harray
    simp only [below]
    cases hvalue : presentValue? container rule.field with
    | none => rfl
    | some v =>
        have hv := presentValue?_eq_some_iff.mp hvalue
        cases v with
        | object fields => exact absurd hv (hobject fields)
        | array items => exact absurd hv (harray items)
        | _ => rfl

/-- A staff whose members have a name and are of age. -/
def staffRule : FieldRule where
  field := "staff"
  type := .list
  groups := [{ required := true }]
  nested :=
    [{ field := "name", type := .text, groups := [{ required := true }] },
      { field := "age", type := .wholeNumber,
        groups := [{ message := some "too young", min := some (.whole 18) }] }]

/-- One entry that is no object, and a member without a name who is not of age. -/
def youngStaff : List Json :=
  [.string "none", .object [("age", .ofNat 5)]]

theorem youngStaff_report_is_moved_report :
    staffRule.field ≠ "" ∧ (FieldRule.fieldsOf staffRule.nested).Nodup ∧
      HasValue (some [("staff", .array youngStaff)]) staffRule.field (.array youngStaff) ∧
      (staffRule.report (Location.root.key "team") (some [("staff", .array youngStaff)])) =
        [⟨"team.staff[1].name", .missing, "Parameter team.staff[1].name is required"⟩,
          ⟨"team.staff[1].age", .outOfRange, "too young"⟩] ∧
      ((Schema.ofRules staffRule.nested).verdict (.object [("age", .ofNat 5)])).issues =
        [⟨"name", .missing, "Parameter name is required"⟩,
          ⟨"age", .outOfRange, "too young"⟩] := by
  have hfield : staffRule.field ≠ "" := by decide
  have hnested : (FieldRule.fieldsOf staffRule.nested).Nodup := by decide
  have hv : HasValue (some [("staff", .array youngStaff)]) staffRule.field
      (.array youngStaff) := ⟨_, rfl, rfl, by simp, by simp⟩
  obtain ⟨hreport, -, harray, -, hstandalone, -⟩ :=
    FieldRule.nested_report_is_moved_report hfield hnested (Location.root.key "team")
      (some [("staff", .array youngStaff)])
  refine ⟨hfield, hnested, hv, ?_, ?_⟩
  · rw [hreport, harray youngStaff hv]
    decide
  · rw [hstandalone]
    decide

end ParamRules
