import ParamRules.Proofs.Report.Measurement
import ParamRules.Proofs.Report.RuleReports
import ParamRules.Proofs.Report.Wording

/-!
# Values of the wrong type

A visit of a rule whose field holds a value of another type yields one issue of that kind
for each group of the rule, and nothing else.  Whether the rules nested in it are visited
from there is up to the value alone: an object, or an object in a list, is held against them
whatever the type of the rule is.  With any other value of the wrong type, the groups are
all that is reported from there.

This speaks of one visit and not of one place: two rules may be visited at the same place,
and then each of them reports the value.
-/

namespace ParamRules

/-! ## Blocks of visits -/

namespace FieldRule

theorem visits_infix_visitsOfAll
    {rule : FieldRule} {rules : List FieldRule} (hrule : rule ∈ rules)
    (base : Location) (container : Option Json.Fields) :
    rule.visits base container <:+: visitsOfAll base container rules := by
  rw [visitsOfAll_eq_flatMap, List.flatMap_def]
  exact List.infix_of_mem_flatten (List.mem_map_of_mem hrule)

/-- The visits of a nested rule in an object stand together among those of the rule
around it. -/
theorem visits_infix_visits
    {rule child : FieldRule} {base inner : Location} {container : Option Json.Fields}
    {v : Json} {fields : Json.Fields} (hfield : rule.field ≠ "")
    (hv : HasValue container rule.field v)
    (hholds : HoldsObject (base.key rule.field) v inner fields)
    (hchild : child ∈ rule.nested) :
    child.visits inner (some fields) <:+: rule.visits base container := by
  have hobject : (inner, fields) ∈
      nestedObjects (base.key rule.field) (presentValue? container rule.field) :=
    mem_nestedObjects_iff.mpr ⟨v, presentValue?_eq_some_iff.mpr hv, hholds⟩
  have hrow := visits_infix_visitsOfAll hchild inner (some fields)
  rw [visits_eq rule, if_neg hfield, List.flatMap_def]
  refine (hrow.trans ?_).trans (List.suffix_cons _ _).isInfix
  exact List.infix_of_mem_flatten (List.mem_map_of_mem hobject)

end FieldRule

/-- The visits of a visited rule and of the rules nested in it stand together in the
traversal. -/
theorem Visited.visits_infix
    {rules : List FieldRule} {payload : Option Json.Fields}
    {rule : FieldRule} {location : Location} {container : Option Json.Fields}
    (hvisited : Visited rules payload rule location container) :
    rule.field ≠ "" ∧ ∃ base, location = base.key rule.field ∧
      rule.visits base container <:+: FieldRule.visitsOfAll .root payload rules := by
  induction hvisited with
  | top hrule hfield =>
      exact ⟨hfield, .root, rfl, FieldRule.visits_infix_visitsOfAll hrule _ _⟩
  | nested _ hv hholds hchild hfield ih =>
      obtain ⟨hparent, base, rfl, hinfix⟩ := ih
      have hwithin := FieldRule.visits_infix_visits hparent hv hholds hchild
      exact ⟨hfield, _, rfl, hwithin.trans hinfix⟩

/-! ## Reports on values of the wrong type -/

theorem Constraints.issues_of_wrongType
    {type : FieldType} {v : Json} (htype : ¬v.HasType type)
    (group : Constraints) (location : Location) :
    group.issues type location (some v) = [group.issue location.text (.wrongType type)] := by
  rw [Json.not_hasType_iff] at htype
  simp [issues, presentIssues, violations, htype]

namespace FieldRule

/-- The groups of a rule report a value of the wrong type once each. -/
theorem forall₂_reports_ownReport
    {rule : FieldRule} {v : Json} (htype : ¬v.HasType rule.type) (location : Location) :
    List.Forall₂ (fun group issue => issue.Reports group location (.wrongType rule.type))
      rule.groups (rule.ownReport location (some v)) := by
  have hown : rule.ownReport location (some v) =
      rule.groups.map fun group => group.issue location.text (.wrongType rule.type) := by
    simp only [ownReport, Constraints.issues_of_wrongType htype]
    exact List.map_eq_flatMap.symm
  rw [hown, List.forall₂_map_right_iff, List.forall₂_same]
  intro group _
  exact Issue.reports_iff.mpr rfl

/-- The visits of a rule begin with its own, and those after it are made in the objects that
the value of its field holds. -/
theorem exists_visits_eq_cons
    {rule : FieldRule} {base : Location} {container : Option Json.Fields} {v : Json}
    (hfield : rule.field ≠ "") (hv : HasValue container rule.field v) :
    ∃ below, rule.visits base container = ⟨rule, base, container⟩ :: below ∧
      ∀ visit, visit ∈ below ↔
        ∃ inner fields, HoldsObject (base.key rule.field) v inner fields ∧
          ∃ child ∈ rule.nested, visit ∈ child.visits inner (some fields) := by
  refine ⟨_, rule.visits_eq base container, fun visit => ?_⟩
  rw [if_neg hfield, mem_nestedVisits_iff, presentValue?_eq_some_iff.mpr hv]
  constructor
  · rintro ⟨w, inner, fields, hw, hholds, hchild⟩
    cases hw
    exact ⟨inner, fields, hholds, hchild⟩
  · rintro ⟨inner, fields, hholds, hchild⟩
    exact ⟨v, inner, fields, rfl, hholds, hchild⟩

end FieldRule

/-- A visited rule whose field holds a value of another type has a block of its own in the
report.  It begins with one issue of that kind for each group of the rule, at its place, and
goes on with what the visits of nested rules in the objects that the value holds report.
Without such an object there are no such visits. -/
theorem Schema.wrongType_block_of_visited
    {schema : Schema} {payload : Json} {rule : FieldRule} {location : Location}
    {container : Option Json.Fields} {v : Json}
    (hvisited : Visited schema.rules payload.fields? rule location container)
    (hv : HasValue container rule.field v) (htype : ¬v.HasType rule.type) :
    ∃ base earlier below later own,
      location = base.key rule.field ∧
      schema.visits payload.fields? =
        earlier ++ (⟨rule, base, container⟩ :: below) ++ later ∧
      (∀ visit, visit ∈ below ↔
        ∃ inner fields, HoldsObject location v inner fields ∧
          ∃ child ∈ rule.nested, visit ∈ child.visits inner (some fields)) ∧
      ((∀ inner fields, ¬HoldsObject location v inner fields) → below = []) ∧
      (schema.verdict payload).issues =
        earlier.flatMap Visit.issues ++ (own ++ below.flatMap Visit.issues) ++
          later.flatMap Visit.issues ∧
      List.Forall₂ (fun group issue => issue.Reports group location (.wrongType rule.type))
        rule.groups own := by
  obtain ⟨hfield, base, rfl, earlier, later, hvisits⟩ := hvisited.visits_infix
  obtain ⟨below, hcons, hbelow⟩ := FieldRule.exists_visits_eq_cons hfield hv
  rw [hcons] at hvisits
  refine ⟨base, earlier, below, later, rule.ownReport (base.key rule.field) (some v), rfl,
    hvisits.symm, hbelow, ?_, ?_, FieldRule.forall₂_reports_ownReport htype _⟩
  · intro hnone
    apply List.eq_nil_iff_forall_not_mem.mpr
    intro visit hvisit
    obtain ⟨inner, fields, hholds, -⟩ := (hbelow visit).mp hvisit
    exact hnone inner fields hholds
  · have hown := FieldRule.issues_visit hfield base container
    rw [presentValue?_eq_some_iff.mpr hv] at hown
    rw [issues_verdict, issues, visits, ← hvisits, List.flatMap_append, List.flatMap_append,
      List.flatMap_cons, hown]

/-- The address of a user, with two groups and a city, which is required. -/
def addressRule : FieldRule where
  field := "address"
  type := .object
  groups := [{ required := true }, { message := some "no address" }]
  nested := [{ field := "city", type := .text, groups := [{ required := true }] }]

/-- Users, each with an address. -/
def addressedUsers : Schema where
  rules := [{ field := "users", type := .list, groups := [{}], nested := [addressRule] }]
  nodup_fields := by decide

/-- The fields of a user whose address is a list of strings. -/
def streetFields : Json.Fields := [("address", .array [.string "Main Street"])]

/-- A payload with that user. -/
def streetUser : Json :=
  .object [("users", .array [.object streetFields])]

theorem addressRule_visited_for_streetUser :
    Visited addressedUsers.rules streetUser.fields? addressRule
      (((Location.root.key "users").index 0).key "address") (some streetFields) := by
  have husers : Visited addressedUsers.rules streetUser.fields?
      { field := "users", type := .list, groups := [{}], nested := [addressRule] }
      (Location.root.key "users") streetUser.fields? :=
    .top List.mem_cons_self (by decide)
  have hv : HasValue streetUser.fields? "users" (.array [.object streetFields]) :=
    ⟨_, rfl, rfl, by simp, by simp⟩
  exact .nested husers hv (.item (i := 0) rfl) List.mem_cons_self
    (by decide)

/-- The list in place of the address is reported once for each group, and the city is not
asked for. -/
theorem streetUser_block :
    Visited addressedUsers.rules streetUser.fields? addressRule
        (((Location.root.key "users").index 0).key "address") (some streetFields) ∧
      HasValue (some streetFields) addressRule.field (.array [.string "Main Street"]) ∧
      ¬Json.HasType (.array [.string "Main Street"]) addressRule.type ∧
      ∃ earlier later,
        (addressedUsers.verdict streetUser).issues =
          earlier ++
            [⟨"users[0].address", .wrongType,
                "Parameter users[0].address must be of type Object"⟩,
              ⟨"users[0].address", .wrongType, "no address"⟩] ++ later := by
  have hv : HasValue (some streetFields) addressRule.field
      (.array [.string "Main Street"]) := ⟨_, rfl, rfl, by simp, by simp⟩
  have hnone (location inner : Location) (fields : Json.Fields) :
      ¬HoldsObject location (.array [.string "Main Street"]) inner fields := by
    intro hholds
    cases hholds with
    | item hitem =>
        have hmem := List.mem_of_getElem? hitem
        simp at hmem
  have htype : ¬Json.HasType (.array [.string "Main Street"]) addressRule.type := by
    intro h
    cases h
  refine ⟨addressRule_visited_for_streetUser, hv, htype, ?_⟩
  obtain ⟨base, earlier, below, later, own, -, -, -, hbelow, hissues, hown⟩ :=
    Schema.wrongType_block_of_visited addressRule_visited_for_streetUser hv htype
  have hreports : own =
      [⟨"users[0].address", .wrongType, "Parameter users[0].address must be of type Object"⟩,
        ⟨"users[0].address", .wrongType, "no address"⟩] := by
    obtain _ | ⟨hfirst, _ | ⟨hsecond, _ | _⟩⟩ := hown
    rw [Issue.reports_iff.mp hfirst, Issue.reports_iff.mp hsecond]
    rfl
  refine ⟨earlier.flatMap Visit.issues, later.flatMap Visit.issues, ?_⟩
  rw [hissues, hbelow (hnone _), List.flatMap_nil, List.append_nil, hreports]

/-! ## Objects of the wrong type -/

/-- A user, whose name is required. -/
def userRule : FieldRule where
  field := "user"
  type := .object
  groups := [{ required := true }]
  nested := [{ field := "name", type := .text, groups := [{ required := true }] }]

/-- The schema with that rule alone. -/
def oneUser : Schema where
  rules := [userRule]
  nodup_fields := by decide

/-- A list with an object stands where one user should. -/
def listedUser : Json :=
  .object [("user", .array [.object []])]

/-- A list in place of an object is not reported alone: its elements are held against the
nested rules. -/
theorem listedUser_reported_with_element :
    Visited oneUser.rules listedUser.fields? userRule (Location.root.key "user")
        listedUser.fields? ∧
      userRule.groups ≠ [] ∧
      HasValue listedUser.fields? userRule.field (.array [.object []]) ∧
      userRule.type.accepts (.array [.object []]) = false ∧
      (oneUser.verdict listedUser).issues =
        [⟨"user", .wrongType, "Parameter user must be of type Object"⟩,
          ⟨"user[0].name", .missing, "Parameter user[0].name is required"⟩] := by
  have hvisited : Visited oneUser.rules listedUser.fields? userRule
      (Location.root.key "user") listedUser.fields? :=
    .top List.mem_cons_self (by decide)
  have hv : HasValue listedUser.fields? userRule.field (.array [.object []]) :=
    ⟨_, rfl, rfl, by simp, by simp⟩
  exact ⟨hvisited, by simp [userRule], hv, rfl, by decide⟩

end ParamRules
