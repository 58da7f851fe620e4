import ParamRules.Proofs.Report.Exactness
import ParamRules.Proofs.Schema.KeptEntries

/-!
# Declared types

The type of a rule is checked by its groups: each of them, on its own, reports a value of
another type.  So a verdict without issues means that every visited value has its declared
type as far as its rule has groups.  A rule without groups reports nothing, whatever the
value is; such a rule is read from an entry with no object under `opts`.
-/

namespace ParamRules

/-- A check that fails at a visited rule is reported. -/
theorem Schema.mem_issues_of_fails
    {schema : Schema} {payload : Json} {rule : FieldRule} {location : Location}
    {container : Option Json.Fields} {group : Constraints} {check : Key} {issue : Issue}
    (hvisited : Visited schema.rules payload.fields? rule location container)
    (hgroup : group ∈ rule.groups)
    (hfails : group.Fails rule location container check issue) :
    issue ∈ schema.issues payload := by
  obtain ⟨hfield, base, rfl, hvisit⟩ := visited_iff_mem_visitsOfAll.mp hvisited
  refine List.mem_flatMap.mpr ⟨⟨rule, base, container⟩, hvisit, ?_⟩
  exact Visit.mem_issues_iff.mpr ⟨hfield, group, hgroup, check, hfails⟩

/-- Where nothing is reported, a rule with a group meets only values of its type. -/
theorem Schema.accepts_of_issues_eq_nil
    {schema : Schema} {payload : Json} (hissues : schema.issues payload = [])
    {rule : FieldRule} {location : Location} {container : Option Json.Fields} {v : Json}
    (hvisited : Visited schema.rules payload.fields? rule location container)
    (hv : HasValue container rule.field v) (hgroups : rule.groups ≠ []) :
    rule.type.accepts v = true := by
  by_contra htype
  rw [Bool.not_eq_true] at htype
  obtain ⟨group, hgroup⟩ := List.exists_mem_of_ne_nil rule.groups hgroups
  have hfails : group.Fails rule location container [0]
      (group.issue location.text (.wrongType rule.type)) :=
    .value hv (.wrongType (Json.not_hasType_iff.mpr htype)) (Issue.reports_iff.mpr rfl)
  have hreported := mem_issues_of_fails hvisited hgroup hfails
  rw [hissues] at hreported
  cases hreported

/-- Groups are read if and only if the entry has one. -/
theorem Constraints.ne_nil_iff_of_readGroups
    {fields : Json.Fields} {groups : List Constraints}
    (hgroups : readGroups fields = .ok groups) :
    groups ≠ [] ↔ ∃ group, StatesGroup fields group := by
  constructor
  · intro hne
    obtain ⟨group, hgroup⟩ := List.exists_mem_of_ne_nil groups hne
    obtain ⟨opts, inner, hopts, -, rfl | ⟨items, rfl, hmem⟩⟩ :=
      exists_of_mem_readGroups hgroups hgroup
    · exact ⟨inner, .inl hopts⟩
    · exact ⟨inner, .inr ⟨items, hopts, hmem⟩⟩
  · rintro ⟨group, hopts | ⟨items, hopts, hmem⟩⟩ rfl
    · rw [readGroups, hopts] at hgroups
      obtain ⟨_, -, hgroups⟩ := exists_of_bind_eq_ok hgroups
      cases hgroups
    · rw [readGroups, hopts] at hgroups
      have hnone := eq_nil_of_mapM_eq_ok_nil hgroups
      have hobject : .object group ∈ items.filter fun item => item.fields?.isSome :=
        List.mem_filter.mpr ⟨hmem, rfl⟩
      rw [hnone] at hobject
      cases hobject

/-- The rule for an entry has groups if and only if the entry has one. -/
theorem FieldRule.groups_ne_nil_iff
    {fields : Json.Fields} {rule : FieldRule} (h : keptRule? (.object fields) = some rule) :
    rule.groups ≠ [] ↔ ∃ group, StatesGroup fields group := by
  obtain ⟨own, hown, rfl⟩ := keptRule?_object_eq_some_iff.mp h
  obtain ⟨_, _, _, groups, -, -, -, -, hgroups, rfl⟩ := rule?_ofFields_eq_some_iff.mp hown
  exact Constraints.ne_nil_iff_of_readGroups hgroups

namespace Schema

/-- If a description leaves no issue with a payload, then every value that one of its
rules is held against has the declared type, provided that the rule has a group. -/
theorem accepts_of_verdict_eq_checked_nil
    {description payload : Json}
    (hverdict : (ofDescription description).verdict payload = .checked [])
    {rule : FieldRule} {location : Location} {container : Option Json.Fields} {v : Json}
    (hvisited :
      Visited (ofDescription description).rules payload.fields? rule location container)
    (hv : HasValue container rule.field v) (hgroups : rule.groups ≠ []) :
    rule.type.accepts v = true := by
  have hissues : (ofDescription description).issues payload = [] := by
    rw [← issues_verdict, hverdict, Verdict.issues]
  exact accepts_of_issues_eq_nil hissues hvisited hv hgroups

/-- Users with an age, both with a group that constrains nothing but the type. -/
def groupedUsers : Json :=
  .array [.object [("field", .string "users"), ("type", .string "list"),
    ("opts", .object []),
    ("items", .array [.object [("field", .string "age"), ("type", .string "integer"),
      ("opts", .array [.object []])]])]]

/-- A payload with one user who has an age. -/
def agedUser : Json :=
  .object [("users", .array [.string "nobody", .object [("age", .ofNat 30)]])]

theorem accepts_age_of_agedUser :
    (ofDescription groupedUsers).verdict agedUser = .checked [] ∧
      Visited (ofDescription groupedUsers).rules agedUser.fields?
        { field := "age", type := .wholeNumber, groups := [{}] }
        (((Location.root.key "users").index 1).key "age") (some [("age", .ofNat 30)]) ∧
      HasValue (some [("age", .ofNat 30)]) "age" (.ofNat 30) ∧
      FieldType.wholeNumber.accepts (.ofNat 30) = true := by
  have hverdict : (ofDescription groupedUsers).verdict agedUser = .checked [] := by decide
  have hrules : (ofDescription groupedUsers).rules =
      [{ field := "users", type := .list, groups := [{}],
         nested := [{ field := "age", type := .wholeNumber, groups := [{}] }] }] := rfl
  have husers : HasValue agedUser.fields? "users"
      (.array [.string "nobody", .object [("age", .ofNat 30)]]) :=
    ⟨_, rfl, rfl, by simp, by simp⟩
  have hvisited : Visited (ofDescription groupedUsers).rules agedUser.fields?
      { field := "age", type := .wholeNumber, groups := [{}] }
      (((Location.root.key "users").index 1).key "age") (some [("age", .ofNat 30)]) := by
    rw [hrules]
    exact .nested (.top List.mem_cons_self (by decide)) husers (.item rfl)
      List.mem_cons_self (by decide)
  have hv : HasValue (some [("age", .ofNat 30)]) "age" (.ofNat 30) :=
    ⟨_, rfl, rfl, by simp [Json.ofNat], by simp [Json.ofNat]⟩
  exact ⟨hverdict, hvisited, hv,
    accepts_of_verdict_eq_checked_nil hverdict hvisited hv (by simp)⟩

/-- An age that is declared to be a whole number, without a group. -/
def ungroupedAge : Json :=
  .array [.object [("field", .string "age"), ("type", .string "integer")]]

/-- Text passes for the age, since no group checks it. -/
theorem ungroupedAge_admits_text :
    (ofDescription ungroupedAge).verdict (.object [("age", .string "old")]) =
        .checked [] ∧
      Visited (ofDescription ungroupedAge).rules (some [("age", .string "old")])
        { field := "age", type := .wholeNumber } (Location.root.key "age")
        (some [("age", .string "old")]) ∧
      HasValue (some [("age", .string "old")]) "age" (.string "old") ∧
      FieldType.wholeNumber.accepts (.string "old") = false := by
  have hrules : (ofDescription ungroupedAge).rules =
      [{ field := "age", type := .wholeNumber }] := rfl
  have hvisited : Visited (ofDescription ungroupedAge).rules (some [("age", .string "old")])
      { field := "age", type := .wholeNumber } (Location.root.key "age")
      (some [("age", .string "old")]) := by
    rw [hrules]
    exact .top List.mem_cons_self (by decide)
  have hv : HasValue (some [("age", .string "old")]) "age" (.string "old") :=
    ⟨_, rfl, rfl, by simp, by simp⟩
  exact ⟨by decide, hvisited, hv, rfl⟩

end Schema

end ParamRules
