import ParamRules.Proofs.Json.ReadBack
import ParamRules.Proofs.Report.Equivalence
import ParamRules.Proofs.Schema.InertRules
import ParamRules.Report.Payload

/-!
# Verdicts depend on declared fields only

Two containers of parameters that are equivalent for the rules of a schema have the same
verdict, issue for issue.  Fields that no rule names, the order of fields at any depth,
the kind of container and the way in which a field is absent make no difference.
-/

namespace ParamRules

open Json.Fields

/-- What an optional object holds under a key. -/
def holding (container : Option Json.Fields) (key : String) : Option Json :=
  container.bind fun fields => get? fields key

theorem presentValue?_eq_filter (container : Option Json.Fields) (field : String) :
    presentValue? container field =
      (holding container field).filter fun v => !v.countsAsAbsent := rfl

theorem presentValue?_eq_none
    {container : Option Json.Fields} {field : String}
    (h : IsAbsent (holding container field)) : presentValue? container field = none := by
  rw [presentValue?_eq_filter]
  generalize holding container field = held at h
  cases h <;> rfl

theorem presentValue?_eq_some
    {container : Option Json.Fields} {field : String} {v : Json}
    (hv : holding container field = some v) (hpresent : ¬IsAbsent (some v)) :
    presentValue? container field = some v := by
  rw [isAbsent_some_iff, Bool.not_eq_true] at hpresent
  rw [presentValue?_eq_filter, hv, Option.filter_some, hpresent]
  rfl

/-- In equivalent containers the field of a rule is absent in both or has equivalent
values. -/
theorem EquivalentAt.presentValue?_cases
    {rule : FieldRule} {a b : Option Json.Fields} {field : String}
    (h : EquivalentAt rule (holding a field) (holding b field)) :
    (presentValue? a field = none ∧ presentValue? b field = none) ∨
      ∃ v w, presentValue? a field = some v ∧ presentValue? b field = some w ∧
        EquivalentValues rule v w := by
  generalize ha : holding a field = a? at h
  generalize hb : holding b field = b? at h
  cases h with
  | absent habsent hbabsent =>
      left
      exact ⟨presentValue?_eq_none (ha ▸ habsent), presentValue?_eq_none (hb ▸ hbabsent)⟩
  | @present _ v w hv hw hvalues =>
      right
      exact ⟨v, w, presentValue?_eq_some ha hv, presentValue?_eq_some hb hw, hvalues⟩

namespace FieldRule

/-! ## The rules nested in a rule -/

/-- The issues of nested rules in the objects that a value holds. -/
def nestedIssues (nested : List FieldRule) (location : Location) (v? : Option Json) :
    List Issue :=
  ((nestedObjects location v?).flatMap fun (inner, fields) =>
    visitsOfAll inner (some fields) nested).flatMap Visit.issues

/-- The issues of nested rules in an element of a list. -/
def itemIssues (nested : List FieldRule) (location : Location) (item : Json) : List Issue :=
  match item.fields? with
  | some fields => (visitsOfAll location (some fields) nested).flatMap Visit.issues
  | none => []

theorem nestedIssues_object
    (nested : List FieldRule) (location : Location) (fields : Json.Fields) :
    nestedIssues nested location (some (.object fields)) =
      (visitsOfAll location (some fields) nested).flatMap Visit.issues := by
  simp [nestedIssues, nestedObjects]

theorem nestedIssues_array
    (nested : List FieldRule) (location : Location) (items : List Json) :
    nestedIssues nested location (some (.array items)) =
      items.zipIdx.flatMap fun (item, i) => itemIssues nested (location.index i) item := by
  rw [nestedIssues, nestedObjects, List.filterMap_eq_flatMap_toList, List.flatMap_assoc,
    List.flatMap_assoc]
  refine List.flatMap_congr fun entry _ => ?_
  obtain ⟨item, i⟩ := entry
  cases hitem : item.fields? with
  | none => simp [itemIssues, hitem]
  | some fields => simp [itemIssues, hitem]

/-- The rule reports the same in all containers that are equivalent for it, and so do the
rules nested in it. -/
def ReportsAlike (rule : FieldRule) : Prop :=
  ∀ (base : Location) (a b : Option Json.Fields),
    (rule.field ≠ "" → EquivalentAt rule (holding a rule.field) (holding b rule.field)) →
      (rule.visits base a).flatMap Visit.issues = (rule.visits base b).flatMap Visit.issues

theorem issues_visitsOfAll_eq
    {rules : List FieldRule} (hrules : ∀ rule ∈ rules, rule.ReportsAlike)
    {a b : Option Json.Fields}
    (h : EquivalentFor rules (holding a) (holding b)) (base : Location) :
    (visitsOfAll base a rules).flatMap Visit.issues =
      (visitsOfAll base b rules).flatMap Visit.issues := by
  obtain ⟨hfields⟩ := h
  rw [visitsOfAll_eq_flatMap, visitsOfAll_eq_flatMap, List.flatMap_assoc, List.flatMap_assoc]
  exact List.flatMap_congr fun rule hrule =>
    hrules rule hrule base a b fun hfield => hfields rule hrule hfield

/-- Of equivalent elements, either both are objects or none is. -/
theorem itemIssues_eq
    {rule : FieldRule} (hnested : ∀ child ∈ rule.nested, child.ReportsAlike)
    {x y : Json} (h : EquivalentParts rule x y) (location : Location) :
    itemIssues rule.nested location x = itemIssues rule.nested location y := by
  cases h.alike with
  | object a b =>
      have hfields : EquivalentFor rule.nested (holding (some a)) (holding (some b)) :=
        h.fields
      exact issues_visitsOfAll_eq hnested hfields location
  | null | bool | number | string | array => rfl

theorem nestedIssues_eq
    {rule : FieldRule} (hnested : ∀ child ∈ rule.nested, child.ReportsAlike)
    {v w : Json} (h : EquivalentValues rule v w) (location : Location) :
    nestedIssues rule.nested location (some v) =
      nestedIssues rule.nested location (some w) := by
  cases h.alike with
  | object a b =>
      have hfields : EquivalentFor rule.nested (holding (some a)) (holding (some b)) :=
        h.fields
      rw [nestedIssues_object, nestedIssues_object]
      exact issues_visitsOfAll_eq hnested hfields location
  | array hlength =>
      rw [nestedIssues_array, nestedIssues_array]
      exact flatMap_zipIdx_congr hlength fun i x y hx hy =>
        itemIssues_eq hnested (h.parts hx hy) (location.index i)
  | null | bool | number | string => rfl

/-! ## One rule -/

theorem issues_own_eq
    {rule : FieldRule} {a b : Option Json.Fields} (base : Location)
    (h : EquivalentAt rule (holding a rule.field) (holding b rule.field)) :
    Visit.issues ⟨rule, base, a⟩ = Visit.issues ⟨rule, base, b⟩ := by
  unfold Visit.issues
  split
  · rfl
  · refine List.flatMap_congr fun group _ => ?_
    change group.issues rule.type _ (presentValue? a rule.field) =
      group.issues rule.type _ (presentValue? b rule.field)
    rcases h.presentValue?_cases with ⟨ha, hb⟩ | ⟨v, w, ha, hb, hvalues⟩
    · rw [ha, hb]
      rfl
    · rw [ha, hb]
      exact hvalues.presentIssues_eq group rule.type _

theorem flatMap_issues_visits (rule : FieldRule) (hfield : rule.field ≠ "")
    (base : Location) (container : Option Json.Fields) :
    (rule.visits base container).flatMap Visit.issues =
      Visit.issues ⟨rule, base, container⟩ ++
        nestedIssues rule.nested (base.key rule.field)
          (presentValue? container rule.field) := by
  rw [visits_eq, if_neg hfield, List.flatMap_cons, nestedIssues]

/-- Every rule reports the same in equivalent containers. -/
theorem reportsAlike (rule : FieldRule) : rule.ReportsAlike := by
  induction rule using FieldRule.induction with
  | step rule ih =>
      intro base a b h
      by_cases hfield : rule.field = ""
      · have hinert : rule.isInert = true := by simp [isInert, hfield]
        rw [flatMap_issues_visits_of_isInert hinert, flatMap_issues_visits_of_isInert hinert]
      · have hat := h hfield
        have hown := issues_own_eq base hat
        have hnested :
            nestedIssues rule.nested (base.key rule.field) (presentValue? a rule.field) =
              nestedIssues rule.nested (base.key rule.field) (presentValue? b rule.field) := by
          rcases hat.presentValue?_cases with ⟨ha, hb⟩ | ⟨v, w, ha, hb, hvalues⟩
          · rw [ha, hb]
          · rw [ha, hb]
            exact nestedIssues_eq ih hvalues _
        rw [rule.flatMap_issues_visits hfield, rule.flatMap_issues_visits hfield, hown, hnested]

end FieldRule

/-! ## Containers of parameters -/

theorem Payload.get?_eq_holding (payload : Payload) :
    payload.get? = holding payload.fields? := by
  funext key
  cases payload with
  | value v => rfl
  | object fields => rfl
  | keyed entries hkeys =>
      rw [Payload.fields?, Json.Fields.merge_of_nodup hkeys]
      rfl

/-- Containers that are equivalent for the rules of a schema have the same verdict. -/
theorem Schema.verdictOf_eq_of_equivalentFor
    (schema : Schema) {a b : Payload} (h : EquivalentFor schema.rules a.get? b.get?) :
    schema.verdictOf a = schema.verdictOf b := by
  rw [Payload.get?_eq_holding, Payload.get?_eq_holding] at h
  have hissues : (schema.visits a.fields?).flatMap Visit.issues =
      (schema.visits b.fields?).flatMap Visit.issues :=
    FieldRule.issues_visitsOfAll_eq (fun rule _ => rule.reportsAlike) h .root
  rw [Schema.verdictOf, Schema.verdictOf, hissues]

/-- Users with a name, and a note. -/
def userRules : Schema where
  rules :=
    [{ field := "users", type := .list, groups := [{ min := some (.whole 2) }],
       nested := [{ field := "name", type := .text, groups := [{ required := true }] }] },
      { field := "note", type := .text, groups := [{}] }]
  nodup_fields := by decide

/-- Two users and some fields that no rule names; absence is written out. -/
def wordyUsers : Payload :=
  .value (.object [("note", .null), ("users", .array
    [.object [("age", .ofNat 30), ("name", .string "Jo")], .object [("name", .string "")]])])

/-- The same users, and another field that no rule names. -/
def terseUsers : Payload :=
  .keyed [("users", .array [.object [("name", .string "Jo")], .object []]),
    ("trace", .ofNat 7)] (by decide)

theorem equivalentFor_wordyUsers :
    EquivalentFor userRules.rules wordyUsers.get? terseUsers.get? := by
  refine .intro fun rule hrule _ => ?_
  rcases List.mem_pair.mp hrule with rfl | rfl
  · refine .present (fun h => nomatch h) (fun h => nomatch h) (.list rfl ?_)
    intro i x y hx hy
    rcases i with _ | _ | i
    · cases hx
      cases hy
      refine .object (.intro fun child hchild _ => ?_)
      obtain rfl := List.mem_singleton.mp hchild
      have hname : ¬IsAbsent (some (.string "Jo")) := by
        rw [isAbsent_some_iff]
        decide
      exact .present hname hname (.one (.equal (.string "Jo")))
    · cases hx
      cases hy
      refine .object (.intro fun child hchild _ => ?_)
      obtain rfl := List.mem_singleton.mp hchild
      exact .absent .empty .missing
    · cases hx
  · exact .absent .null .missing

theorem verdictOf_wordyUsers :
    EquivalentFor userRules.rules wordyUsers.get? terseUsers.get? ∧
      userRules.verdictOf wordyUsers = userRules.verdictOf terseUsers ∧
      userRules.verdictOf terseUsers =
        .checked [⟨"users[1].name", .missing, "Parameter users[1].name is required"⟩] :=
  ⟨equivalentFor_wordyUsers,
    userRules.verdictOf_eq_of_equivalentFor equivalentFor_wordyUsers, by decide⟩

end ParamRules
