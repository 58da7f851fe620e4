import ParamRules.Proofs.Report.Exactness
import ParamRules.Response.Basic

/-!
# The order of a report

The key of a failing check leads to it from the top.  First comes the number of the rule
in its row.  For a check of the rule itself, `0`, the number of the group and the key of
the check in the group follow; for a check further down, `1`, the index of the list
element if the value is a list, and the key among the nested rules.

A report lists one issue for each failing check, and their keys increase
lexicographically.
-/

namespace ParamRules

/-- A check of a rule, or of a rule nested in it, fails with this issue.  The key leaves
out the number of the rule in its row. -/
inductive FieldRule.Fails :
    FieldRule → Location → Option Json.Fields → Key → Issue → Prop
  | own {rule : FieldRule} {base : Location} {container : Option Json.Fields}
      {n : Nat} {group : Constraints} {check : Key} {issue : Issue}
      (hfield : rule.field ≠ "") (hgroup : rule.groups[n]? = some group)
      (hfails : group.Fails rule (base.key rule.field) container check issue) :
      Fails rule base container (0 :: n :: check) issue
  | inObject {rule child : FieldRule} {base : Location}
      {container : Option Json.Fields} {fields : Json.Fields} {n : Nat}
      {rest : Key} {issue : Issue} (hfield : rule.field ≠ "")
      (hv : HasValue container rule.field (.object fields))
      (hchild : rule.nested[n]? = some child)
      (hfails : Fails child (base.key rule.field) (some fields) rest issue) :
      Fails rule base container (1 :: n :: rest) issue
  | inList {rule child : FieldRule} {base : Location}
      {container : Option Json.Fields} {items : List Json} {i : Nat}
      {fields : Json.Fields} {n : Nat} {rest : Key} {issue : Issue}
      (hfield : rule.field ≠ "")
      (hv : HasValue container rule.field (.array items))
      (hitem : items[i]? = some (.object fields))
      (hchild : rule.nested[n]? = some child)
      (hfails : Fails child ((base.key rule.field).index i) (some fields) rest issue) :
      Fails rule base container (1 :: i :: n :: rest) issue

/-- A check of a schema fails on a payload, with its key and its issue. -/
inductive Schema.Fails (schema : Schema) (payload : Json) : Key → Issue → Prop
  | rule {n : Nat} {rule : FieldRule} {rest : Key} {issue : Issue}
      (hrule : schema.rules[n]? = some rule)
      (hfails : rule.Fails .root payload.fields? rest issue) :
      Fails schema payload (n :: rest) issue

namespace FieldRule

mutual

/-- The issues of a rule and of the rules nested in it with their keys. -/
def findings (base : Location) (container : Option Json.Fields) :
    FieldRule → List (Key × Issue)
  | ⟨field, type, groups, nested⟩ =>
      if field = "" then
        []
      else
        below 0 (numbered (fun group _ =>
          group.findings type (base.key field) (presentValue? container field)) groups) ++
        below 1 (match presentValue? container field with
          | some (.object fields) => findingsOfAll 0 (base.key field) (some fields) nested
          | some (.array items) =>
              numbered (fun item i =>
                match item.fields? with
                | some fields =>
                    findingsOfAll 0 ((base.key field).index i) (some fields) nested
                | none => []) items
          | _ => [])

/-- The issues of a row of rules with their keys, the first rule having number `n`. -/
def findingsOfAll (n : Nat) (base : Location) (container : Option Json.Fields) :
    List FieldRule → List (Key × Issue)
  | [] => []
  | rule :: rest =>
      below n (rule.findings base container) ++ findingsOfAll (n + 1) base container rest

end

theorem findingsOfAll_eq_flatMap
    (n : Nat) (base : Location) (container : Option Json.Fields)
    (rules : List FieldRule) :
    findingsOfAll n base container rules =
      (rules.zipIdx n).flatMap fun (rule, i) => below i (rule.findings base container) := by
  induction rules generalizing n with
  | nil => rfl
  | cons rule rest ih => rw [findingsOfAll, ih, List.zipIdx_cons, List.flatMap_cons]

theorem findingsOfAll_eq_numbered
    (base : Location) (container : Option Json.Fields) (rules : List FieldRule) :
    findingsOfAll 0 base container rules =
      numbered (fun rule _ => rule.findings base container) rules :=
  findingsOfAll_eq_flatMap 0 base container rules

/-- The entries of the rules nested in a rule, given the value of its field. -/
def nestedFindings (nested : List FieldRule) (location : Location) :
    Option Json → List (Key × Issue)
  | some (.object fields) =>
      numbered (fun rule _ => rule.findings location (some fields)) nested
  | some (.array items) =>
      numbered (fun item i =>
        match item.fields? with
        | some fields =>
            numbered (fun rule _ => rule.findings (location.index i) (some fields)) nested
        | none => []) items
  | _ => []

theorem findings_eq (rule : FieldRule) (base : Location)
    (container : Option Json.Fields) :
    rule.findings base container =
      if rule.field = "" then []
      else
        below 0 (numbered (fun group _ =>
          group.findings rule.type (base.key rule.field)
            (presentValue? container rule.field)) rule.groups) ++
        below 1 (nestedFindings rule.nested (base.key rule.field)
          (presentValue? container rule.field)) := by
  obtain ⟨field, type, groups, nested⟩ := rule
  simp only [findings, nestedFindings, findingsOfAll_eq_numbered]

/-! ## Without keys -/

theorem map_snd_nestedFindings
    {nested : List FieldRule}
    (ih : ∀ child ∈ nested, ∀ base container,
      (child.findings base container).map Prod.snd =
        (child.visits base container).flatMap Visit.issues)
    (location : Location) (v? : Option Json) :
    (nestedFindings nested location v?).map Prod.snd =
      ((nestedObjects location v?).flatMap fun (inner, fields) =>
        visitsOfAll inner (some fields) nested).flatMap Visit.issues := by
  have hrow (inner : Location) (fields : Json.Fields) :
      (numbered (fun rule _ => rule.findings inner (some fields)) nested).map Prod.snd =
        (visitsOfAll inner (some fields) nested).flatMap Visit.issues := by
    rw [map_snd_numbered_const, visitsOfAll_eq_flatMap, List.flatMap_assoc]
    exact List.flatMap_congr fun child hchild => ih child hchild inner (some fields)
  cases v? with
  | none => rfl
  | some v =>
      cases v with
      | object fields => simp [nestedFindings, nestedObjects, hrow]
      | array items =>
          rw [nestedFindings, nestedObjects, map_snd_numbered,
            List.filterMap_eq_flatMap_toList, List.flatMap_assoc, List.flatMap_assoc]
          refine List.flatMap_congr fun entry _ => ?_
          obtain ⟨item, i⟩ := entry
          cases hitem : item.fields? with
          | none => simp [hitem]
          | some fields => simp [hitem, hrow]
      | _ => rfl

/-- Without their keys, the entries are the issues of the visits, in the order of the
visits. -/
theorem map_snd_findings
    (rule : FieldRule) (base : Location) (container : Option Json.Fields) :
    (rule.findings base container).map Prod.snd =
      (rule.visits base container).flatMap Visit.issues := by
  induction rule using FieldRule.induction generalizing base container with
  | step rule ih =>
      rw [findings_eq, visits_eq, List.flatMap_cons]
      by_cases hfield : rule.field = ""
      · simp [hfield, Visit.issues, isInert]
      · have hown : Visit.issues ⟨rule, base, container⟩ =
            rule.groups.flatMap fun group =>
              group.issues rule.type (base.key rule.field)
                (presentValue? container rule.field) := by
          have hinert : rule.isInert = false := by simpa [isInert] using hfield
          simp [Visit.issues, hinert, Visit.location, Visit.value?]
        rw [if_neg hfield, if_neg hfield, List.map_append, map_snd_below, map_snd_below,
          map_snd_numbered_const, map_snd_nestedFindings ih, hown]
        simp only [Constraints.map_snd_findings]

/-! ## Ascent -/

theorem ascending_nestedFindings
    {nested : List FieldRule}
    (ih : ∀ child ∈ nested, ∀ base container,
      Ascending (child.findings base container))
    (location : Location) (v? : Option Json) :
    Ascending (nestedFindings nested location v?) := by
  unfold nestedFindings
  split
  · exact ascending_numbered fun child hchild _ => ih child hchild _ _
  · refine ascending_numbered fun item _ i => ?_
    split
    · exact ascending_numbered fun child hchild _ => ih child hchild _ _
    · exact List.Pairwise.nil
  · exact List.Pairwise.nil

theorem ascending_findings
    (rule : FieldRule) (base : Location) (container : Option Json.Fields) :
    Ascending (rule.findings base container) := by
  induction rule using FieldRule.induction generalizing base container with
  | step rule ih =>
      rw [findings_eq]
      split
      · exact List.Pairwise.nil
      · refine ascending_append_below Nat.zero_lt_one ?_ ?_
        · exact ascending_numbered fun group _ _ => Constraints.ascending_findings _
        · exact ascending_nestedFindings ih _ _

/-! ## Failing checks -/

theorem mem_findings_iff
    {rule : FieldRule} {base : Location} {container : Option Json.Fields}
    {key : Key} {issue : Issue} :
    (key, issue) ∈ rule.findings base container ↔
      rule.Fails base container key issue := by
  constructor
  · intro hmem
    induction rule using FieldRule.induction generalizing base container key with
    | step rule ih =>
        rw [findings_eq] at hmem
        split at hmem
        · cases hmem
        next hfield =>
          rcases List.mem_append.mp hmem with hown | hbelow
          · obtain ⟨_, rfl, hnumbered⟩ := mem_below_iff.mp hown
            obtain ⟨n, group, check, rfl, hgroup, hcheck⟩ := mem_numbered_iff.mp hnumbered
            exact .own hfield hgroup (Constraints.mem_findings_iff.mp hcheck)
          · obtain ⟨_, rfl, hnested⟩ := mem_below_iff.mp hbelow
            unfold nestedFindings at hnested
            split at hnested
            next fields hvalue =>
              obtain ⟨n, child, rest, rfl, hchild, hrest⟩ := mem_numbered_iff.mp hnested
              exact .inObject hfield (presentValue?_eq_some_iff.mp hvalue) hchild
                (ih child (List.mem_of_getElem? hchild) hrest)
            next items hvalue =>
              obtain ⟨i, item, _, rfl, hitem, hrow⟩ := mem_numbered_iff.mp hnested
              split at hrow
              next fields hfields =>
                obtain ⟨n, child, rest, rfl, hchild, hrest⟩ := mem_numbered_iff.mp hrow
                rw [Json.fields?_eq_some_iff.mp hfields] at hitem
                exact .inList hfield (presentValue?_eq_some_iff.mp hvalue) hitem hchild
                  (ih child (List.mem_of_getElem? hchild) hrest)
              next => cases hrow
            next => cases hnested
  · intro hfails
    induction hfails with
    | own hfield hgroup hcheck =>
        rw [findings_eq, if_neg hfield]
        refine List.mem_append_left _ (mem_below_iff.mpr ⟨_, rfl, ?_⟩)
        exact mem_numbered_iff.mpr
          ⟨_, _, _, rfl, hgroup, Constraints.mem_findings_iff.mpr hcheck⟩
    | inObject hfield hv hchild _ ih =>
        rw [findings_eq, if_neg hfield, presentValue?_eq_some_iff.mpr hv]
        refine List.mem_append_right _ (mem_below_iff.mpr ⟨_, rfl, ?_⟩)
        rw [nestedFindings]
        exact mem_numbered_iff.mpr ⟨_, _, _, rfl, hchild, ih⟩
    | inList hfield hv hitem hchild _ ih =>
        rw [findings_eq, if_neg hfield, presentValue?_eq_some_iff.mpr hv]
        refine List.mem_append_right _ (mem_below_iff.mpr ⟨_, rfl, ?_⟩)
        rw [nestedFindings]
        refine mem_numbered_iff.mpr ⟨_, _, _, rfl, hitem, ?_⟩
        exact mem_numbered_iff.mpr ⟨_, _, _, rfl, hchild, ih⟩

end FieldRule

namespace Schema

/-- The issues of a payload with their keys. -/
def findings (schema : Schema) (payload : Json) : List (Key × Issue) :=
  numbered (fun rule _ => rule.findings .root payload.fields?) schema.rules

theorem map_snd_findings (schema : Schema) (payload : Json) :
    (schema.findings payload).map Prod.snd = (schema.verdict payload).issues := by
  rw [findings, map_snd_numbered_const, issues_verdict, issues, visits,
    FieldRule.visitsOfAll_eq_flatMap, List.flatMap_assoc]
  exact List.flatMap_congr fun rule _ => rule.map_snd_findings .root payload.fields?

theorem ascending_findings (schema : Schema) (payload : Json) :
    Ascending (schema.findings payload) :=
  ascending_numbered fun rule _ _ => rule.ascending_findings .root payload.fields?

theorem mem_findings_iff
    {schema : Schema} {payload : Json} {key : Key} {issue : Issue} :
    (key, issue) ∈ schema.findings payload ↔ schema.Fails payload key issue := by
  rw [findings, mem_numbered_iff]
  simp only [FieldRule.mem_findings_iff]
  constructor
  · rintro ⟨n, rule, rest, rfl, hrule, hfails⟩
    exact .rule hrule hfails
  · rintro ⟨hrule, hfails⟩
    exact ⟨_, _, _, rfl, hrule, hfails⟩

end Schema

theorem Verdict.response?_first (verdict : Verdict) (status : ResponseStatus) :
    verdict.response? .first status =
      verdict.firstIssue?.map fun issue => .one (.ofIssue issue status) := by
  unfold Verdict.response? Verdict.errors Verdict.firstIssue?
  cases verdict.issues <;> rfl

/-- The report lists the failing checks, each once, in the order of their keys; the issue
that is shown first is the one with the least key. -/
theorem issues_verdict_in_key_order (schema : Schema) (payload : Json) :
    (∃ checks : List (Key × Issue),
      checks.map Prod.snd = (schema.verdict payload).issues ∧
        (checks.Pairwise fun a b => List.Lex (· < ·) a.1 b.1) ∧
        ∀ key issue, (key, issue) ∈ checks ↔ schema.Fails payload key issue) ∧
      (∀ issue, (schema.verdict payload).firstIssue? = some issue ↔
        ∃ key, schema.Fails payload key issue ∧
          ∀ other issue', schema.Fails payload other issue' →
            other = key ∨ List.Lex (· < ·) key other) ∧
      ∀ status, (schema.verdict payload).response? .first status =
        (schema.verdict payload).firstIssue?.map fun issue =>
          .one (.ofIssue issue status) := by
  refine ⟨⟨schema.findings payload, schema.map_snd_findings payload,
    schema.ascending_findings payload, fun _ _ => Schema.mem_findings_iff⟩, ?_,
    (schema.verdict payload).response?_first⟩
  intro issue
  rw [Verdict.firstIssue?, ← schema.map_snd_findings payload,
    (schema.ascending_findings payload).head?_eq_some_iff]
  simp only [Schema.mem_findings_iff]

end ParamRules
