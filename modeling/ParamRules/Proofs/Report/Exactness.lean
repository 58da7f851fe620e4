import ParamRules.Proofs.Report.FailingChecks

/-!
# Reports are exact

A verdict lists an issue exactly if some check of a visited rule fails with it.  Nothing
is reported besides, and no failing check is passed over, however deep the rule and the
value are nested.
-/

namespace ParamRules

theorem Schema.issues_verdict (schema : Schema) (payload : Json) :
    (schema.verdict payload).issues = schema.issues payload := by
  unfold verdict
  split
  · next hempty =>
      have hrules : schema.rules = [] := List.isEmpty_iff.mp hempty
      simp [Verdict.issues, issues, visits, hrules, FieldRule.visitsOfAll]
  · rfl

theorem Constraints.mem_issues_iff
    {group : Constraints} {rule : FieldRule} {location : Location}
    {container : Option Json.Fields} {issue : Issue} :
    issue ∈ group.issues rule.type location (presentValue? container rule.field) ↔
      ∃ check, group.Fails rule location container check issue := by
  rw [← map_snd_findings, List.mem_map]
  simp only [Prod.exists, mem_findings_iff]
  constructor
  · rintro ⟨check, _, hfails, rfl⟩
    exact ⟨check, hfails⟩
  · rintro ⟨check, hfails⟩
    exact ⟨check, issue, hfails, rfl⟩

theorem Visit.mem_issues_iff {visit : Visit} {issue : Issue} :
    issue ∈ visit.issues ↔
      visit.rule.field ≠ "" ∧ ∃ group ∈ visit.rule.groups, ∃ check,
        group.Fails visit.rule visit.location visit.container check issue := by
  unfold Visit.issues
  by_cases hfield : visit.rule.field = ""
  · simp [FieldRule.isInert, hfield]
  · have hinert : visit.rule.isInert = false := by
      simpa [FieldRule.isInert] using hfield
    simp only [hinert, Bool.false_eq_true, if_false, List.mem_flatMap, ne_eq, hfield,
      not_false_eq_true, true_and]
    exact exists_congr fun group => and_congr_right fun _ => Constraints.mem_issues_iff

/-- A verdict has an issue if and only if a check of a group of a visited rule fails with
that issue. -/
theorem mem_issues_verdict_iff
    (schema : Schema) (payload : Json) (issue : Issue) :
    issue ∈ (schema.verdict payload).issues ↔
      ∃ rule location container,
        Visited schema.rules payload.fields? rule location container ∧
          ∃ group ∈ rule.groups, ∃ check,
            group.Fails rule location container check issue := by
  rw [schema.issues_verdict, Schema.issues, List.mem_flatMap]
  constructor
  · rintro ⟨visit, hvisit, hissue⟩
    obtain ⟨hfield, group, hgroup, check, hfails⟩ := Visit.mem_issues_iff.mp hissue
    have hvisited : Visited schema.rules payload.fields? visit.rule visit.location
        visit.container :=
      visited_iff_mem_visitsOfAll.mpr ⟨hfield, visit.base, rfl, hvisit⟩
    exact ⟨_, _, _, hvisited, group, hgroup, check, hfails⟩
  · rintro ⟨rule, location, container, hvisited, group, hgroup, check, hfails⟩
    obtain ⟨hfield, base, rfl, hvisit⟩ := visited_iff_mem_visitsOfAll.mp hvisited
    refine ⟨⟨rule, base, container⟩, hvisit, ?_⟩
    exact Visit.mem_issues_iff.mpr ⟨hfield, group, hgroup, check, hfails⟩

end ParamRules
