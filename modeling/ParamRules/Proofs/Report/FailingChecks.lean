import ParamRules.Proofs.Report.Keyed
import ParamRules.Proofs.Report.Measurement
import ParamRules.Proofs.Report.Visited
import ParamRules.Proofs.Report.Wording

/-!
# Failing checks of a group

The relations of this module say what it means that a check of a group fails, one
constructor for each kind of check, and which issue reports it.  A failing check has a key:
`0` for the presence or the type, `1` to `4` for least and greatest quantity, pattern and
blank text, and `5` with the number of the element and the check made there.  The issues of
a group are those of its failing checks, in the order of these keys.
-/

namespace ParamRules

/-- The place of a check among those made of one value. -/
def Violation.rank : Violation → Nat
  | .missing => 0
  | .wrongType _ => 0
  | .belowMin _ => 1
  | .aboveMax _ => 2
  | .badFormat => 3
  | .blank => 4

/-- A value does not satisfy a group that is held against it as a value of some type:
its type is another one, or its type is right and a limit, the pattern or the ban on
blank text is violated. -/
inductive Constraints.FailsOn (group : Constraints) (type : FieldType) (v : Json) :
    Violation → Prop
  | wrongType (htype : ¬v.HasType type) : FailsOn group type v (.wrongType type)
  | belowMin {min actual : Quantity} (htype : v.HasType type)
      (hmin : group.min = some min) (hactual : type.HasQuantity v actual)
      (hbelow : actual.Precedes min) : FailsOn group type v (.belowMin min)
  | aboveMax {max actual : Quantity} (htype : v.HasType type)
      (hmax : group.max = some max) (hactual : type.HasQuantity v actual)
      (habove : max.Precedes actual) : FailsOn group type v (.aboveMax max)
  | badFormat {pattern : Pattern} {s : String} (htype : v.HasType type)
      (hformat : group.format = some pattern) (hv : v = .string s)
      (hmatch : pattern.isMatch s = false) : FailsOn group type v .badFormat
  | blank {s : String} (htype : v.HasType type)
      (hblank : group.notBlank = true) (hv : v = .string s)
      (hs : ∀ c ∈ s.toList, Text.isBlank c = true) : FailsOn group type v .blank

/-- A check that a group makes of a field fails, and an issue reports it: the value is
absent but required, or it does not satisfy the group, or it is a list of the right type
with an element that does not satisfy what the group states for elements. -/
inductive Constraints.Fails (group : Constraints) (rule : FieldRule)
    (location : Location) (container : Option Json.Fields) : Key → Issue → Prop
  | missing {issue : Issue} (habsent : ∀ v, ¬HasValue container rule.field v)
      (hrequired : group.required = true)
      (hissue : issue.Reports group location .missing) :
      Fails group rule location container [0] issue
  | value {v : Json} {violation : Violation} {issue : Issue}
      (hv : HasValue container rule.field v)
      (hfails : group.FailsOn rule.type v violation)
      (hissue : issue.Reports group location violation) :
      Fails group rule location container [violation.rank] issue
  | element {items : List Json} {element : Typed Constraints} {i : Nat} {item : Json}
      {violation : Violation} {issue : Issue}
      (hv : HasValue container rule.field (.array items))
      (htype : (Json.array items).HasType rule.type)
      (helement : group.element = some element) (hitem : items[i]? = some item)
      (hfails : element.constraints.FailsOn element.type item violation)
      (hissue : issue.Reports element.constraints (location.index i) violation) :
      Fails group rule location container [5, i, violation.rank] issue

namespace Constraints

/-! ## One value -/

section Value

variable {group : Constraints} {type : FieldType} {v : Json} {violation : Violation}

theorem formatViolation?_eq_some_iff :
    group.formatViolation? v = some violation ↔
      ∃ pattern s, group.format = some pattern ∧ v = .string s ∧
        pattern.isMatch s = false ∧ .badFormat = violation := by
  unfold formatViolation?
  split
  · next pattern s hformat =>
      simp [hformat]
  · next hnone =>
      constructor
      · intro h
        cases h
      · rintro ⟨pattern, s, hformat, hv, -⟩
        exact (hnone pattern s hformat hv).elim

theorem blankViolation?_eq_some_iff :
    group.blankViolation? v = some violation ↔
      ∃ s, group.notBlank = true ∧ v = .string s ∧ Text.allBlank s = true ∧
        .blank = violation := by
  unfold blankViolation?
  split
  · next s => simp [and_assoc]
  · next hnone =>
      constructor
      · intro h
        cases h
      · rintro ⟨s, -, hv, -⟩
        exact (hnone s hv).elim

theorem mem_valueViolations_iff :
    violation ∈ group.valueViolations type v ↔
      (∃ limit, group.limitViolation? limit type v = some violation) ∨
        group.formatViolation? v = some violation ∨
        group.blankViolation? v = some violation := by
  have hlimit : (∃ limit, group.limitViolation? limit type v = some violation) ↔
      group.limitViolation? .min type v = some violation ∨
        group.limitViolation? .max type v = some violation := by
    constructor
    · rintro ⟨limit, h⟩
      cases limit with
      | min => exact .inl h
      | max => exact .inr h
    · rintro (h | h)
      · exact ⟨.min, h⟩
      · exact ⟨.max, h⟩
  simp only [valueViolations, List.mem_append, Option.mem_toList, hlimit, or_assoc]

/-- What is out of range violates one of the two limits. -/
theorem exists_limitViolation?_of_outOfRange
    (hmem : violation ∈ group.valueViolations type v) (hkind : violation.kind = .outOfRange) :
    ∃ limit, group.limitViolation? limit type v = some violation := by
  rcases mem_valueViolations_iff.mp hmem with hlimit | hformat | hblank
  · exact hlimit
  · obtain ⟨-, -, -, -, -, rfl⟩ := formatViolation?_eq_some_iff.mp hformat
    cases hkind
  · obtain ⟨-, -, -, -, rfl⟩ := blankViolation?_eq_some_iff.mp hblank
    cases hkind

theorem failsOn_of_limitViolation?
    (htype : v.HasType type) {limit : Limit}
    (h : group.limitViolation? limit type v = some violation) :
    group.FailsOn type v violation := by
  obtain ⟨bound, actual, hbound, hactual, hrefuses, rfl⟩ := limitViolation?_eq_some_iff.mp h
  have hquantity := FieldType.hasQuantity_iff.mpr hactual
  cases limit with
  | min => exact .belowMin htype hbound hquantity (Quantity.precedes_iff_isBelow.mpr hrefuses)
  | max => exact .aboveMax htype hbound hquantity (Quantity.precedes_iff_isAbove.mpr hrefuses)

/-- Of a value of the right type, the violations are those of its failing checks. -/
theorem mem_valueViolations_iff_failsOn (htype : v.HasType type) :
    violation ∈ group.valueViolations type v ↔ group.FailsOn type v violation := by
  rw [mem_valueViolations_iff, formatViolation?_eq_some_iff, blankViolation?_eq_some_iff]
  constructor
  · rintro (⟨limit, h⟩ | h | h)
    · exact failsOn_of_limitViolation? htype h
    · obtain ⟨pattern, s, hformat, hv, hmatch, rfl⟩ := h
      exact .badFormat htype hformat hv hmatch
    · obtain ⟨s, hblank, hv, hs, rfl⟩ := h
      exact .blank htype hblank hv (List.all_eq_true.mp hs)
  · intro hfails
    cases hfails with
    | wrongType hother => exact absurd htype hother
    | @belowMin min actual _ hmin hactual hbelow =>
        refine .inl ⟨.min, limitViolation?_eq_some_iff.mpr ⟨min, actual, hmin, ?_, ?_, rfl⟩⟩
        · exact FieldType.hasQuantity_iff.mp hactual
        · exact Quantity.precedes_iff_isBelow.mp hbelow
    | @aboveMax max actual _ hmax hactual habove =>
        refine .inl ⟨.max, limitViolation?_eq_some_iff.mpr ⟨max, actual, hmax, ?_, ?_, rfl⟩⟩
        · exact FieldType.hasQuantity_iff.mp hactual
        · exact Quantity.precedes_iff_isAbove.mp habove
    | badFormat _ hformat hv hmatch => exact .inr (.inl ⟨_, _, hformat, hv, hmatch, rfl⟩)
    | blank _ hblank hv hs =>
        exact .inr (.inr ⟨_, hblank, hv, List.all_eq_true.mpr hs, rfl⟩)

/-- The violations listed for a value are those of its failing checks. -/
theorem mem_violations_iff :
    violation ∈ group.violations type v ↔ group.FailsOn type v violation := by
  unfold violations
  split
  · next haccepts => exact mem_valueViolations_iff_failsOn (Json.hasType_iff.mpr haccepts)
  · next haccepts =>
      have htype : ¬v.HasType type := mt Json.hasType_iff.mp haccepts
      rw [List.mem_singleton]
      constructor
      · rintro rfl
        exact .wrongType htype
      · intro hfails
        cases hfails with
        | wrongType => rfl
        | belowMin hright | aboveMax hright | badFormat hright | blank hright =>
            exact absurd hright htype

/-- The violations of a value are listed in the order of their ranks, each rank at most
once. -/
theorem pairwise_rank_violations (group : Constraints) (type : FieldType) (v : Json) :
    (group.violations type v).Pairwise fun a b => a.rank < b.rank := by
  have hsingle (violation? : Option Violation) :
      violation?.toList.Pairwise fun a b => a.rank < b.rank := by
    cases violation? <;> simp
  unfold violations
  split
  · simp only [valueViolations, List.pairwise_append, List.mem_append, Option.mem_toList,
      limitViolation?_eq_some_iff, formatViolation?_eq_some_iff, blankViolation?_eq_some_iff]
    refine ⟨⟨⟨hsingle _, hsingle _, ?_⟩, hsingle _, ?_⟩, hsingle _, ?_⟩
    · rintro _ ⟨_, _, -, -, -, rfl⟩ _ ⟨_, _, -, -, -, rfl⟩
      simp [Limit.violation, Violation.rank]
    · rintro _ (⟨_, _, -, -, -, rfl⟩ | ⟨_, _, -, -, -, rfl⟩) _ ⟨_, _, -, -, -, rfl⟩ <;>
        simp [Limit.violation, Violation.rank]
    · rintro _ ((⟨_, _, -, -, -, rfl⟩ | ⟨_, _, -, -, -, rfl⟩) | ⟨_, _, -, -, -, rfl⟩)
        _ ⟨_, -, -, -, rfl⟩ <;> simp [Limit.violation, Violation.rank]
  · exact List.pairwise_singleton _ _

end Value

/-! ## One group -/

/-- Violations of one value with their keys, as issues of a group. -/
def ranked (group : Constraints) (place : String) (violations : List Violation) :
    List (Key × Issue) :=
  violations.map fun violation => ([violation.rank], group.issue place violation)

/-- The issues of the elements of a list with their keys. -/
def elementFindings (group : Constraints) (location : Location) (v : Json) :
    List (Key × Issue) :=
  match group.element, v with
  | some element, .array items =>
      numbered (fun item i =>
        element.constraints.ranked (location.index i).text
          (element.constraints.violations element.type item)) items
  | _, _ => []

/-- The issues of a group with their keys. -/
def findings (group : Constraints) (type : FieldType) (location : Location) :
    Option Json → List (Key × Issue)
  | .none => if group.required then [([0], group.issue location.text .missing)] else []
  | some v =>
      group.ranked location.text (group.violations type v) ++
        if type.accepts v then below 5 (group.elementFindings location v) else []

section Ranked

variable {group : Constraints} {place : String}

theorem map_snd_ranked (violations : List Violation) :
    (group.ranked place violations).map Prod.snd =
      violations.map (group.issue place) := by
  rw [ranked, List.map_map]
  rfl

theorem mem_ranked_iff {violations : List Violation} {key : Key} {issue : Issue} :
    (key, issue) ∈ group.ranked place violations ↔
      ∃ violation ∈ violations,
        key = [violation.rank] ∧ issue = group.issue place violation := by
  simp only [ranked, List.mem_map, Prod.mk.injEq]
  exact exists_congr fun violation => and_congr_right fun _ =>
    and_congr eq_comm eq_comm

theorem ascending_ranked (type : FieldType) (v : Json) (other : Constraints) :
    Ascending (other.ranked place (group.violations type v)) := by
  rw [Ascending, ranked, List.pairwise_map]
  refine (group.pairwise_rank_violations type v).imp ?_
  intro a b hlt
  exact List.Lex.rel hlt

theorem rank_lt_five (violation : Violation) : violation.rank < 5 := by
  cases violation <;> simp [Violation.rank]

end Ranked

section Group

variable {group : Constraints} {type : FieldType} {location : Location}

theorem map_snd_elementFindings (v : Json) :
    (group.elementFindings location v).map Prod.snd = group.elementIssues location v := by
  unfold elementFindings elementIssues
  cases group.element with
  | none => rfl
  | some element =>
      cases v with
      | array items =>
          simp only [map_snd_numbered, map_snd_ranked]
      | _ => rfl

/-- Without their keys, the entries are the issues of the group. -/
theorem map_snd_findings (v? : Option Json) :
    (group.findings type location v?).map Prod.snd = group.issues type location v? := by
  cases v? with
  | none =>
      simp only [findings, issues]
      split <;> rfl
  | some v =>
      simp only [findings, issues, presentIssues, List.map_append, map_snd_ranked]
      split
      · rw [map_snd_below, map_snd_elementFindings]
      · rfl

theorem ascending_elementFindings (v : Json) :
    Ascending (group.elementFindings location v) := by
  unfold elementFindings
  split
  · exact ascending_numbered fun item _ i => ascending_ranked _ item _
  · exact List.Pairwise.nil

theorem ascending_findings (v? : Option Json) :
    Ascending (group.findings type location v?) := by
  cases v? with
  | none =>
      simp only [findings]
      split
      · exact List.pairwise_singleton _ _
      · exact List.Pairwise.nil
  | some v =>
      rw [Ascending, findings, List.pairwise_append]
      refine ⟨ascending_ranked type v group, ?_, ?_⟩
      · split
        · exact ascending_below (ascending_elementFindings v)
        · exact List.Pairwise.nil
      · rintro ⟨_, _⟩ ha ⟨_, _⟩ hb
        obtain ⟨violation, -, rfl, -⟩ := mem_ranked_iff.mp ha
        split at hb
        · obtain ⟨rest, rfl, -⟩ := mem_below_iff.mp hb
          exact List.Lex.rel (rank_lt_five violation)
        · cases hb

theorem mem_elementFindings_iff {v : Json} {key : Key} {issue : Issue} :
    (key, issue) ∈ group.elementFindings location v ↔
      ∃ element items i item violation,
        group.element = some element ∧ v = .array items ∧ items[i]? = some item ∧
          element.constraints.FailsOn element.type item violation ∧
          key = [i, violation.rank] ∧
          issue = element.constraints.issue (location.index i).text violation := by
  unfold elementFindings
  split
  · next element items helement =>
      simp only [mem_numbered_iff, mem_ranked_iff, mem_violations_iff]
      constructor
      · rintro ⟨i, item, _, rfl, hitem, violation, hfails, rfl, rfl⟩
        exact ⟨element, items, i, item, violation, helement, rfl, hitem, hfails, rfl, rfl⟩
      · rintro ⟨other, _, i, item, violation, hother, hitems, hitem, hfails, rfl, rfl⟩
        rw [helement, Option.some.injEq] at hother
        subst hother
        cases hitems
        exact ⟨i, item, _, rfl, hitem, violation, hfails, rfl, rfl⟩
  · next hnone =>
      constructor
      · intro hmem
        cases hmem
      · rintro ⟨element, items, _, _, _, helement, hv, -⟩
        exact (hnone element items helement hv).elim

/-- The entries of a group are its failing checks. -/
theorem mem_findings_iff
    {rule : FieldRule} {container : Option Json.Fields} {key : Key} {issue : Issue} :
    (key, issue) ∈
        group.findings rule.type location (presentValue? container rule.field) ↔
      group.Fails rule location container key issue := by
  cases hvalue : presentValue? container rule.field with
  | none =>
      have habsent := presentValue?_eq_none_iff.mp hvalue
      constructor
      · intro hmem
        simp only [findings] at hmem
        split at hmem
        · next hrequired =>
            cases List.mem_singleton.mp hmem
            exact .missing habsent hrequired (Issue.reports_iff.mpr rfl)
        · cases hmem
      · intro hfails
        cases hfails with
        | missing _ hrequired hissue =>
            simp [findings, hrequired, Issue.reports_iff.mp hissue]
        | value hv | element hv => exact (habsent _ hv).elim
  | some v =>
      have hv := presentValue?_eq_some_iff.mp hvalue
      constructor
      · intro hmem
        rw [findings, List.mem_append, mem_ranked_iff] at hmem
        rcases hmem with ⟨violation, hviolation, rfl, hissue⟩ | helements
        · exact .value hv (mem_violations_iff.mp hviolation) (Issue.reports_iff.mpr hissue)
        · split at helements
          · next haccepts =>
              obtain ⟨rest, rfl, hrest⟩ := mem_below_iff.mp helements
              obtain ⟨element, items, i, item, violation, helement, rfl, hitem, hfails,
                rfl, hissue⟩ := mem_elementFindings_iff.mp hrest
              exact .element hv (Json.hasType_iff.mpr haccepts) helement hitem hfails
                (Issue.reports_iff.mpr hissue)
          · cases helements
      · intro hfails
        rw [findings, List.mem_append, mem_ranked_iff]
        cases hfails with
        | missing habsent => exact (habsent v hv).elim
        | value hw hfails hissue =>
            obtain rfl := hw.unique hv
            exact .inl ⟨_, mem_violations_iff.mpr hfails, rfl, Issue.reports_iff.mp hissue⟩
        | element hw htype helement hitem hfails hissue =>
            obtain rfl := hw.unique hv
            rw [if_pos (Json.hasType_iff.mp htype)]
            exact .inr (mem_below_iff.mpr ⟨_, rfl, mem_elementFindings_iff.mpr
              ⟨_, _, _, _, _, helement, rfl, hitem, hfails, rfl,
                Issue.reports_iff.mp hissue⟩⟩)

end Group

end Constraints

end ParamRules
