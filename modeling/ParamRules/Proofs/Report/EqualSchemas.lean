import ParamRules.Proofs.Report.RoundedLimits
import ParamRules.Proofs.Report.RuleReports
import ParamRules.Proofs.Schema.EqualParts
import ParamRules.Proofs.Schema.PrintedForm

/-!
# Decisions of equal schemas

Equal schemas have the same limits as far as these are equal as numbers, and patterns with
the same texts.  If the patterns were made from these texts, equal schemas reject the same
payloads as soon as rounding keeps every whole limit that corresponds to a binary one.
What a schema is read back as from its description has whole limits for whole ones, if all
limits can be described, so this is no concern there.  A whole limit beyond 64 bits is read
back as a binary number, and decisions may then differ.
-/

namespace ParamRules

/-! ## Corresponding limits -/

/-- Two groups for values of a type have these quantities as limits at the same place,
which is the limit of the groups or of what they state for elements, at any depth; the
limits hold for values of the last type. -/
inductive Constraints.PairsLimit (limit : Limit) :
    Typed Constraints → Typed Constraints → FieldType → Quantity → Quantity → Prop
  | own {group other : Typed Constraints} {p q : Quantity}
      (hp : limit.of group.constraints = some p) (hq : limit.of other.constraints = some q) :
      PairsLimit limit group other group.type p q
  | element {group other element element' : Typed Constraints} {type : FieldType}
      {p q : Quantity} (helement : group.constraints.element = some element)
      (helement' : other.constraints.element = some element')
      (h : PairsLimit limit element element' type p q) :
      PairsLimit limit group other type p q

/-- Two rules have these quantities as limits at the same place, in groups or in nested
rules of the same position. -/
inductive FieldRule.PairsLimit (limit : Limit) :
    FieldRule → FieldRule → FieldType → Quantity → Quantity → Prop
  | group {rule other : FieldRule} {group group' : Constraints} {type : FieldType}
      {p q : Quantity} (hgroup : (group, group') ∈ rule.groups.zip other.groups)
      (h : Constraints.PairsLimit limit ⟨rule.type, group⟩ ⟨other.type, group'⟩ type p q) :
      PairsLimit limit rule other type p q
  | nested {rule other child child' : FieldRule} {type : FieldType} {p q : Quantity}
      (hchild : (child, child') ∈ rule.nested.zip other.nested)
      (h : PairsLimit limit child child' type p q) : PairsLimit limit rule other type p q

/-- Two schemas have these quantities as limits at the same place of the rules for the
same field. -/
def Schema.PairsLimit (limit : Limit) (a b : Schema) (type : FieldType) (p q : Quantity) :
    Prop :=
  ∃ rule ∈ a.rules, ∃ other ∈ b.rules,
    rule.field = other.field ∧ rule.PairsLimit limit other type p q

/-- Rounding keeps every whole limit of one schema that corresponds to a binary limit of
the other one. -/
def Schema.AgreeOnLimits (a b : Schema) : Prop :=
  ∀ limit type p q, Schema.PairsLimit limit a b type p q → limit.AgreesOn type p q

namespace Limit

/-- A value violates a limit of a group. -/
def IsViolated (limit : Limit) (group : Constraints) (type : FieldType) (v : Json) : Prop :=
  ∃ q actual, limit.of group = some q ∧ type.quantity? v = some actual ∧
    actual.compare? q = some limit.refused

theorem isViolated_iff
    {limit : Limit} {group other : Constraints} {type : FieldType}
    (hequal : Option.Rel (fun p q => (p == q) = true) (limit.of group) (limit.of other))
    (hlimits : ∀ p q, limit.of group = some p → limit.of other = some q →
      limit.AgreesOn type p q)
    (v : Json) :
    limit.IsViolated group type v ↔ limit.IsViolated other type v := by
  unfold IsViolated
  generalize limit.of group = p? at hequal hlimits ⊢
  generalize limit.of other = q? at hequal hlimits ⊢
  cases hequal with
  | none => rfl
  | @some p q hpq =>
      have hagrees := hlimits p q rfl rfl
      constructor
      · rintro ⟨_, actual, ⟨⟩, hactual, hcompare⟩
        exact ⟨q, actual, rfl, hactual, (compare?_iff_of_beq hpq hagrees hactual).mp hcompare⟩
      · rintro ⟨_, actual, ⟨⟩, hactual, hcompare⟩
        exact ⟨p, actual, rfl, hactual, (compare?_iff_of_beq hpq hagrees hactual).mpr hcompare⟩

end Limit

/-! ## Groups -/

namespace Constraints

variable {group other : Constraints} {type : FieldType}

theorem EqualParts.limit (h : group.EqualParts other) (limit : Limit) :
    Option.Rel (fun p q => (p == q) = true) (limit.of group) (limit.of other) := by
  cases limit with
  | min => exact h.min
  | max => exact h.max

theorem limitViolation?_eq_none_iff {limit : Limit} {v : Json} :
    group.limitViolation? limit type v = .none ↔ ¬limit.IsViolated group type v := by
  rw [Option.eq_none_iff_forall_ne_some]
  constructor
  · rintro hnone ⟨q, actual, hq, hactual, hcompare⟩
    refine hnone (limit.violation q) (limitViolation?_eq_some_iff.mpr ?_)
    exact ⟨q, actual, hq, hactual, Limit.refuses_iff.mpr hcompare, rfl⟩
  · intro hkept violation hviolation
    obtain ⟨q, actual, hq, hactual, hrefuses, -⟩ := limitViolation?_eq_some_iff.mp hviolation
    exact hkept ⟨q, actual, hq, hactual, Limit.refuses_iff.mp hrefuses⟩

section Compiled

variable (hequal : group.EqualParts other) (hcompiled : ∀ p ∈ group.patterns, p.IsCompiled)
  (hcompiled' : ∀ p ∈ other.patterns, p.IsCompiled)

include hequal hcompiled hcompiled'

/-- Patterns that were made from their texts are the same if the texts are. -/
theorem EqualParts.format_eq : group.format = other.format := by
  have hformat := hequal.format
  have hown (p : Pattern) (hp : group.format = some p) : p.IsCompiled :=
    hcompiled p (mem_patterns_iff.mpr (.inl hp))
  have hown' (p : Pattern) (hp : other.format = some p) : p.IsCompiled :=
    hcompiled' p (mem_patterns_iff.mpr (.inl hp))
  generalize group.format = format? at hformat hown
  generalize other.format = format?' at hformat hown'
  cases hformat with
  | none => rfl
  | some hpatterns => rw [(hown _ rfl).eq_of_beq (hown' _ rfl) hpatterns]

/-- Groups with equal parts are violated by the same values. -/
theorem violations_eq_nil_iff
    (hlimits : ∀ (limit : Limit) p q, limit.of group = some p → limit.of other = some q →
      limit.AgreesOn type p q)
    (v : Json) :
    group.violations type v = [] ↔ other.violations type v = [] := by
  have hlimit (limit : Limit) :=
    not_congr (Limit.isViolated_iff (hequal.limit limit) (hlimits limit) v)
  have hformat : group.formatViolation? v = other.formatViolation? v := by
    unfold formatViolation?
    rw [hequal.format_eq hcompiled hcompiled']
  have hblank : group.blankViolation? v = other.blankViolation? v := by
    unfold blankViolation?
    rw [hequal.notBlank]
  unfold violations
  split
  · simp only [valueViolations, List.append_eq_nil_iff, Option.toList_eq_nil_iff,
      limitViolation?_eq_none_iff, hlimit, hformat, hblank]
  · rfl

theorem elementIssues_eq_nil_iff
    (hlimits : ∀ limit t p q, PairsLimit limit ⟨type, group⟩ ⟨type, other⟩ t p q →
      limit.AgreesOn t p q)
    (location : Location) (v : Json) :
    group.elementIssues location v = [] ↔ other.elementIssues location v = [] := by
  have helement := hequal.element
  have hstated (stated stated' : Typed Constraints) (h : group.element = some stated)
      (h' : other.element = some stated') (limit : Limit) (p q : Quantity)
      (hp : limit.of stated.constraints = some p)
      (hq : limit.of stated'.constraints = some q) : limit.AgreesOn stated.type p q :=
    hlimits limit stated.type p q (.element h h' (.own hp hq))
  have hinner (stated : Typed Constraints) (h : group.element = some stated) (p : Pattern)
      (hp : p ∈ stated.constraints.patterns) : p.IsCompiled :=
    hcompiled p (mem_patterns_iff.mpr (.inr ⟨stated, h, hp⟩))
  have hinner' (stated : Typed Constraints) (h : other.element = some stated) (p : Pattern)
      (hp : p ∈ stated.constraints.patterns) : p.IsCompiled :=
    hcompiled' p (mem_patterns_iff.mpr (.inr ⟨stated, h, hp⟩))
  unfold elementIssues
  generalize group.element = element? at helement hstated hinner
  generalize other.element = element?' at helement hstated hinner'
  cases helement with
  | none => rfl
  | @some stated stated' hpair =>
      obtain ⟨htype, hgroups⟩ := hpair
      cases v with
      | array items =>
          apply isPartwise_eq_nil_iff.flatMap
          intro entry _
          dsimp only
          rw [List.map_eq_nil_iff, List.map_eq_nil_iff, ← htype]
          exact violations_eq_nil_iff (equalParts_of_beq hgroups) (hinner stated rfl)
            (hinner' stated' rfl) (hstated stated stated' rfl rfl) entry.1
      | null | bool | number | string | object => rfl

/-- Groups with equal parts have issues with the same fields. -/
theorem issues_eq_nil_iff
    (hlimits : ∀ limit t p q, PairsLimit limit ⟨type, group⟩ ⟨type, other⟩ t p q →
      limit.AgreesOn t p q)
    (location : Location) (v? : Option Json) :
    group.issues type location v? = [] ↔ other.issues type location v? = [] := by
  cases v? with
  | none =>
      simp only [issues, hequal.required]
      split
      · simp
      · rfl
  | some v =>
      change group.presentIssues type location v = [] ↔
        other.presentIssues type location v = []
      have hown := violations_eq_nil_iff hequal hcompiled hcompiled'
        (fun limit p q hp hq => hlimits limit type p q (.own hp hq)) v
      rw [presentIssues, presentIssues, List.append_eq_nil_iff, List.append_eq_nil_iff,
        List.map_eq_nil_iff, List.map_eq_nil_iff, hown]
      apply and_congr_right
      intro _
      split
      · exact elementIssues_eq_nil_iff hequal hcompiled hcompiled' hlimits location v
      · rfl

end Compiled

end Constraints

/-! ## Rules and schemas -/

/-- Equal rules have issues in the same containers. -/
theorem FieldRule.report_eq_nil_iff
    {rule other : FieldRule} (hequal : (rule == other) = true)
    (hcompiled : ∀ p ∈ rule.patterns, p.IsCompiled)
    (hcompiled' : ∀ p ∈ other.patterns, p.IsCompiled)
    (hlimits : ∀ limit t p q, rule.PairsLimit limit other t p q → limit.AgreesOn t p q)
    (base : Location) (container : Option Json.Fields) :
    rule.report base container = [] ↔ other.report base container = [] := by
  induction rule using FieldRule.induction generalizing other base container with
  | step rule ih =>
      have hparts := equalParts_of_beq hequal
      apply isPartwise_eq_nil_iff.report hparts.field
      · intro location v?
        rw [ownReport, ownReport, ← hparts.type]
        apply isPartwise_eq_nil_iff.flatMap_forall₂ hparts.groups
        intro group group' hmem hgroups
        have hinner (limit : Limit) (t : FieldType) (p q : Quantity)
            (h : Constraints.PairsLimit limit ⟨rule.type, group⟩ ⟨rule.type, group'⟩ t p q) :
            limit.AgreesOn t p q := by
          refine hlimits limit t p q (.group hmem ?_)
          rw [← hparts.type]
          exact h
        obtain ⟨hgroup, hgroup'⟩ := List.of_mem_zip hmem
        exact Constraints.issues_eq_nil_iff (Constraints.equalParts_of_beq hgroups)
          (fun p hp => hcompiled p (mem_patterns_iff.mpr (.inl ⟨group, hgroup, hp⟩)))
          (fun p hp => hcompiled' p (mem_patterns_iff.mpr (.inl ⟨group', hgroup', hp⟩)))
          hinner location v?
      · intro inner fields
        apply isPartwise_eq_nil_iff.flatMap_forall₂ hparts.nested
        intro child child' hmem hchildren
        obtain ⟨hchild, hchild'⟩ := List.of_mem_zip hmem
        exact ih child hchild hchildren
          (fun p hp => hcompiled p (mem_patterns_iff.mpr (.inr ⟨child, hchild, hp⟩)))
          (fun p hp => hcompiled' p (mem_patterns_iff.mpr (.inr ⟨child', hchild', hp⟩)))
          (fun limit t p q h => hlimits limit t p q (.nested hmem h)) inner (some fields)

theorem Schema.issues_eq_nil_iff_of_beq
    {a b : Schema} (ha : ∀ p ∈ a.patterns, p.IsCompiled) (hb : ∀ p ∈ b.patterns, p.IsCompiled)
    (hequal : (a == b) = true) (hlimits : a.AgreeOnLimits b) (payload : Payload) :
    (a.verdictOf payload).issues = [] ↔ (b.verdictOf payload).issues = [] := by
  have hpair {rule other : FieldRule} (hrule : rule ∈ a.rules) (hother : other ∈ b.rules)
      (hrules : (rule == other) = true) :
      rule.report .root payload.fields? = [] ↔ other.report .root payload.fields? = [] := by
    have hfield := (FieldRule.equalParts_of_beq hrules).field
    exact FieldRule.report_eq_nil_iff hrules
      (fun p hp => ha p (FieldRule.mem_patternsOfRow_iff.mpr ⟨rule, hrule, hp⟩))
      (fun p hp => hb p (FieldRule.mem_patternsOfRow_iff.mpr ⟨other, hother, hp⟩))
      (fun limit t p q h => hlimits limit t p q ⟨rule, hrule, other, hother, hfield, h⟩)
      .root payload.fields?
  rw [issues_verdictOf, issues_verdictOf, FieldRule.reportOfAll, FieldRule.reportOfAll,
    List.flatMap_eq_nil_iff, List.flatMap_eq_nil_iff]
  constructor
  · intro hnone other hother
    obtain ⟨rule, hrule, hrules⟩ := exists_rule_beq hequal hother
    exact (hpair hrule hother hrules).mp (hnone rule hrule)
  · intro hnone rule hrule
    obtain ⟨other, hother, hrules⟩ := exists_beq_rule hequal hrule
    exact (hpair hrule hother hrules).mpr (hnone other hother)

/-! ## Small limits -/

/-- The limit is binary, or whole and below a magnitude of `2 ^ 53`. -/
def Quantity.isSmall : Quantity → Bool
  | .whole n => decide (n.natAbs < 2 ^ 53)
  | .fractional _ => true

theorem Limit.agreesOn_of_isSmall
    {limit : Limit} {type : FieldType} {p q : Quantity} (hp : p.isSmall = true)
    (hq : q.isSmall = true) : limit.AgreesOn type p q := by
  cases p with
  | whole n =>
      cases q with
      | whole => trivial
      | fractional => exact keepsRounded_of_natAbs_lt (of_decide_eq_true hp)
  | fractional x =>
      cases q with
      | whole n => exact keepsRounded_of_natAbs_lt (of_decide_eq_true hq)
      | fractional => trivial

section AllLimits

variable {property : Quantity → Bool} {limit : Limit} {type : FieldType} {p q : Quantity}

theorem Limit.of_allLimits
    {group : Constraints} (hall : group.allLimits property = true)
    (h : limit.of group = some p) : property p = true := by
  obtain ⟨hmin, hmax, -⟩ := (Constraints.allLimits_iff property group).mp hall
  cases limit with
  | min => exact hmin p h
  | max => exact hmax p h

theorem Constraints.PairsLimit.of_allLimits
    {group other : Typed Constraints} (h : PairsLimit limit group other type p q)
    (hgroup : group.constraints.allLimits property = true)
    (hother : other.constraints.allLimits property = true) :
    property p = true ∧ property q = true := by
  induction h with
  | own hp hq => exact ⟨Limit.of_allLimits hgroup hp, Limit.of_allLimits hother hq⟩
  | element helement helement' _ ih =>
      obtain ⟨-, -, hinner⟩ := (allLimits_iff property _).mp hgroup
      obtain ⟨-, -, hinner'⟩ := (allLimits_iff property _).mp hother
      exact ih (hinner _ helement) (hinner' _ helement')

theorem FieldRule.PairsLimit.of_allLimits
    {rule other : FieldRule} (h : PairsLimit limit rule other type p q)
    (hrule : rule.allLimits property = true) (hother : other.allLimits property = true) :
    property p = true ∧ property q = true := by
  induction h with
  | group hmem h =>
      obtain ⟨hgroups, -⟩ := (allLimits_iff property _).mp hrule
      obtain ⟨hgroups', -⟩ := (allLimits_iff property _).mp hother
      obtain ⟨hleft, hright⟩ := List.of_mem_zip hmem
      exact h.of_allLimits (hgroups _ hleft) (hgroups' _ hright)
  | nested hmem _ ih =>
      obtain ⟨-, hnested⟩ := (allLimits_iff property _).mp hrule
      obtain ⟨-, hnested'⟩ := (allLimits_iff property _).mp hother
      obtain ⟨hleft, hright⟩ := List.of_mem_zip hmem
      exact ih (hnested _ hleft) (hnested' _ hright)

end AllLimits

theorem Schema.agreeOnLimits_of_isSmall
    {a b : Schema} (ha : a.allLimits Quantity.isSmall = true)
    (hb : b.allLimits Quantity.isSmall = true) : a.AgreeOnLimits b := by
  rintro limit type p q ⟨rule, hrule, other, hother, -, h⟩
  have hsmall := (FieldRule.allLimitsOfRow_iff Quantity.isSmall a.rules).mp ha rule hrule
  have hsmall' := (FieldRule.allLimitsOfRow_iff Quantity.isSmall b.rules).mp hb other hother
  obtain ⟨hp, hq⟩ := h.of_allLimits hsmall hsmall'
  exact Limit.agreesOn_of_isSmall hp hq

/-! ## Verdicts -/

theorem Verdict.hasIssues_eq_of_iff
    {a b : Verdict} (h : a.issues = [] ↔ b.issues = []) : a.hasIssues = b.hasIssues := by
  have hempty : a.issues.isEmpty = b.issues.isEmpty := by
    rw [Bool.eq_iff_iff, List.isEmpty_iff, List.isEmpty_iff, h]
  rw [hasIssues, hasIssues, hempty]

namespace Schema

/-- Equal schemas that agree on limits reject the same payloads, if all patterns were made
from their texts; and they agree if their limits are small.  Apart from that, what the
description of a schema is read back as rejects the same payloads as the schema if all limits
can be described; and so does what its text is read back as, if the limits are read back
from their texts. -/
theorem hasIssues_eq_of_beq :
    (∀ a b : Schema, (∀ p ∈ a.patterns, p.IsCompiled) → (∀ p ∈ b.patterns, p.IsCompiled) →
      (a == b) = true → a.AgreeOnLimits b →
      ∀ payload, (a.verdictOf payload).hasIssues = (b.verdictOf payload).hasIssues) ∧
    (∀ a b : Schema, a.allLimits Quantity.isSmall = true →
      b.allLimits Quantity.isSmall = true → a.AgreeOnLimits b) ∧
    ∀ schema : Schema, (∀ p ∈ schema.patterns, p.IsCompiled) →
      schema.allLimits Quantity.isExpressible = true →
      ∀ description,
        (description = schema.toJson ∨
          schema.allLimits Quantity.readsBack = true ∧
            Json.ofString? schema.toJson.compact = some description) →
        ∀ payload, ((ofDescription description).verdictOf payload).hasIssues =
          (schema.verdictOf payload).hasIssues := by
  refine ⟨?equal, fun a b => agreeOnLimits_of_isSmall, ?reload⟩
  case equal =>
    intro a b ha hb hequal hlimits payload
    exact Verdict.hasIssues_eq_of_iff (issues_eq_nil_iff_of_beq ha hb hequal hlimits payload)
  case reload =>
    intro schema hcompiled hlimits description hdescription payload
    have heq : description = schema.toJson := by
      rcases hdescription with heq | ⟨hreads, htext⟩
      · exact heq
      · rw [(legible_toJson hlimits hreads).ofString?_compact,
          Option.ite_none_right_eq_some] at htext
        exact (Option.some.inj htext.2).symm
    have hissues := schema.issues_verdictOf_withoutInert payload
    rw [heq, ofDescription_toJson_of_isCompiled hlimits hcompiled]
    exact Verdict.hasIssues_eq_of_iff (by rw [hissues])

/-- Visitors of age, with some ratings from zero on. -/
def visitor : Schema where
  rules :=
    [{ field := "age", type := .wholeNumber
       groups := [{ min := some (.whole 18), max := some (.fractional (.ofInt 99)) }] },
      { field := "ratings", type := .list
        groups :=
          [{ max := some (.whole 3)
             element := some ⟨.decimal, { min := some (.fractional (.ofInt 0)) }⟩ }] }]
  nodup_fields := by decide

/-- The same with the rules in another order and limits of the other kind. -/
def visitorInOtherNumbers : Schema where
  rules :=
    [{ field := "ratings", type := .list
       groups :=
         [{ max := some (.fractional (.ofInt 3))
            element := some ⟨.decimal, { min := some (.whole 0) }⟩ }] },
      { field := "age", type := .wholeNumber
        groups := [{ min := some (.fractional (.ofInt 18)), max := some (.whole 99) }] }]
  nodup_fields := by decide

/-- A visitor of age with a rating below zero. -/
def unkindVisitor : Payload :=
  .value (.object
    [("age", .number (.whole 18)), ("ratings", .array [.number (.whole (-1))])])

theorem hasIssues_unkindVisitor :
    (visitor == visitorInOtherNumbers) = true ∧ visitor.AgreeOnLimits visitorInOtherNumbers ∧
      (visitor.verdictOf unkindVisitor).hasIssues = true ∧
      (visitorInOtherNumbers.verdictOf unkindVisitor).hasIssues = true := by
  have hequal : (visitor == visitorInOtherNumbers) = true := by decide +kernel
  have hlimits : visitor.AgreeOnLimits visitorInOtherNumbers :=
    hasIssues_eq_of_beq.2.1 visitor visitorInOtherNumbers (by decide) (by decide)
  have hissues : (visitor.verdictOf unkindVisitor).hasIssues = true := by decide +kernel
  have hname : ∀ p ∈ visitor.patterns, p.IsCompiled := by decide +kernel
  have hname' : ∀ p ∈ visitorInOtherNumbers.patterns, p.IsCompiled := by decide +kernel
  refine ⟨hequal, hlimits, hissues, ?_⟩
  rw [← hasIssues_eq_of_beq.1 visitor visitorInOtherNumbers hname hname' hequal hlimits,
    hissues]

/-- A minimum that is too large for 64 bits. -/
def wideMinimum : Schema where
  rules :=
    [{ field := "n", type := .wholeNumber
       groups := [{ min := some (.whole 0x10000000000000000) }] }]
  nodup_fields := by decide

/-- The greatest number of 64 bits, which is rounded to that minimum. -/
def widestNumber : Payload :=
  .value (.object [("n", .number (.whole 0xFFFFFFFFFFFFFFFF))])

/-- The schema is equal to what its text is read back as, and rejects a payload that the
copy accepts. -/
theorem wideMinimum_decides_unlike_copy :
    ∃ description, Json.ofString? wideMinimum.toJson.compact = some description ∧
      (wideMinimum == ofDescription description) = true ∧
      (wideMinimum.verdictOf widestNumber).hasIssues = true ∧
      ((ofDescription description).verdictOf widestNumber).hasIssues = false := by
  have hcopy : ((Json.ofString? wideMinimum.toJson.compact).map fun description =>
      (wideMinimum == ofDescription description,
        ((ofDescription description).verdictOf widestNumber).hasIssues)) =
      some (true, false) := by decide +kernel
  obtain ⟨description, hread, hdecisions⟩ := Option.map_eq_some_iff.mp hcopy
  obtain ⟨hequal, hnone⟩ := Prod.mk.inj hdecisions
  exact ⟨description, hread, hequal, by decide +kernel, hnone⟩

end Schema

end ParamRules
