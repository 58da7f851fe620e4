import ParamRules.Proofs.Schema.GroupChanges

/-!
# Patterns in a schema

A pattern that was made from its text is determined by the text.  Any other pattern shares
its text with the one that the text denotes, if it denotes one, and need not match the same.
Putting that one in its place, throughout a schema, is what a description does to patterns.
-/

namespace ParamRules

namespace Pattern

/-- The pattern is the one that its text denotes. -/
def IsCompiled (pattern : Pattern) : Prop :=
  ofString? pattern.source = some pattern

instance : DecidablePred IsCompiled := fun pattern =>
  inferInstanceAs (Decidable (ofString? pattern.source = some pattern))

/-- The text of the pattern denotes some expression. -/
def IsReadable (pattern : Pattern) : Prop :=
  (ofString? pattern.source).isSome = true

instance : DecidablePred IsReadable := fun pattern =>
  inferInstanceAs (Decidable ((ofString? pattern.source).isSome = true))

/-- The pattern with the expression that its text denotes, if it denotes one. -/
def recompiled (pattern : Pattern) : Pattern :=
  { pattern with regex := (regexOf? pattern.source.toList).getD pattern.regex }

variable {p q : Pattern}

theorem isCompiled_of_ofString? {source : String} (h : ofString? source = some p) :
    p.IsCompiled := by
  rw [IsCompiled, source_of_ofString? h, h]

theorem IsCompiled.isReadable (h : p.IsCompiled) : p.IsReadable :=
  Option.isSome_of_eq_some h

theorem IsReadable.ofString?_source (h : p.IsReadable) :
    ofString? p.source = some p.recompiled := by
  obtain ⟨q, hq⟩ := Option.isSome_iff_exists.mp h
  obtain ⟨regex, hregex, -⟩ := Option.map_eq_some_iff.mp hq
  rw [ofString?, recompiled, hregex]
  rfl

theorem IsCompiled.recompiled_eq (h : p.IsCompiled) : p.recompiled = p := by
  have hread := h.isReadable.ofString?_source
  rw [h] at hread
  exact (Option.some.inj hread).symm

/-- Compiled patterns that compare equal are the same. -/
theorem IsCompiled.eq_of_beq (hp : p.IsCompiled) (hq : q.IsCompiled) (h : (p == q) = true) :
    p = q := by
  have hsource : p.source = q.source := beq_iff_eq.mp h
  rw [IsCompiled, hsource, hq] at hp
  exact (Option.some.inj hp).symm

end Pattern

/-! ## Groups -/

namespace Constraints

/-- The patterns of a group, those for elements included. -/
def patterns : Constraints → List Pattern
  | ⟨_, _, _, _, format, _, element⟩ =>
      format.toList ++
        match element with
        | .none => []
        | some ⟨_, group⟩ => group.patterns

/-- The group with the patterns that its texts denote, also for elements. -/
def recompiled : Constraints → Constraints
  | ⟨required, message, min, max, format, notBlank, element⟩ =>
      { required, message, min, max, notBlank
        format := format.map Pattern.recompiled
        element :=
          match element with
          | .none => .none
          | some ⟨type, group⟩ => some ⟨type, group.recompiled⟩ }

theorem mem_patterns_iff {group : Constraints} {p : Pattern} :
    p ∈ group.patterns ↔
      group.format = some p ∨
        ∃ element, group.element = some element ∧ p ∈ element.constraints.patterns := by
  obtain ⟨_, _, _, _, format, _, element⟩ := group
  cases element <;> simp [patterns, Option.mem_toList]

theorem recompiled_eq (group : Constraints) :
    group.recompiled =
      { group with
        format := group.format.map Pattern.recompiled
        element := group.element.map fun element =>
          { element with constraints := element.constraints.recompiled } } := by
  obtain ⟨_, _, _, _, _, _, element⟩ := group
  cases element <;> rfl

theorem recompiled_eq_self
    {group : Constraints} (h : ∀ p ∈ group.patterns, p.IsCompiled) :
    group.recompiled = group := by
  induction group using Constraints.induction with
  | step group ih =>
      have hformat : group.format.map Pattern.recompiled = group.format := by
        cases hpattern : group.format with
        | none => rfl
        | some p =>
            have hp := h p (mem_patterns_iff.mpr (.inl hpattern))
            rw [Option.map_some, hp.recompiled_eq]
      have helement : (group.element.map fun element =>
          { element with constraints := element.constraints.recompiled }) = group.element := by
        cases hstated : group.element with
        | none => rfl
        | some element =>
            have hinner := ih element hstated fun p hp =>
              h p (mem_patterns_iff.mpr (.inr ⟨element, hstated, hp⟩))
            rw [Option.map_some, hinner]
      rw [recompiled_eq, hformat, helement]
      cases group
      rfl

end Constraints

/-! ## Rules and schemas -/

namespace FieldRule

mutual

/-- The patterns of a rule and of the rules nested in it. -/
def patterns : FieldRule → List Pattern
  | ⟨_, _, groups, nested⟩ => groups.flatMap Constraints.patterns ++ patternsOfRow nested

/-- The patterns of a row of rules. -/
def patternsOfRow : List FieldRule → List Pattern
  | [] => []
  | rule :: rest => rule.patterns ++ patternsOfRow rest

end

theorem mem_patternsOfRow_iff {rules : List FieldRule} {p : Pattern} :
    p ∈ patternsOfRow rules ↔ ∃ rule ∈ rules, p ∈ rule.patterns := by
  induction rules with
  | nil => simp [patternsOfRow]
  | cons rule rest ih => simp [patternsOfRow, ih]

theorem mem_patterns_iff {rule : FieldRule} {p : Pattern} :
    p ∈ rule.patterns ↔
      (∃ group ∈ rule.groups, p ∈ group.patterns) ∨ ∃ child ∈ rule.nested, p ∈ child.patterns := by
  cases rule
  rw [patterns, List.mem_append, List.mem_flatMap, mem_patternsOfRow_iff]

/-- The rule with the patterns that its texts denote, also in the rules nested in it. -/
def recompiled (rule : FieldRule) : FieldRule :=
  rule.mapGroups fun _ => Constraints.recompiled

theorem recompiled_eq_self
    {rule : FieldRule} (h : ∀ p ∈ rule.patterns, p.IsCompiled) : rule.recompiled = rule := by
  induction rule using FieldRule.induction with
  | step rule ih =>
      apply mapGroups_eq_self
      · intro group hgroup
        exact Constraints.recompiled_eq_self fun p hp =>
          h p (mem_patterns_iff.mpr (.inl ⟨group, hgroup, hp⟩))
      · intro child hchild
        exact ih child hchild fun p hp =>
          h p (mem_patterns_iff.mpr (.inr ⟨child, hchild, hp⟩))

end FieldRule

namespace Schema

/-- The patterns of a schema. -/
def patterns (schema : Schema) : List Pattern :=
  FieldRule.patternsOfRow schema.rules

/-- The schema with the patterns that its texts denote. -/
def recompiled (schema : Schema) : Schema :=
  schema.mapGroups fun _ => Constraints.recompiled

end Schema

end ParamRules
