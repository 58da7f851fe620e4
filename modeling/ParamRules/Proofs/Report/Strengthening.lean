import ParamRules.Proofs.Report.RuleReports

/-!
# Strengthening a schema

A schema is extended by adding rules, groups of constraints, and constraints to groups
that lack them, at any depth; what is there stays as it is.  No check hides another one, so
every issue that a schema reports is also reported by each of its extensions, with the
same message and in the same order.
-/

namespace ParamRules

/-! ## Extensions -/

mutual

/-- The second group demands all that the first one does, with the same message, and may
demand more where the first one demands nothing. -/
inductive Constraints.IsExtendedBy : Constraints → Constraints → Prop
  | intro {group other : Constraints}
      (hmessage : other.message = group.message)
      (hrequired : group.required = true → other.required = true)
      (hmin : ∀ q, group.min = some q → other.min = some q)
      (hmax : ∀ q, group.max = some q → other.max = some q)
      (hformat : ∀ pattern, group.format = some pattern → other.format = some pattern)
      (hnotBlank : group.notBlank = true → other.notBlank = true)
      (helement : IsExtendedByElement group.element other.element) :
      IsExtendedBy group other

/-- What is stated for elements is extended with their type unchanged; where nothing is
stated, anything may be. -/
inductive Constraints.IsExtendedByElement :
    Option (Typed Constraints) → Option (Typed Constraints) → Prop
  | gained (element? : Option (Typed Constraints)) : IsExtendedByElement .none element?
  | kept (type : FieldType) {group other : Constraints}
      (h : Constraints.IsExtendedBy group other) :
      IsExtendedByElement (some ⟨type, group⟩) (some ⟨type, other⟩)

end

/-- The second rule is for the same field and type; the groups and the nested rules of the
first one are extended by some of its own, in the same order. -/
inductive FieldRule.IsExtendedBy : FieldRule → FieldRule → Prop
  | intro {rule other : FieldRule}
      (hfield : other.field = rule.field) (htype : other.type = rule.type)
      (hgroups : List.SublistForall₂ Constraints.IsExtendedBy rule.groups other.groups)
      (hnested : List.SublistForall₂ IsExtendedBy rule.nested other.nested) :
      IsExtendedBy rule other

/-- The rules of the first schema are extended by some of the second one, in the same
order. -/
def Schema.IsExtendedBy (schema other : Schema) : Prop :=
  List.SublistForall₂ FieldRule.IsExtendedBy schema.rules other.rules

/-! ## Sublists -/

theorem toList_sublist_of_imp
    {α : Type} {a b : Option α} (h : ∀ x, a = some x → b = some x) :
    a.toList.Sublist b.toList := by
  cases a with
  | none => exact List.nil_sublist _
  | some x =>
      rw [h x rfl]

theorem flatMap_sublist_of_sublistForall₂
    {α β γ : Type} {r : α → β → Prop} {xs : List α} {ys : List β}
    {f : α → List γ} {g : β → List γ} (h : List.SublistForall₂ r xs ys)
    (hfg : ∀ x ∈ xs, ∀ y, r x y → (f x).Sublist (g y)) :
    (xs.flatMap f).Sublist (ys.flatMap g) := by
  induction h with
  | nil => exact List.nil_sublist _
  | @cons x y xs ys hxy _ ih =>
      have hrest := ih fun z hz => hfg z (List.mem_cons_of_mem _ hz)
      exact (hfg x List.mem_cons_self y hxy).append hrest
  | cons_right _ ih =>
      rw [List.flatMap_cons]
      exact (ih hfg).trans (List.sublist_append_right _ _)

/-! ## Groups -/

namespace Constraints.IsExtendedBy

variable {group other : Constraints}

theorem issue_eq (h : group.IsExtendedBy other) : other.issue = group.issue := by
  obtain ⟨hmessage⟩ := h
  funext place violation
  rw [issue, issue, hmessage]

/-- No violation of a group is lost. -/
theorem violations_sublist (h : group.IsExtendedBy other) (type : FieldType) (v : Json) :
    (group.violations type v).Sublist (other.violations type v) := by
  obtain ⟨-, -, hmin, hmax, hformat, hnotBlank, -⟩ := h
  have hstays (limit : Limit) (bound : Quantity) (hstated : limit.of group = some bound) :
      limit.of other = some bound := by
    cases limit with
    | min => exact hmin bound hstated
    | max => exact hmax bound hstated
  have hlimit (limit : Limit) : (group.limitViolation? limit type v).toList.Sublist
      (other.limitViolation? limit type v).toList := by
    refine toList_sublist_of_imp fun violation hviolation => ?_
    obtain ⟨bound, actual, hstated, hrest⟩ := limitViolation?_eq_some_iff.mp hviolation
    exact limitViolation?_eq_some_iff.mpr
      ⟨bound, actual, hstays limit bound hstated, hrest⟩
  have hbad : (group.formatViolation? v).toList.Sublist
      (other.formatViolation? v).toList := by
    refine toList_sublist_of_imp fun violation hviolation => ?_
    obtain ⟨pattern, s, hstated, hrest⟩ := formatViolation?_eq_some_iff.mp hviolation
    exact formatViolation?_eq_some_iff.mpr ⟨pattern, s, hformat pattern hstated, hrest⟩
  have hblank : (group.blankViolation? v).toList.Sublist
      (other.blankViolation? v).toList := by
    refine toList_sublist_of_imp fun violation hviolation => ?_
    obtain ⟨s, hstated, hrest⟩ := blankViolation?_eq_some_iff.mp hviolation
    exact blankViolation?_eq_some_iff.mpr ⟨s, hnotBlank hstated, hrest⟩
  unfold violations
  split
  · exact (((hlimit .min).append (hlimit .max)).append hbad).append hblank
  · exact List.Sublist.refl _

theorem elementIssues_sublist (h : group.IsExtendedBy other) (location : Location) (v : Json) :
    (group.elementIssues location v).Sublist (other.elementIssues location v) := by
  obtain ⟨-, -, -, -, -, -, helement⟩ := h
  unfold elementIssues
  generalize group.element = element? at helement
  generalize other.element = other? at helement
  cases helement with
  | gained => exact List.nil_sublist _
  | kept type h =>
      cases v with
      | array items =>
          refine isPartwise_sublist.flatMap fun entry _ => ?_
          dsimp only
          rw [h.issue_eq]
          exact (h.violations_sublist type entry.1).map _
      | null | bool | number | string | object => exact List.Sublist.refl _

/-- No issue of a group is lost. -/
theorem issues_sublist (h : group.IsExtendedBy other) (type : FieldType)
    (location : Location) (v? : Option Json) :
    (group.issues type location v?).Sublist (other.issues type location v?) := by
  have hissue := h.issue_eq
  cases v? with
  | none =>
      obtain ⟨-, hrequired⟩ := h
      simp only [issues, hissue]
      split
      · next hstated => rw [if_pos (hrequired hstated)]
      · exact List.nil_sublist _
  | some v =>
      change (group.presentIssues type location v).Sublist
        (other.presentIssues type location v)
      rw [presentIssues, presentIssues, hissue]
      apply List.Sublist.append
      · exact (h.violations_sublist type v).map _
      · split
        · exact h.elementIssues_sublist location v
        · exact List.Sublist.refl _

end Constraints.IsExtendedBy

/-! ## Rules and schemas -/

namespace FieldRule

theorem IsExtendedBy.ownReport_sublist
    {rule other : FieldRule} (h : rule.IsExtendedBy other)
    (location : Location) (v? : Option Json) :
    (rule.ownReport location v?).Sublist (other.ownReport location v?) := by
  obtain ⟨-, htype, hgroups, -⟩ := h
  rw [ownReport, ownReport, htype]
  exact flatMap_sublist_of_sublistForall₂ hgroups fun group _ extended hextended =>
    hextended.issues_sublist rule.type location v?

/-- No issue of a rule is lost, and none of the rules nested in it. -/
theorem IsExtendedBy.report_sublist
    {rule other : FieldRule} (h : rule.IsExtendedBy other)
    (base : Location) (container : Option Json.Fields) :
    (rule.report base container).Sublist (other.report base container) := by
  induction rule using FieldRule.induction generalizing other base container with
  | step rule ih =>
      have hown := h.ownReport_sublist
      obtain ⟨hfield, -, -, hnested⟩ := h
      apply isPartwise_sublist.report hfield.symm hown
      intro inner fields
      exact flatMap_sublist_of_sublistForall₂ hnested fun child hchild extended hextended =>
        ih child hchild hextended inner (some fields)

end FieldRule

namespace Schema

/-- An extension of a schema reports all that the schema reports, in the same order; if
the extension reports nothing, neither does the schema. -/
theorem issues_sublist_of_isExtendedBy
    {schema other : Schema} (h : schema.IsExtendedBy other) (payload : Payload) :
    (schema.verdictOf payload).issues.Sublist (other.verdictOf payload).issues ∧
      ((other.verdictOf payload).issues = [] → (schema.verdictOf payload).issues = []) := by
  have hsublist : (schema.verdictOf payload).issues.Sublist
      (other.verdictOf payload).issues := by
    rw [issues_verdictOf, issues_verdictOf]
    exact flatMap_sublist_of_sublistForall₂ h fun rule _ extended hextended =>
      hextended.report_sublist .root payload.fields?
  refine ⟨hsublist, fun hnone => ?_⟩
  rw [hnone] at hsublist
  exact List.sublist_nil.mp hsublist

/-- At least two users, whose names are not blank. -/
def namedUsers : Schema where
  rules :=
    [{ field := "users", type := .list, groups := [{ min := some (.whole 2) }],
       nested := [{ field := "name", type := .text, groups := [{ notBlank := true }] }] }]
  nodup_fields := by decide

/-- The same with another field, another group, and more constraints at either depth. -/
def strictUsers : Schema where
  rules :=
    [{ field := "note", type := .text, groups := [{ required := true }] },
      { field := "users", type := .list,
        groups :=
          [{ message := some "too many", max := some (.whole 0) },
            { required := true, min := some (.whole 2), element := some ⟨.object, {}⟩ }],
        nested :=
          [{ field := "name", type := .text,
             groups := [{ notBlank := true, min := some (.whole 3) }] },
            { field := "age", type := .wholeNumber }] }]
  nodup_fields := by decide

theorem namedUsers_isExtendedBy_strictUsers : namedUsers.IsExtendedBy strictUsers := by
  have hname : Constraints.IsExtendedBy { notBlank := true }
      { notBlank := true, min := some (.whole 3) } :=
    .intro rfl nofun nofun nofun nofun (fun _ => rfl) (.gained _)
  have husers : Constraints.IsExtendedBy { min := some (.whole 2) }
      { required := true, min := some (.whole 2), element := some ⟨.object, {}⟩ } :=
    .intro rfl nofun (fun _ h => h) nofun nofun nofun (.gained _)
  refine .cons_right (.cons ?_ .nil)
  refine .intro rfl rfl (.cons_right (.cons husers .nil)) (.cons ?_ .nil)
  exact .intro rfl rfl (.cons hname .nil) .nil

/-- One user with a blank name, who is rejected by both. -/
def blankUser : Payload :=
  .value (.object [("users", .array [.object [("name", .string " ")]])])

theorem issues_blankUser_sublist :
    namedUsers.IsExtendedBy strictUsers ∧
      (namedUsers.verdictOf blankUser).issues.Sublist
        (strictUsers.verdictOf blankUser).issues ∧
      (namedUsers.verdictOf blankUser).issues.length = 2 ∧
      (strictUsers.verdictOf blankUser).issues.length = 5 :=
  ⟨namedUsers_isExtendedBy_strictUsers,
    (issues_sublist_of_isExtendedBy namedUsers_isExtendedBy_strictUsers blankUser).1,
    by decide, by decide⟩

end Schema

end ParamRules
