import ParamRules.Proofs.Report.RuleReports
import ParamRules.Response.Basic

/-!
# The order of declaration

Schemas that differ only in the order of sibling rules and of the groups of a rule report
the same issues, in another order.  Under a list the rules are visited anew for each
element, so their issues change places within every element.

The issues of a schema are those of its rules, block after block.  The block of a rule is
what the rule reports when it is the only one and its own field is all there is.
-/

namespace ParamRules

/-! ## Reorderings -/

/-- The second rule is for the same field and type, and has the same groups and rules
that are reorderings of the nested ones, in any order. -/
inductive FieldRule.IsReordering : FieldRule → FieldRule → Prop
  | intro {rule other : FieldRule} {nested : List FieldRule}
      (hfield : other.field = rule.field) (htype : other.type = rule.type)
      (hgroups : rule.groups.Perm other.groups) (hnested : rule.nested.Perm nested)
      (hrules : List.Forall₂ IsReordering nested other.nested) :
      IsReordering rule other

/-- The rules of the second schema are reorderings of those of the first one, in any
order. -/
def Schema.IsReordering (schema other : Schema) : Prop :=
  ∃ rules, schema.rules.Perm rules ∧ List.Forall₂ FieldRule.IsReordering rules other.rules

theorem isPartwise_perm : IsPartwise List.Perm where
  nil := .nil
  append hfirst hsecond := hfirst.append hsecond

namespace FieldRule

/-- Rows of rules report the same, in some order, if the rules of one are reorderings of
those of the other one and report the same. -/
theorem reportOfAll_perm
    {rules row others : List FieldRule} (hrow : rules.Perm row)
    (hrules : List.Forall₂ IsReordering row others)
    (hreports : ∀ rule ∈ rules, ∀ other, rule.IsReordering other →
      ∀ base container, (rule.report base container).Perm (other.report base container))
    (base : Location) (container : Option Json.Fields) :
    (reportOfAll rules base container).Perm (reportOfAll others base container) := by
  have hmoved : (reportOfAll rules base container).Perm (reportOfAll row base container) :=
    hrow.flatMap_right _
  have hreplaced :
      (reportOfAll row base container).Perm (reportOfAll others base container) := by
    apply isPartwise_perm.flatMap_forall₂ hrules
    intro rule other hmem hreordering
    have hrule : rule ∈ rules := hrow.mem_iff.mpr (List.of_mem_zip hmem).1
    exact hreports rule hrule other hreordering base container
  exact hmoved.trans hreplaced

theorem IsReordering.ownReport_perm
    {rule other : FieldRule} (h : rule.IsReordering other)
    (location : Location) (v? : Option Json) :
    (rule.ownReport location v?).Perm (other.ownReport location v?) := by
  obtain ⟨-, htype, hgroups, -, -⟩ := h
  rw [ownReport, ownReport, htype]
  exact hgroups.flatMap_right _

/-- A rule and its reorderings report the same issues in every container. -/
theorem IsReordering.report_perm
    {rule other : FieldRule} (h : rule.IsReordering other)
    (base : Location) (container : Option Json.Fields) :
    (rule.report base container).Perm (other.report base container) := by
  induction rule using FieldRule.induction generalizing other base container with
  | step rule ih =>
      have hown := h.ownReport_perm
      obtain ⟨hfield, -, -, hnested, hrules⟩ := h
      apply isPartwise_perm.report hfield.symm hown
      intro inner fields
      apply reportOfAll_perm hnested hrules
      intro child hchild reordered hreordering base container
      exact ih child hchild hreordering base container

end FieldRule

/-! ## Blocks -/

namespace FieldRule

/-- What a rule reports when it is the only rule, of an object that has no other field. -/
def block (rule : FieldRule) (value? : Option Json) : List Issue :=
  ((Schema.ofRules [rule]).verdictOf
    (.object (value?.map fun v => (rule.field, v)).toList)).issues

/-- A rule looks at nothing but the value of its own field. -/
theorem report_eq_of_holding_eq
    {rule : FieldRule} {a b : Option Json.Fields}
    (h : holding a rule.field = holding b rule.field) (base : Location) :
    rule.report base a = rule.report base b := by
  by_cases hfield : rule.field = ""
  · rw [report_of_field_eq hfield, report_of_field_eq hfield]
  · have hvalue : presentValue? a rule.field = presentValue? b rule.field := by
      rw [presentValue?_eq_filter, presentValue?_eq_filter, h]
    rw [report_of_field_ne hfield, report_of_field_ne hfield, hvalue]

theorem holding_option_toList (field : String) (value? : Option Json) :
    holding (some (value?.map fun v => (field, v)).toList) field = value? := by
  cases value? with
  | none => rfl
  | some v => simp [holding, Json.Fields.get?_cons]

theorem report_eq_block (rule : FieldRule) (payload : Payload) :
    rule.report .root payload.fields? = rule.block (payload.get? rule.field) := by
  have hrules : (Schema.ofRules [rule]).rules = [rule] := rfl
  have hvalue : holding payload.fields? rule.field = payload.get? rule.field := by
    rw [payload.get?_eq_holding]
  rw [block, Schema.issues_verdictOf, hrules, reportOfAll, List.flatMap_singleton]
  apply report_eq_of_holding_eq
  rw [hvalue]
  exact (holding_option_toList rule.field _).symm

end FieldRule

/-! ## Verdicts -/

namespace Verdict

/-- Both verdicts are of the same kind, and they and the responses that show all issues
differ in the order of issues at most. -/
structure AgreesUpToOrder (a b : Verdict) : Prop where
  isUnchecked_eq : a.isUnchecked = b.isUnchecked
  isValid_eq : a.isValid = b.isValid
  issues_perm : a.issues.Perm b.issues
  length_eq : a.issues.length = b.issues.length
  responses_rel : ∀ status,
    Option.Rel (fun response other => response.errors.Perm other.errors)
      (a.response? .all status) (b.response? .all status)

variable {a b : Verdict}

theorem isValid_eq_of_perm
    (hkind : a.isUnchecked = b.isUnchecked) (hissues : a.issues.Perm b.issues) :
    a.isValid = b.isValid := by
  cases a with
  | unchecked =>
      cases b with
      | unchecked => rfl
      | checked issues => cases hkind
  | checked issues =>
      cases b with
      | unchecked => cases hkind
      | checked others => exact hissues.isEmpty_eq

theorem response?_all_rel_of_perm
    (hissues : a.issues.Perm b.issues) (status : ResponseStatus) :
    Option.Rel (fun response other => response.errors.Perm other.errors)
      (a.response? .all status) (b.response? .all status) := by
  have herrors : (a.errors status).Perm (b.errors status) := hissues.map _
  unfold response?
  generalize a.errors status = errors at herrors
  generalize b.errors status = others at herrors
  cases errors with
  | nil =>
      rw [List.nil_perm.mp herrors]
      exact .none
  | cons error rest =>
      cases others with
      | nil => exact absurd herrors.length_eq (by simp)
      | cons other rest' => exact .some herrors

theorem agreesUpToOrder_of_perm
    (hkind : a.isUnchecked = b.isUnchecked) (hissues : a.issues.Perm b.issues) :
    a.AgreesUpToOrder b where
  isUnchecked_eq := hkind
  isValid_eq := isValid_eq_of_perm hkind hissues
  issues_perm := hissues
  length_eq := hissues.length_eq
  responses_rel := response?_all_rel_of_perm hissues

end Verdict

namespace Schema

theorem isUnchecked_verdictOf (schema : Schema) (payload : Payload) :
    (schema.verdictOf payload).isUnchecked = schema.isEmpty := by
  unfold verdictOf
  split
  · next hempty => exact hempty.symm
  · next hempty => exact (Bool.eq_false_of_not_eq_true hempty).symm

theorem IsReordering.isEmpty_eq {schema other : Schema} (h : schema.IsReordering other) :
    schema.isEmpty = other.isEmpty := by
  obtain ⟨row, hrow, hrules⟩ := h
  have hlength : schema.rules.length = other.rules.length :=
    hrow.length_eq.trans hrules.length_eq
  rw [isEmpty, isEmpty, Bool.eq_iff_iff, List.isEmpty_iff_length_eq_zero,
    List.isEmpty_iff_length_eq_zero, hlength]

/-- The issues of a schema stand in one block for each rule, in the order of the rules.
Reorderings of the schema come to the same verdict, up to the order of the issues. -/
theorem issues_in_blocks_and_agree_up_to_order (schema : Schema) (payload : Payload) :
    (schema.verdictOf payload).issues =
        schema.rules.flatMap (fun rule => rule.block (payload.get? rule.field)) ∧
      ∀ other, schema.IsReordering other →
        (schema.verdictOf payload).AgreesUpToOrder (other.verdictOf payload) := by
  constructor
  · rw [issues_verdictOf, FieldRule.reportOfAll]
    exact List.flatMap_congr fun rule _ => rule.report_eq_block payload
  · intro other h
    have hkind : (schema.verdictOf payload).isUnchecked =
        (other.verdictOf payload).isUnchecked := by
      rw [isUnchecked_verdictOf, isUnchecked_verdictOf, h.isEmpty_eq]
    obtain ⟨row, hrow, hrules⟩ := h
    have hissues : (schema.verdictOf payload).issues.Perm (other.verdictOf payload).issues := by
      rw [issues_verdictOf, issues_verdictOf]
      apply FieldRule.reportOfAll_perm hrow hrules
      intro rule _ reordered hreordering base container
      exact hreordering.report_perm base container
    exact Verdict.agreesUpToOrder_of_perm hkind hissues

/-- Users with a name and an age, and a note. -/
def usersThenNote : Schema where
  rules :=
    [{ field := "users", type := .list,
       groups :=
         [{ min := some (.whole 3) }, { message := some "too many", max := some (.whole 1) }],
       nested :=
         [{ field := "name", type := .text, groups := [{ required := true }] },
           { field := "age", type := .wholeNumber, groups := [{}] }] },
      { field := "note", type := .text, groups := [{ required := true }] }]
  nodup_fields := by decide

/-- The same rules and groups, all in the opposite order. -/
def noteThenUsers : Schema where
  rules :=
    [{ field := "note", type := .text, groups := [{ required := true }] },
      { field := "users", type := .list,
        groups :=
          [{ message := some "too many", max := some (.whole 1) }, { min := some (.whole 3) }],
        nested :=
          [{ field := "age", type := .wholeNumber, groups := [{}] },
            { field := "name", type := .text, groups := [{ required := true }] }] }]
  nodup_fields := by decide

theorem isReordering_noteThenUsers : usersThenNote.IsReordering noteThenUsers := by
  have hunchanged (field : String) (type : FieldType) (groups : List Constraints) :
      FieldRule.IsReordering ⟨field, type, groups, []⟩ ⟨field, type, groups, []⟩ :=
    .intro rfl rfl (.refl _) (.refl _) .nil
  refine ⟨_, .swap _ _ _, .cons (hunchanged _ _ _) (.cons ?_ .nil)⟩
  refine .intro rfl rfl (.swap _ _ _) (.swap _ _ _) ?_
  exact .cons (hunchanged _ _ _) (.cons (hunchanged _ _ _) .nil)

/-- Two users without a name whose ages are text. -/
def wordyAges : Payload :=
  .value (.object [("users", .array
    [.object [("age", .string "one")], .object [("age", .string "two")]])])

theorem noteThenUsers_agrees_up_to_order :
    usersThenNote.IsReordering noteThenUsers ∧
      (usersThenNote.verdictOf wordyAges).AgreesUpToOrder
        (noteThenUsers.verdictOf wordyAges) ∧
      (usersThenNote.verdictOf wordyAges).issues.map Issue.place =
        ["users", "users", "users[0].name", "users[0].age", "users[1].name", "users[1].age",
          "note"] ∧
      (noteThenUsers.verdictOf wordyAges).issues.map Issue.place =
        ["note", "users", "users", "users[0].age", "users[0].name", "users[1].age",
          "users[1].name"] :=
  ⟨isReordering_noteThenUsers,
    (usersThenNote.issues_in_blocks_and_agree_up_to_order wordyAges).2 noteThenUsers
      isReordering_noteThenUsers,
    by decide, by decide⟩

end Schema

end ParamRules
