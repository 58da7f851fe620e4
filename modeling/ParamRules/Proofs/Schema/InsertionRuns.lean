import Mathlib.Data.Finset.Card
import ParamRules.Proofs.Schema.Insertion

/-!
# Runs of additions

However many rules are added to a schema, and however often for the same field, the schema
stays a map that remembers an order.  It is described here by the history of additions: a
field stands where it was mentioned first and has the rule that was added last.

The invariant is kept by a single addition and so by every run of them.
-/

namespace ParamRules

/-! ## Rows with repeated names -/

/-- The names of a row without repetitions, in the order of their first mention. -/
structure InFirstMentionOrder (listed names : List String) : Prop where
  nodup : listed.Nodup
  mem_iff : ∀ name, name ∈ listed ↔ name ∈ names
  pairwise : listed.Pairwise fun a b => names.idxOf a < names.idxOf b

/-- The item is the last one of its name in a row. -/
def IsLastNamed {α : Type} (nameOf : α → String) (row : List α) (name : String) (item : α) :
    Prop :=
  ∃ before after, row = before ++ item :: after ∧ nameOf item = name ∧
    ∀ other ∈ after, nameOf other ≠ name

namespace InFirstMentionOrder

variable {listed others names : List String}

theorem nil : InFirstMentionOrder [] [] where
  nodup := .nil
  mem_iff := fun _ => Iff.rfl
  pairwise := .nil

/-- One more name goes last if it is new, and changes nothing otherwise. -/
theorem concat (h : InFirstMentionOrder listed names) (name : String) :
    InFirstMentionOrder (if name ∈ listed then listed else listed ++ [name])
      (names ++ [name]) := by
  -- an old name is still first mentioned where it was before
  have hpairwise :
      listed.Pairwise fun a b => (names ++ [name]).idxOf a < (names ++ [name]).idxOf b := by
    apply h.pairwise.imp_of_mem
    intro a b ha hb hlt
    rw [List.idxOf_append_of_mem ((h.mem_iff a).mp ha),
      List.idxOf_append_of_mem ((h.mem_iff b).mp hb)]
    exact hlt
  by_cases hmem : name ∈ listed
  · rw [if_pos hmem]
    refine ⟨h.nodup, ?_, hpairwise⟩
    intro other
    rw [List.mem_append, List.mem_singleton, ← h.mem_iff]
    constructor
    · exact Or.inl
    · rintro (hother | rfl)
      · exact hother
      · exact hmem
  · rw [if_neg hmem]
    have hnew : name ∉ names := fun hname => hmem ((h.mem_iff name).mpr hname)
    refine ⟨?_, ?_, ?_⟩
    · rw [← List.concat_eq_append]
      exact h.nodup.concat hmem
    · intro other
      rw [List.mem_append, List.mem_append, h.mem_iff]
    · rw [List.pairwise_append]
      refine ⟨hpairwise, List.pairwise_singleton _ _, ?_⟩
      intro a ha b hb
      obtain rfl := List.mem_singleton.mp hb
      have hold : a ∈ names := (h.mem_iff a).mp ha
      have hlt : names.idxOf a < names.length := List.idxOf_lt_length_iff.mpr hold
      rw [List.idxOf_append_of_mem hold, List.idxOf_append_of_notMem hnew]
      exact Nat.lt_add_right _ hlt

/-- There are as many listed names as there are distinct names. -/
theorem length_eq (h : InFirstMentionOrder listed names) :
    listed.length = names.toFinset.card := by
  have hsame : listed.toFinset = names.toFinset := by
    ext name
    rw [List.mem_toFinset, List.mem_toFinset, h.mem_iff]
  rw [← hsame, List.toFinset_card_of_nodup h.nodup]

/-- A row of names can be listed in one way only. -/
theorem unique
    (h : InFirstMentionOrder listed names)
    (h' : InFirstMentionOrder others names) : listed = others := by
  have hperm : listed.Perm others := by
    rw [List.perm_ext_iff_of_nodup h.nodup h'.nodup]
    intro name
    rw [h.mem_iff, h'.mem_iff]
  apply hperm.eq_of_pairwise _ h.pairwise h'.pairwise
  intro a b _ _ hab hba
  exact absurd hab (Nat.lt_asymm hba)

end InFirstMentionOrder

section LastNamed

variable {α : Type} {nameOf : α → String} {row : List α} {name : String} {item : α}

theorem isLastNamed_iff_find? :
    IsLastNamed nameOf row name item ↔
      row.reverse.find? (fun other => nameOf other == name) = some item := by
  rw [List.find?_eq_some_iff_append]
  constructor
  · rintro ⟨before, after, rfl, hname, hafter⟩
    refine ⟨beq_iff_eq.mpr hname, after.reverse, before.reverse, by simp, ?_⟩
    intro other hother
    simpa using hafter other (List.mem_reverse.mp hother)
  · rintro ⟨hname, after, before, hrow, hafter⟩
    have hrow' : row = before.reverse ++ item :: after.reverse := by
      rw [← List.reverse_inj, hrow]
      simp
    refine ⟨before.reverse, after.reverse, hrow', beq_iff_eq.mp hname, ?_⟩
    intro other hother
    simpa using hafter other (List.mem_reverse.mp hother)

theorem isLastNamed_concat_iff {last : α} :
    IsLastNamed nameOf (row ++ [last]) name item ↔
      if nameOf last = name then last = item else IsLastNamed nameOf row name item := by
  rw [isLastNamed_iff_find?, isLastNamed_iff_find?, List.reverse_concat, List.find?_cons]
  by_cases hlast : nameOf last = name
  · simp [hlast]
  · rw [if_neg hlast, beq_eq_false_iff_ne.mpr hlast]

end LastNamed

/-! ## A single addition -/

namespace FieldRule

theorem insertInto_eq_map
    {rule : FieldRule} {rules : List FieldRule}
    (hnodup : (fieldsOf rules).Nodup) (hmem : rule.field ∈ fieldsOf rules) :
    rule.insertInto rules =
      rules.map fun other => if other.field = rule.field then rule else other := by
  induction rules with
  | nil => cases hmem
  | cons first rest ih =>
      obtain ⟨hnew, hrest⟩ := List.nodup_cons.mp hnodup
      rw [insertInto, List.map_cons]
      by_cases hfirst : first.field = rule.field
      · -- the fields are distinct, so no later rule is replaced
        have hothers (other : FieldRule) (hother : other ∈ rest) :
            (if other.field = rule.field then rule else other) = other := by
          have hold : other.field ∈ fieldsOf rest := List.mem_map_of_mem hother
          apply if_neg
          intro heq
          rw [heq, ← hfirst] at hold
          exact hnew hold
        rw [if_pos hfirst, if_pos hfirst, List.map_congr_left hothers, List.map_id']
      · have hmem' : rule.field ∈ fieldsOf rest := by
          rcases List.mem_cons.mp hmem with heq | hmem
          · exact absurd heq.symm hfirst
          · exact hmem
        rw [if_neg hfirst, if_neg hfirst, ih hrest hmem']

end FieldRule

/-! ## Entries -/

/-- Puts a value at the place of its key, or last, and hands out the value that stood
there. -/
def exchangeEntry {α : Type} (key : String) (value : α) :
    List (String × α) → Option α × List (String × α)
  | [] => (none, [(key, value)])
  | entry :: rest =>
      if entry.1 = key then
        (some entry.2, (key, value) :: rest)
      else
        ((exchangeEntry key value rest).1, entry :: (exchangeEntry key value rest).2)

namespace FieldRule

/-- The rules as values under their fields as keys. -/
def entriesOf (rules : List FieldRule) : List (String × FieldRule) :=
  rules.map fun rule => (rule.field, rule)

/-- The entries that are left after a row of rules was added to none, each under its
field. -/
def entriesAfter (history : List FieldRule) : List (String × FieldRule) :=
  history.foldl (fun entries rule => (exchangeEntry rule.field rule entries).2) []

theorem entriesAfter_concat (history : List FieldRule) (rule : FieldRule) :
    entriesAfter (history ++ [rule]) =
      (exchangeEntry rule.field rule (entriesAfter history)).2 :=
  List.foldl_concat _ _ rule history

theorem lookup_entriesOf (rules : List FieldRule) (field : String) :
    (entriesOf rules).lookup field = find? rules field := by
  induction rules with
  | nil => rfl
  | cons rule rest ih =>
      change List.lookup field ((rule.field, rule) :: entriesOf rest) = _
      rw [List.lookup_cons, find?_cons, ih]
      by_cases hfield : rule.field = field
      · simp [hfield]
      · rw [if_neg hfield, beq_eq_false_iff_ne.mpr fun heq => hfield heq.symm]

/-- Under its key stands a rule for this very field, and stays so. -/
theorem exchangeEntry_entriesOf (rule : FieldRule) (rules : List FieldRule) :
    exchangeEntry rule.field rule (entriesOf rules) =
      ((rule.exchangeIn rules).1, entriesOf (rule.exchangeIn rules).2) := by
  induction rules with
  | nil => rfl
  | cons other rest ih =>
      change exchangeEntry rule.field rule ((other.field, other) :: entriesOf rest) = _
      by_cases hfield : other.field = rule.field
      · rw [exchangeEntry, if_pos hfield, exchangeIn, if_pos hfield]
        rfl
      · rw [exchangeEntry, if_neg hfield, exchangeIn, if_neg hfield, ih]
        rfl

end FieldRule

namespace Schema

/-- Adds a row of rules, one after the other. -/
def insertAll (schema : Schema) (rules : List FieldRule) : Schema :=
  rules.foldl (fun before rule => (before.exchange rule).2) schema

/-- A schema holds what is left of a history of additions: the fields in the order of their
first mention, and for each of them the rule that was added last. -/
structure IsMapOf (schema : Schema) (history : List FieldRule) : Prop where
  fields_inOrder : InFirstMentionOrder schema.fields (FieldRule.fieldsOf history)
  get?_eq_some_iff : ∀ field rule,
    schema.get? field = some rule ↔ IsLastNamed FieldRule.field history field rule
  get?_eq_none_iff : ∀ field, schema.get? field = none ↔ field ∉ FieldRule.fieldsOf history
  entries_eq : FieldRule.entriesAfter history = FieldRule.entriesOf schema.rules

/-- What one addition hands out and changes. -/
structure Exchanges (before : Schema) (rule : FieldRule) (old? : Option FieldRule)
    (after : Schema) : Prop where
  old?_eq : old? = before.get? rule.field
  get?_eq : after.get? rule.field = some rule
  get?_eq_of_ne : ∀ field, field ≠ rule.field → after.get? field = before.get? field
  rules_eq : after.rules =
    if rule.field ∈ before.fields then
      before.rules.map fun other => if other.field = rule.field then rule else other
    else
      before.rules ++ [rule]

theorem exchanges (before : Schema) (rule : FieldRule) :
    before.Exchanges rule (before.exchange rule).1 (before.exchange rule).2 := by
  rw [exchange_eq]
  refine ⟨rfl, ?_, ?_, ?_⟩
  · rw [get?_insert, if_pos rfl]
  · intro field hfield
    rw [get?_insert, if_neg hfield.symm]
  · by_cases hmem : rule.field ∈ before.fields
    · rw [if_pos hmem]
      exact FieldRule.insertInto_eq_map before.nodup_fields hmem
    · rw [if_neg hmem]
      exact insertInto_of_notMem hmem

/-- The rules are those that are found for the fields. -/
theorem map_some_rules (schema : Schema) :
    schema.rules.map some = schema.fields.map schema.get? := by
  rw [fields, FieldRule.fieldsOf, List.map_map]
  apply List.map_congr_left
  intro rule hmem
  exact (FieldRule.find?_field_of_mem schema.nodup_fields hmem).symm

theorem isMapOf_empty : empty.IsMapOf [] where
  fields_inOrder := .nil
  get?_eq_some_iff := by
    intro field rule
    rw [isLastNamed_iff_find?]
    rfl
  get?_eq_none_iff := fun _ => ⟨fun _ => List.not_mem_nil, fun _ => rfl⟩
  entries_eq := rfl

/-- One addition keeps the invariant, with the history one rule longer. -/
theorem IsMapOf.exchange
    {schema : Schema} {history : List FieldRule}
    (h : schema.IsMapOf history) (rule : FieldRule) :
    (schema.exchange rule).2.IsMapOf (history ++ [rule]) := by
  have hinsert : (schema.exchange rule).2 = schema.insert rule := by
    rw [exchange_eq]
  refine ⟨?_, ?_, ?_, ?_⟩
  · rw [hinsert, fields_insert, FieldRule.fieldsOf_concat]
    exact h.fields_inOrder.concat rule.field
  · intro field other
    rw [hinsert, get?_insert, isLastNamed_concat_iff]
    by_cases hfield : rule.field = field
    · rw [if_pos hfield, if_pos hfield, Option.some.injEq]
    · rw [if_neg hfield, if_neg hfield, h.get?_eq_some_iff]
  · intro field
    rw [hinsert, get?_insert, FieldRule.fieldsOf_concat, List.mem_append, List.mem_singleton]
    by_cases hfield : rule.field = field
    · simp [hfield]
    · have hfield' : ¬field = rule.field := fun heq => hfield heq.symm
      rw [if_neg hfield, h.get?_eq_none_iff]
      simp [hfield']
  · rw [FieldRule.entriesAfter_concat, h.entries_eq, FieldRule.exchangeEntry_entriesOf]
    rfl

/-- A run of additions keeps the invariant, with the history longer by the whole run. -/
theorem IsMapOf.insertAll
    {schema : Schema} {history : List FieldRule}
    (h : schema.IsMapOf history) (rules : List FieldRule) :
    (schema.insertAll rules).IsMapOf (history ++ rules) := by
  induction rules generalizing schema history with
  | nil =>
      rw [List.append_nil]
      exact h
  | cons rule rest ih =>
      have hlast : ((schema.exchange rule).2.insertAll rest).IsMapOf
          (history ++ [rule] ++ rest) := ih (h.exchange rule)
      rw [List.append_assoc] at hlast
      exact hlast

theorem insertAll_empty (rules : List FieldRule) : empty.insertAll rules = ofRules rules := by
  have hstep : (fun (before : Schema) rule => (before.exchange rule).2) = insert := by
    funext before rule
    rw [exchange_eq]
  rw [insertAll, hstep]
  rfl

theorem isMapOf_ofRules (rules : List FieldRule) : (ofRules rules).IsMapOf rules := by
  rw [← insertAll_empty]
  exact isMapOf_empty.insertAll rules

theorem IsMapOf.size_eq
    {schema : Schema} {history : List FieldRule} (h : schema.IsMapOf history) :
    schema.size = (FieldRule.fieldsOf history).toFinset.card := by
  rw [← h.fields_inOrder.length_eq]
  exact (List.length_map _).symm

theorem IsMapOf.lookup_entriesAfter
    {schema : Schema} {history : List FieldRule} (h : schema.IsMapOf history)
    (field : String) :
    (FieldRule.entriesAfter history).lookup field = schema.get? field := by
  rw [h.entries_eq]
  exact FieldRule.lookup_entriesOf schema.rules field

/-- After any run of additions to a schema that was made from any row of rules, the schema
holds what is left of all of them, one more addition hands out the rule that it replaces
and changes nothing else, and the rules in their order make up the schema again. -/
theorem additions_keep_map (initial added : List FieldRule) (rule : FieldRule) :
    let schema := (ofRules initial).insertAll added
    schema.IsMapOf (initial ++ added) ∧
      schema.Exchanges rule (schema.exchange rule).1 (schema.exchange rule).2 ∧
      (∀ field, (FieldRule.entriesAfter (initial ++ added)).lookup field =
        schema.get? field) ∧
      schema.size = (FieldRule.fieldsOf (initial ++ added)).toFinset.card ∧
      schema.rules.map some = schema.fields.map schema.get? ∧
      ofRules schema.rules = schema := by
  intro schema
  have hmap : schema.IsMapOf (initial ++ added) := (isMapOf_ofRules initial).insertAll added
  exact ⟨hmap, schema.exchanges rule, hmap.lookup_entriesAfter, hmap.size_eq,
    schema.map_some_rules, schema.ofRules_rules⟩

example :
    let a : FieldRule := { field := "a", type := .text }
    let b : FieldRule := { field := "b", type := .text }
    let c : FieldRule := { field := "a", type := .wholeNumber }
    ((ofRules [a, b]).exchange c).1 = some a ∧
      ((ofRules [a, b]).exchange c).2.rules = [c, b] :=
  ⟨rfl, rfl⟩

end Schema

end ParamRules
