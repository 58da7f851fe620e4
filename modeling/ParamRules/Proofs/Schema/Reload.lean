import ParamRules.Proofs.Schema.GroupReading
import ParamRules.Proofs.Schema.InertRules

/-!
# Reloading a schema

The description of a schema is read as the same schema without its inert rules: the same
fields in the same order at every depth, with the same types and the same groups, up to the
patterns, which are made again from their texts.  Inert rules have no part in reports, so
both schemas report the same if the patterns were made from their texts in the first place.
A pattern that was not may match what its text does not denote, and what it leaves
unreported is then reported after reading.
-/

namespace ParamRules

namespace FieldRule

open Json.Fields

/-! ## The fields of a description -/

/-- The fields that describe a rule. -/
def toFields (rule : FieldRule) : Json.Fields :=
  [("field", .string rule.field), ("type", .string rule.type.tag),
    ("opts", .array (rule.groups.map Constraints.toJson))] ++
  if rule.nested.isEmpty then [] else [("items", .array (rule.nested.map toJson))]

theorem toJson_eq (rule : FieldRule) : rule.toJson = .object rule.toFields := by
  obtain ⟨field, type, groups, nested⟩ := rule
  rw [toJson, listToJson_eq_map]
  rfl

theorem get?_items_toFields (rule : FieldRule) :
    get? rule.toFields "items" =
      if rule.nested.isEmpty then none else some (.array (rule.nested.map toJson)) := by
  rw [toFields, get?_append]
  cases rule.nested <;> simp [get?_cons]

/-- The entries for nested rules stand under the key `items`. -/
theorem readItems_eq (fields : Json.Fields) :
    readItems fields =
      match get? fields "items" with
      | some v => readList v
      | none => ([], []) := by
  induction fields with
  | nil => rfl
  | cons entry rest ih =>
      obtain ⟨key, value⟩ := entry
      rw [readItems, get?_cons]
      by_cases hkey : key = "items"
      · rw [if_pos hkey, if_pos hkey.symm]
      · have hkey' : ¬"items" = key := fun h => hkey h.symm
        rw [if_neg hkey, if_neg hkey', ih]

theorem readItems_toFields (rule : FieldRule) :
    readItems rule.toFields = readEntries 0 (rule.nested.map toJson) := by
  rw [readItems_eq, get?_items_toFields]
  cases rule.nested <;> rfl

/-! ## Reading a rule -/

/-- The description of a rule can be read: those of its groups and of the rules nested in
it can. -/
structure IsReadable (rule : FieldRule) : Prop where
  limits : rule.allLimits Quantity.isExpressible = true
  patterns : ∀ p ∈ rule.patterns, p.IsReadable

theorem IsReadable.group
    {rule : FieldRule} (h : rule.IsReadable) {group : Constraints}
    (hgroup : group ∈ rule.groups) : group.IsReadable := by
  obtain ⟨hlimits, -⟩ := (rule.allLimits_iff _).mp h.limits
  refine ⟨hlimits group hgroup, fun p hp => h.patterns p ?_⟩
  exact mem_patterns_iff.mpr (.inl ⟨group, hgroup, hp⟩)

theorem IsReadable.child
    {rule child : FieldRule} (h : rule.IsReadable) (hchild : child ∈ rule.nested) :
    child.IsReadable := by
  obtain ⟨-, hlimits⟩ := (rule.allLimits_iff _).mp h.limits
  refine ⟨hlimits child hchild, fun p hp => h.patterns p ?_⟩
  exact mem_patterns_iff.mpr (.inr ⟨child, hchild, hp⟩)

theorem mapM_ofDescription_toJson
    {groups : List Constraints} (h : ∀ group ∈ groups, group.IsReadable) :
    (groups.map Constraints.toJson).mapM Constraints.ofDescription =
      .ok (groups.map Constraints.recompiled) := by
  induction groups with
  | nil => rfl
  | cons group rest ih =>
      have hgroup := Constraints.ofDescription_toJson (h group List.mem_cons_self)
      have hrest := ih fun other hother => h other (List.mem_cons_of_mem _ hother)
      rw [List.map_cons, List.mapM_cons, hgroup, hrest]
      rfl

theorem readGroups_toFields
    {rule : FieldRule} (h : ∀ group ∈ rule.groups, group.IsReadable) :
    Constraints.readGroups rule.toFields = .ok (rule.groups.map Constraints.recompiled) := by
  have hopts : get? rule.toFields "opts" =
      some (.array (rule.groups.map Constraints.toJson)) := by
    rw [toFields, get?_append]
    simp [get?_cons]
  have hobjects : (rule.groups.map Constraints.toJson).filter
      (fun item => item.fields?.isSome) = rule.groups.map Constraints.toJson := by
    rw [List.filter_eq_self]
    intro item hitem
    obtain ⟨group, -, rfl⟩ := List.mem_map.mp hitem
    rfl
  rw [Constraints.readGroups, hopts]
  change ((rule.groups.map Constraints.toJson).filter
    fun item => item.fields?.isSome).mapM Constraints.ofDescription = _
  rw [hobjects, mapM_ofDescription_toJson h]

/-- What the description of a rule says of the rule's own field. -/
theorem ofFields_toFields
    {rule : FieldRule} (h : ∀ group ∈ rule.groups, group.IsReadable) :
    EntryReading.ofFields rule.toFields =
      if rule.field = "" then .skipped .entryWithoutField
      else .kept { field := rule.field, type := rule.type
                   groups := rule.groups.map Constraints.recompiled } [] := by
  have hfield : get? rule.toFields "field" = some (.string rule.field) := by
    rw [toFields, get?_append]
    simp [get?_cons]
  have htype : get? rule.toFields "type" = some (.string rule.type.tag) := by
    rw [toFields, get?_append]
    simp [get?_cons]
  simp only [EntryReading.ofFields, hfield, htype, Option.bind_some, Json.text?,
    FieldType.ofTag_tag, readGroups_toFields h]

theorem fst_followedBy
    (reading : EntryReading) (position : Nat) (after : List FieldRule × List Event) :
    (reading.followedBy position after).1 =
      match reading with
      | .kept rule _ => rule :: after.1
      | _ => after.1 := by
  cases reading <;> rfl

theorem readEntries_map_toJson
    {rules : List FieldRule}
    (ih : ∀ rule ∈ rules, ∃ below, readEntry rule.toJson =
      if rule.field = "" then .skipped .entryWithoutField
      else .kept rule.withoutInert.recompiled below)
    (position : Nat) :
    (readEntries position (rules.map toJson)).1 = (dropInert rules).map recompiled := by
  induction rules generalizing position with
  | nil => rfl
  | cons rule rest ihrest =>
      obtain ⟨below, hread⟩ := ih rule List.mem_cons_self
      have hrest := ihrest (fun other hother => ih other (List.mem_cons_of_mem _ hother))
        (position + 1)
      rw [List.map_cons, readEntries, fst_followedBy, dropInert, hread, hrest]
      by_cases hfield : rule.field = ""
      · simp [hfield]
      · simp [hfield]

/-- The description of a rule is read as the rule without what is inert, with patterns made
from the texts of its patterns. -/
theorem readEntry_toJson {rule : FieldRule} (h : rule.IsReadable) :
    ∃ below, readEntry rule.toJson =
      if rule.field = "" then .skipped .entryWithoutField
      else .kept rule.withoutInert.recompiled below := by
  induction rule using FieldRule.induction with
  | step rule ih =>
      have hbelow := readEntries_map_toJson
        (fun child hchild => ih child hchild (h.child hchild)) 0
      have hown := ofFields_toFields fun group hgroup => h.group hgroup
      refine ⟨(readEntries 0 (rule.nested.map toJson)).2, ?_⟩
      rw [toJson_eq, readEntry, readItems_toFields, hown]
      split
      · rfl
      · rw [EntryReading.nest, hbelow, List.nil_append, recompiled, mapGroups_eq,
          field_withoutInert, type_withoutInert, groups_withoutInert, nested_withoutInert]
        rfl

theorem patternsOfRow_dropInert_subset
    {rules : List FieldRule}
    (ih : ∀ rule ∈ rules, rule.withoutInert.patterns ⊆ rule.patterns) :
    patternsOfRow (dropInert rules) ⊆ patternsOfRow rules := by
  intro p hp
  obtain ⟨kept, hkept, hp⟩ := mem_patternsOfRow_iff.mp hp
  rw [dropInert_eq] at hkept
  obtain ⟨rule, hrule, rfl⟩ := List.mem_map.mp hkept
  have hmem := List.mem_of_mem_filter hrule
  exact mem_patternsOfRow_iff.mpr ⟨rule, hmem, ih rule hmem hp⟩

theorem patterns_withoutInert_subset (rule : FieldRule) :
    rule.withoutInert.patterns ⊆ rule.patterns := by
  induction rule using FieldRule.induction with
  | step rule ih =>
      intro p hp
      rw [mem_patterns_iff, groups_withoutInert, nested_withoutInert,
        ← mem_patternsOfRow_iff] at hp
      rcases hp with hgroups | hnested
      · exact mem_patterns_iff.mpr (.inl hgroups)
      · have hp := patternsOfRow_dropInert_subset ih hnested
        exact mem_patterns_iff.mpr (.inr (mem_patternsOfRow_iff.mp hp))

end FieldRule

namespace Schema

/-! ## Reading a schema -/

theorem insertInto_of_notMem
    {rule : FieldRule} {rules : List FieldRule}
    (h : rule.field ∉ FieldRule.fieldsOf rules) :
    rule.insertInto rules = rules ++ [rule] := by
  induction rules with
  | nil => rfl
  | cons other rest ih =>
      simp only [FieldRule.fieldsOf, List.map_cons, List.mem_cons, not_or] at h
      obtain ⟨hother, hrest⟩ := h
      rw [FieldRule.insertInto, if_neg fun heq => hother heq.symm, ih hrest,
        List.cons_append]

theorem rules_foldl_insert
    {rules : List FieldRule} {schema : Schema}
    (h : (FieldRule.fieldsOf (schema.rules ++ rules)).Nodup) :
    (rules.foldl insert schema).rules = schema.rules ++ rules := by
  induction rules generalizing schema with
  | nil => simp
  | cons rule rest ih =>
      have hnew : rule.field ∉ FieldRule.fieldsOf schema.rules := by
        rw [FieldRule.fieldsOf, List.map_append, List.nodup_append] at h
        intro hmem
        exact h.2.2 _ hmem _ (List.mem_map_of_mem List.mem_cons_self) rfl
      have hinsert : (schema.insert rule).rules = schema.rules ++ [rule] :=
        insertInto_of_notMem hnew
      rw [List.foldl_cons, ih]
      · rw [hinsert, List.append_assoc, List.singleton_append]
      · rw [hinsert, List.append_assoc, List.singleton_append]
        exact h

theorem ext_rules {a b : Schema} (h : a.rules = b.rules) : a = b := by
  cases a
  cases b
  cases h
  rfl

/-- Rules for distinct fields are a schema as they stand. -/
theorem ofRules_rules (schema : Schema) : ofRules schema.rules = schema := by
  have hnodup : (FieldRule.fieldsOf (empty.rules ++ schema.rules)).Nodup :=
    schema.nodup_fields
  exact ext_rules (rules_foldl_insert hnodup)

theorem ofDescription_toJson
    {schema : Schema} (hlimits : schema.allLimits Quantity.isExpressible = true)
    (hpatterns : ∀ p ∈ schema.patterns, p.IsReadable) :
    ofDescription schema.toJson = schema.withoutInert.recompiled := by
  have hrules (rule : FieldRule) (hrule : rule ∈ schema.rules) : rule.IsReadable := by
    refine ⟨(FieldRule.allLimitsOfRow_iff _ _).mp hlimits rule hrule, fun p hp => ?_⟩
    exact hpatterns p (FieldRule.mem_patternsOfRow_iff.mpr ⟨rule, hrule, hp⟩)
  have hentries := FieldRule.readEntries_map_toJson
    (fun rule hrule => FieldRule.readEntry_toJson (hrules rule hrule)) 0
  calc
    ofDescription schema.toJson =
        ofRules (FieldRule.readEntries 0 (schema.rules.map FieldRule.toJson)).1 := rfl
    _ = ofRules schema.withoutInert.recompiled.rules := by rw [hentries]; rfl
    _ = schema.withoutInert.recompiled := ofRules_rules schema.withoutInert.recompiled

theorem patterns_withoutInert_subset (schema : Schema) :
    schema.withoutInert.patterns ⊆ schema.patterns :=
  FieldRule.patternsOfRow_dropInert_subset fun rule _ => rule.patterns_withoutInert_subset

theorem recompiled_eq_self
    {schema : Schema} (h : ∀ p ∈ schema.patterns, p.IsCompiled) :
    schema.recompiled = schema := by
  refine ext_rules (map_eq_self_of_mem fun rule hrule => ?_)
  exact FieldRule.recompiled_eq_self fun p hp =>
    h p (FieldRule.mem_patternsOfRow_iff.mpr ⟨rule, hrule, hp⟩)

/-- Patterns that were made from their texts are read back as they are. -/
theorem ofDescription_toJson_of_isCompiled
    {schema : Schema} (hlimits : schema.allLimits Quantity.isExpressible = true)
    (hpatterns : ∀ p ∈ schema.patterns, p.IsCompiled) :
    ofDescription schema.toJson = schema.withoutInert := by
  rw [ofDescription_toJson hlimits fun p hp => (hpatterns p hp).isReadable]
  exact recompiled_eq_self fun p hp => hpatterns p (patterns_withoutInert_subset schema hp)

/-- Reading the description of a schema gives the schema without its inert rules, with
patterns made from the texts of its patterns, if the limits can be described and the texts
denote patterns.  If all patterns were made from their texts, then they are the same, and the
schema that is read has the same issues for every payload. -/
theorem reload_keeps_rules_and_issues
    (schema : Schema) (hlimits : schema.allLimits Quantity.isExpressible = true)
    (hpatterns : ∀ p ∈ schema.patterns, p.IsReadable) :
    ofDescription schema.toJson = schema.withoutInert.recompiled ∧
      ((∀ p ∈ schema.patterns, p.IsCompiled) →
        ofDescription schema.toJson = schema.withoutInert ∧
          ∀ payload, ((ofDescription schema.toJson).verdict payload).issues =
            (schema.verdict payload).issues) := by
  refine ⟨ofDescription_toJson hlimits hpatterns, fun hcompiled => ?_⟩
  have hreload := ofDescription_toJson_of_isCompiled hlimits hcompiled
  refine ⟨hreload, fun payload => ?_⟩
  rw [hreload, schema.issues_withoutInert]

/-- Rules with an inert rule at the top and one below, limits of both kinds, and a pattern
that itself has slashes at both ends. -/
def routeRules : Schema where
  rules :=
    [{ field := "", type := .object, nested := [{ field := "lost", type := .text }] },
      { field := "routes"
        type := .list
        groups :=
          [{ required := true
             min := some (.whole (-0x8000000000000000))
             max := some (.fractional (.finite (.zero true)))
             element := some ⟨.text,
              { message := some "bad route", format := Pattern.ofString? "/api/" }⟩ }]
        nested :=
          [{ field := "", type := .text }, { field := "name", type := .text }] }]
  nodup_fields := by decide

theorem reload_routeRules :
    routeRules.allLimits Quantity.isExpressible = true ∧
      (∀ p ∈ routeRules.patterns, p.IsCompiled) ∧
      routeRules.withoutInert.fields = ["routes"] ∧
      ofDescription routeRules.toJson = routeRules.withoutInert ∧
      ∀ payload, ((ofDescription routeRules.toJson).verdict payload).issues =
        (routeRules.verdict payload).issues := by
  have hcompiled : ∀ p ∈ routeRules.patterns, p.IsCompiled := by decide +kernel
  have hreload := reload_keeps_rules_and_issues routeRules rfl
    fun p hp => (hcompiled p hp).isReadable
  exact ⟨rfl, hcompiled, rfl, hreload.2 hcompiled⟩

/-- A note with an empty line.  The pattern is matched line by line, which its text does not
say. -/
def lineNote : Schema where
  rules :=
    [{ field := "note"
       type := .text
       groups :=
         [{ format := (Pattern.ofString? "(?m)^$").map fun pattern =>
              { pattern with source := "^$" } }] }]
  nodup_fields := by decide

/-- What is read of the description matches no text but the empty one, so it rejects a note
that the schema itself accepts. -/
theorem lineNote_reports_unlike_reload :
    lineNote.allLimits Quantity.isExpressible = true ∧
      (∀ p ∈ lineNote.patterns, p.IsReadable) ∧
      lineNote.withoutInert = lineNote ∧
      (lineNote.verdict (.object [("note", .string "\n")])).issues = [] ∧
      ((ofDescription lineNote.toJson).verdict (.object [("note", .string "\n")])).issues =
        [⟨"note", .badFormat, "Parameter note format is invalid"⟩] :=
  ⟨rfl, by decide +kernel, rfl, by decide +kernel, by decide +kernel⟩

end Schema

end ParamRules
