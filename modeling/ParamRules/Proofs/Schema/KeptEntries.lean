import ParamRules.Proofs.Schema.Insertion
import ParamRules.Proofs.Schema.ReadRules

/-!
# Which entries are kept

An entry of a description is kept if and only if it is well formed, which is said here
without mention of how it is read: a named field, a known type, and groups that are well
formed in their turn.  What its list of nested entries looks like plays no part in this.
The rule for a kept entry has the field, the type and the groups that the entry states.

The rules that are read from a row of entries are those of the kept ones, in their order,
at the top as below.  An entry that is not kept might as well not be there.
-/

namespace ParamRules

open Json.Fields

/-! ## Well-formed groups and entries -/

/-- The fields state a type: the string under `type` stands for a keyword of it. -/
def StatesType (fields : Json.Fields) (type : FieldType) : Prop :=
  ∃ tag word, get? fields "type" = some (.string tag) ∧ Text.Spells tag word ∧
    FieldType.ofKeyword? word = some type

/-- A group is well formed if the string under `format`, should there be one, stands for
the source of a pattern, and if what the group states for elements, should it do so, has a
type and is well formed as a group. -/
inductive Constraints.WellFormed : Json.Fields → Prop
  | intro {fields : Json.Fields}
      (hformat : ∀ text, get? fields "format" = some (.string text) →
        ∃ source, WritesSource text source ∧ (Pattern.ofString? source).isSome)
      (htype : ∀ element, get? fields "element" = some (.object element) →
        ∃ type, StatesType element type)
      (helement : ∀ element, get? fields "element" = some (.object element) →
        WellFormed element) :
      WellFormed fields

/-- An entry has a group: an object that stands under `opts`, alone or in a list. -/
def StatesGroup (fields group : Json.Fields) : Prop :=
  get? fields "opts" = some (.object group) ∨
    ∃ items, get? fields "opts" = some (.array items) ∧ .object group ∈ items

/-- An entry is well formed if it is an object with a named field, a type, and only
well-formed groups. -/
inductive FieldRule.WellFormed : Json → Prop
  | intro {fields : Json.Fields} {field : String} {type : FieldType}
      (hfield : get? fields "field" = some (.string field)) (hname : field ≠ "")
      (htype : StatesType fields type)
      (hgroups : ∀ group, StatesGroup fields group → Constraints.WellFormed group) :
      WellFormed (.object fields)

/-! ## Reading without failure -/

section Except

variable {ε α β : Type}

theorem exists_bind_eq_ok_iff {x : Except ε α} {f : α → Except ε β} :
    (∃ b, x >>= f = .ok b) ↔ ∃ a, x = .ok a ∧ ∃ b, f a = .ok b := by
  constructor
  · rintro ⟨b, h⟩
    obtain ⟨a, ha, hb⟩ := exists_of_bind_eq_ok h
    exact ⟨a, ha, b, hb⟩
  · rintro ⟨a, rfl, b, hb⟩
    exact ⟨b, hb⟩

theorem exists_mapM_eq_ok_iff {f : α → Except ε β} {items : List α} :
    (∃ results, items.mapM f = .ok results) ↔
      ∀ item ∈ items, ∃ result, f item = .ok result := by
  induction items with
  | nil => simp [pure, Except.pure]
  | cons item rest ih =>
      rw [List.mapM_cons, List.forall_mem_cons, ← ih, exists_bind_eq_ok_iff]
      constructor
      · rintro ⟨result, hitem, h⟩
        obtain ⟨results, hrest, -⟩ := exists_bind_eq_ok_iff.mp h
        exact ⟨⟨result, hitem⟩, results, hrest⟩
      · rintro ⟨⟨result, hitem⟩, results, hrest⟩
        exact ⟨result, hitem, exists_bind_eq_ok_iff.mpr ⟨results, hrest, _, rfl⟩⟩

theorem eq_nil_of_mapM_eq_ok_nil
    {f : α → Except ε β} {items : List α} (h : items.mapM f = .ok []) : items = [] := by
  cases items with
  | nil => rfl
  | cons item rest =>
      rw [List.mapM_cons] at h
      obtain ⟨_, -, h⟩ := exists_of_bind_eq_ok h
      obtain ⟨_, -, h⟩ := exists_of_bind_eq_ok h
      cases h

end Except

theorem bind_text?_eq_some_iff {fields : Json.Fields} {key text : String} :
    (get? fields key).bind Json.text? = some text ↔
      get? fields key = some (.string text) := by
  cases get? fields key with
  | none => simp
  | some v => cases v <;> simp [Json.text?]

theorem FieldType.ofTag_eq_ok_iff {tag : String} {type : FieldType} :
    ofTag tag = .ok type ↔ ∃ word, Text.Spells tag word ∧ ofKeyword? word = some type := by
  simp only [Text.spells_iff, exists_eq_left]
  unfold ofTag
  cases ofKeyword? (Text.keyword tag) <;> simp

theorem StatesType.of_ofTag
    {fields : Json.Fields} {tag : String} {type : FieldType}
    (htag : get? fields "type" = some (.string tag)) (h : FieldType.ofTag tag = .ok type) :
    StatesType fields type := by
  obtain ⟨word, hspells, hkeyword⟩ := FieldType.ofTag_eq_ok_iff.mp h
  exact ⟨tag, word, htag, hspells, hkeyword⟩

theorem StatesType.exists_ofTag
    {fields : Json.Fields} {type : FieldType} (h : StatesType fields type) :
    ∃ tag, get? fields "type" = some (.string tag) ∧ FieldType.ofTag tag = .ok type := by
  obtain ⟨tag, word, htag, hspells, hkeyword⟩ := h
  exact ⟨tag, htag, FieldType.ofTag_eq_ok_iff.mpr ⟨word, hspells, hkeyword⟩⟩

namespace Constraints

theorem readElementType_eq_ok_iff {fields : Json.Fields} {type : FieldType} :
    readElementType fields = .ok type ↔ StatesType fields type := by
  constructor
  · intro h
    unfold readElementType at h
    split at h
    next tag htag => exact .of_ofTag (bind_text?_eq_some_iff.mp htag) h
    next => cases h
  · intro h
    obtain ⟨tag, htag, htype⟩ := h.exists_ofTag
    rw [readElementType, bind_text?_eq_some_iff.mpr htag]
    exact htype

theorem exists_readPattern_eq_ok_iff {fields : Json.Fields} :
    (∃ pattern, readPattern fields = .ok pattern) ↔
      ∀ text, get? fields "format" = some (.string text) →
        ∃ source, WritesSource text source ∧ (Pattern.ofString? source).isSome := by
  simp only [writesSource_iff, exists_eq_left]
  unfold readPattern
  cases hget : get? fields "format" with
  | none => simp
  | some v =>
      cases v with
      | string text =>
          cases hpattern : Pattern.ofString? (String.ofList (withoutSlashes text.toList)) <;>
            simp [Json.text?, hpattern]
      | _ => simp [Json.text?]

/-- Reading what a group states for elements fails only if an object stands there without
a type, or one that is no group. -/
theorem exists_readElement_eq_ok_iff {fields : Json.Fields} :
    (∃ element, readElement fields = .ok element) ↔
      ∀ element, get? fields "element" = some (.object element) →
        (∃ type, StatesType element type) ∧
          ∃ group, ofDescription (.object element) = .ok group := by
  rw [readElement_eq]
  cases hget : get? fields "element" with
  | none => simp
  | some v =>
      cases v with
      | object inner =>
          have hinner : (Option.some (Json.object inner)).bind Json.fields? = some inner := rfl
          simp only [hinner, exists_bind_eq_ok_iff, Option.some.injEq, Json.object.injEq,
            forall_eq', ← readElementType_eq_ok_iff]
          constructor
          · rintro ⟨type, htype, group, hgroup, -⟩
            exact ⟨⟨type, htype⟩, group, hgroup⟩
          · rintro ⟨⟨type, htype⟩, group, hgroup⟩
            exact ⟨type, htype, group, hgroup, _, rfl⟩
      | _ => simp [Json.fields?]

theorem exists_readFields_eq_ok_iff
    {fields : Json.Fields} {element : Except ReadError (Option (Typed Constraints))} :
    (∃ group, readFields fields element = .ok group) ↔
      (∃ pattern, readPattern fields = .ok pattern) ∧ ∃ stated, element = .ok stated := by
  simp only [readFields, exists_bind_eq_ok_iff]
  constructor
  · rintro ⟨pattern, hpattern, stated, hstated, -⟩
    exact ⟨⟨pattern, hpattern⟩, stated, hstated⟩
  · rintro ⟨⟨pattern, hpattern⟩, stated, hstated⟩
    exact ⟨pattern, hpattern, stated, hstated, _, rfl⟩

/-- A group can be read if and only if it is well formed. -/
theorem exists_ofDescription_eq_ok_iff {fields : Json.Fields} :
    (∃ group, ofDescription (.object fields) = .ok group) ↔ WellFormed fields := by
  -- induction on the description: what is stated for elements is a part of it
  generalize hv : Json.object fields = v
  induction v using Json.induction generalizing fields with
  | object fields ih =>
      cases hv
      have hinner {element : Json.Fields}
          (hget : get? fields "element" = some (.object element)) :
          (∃ group, ofDescription (.object element) = .ok group) ↔ WellFormed element :=
        ih _ (mem_of_get? hget) rfl
      rw [ofDescription, exists_readFields_eq_ok_iff, exists_readPattern_eq_ok_iff,
        exists_readElement_eq_ok_iff]
      constructor
      · rintro ⟨hformat, hstated⟩
        refine .intro hformat (fun element hget => (hstated element hget).1) ?_
        intro element hget
        exact (hinner hget).mp (hstated element hget).2
      · rintro ⟨hformat, htype, helement⟩
        refine ⟨hformat, fun element hget => ⟨htype element hget, ?_⟩⟩
        exact (hinner hget).mpr (helement element hget)
  | null | bool | number | string | array => cases hv

/-- The groups of an entry can be read if and only if each of them is well formed. -/
theorem exists_readGroups_eq_ok_iff {fields : Json.Fields} :
    (∃ groups, readGroups fields = .ok groups) ↔
      ∀ group, StatesGroup fields group → WellFormed group := by
  unfold readGroups StatesGroup
  cases hget : get? fields "opts" with
  | none => simp
  | some v =>
      cases v with
      | object group =>
          have hgroup : (∃ groups, (do return [← ofDescription (.object group)]) = .ok groups) ↔
              WellFormed group := by
            rw [exists_bind_eq_ok_iff, ← exists_ofDescription_eq_ok_iff]
            exact exists_congr fun _ => and_iff_left ⟨_, rfl⟩
          simpa using hgroup
      | array items =>
          simp only [exists_mapM_eq_ok_iff, List.mem_filter, Option.isSome_iff_exists,
            Json.fields?_eq_some_iff]
          constructor
          · rintro h group (hopts | ⟨others, hopts, hmem⟩)
            · cases hopts
            · cases hopts
              exact exists_ofDescription_eq_ok_iff.mp (h _ ⟨hmem, group, rfl⟩)
          · rintro h item ⟨hmem, group, rfl⟩
            exact exists_ofDescription_eq_ok_iff.mpr (h group (.inr ⟨items, rfl, hmem⟩))
      | _ => simp

end Constraints

/-! ## Kept entries -/

/-- The rule that is read from an entry, if the entry is kept. -/
def EntryReading.rule? : EntryReading → Option FieldRule
  | .kept rule _ => some rule
  | .skipped _ => none
  | .dropped _ => none

namespace FieldRule

/-- The rule for an entry that is kept. -/
def keptRule? (entry : Json) : Option FieldRule :=
  (readEntry entry).rule?

/-- The entries for nested rules: the list under `items`, or none. -/
def itemsOf (fields : Json.Fields) : List Json :=
  match get? fields "items" with
  | some (.array items) => items
  | _ => []

theorem readEntries_eq_filterMap (position : Nat) (entries : List Json) :
    (readEntries position entries).1 = entries.filterMap keptRule? := by
  induction entries generalizing position with
  | nil => rfl
  | cons entry rest ih =>
      rw [readEntries, fst_followedBy, ih, List.filterMap_cons, keptRule?]
      cases readEntry entry <;> rfl

theorem readItems_eq_readEntries (fields : Json.Fields) :
    readItems fields = readEntries 0 (itemsOf fields) := by
  rw [readItems_eq, itemsOf]
  cases get? fields "items" with
  | none => rfl
  | some v => cases v <;> rfl

theorem readItems_eq_filterMap (fields : Json.Fields) :
    (readItems fields).1 = (itemsOf fields).filterMap keptRule? := by
  rw [readItems_eq_readEntries, readEntries_eq_filterMap]

/-- The rule for an entry is made from what the entry says of its own field and from the
nested entries that are kept. -/
theorem keptRule?_object (fields : Json.Fields) :
    keptRule? (.object fields) =
      (EntryReading.ofFields fields).rule?.map fun rule =>
        { rule with nested := (itemsOf fields).filterMap keptRule? } := by
  rw [keptRule?, readEntry, ← readItems_eq_filterMap]
  cases EntryReading.ofFields fields <;> rfl

theorem keptRule?_object_eq_some_iff {fields : Json.Fields} {rule : FieldRule} :
    keptRule? (.object fields) = some rule ↔
      ∃ own, (EntryReading.ofFields fields).rule? = some own ∧
        { own with nested := (itemsOf fields).filterMap keptRule? } = rule := by
  rw [keptRule?_object, Option.map_eq_some_iff]

/-- What an entry with these fields says of its own field.  It may lack a name or a type, the
type may be unknown, or a group may be one that cannot be read; the first of these that is
found decides. -/
inductive IsOwnReading (fields : Json.Fields) : EntryReading → Prop
  | withoutField (hfield : ∀ field, get? fields "field" = some (.string field) → field = "") :
      IsOwnReading fields (.skipped .entryWithoutField)
  | withoutType {field : String}
      (hfield : get? fields "field" = some (.string field)) (hname : field ≠ "")
      (htype : ∀ tag, get? fields "type" ≠ some (.string tag)) :
      IsOwnReading fields (.skipped (.entryWithoutType field))
  | unknownType {field tag : String} {error : ReadError}
      (hfield : get? fields "field" = some (.string field)) (hname : field ≠ "")
      (htag : get? fields "type" = some (.string tag))
      (herror : FieldType.ofTag tag = .error error) :
      IsOwnReading fields (.dropped error)
  | badGroup {field tag : String} {type : FieldType} {error : ReadError}
      (hfield : get? fields "field" = some (.string field)) (hname : field ≠ "")
      (htag : get? fields "type" = some (.string tag)) (htype : FieldType.ofTag tag = .ok type)
      (herror : Constraints.readGroups fields = .error error) :
      IsOwnReading fields (.dropped error)
  | kept {field tag : String} {type : FieldType} {groups : List Constraints}
      (hfield : get? fields "field" = some (.string field)) (hname : field ≠ "")
      (htag : get? fields "type" = some (.string tag)) (htype : FieldType.ofTag tag = .ok type)
      (hgroups : Constraints.readGroups fields = .ok groups) :
      IsOwnReading fields (.kept { field := field, type := type, groups := groups } [])

theorem isOwnReading_ofFields (fields : Json.Fields) :
    IsOwnReading fields (EntryReading.ofFields fields) := by
  have hnot {key : String} (h : (get? fields key).bind Json.text? = none) (text : String) :
      get? fields key ≠ some (.string text) := by
    intro htext
    rw [bind_text?_eq_some_iff.mpr htext] at h
    cases h
  unfold EntryReading.ofFields
  split
  next hnone => exact .withoutField fun field hfield => absurd hfield (hnot hnone field)
  next field hfield =>
    have hfield := bind_text?_eq_some_iff.mp hfield
    split
    next hempty =>
      refine .withoutField fun other hother => ?_
      rw [hfield] at hother
      cases hother
      exact hempty
    next hname =>
      split
      next hnone => exact .withoutType hfield hname (hnot hnone)
      next tag htag =>
        have htag := bind_text?_eq_some_iff.mp htag
        split
        next error herror => exact .unknownType hfield hname htag herror
        next type htype =>
          split
          next error herror => exact .badGroup hfield hname htag htype herror
          next groups hgroups => exact .kept hfield hname htag htype hgroups

/-- What an entry says of its own field: a name, a type and groups, all of which must be
readable. -/
theorem rule?_ofFields_eq_some_iff {fields : Json.Fields} {rule : FieldRule} :
    (EntryReading.ofFields fields).rule? = some rule ↔
      ∃ field tag type groups, get? fields "field" = some (.string field) ∧ field ≠ "" ∧
        get? fields "type" = some (.string tag) ∧ FieldType.ofTag tag = .ok type ∧
        Constraints.readGroups fields = .ok groups ∧
        rule = { field := field, type := type, groups := groups } := by
  constructor
  · intro h
    have hreading := isOwnReading_ofFields fields
    generalize EntryReading.ofFields fields = reading at h hreading
    cases hreading with
    | kept hfield hname htag htype hgroups =>
        cases h
        exact ⟨_, _, _, _, hfield, hname, htag, htype, hgroups, rfl⟩
    | withoutField | withoutType | unknownType | badGroup => cases h
  · rintro ⟨field, tag, type, groups, hfield, hname, htag, htype, hgroups, rfl⟩
    simp only [EntryReading.ofFields, bind_text?_eq_some_iff.mpr hfield,
      bind_text?_eq_some_iff.mpr htag, if_neg hname, htype, hgroups, EntryReading.rule?]

/-- The rule for a kept entry is what the entry states. -/
theorem states_of_keptRule?
    {fields : Json.Fields} {rule : FieldRule} (h : keptRule? (.object fields) = some rule) :
    get? fields "field" = some (.string rule.field) ∧ rule.field ≠ "" ∧
      StatesType fields rule.type ∧ Constraints.readGroups fields = .ok rule.groups ∧
      rule.nested = (itemsOf fields).filterMap keptRule? := by
  obtain ⟨own, hown, rfl⟩ := keptRule?_object_eq_some_iff.mp h
  obtain ⟨field, tag, type, groups, hfield, hname, htag, htype, hgroups, rfl⟩ :=
    rule?_ofFields_eq_some_iff.mp hown
  exact ⟨hfield, hname, .of_ofTag htag htype, hgroups, rfl⟩

/-- An entry is kept if and only if it is well formed. -/
theorem exists_keptRule?_eq_some_iff {entry : Json} :
    (∃ rule, keptRule? entry = some rule) ↔ WellFormed entry := by
  constructor
  · rintro ⟨rule, h⟩
    cases entry with
    | object fields =>
        obtain ⟨hfield, hname, hstates, hgroups, -⟩ := states_of_keptRule? h
        have hwellFormed := Constraints.exists_readGroups_eq_ok_iff.mp ⟨_, hgroups⟩
        exact .intro hfield hname hstates hwellFormed
    | null | bool | number | string | array => cases h
  · rintro ⟨hfield, hname, hstates, hwellFormed⟩
    obtain ⟨tag, htag, htype⟩ := hstates.exists_ofTag
    obtain ⟨groups, hgroups⟩ := Constraints.exists_readGroups_eq_ok_iff.mpr hwellFormed
    have hown := rule?_ofFields_eq_some_iff.mpr
      ⟨_, tag, _, groups, hfield, hname, htag, htype, hgroups, rfl⟩
    exact ⟨_, keptRule?_object_eq_some_iff.mpr ⟨_, hown, rfl⟩⟩

theorem keptRule?_eq_none_iff {entry : Json} :
    keptRule? entry = none ↔ ¬WellFormed entry := by
  rw [← exists_keptRule?_eq_some_iff, Option.eq_none_iff_forall_ne_some, not_exists]

/-! ## Entries that are not kept -/

/-- The second row of entries is the first with one more entry that is not well formed:
in the row itself, or, at any depth, among the entries nested in one of the row. -/
inductive Padded : List Json → List Json → Prop
  | here {front rest : List Json} {entry : Json} (hentry : ¬WellFormed entry) :
      Padded (front ++ rest) (front ++ entry :: rest)
  | nested {front rest : List Json} {fields : Json.Fields} {items padded : List Json}
      (hitems : get? fields "items" = some (.array items)) (hpadded : Padded items padded) :
      Padded (front ++ .object fields :: rest)
        (front ++ .object (fields.set "items" (.array padded)) :: rest)

/-- The nested entries play no part in what an entry says of its own field. -/
theorem ofFields_set_items (fields : Json.Fields) (v : Json) :
    EntryReading.ofFields (fields.set "items" v) = EntryReading.ofFields fields := by
  have hother {key : String} (hkey : key ≠ "items") :
      get? (fields.set "items" v) key = get? fields key := by
    rw [get?_set, if_neg hkey]
  have hgroups : Constraints.readGroups (fields.set "items" v) =
      Constraints.readGroups fields := by
    rw [Constraints.readGroups, Constraints.readGroups, hother (by decide)]
  rw [EntryReading.ofFields, EntryReading.ofFields, hother (by decide), hother (by decide),
    hgroups]

theorem itemsOf_set_items (fields : Json.Fields) (items : List Json) :
    itemsOf (fields.set "items" (.array items)) = items := by
  rw [itemsOf, get?_set, if_pos rfl]

theorem Padded.filterMap_keptRule?
    {entries padded : List Json} (h : Padded entries padded) :
    padded.filterMap keptRule? = entries.filterMap keptRule? := by
  induction h with
  | @here front rest entry hentry =>
      have hdropped : keptRule? entry = none := keptRule?_eq_none_iff.mpr hentry
      rw [List.filterMap_append, List.filterMap_append, List.filterMap_cons_none hdropped]
  | @nested front rest fields items padded hitems _ ih =>
      have hsame : itemsOf fields = items := by rw [itemsOf, hitems]
      have hentry : keptRule? (.object (fields.set "items" (.array padded))) =
          keptRule? (.object fields) := by
        rw [keptRule?_object, keptRule?_object, ofFields_set_items, itemsOf_set_items, ih, hsame]
      simp only [List.filterMap_append, List.filterMap_cons, hentry]

end FieldRule

namespace Schema

theorem ofDescription_eq_ofRules
    {description : Json} {entries : List Json} (h : entries? description = some entries) :
    ofDescription description = ofRules (entries.filterMap FieldRule.keptRule?) := by
  rw [ofDescription, readDescription, h, ← FieldRule.readEntries_eq_filterMap 0 entries]

/-- The rules of a description are those of its well-formed entries, at every depth and in
their order, each with the field, the type and the groups of its entry; at the top the last
rule for a field counts, in the place of the first.  An entry that is not well formed can be
put in or left out anywhere without effect. -/
theorem ofDescription_keeps_wellFormed_entries
    {description : Json} {entries : List Json}
    (hentries : entries? description = some entries) :
    (∀ entry, (∃ rule, FieldRule.keptRule? entry = some rule) ↔
      FieldRule.WellFormed entry) ∧
    (∀ fields rule, FieldRule.keptRule? (.object fields) = some rule →
      Json.Fields.get? fields "field" = some (.string rule.field) ∧ rule.field ≠ "" ∧
        StatesType fields rule.type ∧ Constraints.readGroups fields = .ok rule.groups ∧
        rule.nested = (FieldRule.itemsOf fields).filterMap FieldRule.keptRule?) ∧
    (ofDescription description).fields =
      (FieldRule.fieldsOf (entries.filterMap FieldRule.keptRule?)).eraseDups ∧
    (∀ field, (ofDescription description).get? field =
      FieldRule.find? (entries.filterMap FieldRule.keptRule?).reverse field) ∧
    ∀ other padded, entries? other = some padded → FieldRule.Padded entries padded →
      ofDescription other = ofDescription description := by
  have hrules := ofDescription_eq_ofRules hentries
  refine ⟨fun entry => FieldRule.exists_keptRule?_eq_some_iff, ?_, ?_, ?_, ?_⟩
  · intro fields rule hrule
    exact FieldRule.states_of_keptRule? hrule
  · rw [hrules, fields_ofRules]
  · intro field
    rw [hrules, get?_ofRules]
  · intro other padded hother hpadded
    rw [hrules, ofDescription_eq_ofRules hother, hpadded.filterMap_keptRule?]

/-- An entry with a type and nothing else. -/
def plainEntry (field tag : String) : Json :=
  .object [("field", .string field), ("type", .string tag)]

/-- An entry for a user, with entries for the fields of the user. -/
def userEntry (items : List Json) : Json :=
  .object [("field", .string "user"), ("type", .string " Hash "),
    ("opts", .object [("required", .bool true)]), ("items", .array items)]

theorem ofDescription_userEntry_padded :
    FieldRule.Padded [userEntry [plainEntry "name" "text"]]
        [userEntry [plainEntry "mood" "symbol", plainEntry "name" "text"]] ∧
      (ofDescription (.array [userEntry [plainEntry "name" "text"]])).fields = ["user"] ∧
      ofDescription (.array
          [userEntry [plainEntry "mood" "symbol", plainEntry "name" "text"]]) =
        ofDescription (.array [userEntry [plainEntry "name" "text"]]) := by
  have hunknown : FieldType.ofKeyword? (Text.keyword "symbol") = none := by decide
  have hmood : ¬FieldRule.WellFormed (plainEntry "mood" "symbol") := by
    rintro ⟨-, -, ⟨tag, word, htag, hspells, hkeyword⟩, -⟩
    cases htag
    rw [Text.spells_iff.mp hspells, hunknown] at hkeyword
    cases hkeyword
  have hpadded : FieldRule.Padded [userEntry [plainEntry "name" "text"]]
      [userEntry [plainEntry "mood" "symbol", plainEntry "name" "text"]] :=
    @FieldRule.Padded.nested [] [] _ _ _ rfl (@FieldRule.Padded.here [] _ _ hmood)
  obtain ⟨-, -, -, -, hunchanged⟩ := ofDescription_keeps_wellFormed_entries
    (show entries? (.array [userEntry [plainEntry "name" "text"]]) = _ from rfl)
  exact ⟨hpadded, by decide, hunchanged _ _ rfl hpadded⟩

end Schema

end ParamRules
