import ParamRules.Proofs.Report.Keyed
import ParamRules.Proofs.Schema.KeptEntries

/-!
# Entries that are noted

Reading a description comes upon the entries at the top and, below each entry that is kept,
upon those of its list of nested entries.  Each of them is kept, as one rule, or noted by one
event.  The events are in the order in which the entries stand in the text: those below an
entry come before those of the next one in its list.  Nothing below an entry that is not kept
is read at all.
-/

namespace ParamRules

open Json.Fields

namespace FieldRule

/-! ## Entries that are read -/

/-- An entry is read, with its position in its own list.  Its key has the positions of the
kept entries around it in front. -/
inductive IsRead : List Json → Key → Nat → Json → Prop
  | top {entries : List Json} {n : Nat} {entry : Json} (hentry : entries[n]? = some entry) :
      IsRead entries [n] n entry
  | nested {entries : List Json} {n : Nat} {fields : Json.Fields} {rest : Key}
      {position : Nat} {entry : Json} (houter : entries[n]? = some (.object fields))
      (hkept : WellFormed (.object fields))
      (hread : IsRead (itemsOf fields) rest position entry) :
      IsRead entries (n :: rest) position entry

mutual

/-- The entries that are read below an entry, with their keys. -/
def readBelow : Json → List (Key × Nat × Json)
  | .object fields =>
      if (keptRule? (.object fields)).isSome then readBelowItems fields else []
  | _ => []

/-- The entries that are read under `items` among the fields of an entry. -/
def readBelowItems : List (String × Json) → List (Key × Nat × Json)
  | [] => []
  | (key, value) :: rest => if key = "items" then readBelowList value else readBelowItems rest

/-- The entries that are read in a list; any other value has none. -/
def readBelowList : Json → List (Key × Nat × Json)
  | .array items => readRow 0 items
  | _ => []

/-- The entries that are read in a row, of which the first has the given position, each
before those below it. -/
def readRow (position : Nat) : List Json → List (Key × Nat × Json)
  | [] => []
  | entry :: rest =>
      ParamRules.below position (([], position, entry) :: readBelow entry) ++
        readRow (position + 1) rest

end

theorem readRow_eq_flatMap (position : Nat) (entries : List Json) :
    readRow position entries =
      (entries.zipIdx position).flatMap fun (entry, i) =>
        below i (([], i, entry) :: readBelow entry) := by
  induction entries generalizing position with
  | nil => rfl
  | cons entry rest ih => rw [readRow, ih, List.zipIdx_cons, List.flatMap_cons]

theorem readRow_eq_numbered (entries : List Json) :
    readRow 0 entries = numbered (fun entry i => ([], i, entry) :: readBelow entry) entries :=
  readRow_eq_flatMap 0 entries

theorem readBelowItems_eq (fields : Json.Fields) :
    readBelowItems fields = readRow 0 (itemsOf fields) := by
  induction fields with
  | nil => rfl
  | cons entry rest ih =>
      obtain ⟨key, value⟩ := entry
      by_cases hkey : key = "items"
      · subst hkey
        rw [readBelowItems, if_pos rfl, itemsOf, get?_cons, if_pos rfl]
        cases value <;> rfl
      · have hkey' : ¬"items" = key := fun h => hkey h.symm
        rw [readBelowItems, if_neg hkey, ih, itemsOf, itemsOf, get?_cons, if_neg hkey']

theorem readBelow_of_wellFormed {fields : Json.Fields} (h : WellFormed (.object fields)) :
    readBelow (.object fields) = readRow 0 (itemsOf fields) := by
  obtain ⟨rule, hrule⟩ := exists_keptRule?_eq_some_iff.mpr h
  rw [readBelow, hrule, ← readBelowItems_eq]
  rfl

/-- Below an entry that is not kept nothing is read; one that is kept is an object, and the
entries nested in it are read. -/
theorem readBelow_cases (entry : Json) :
    (¬WellFormed entry ∧ readBelow entry = []) ∨
      ∃ fields, entry = .object fields ∧ WellFormed (.object fields) ∧
        readBelow entry = readRow 0 (itemsOf fields) := by
  by_cases hkept : WellFormed entry
  · have hobject : ∃ fields, entry = .object fields := by
      cases hkept
      exact ⟨_, rfl⟩
    obtain ⟨fields, rfl⟩ := hobject
    exact .inr ⟨fields, rfl, hkept, readBelow_of_wellFormed hkept⟩
  · refine .inl ⟨hkept, ?_⟩
    have hnone := keptRule?_eq_none_iff.mpr hkept
    cases entry with
    | object fields =>
        rw [readBelow, hnone]
        rfl
    | null | bool | number | string | array => rfl

/-- The listed entries are those that are read. -/
theorem mem_readRow_iff {entries : List Json} {key : Key} {position : Nat} {entry : Json} :
    (key, position, entry) ∈ readRow 0 entries ↔ IsRead entries key position entry := by
  -- induction on the key: what is listed below an entry has a shorter one
  induction key generalizing entries with
  | nil =>
      rw [readRow_eq_numbered, mem_numbered_iff]
      constructor
      · rintro ⟨_, _, _, hkey, -⟩
        cases hkey
      · intro hread
        cases hread
  | cons n rest ih =>
      rw [readRow_eq_numbered, mem_numbered_iff]
      constructor
      · rintro ⟨i, item, _, hkey, hitem, hmem⟩
        cases hkey
        rcases List.mem_cons.mp hmem with heq | hbelow
        · cases heq
          exact .top hitem
        · rcases readBelow_cases item with ⟨-, hnone⟩ | ⟨fields, rfl, hkept, hrow⟩
          · rw [hnone] at hbelow
            cases hbelow
          · rw [hrow] at hbelow
            exact .nested hitem hkept (ih.mp hbelow)
      · intro hread
        cases hread with
        | top hentry => exact ⟨_, entry, [], rfl, hentry, List.mem_cons_self⟩
        | nested houter hkept hread =>
            refine ⟨_, _, rest, rfl, houter, List.mem_cons_of_mem _ ?_⟩
            rw [readBelow_of_wellFormed hkept]
            exact ih.mpr hread

/-- Induction over an entry, through the entries nested in it. -/
@[elab_as_elim]
theorem entry_induction {motive : Json → Prop}
    (step : ∀ entry, (∀ fields, entry = .object fields →
      ∀ item ∈ itemsOf fields, motive item) → motive entry)
    (entry : Json) : motive entry := by
  have hnone {v : Json} (h : ∀ fields, v ≠ .object fields) : motive v :=
    step v fun fields hv => absurd hv (h fields)
  -- the nested entries stand in a list, so the hypothesis has to reach through lists
  suffices motive entry ∧ ∀ items, entry = .array items → ∀ item ∈ items, motive item from
    this.1
  induction entry using Json.induction with
  | null | bool | number | string => exact ⟨hnone nofun, nofun⟩
  | array items ih =>
      refine ⟨hnone nofun, ?_⟩
      rintro _ ⟨⟩ item hitem
      exact (ih item hitem).1
  | object fields ih =>
      refine ⟨step _ ?_, nofun⟩
      rintro _ ⟨⟩ item hitem
      unfold itemsOf at hitem
      split at hitem
      next items hget => exact (ih _ (mem_of_get? hget)).2 items rfl item hitem
      next => cases hitem

theorem ne_nil_of_mem_readBelow {entry other : Json} {key : Key} {position : Nat}
    (h : (key, position, other) ∈ readBelow entry) : key ≠ [] := by
  rcases readBelow_cases entry with ⟨-, hnone⟩ | ⟨fields, -, -, hrow⟩
  · rw [hnone] at h
    cases h
  · rw [hrow] at h
    cases mem_readRow_iff.mp h with
    | top | nested => exact List.cons_ne_nil _ _

theorem ascending_readRow_of {entries : List Json}
    (h : ∀ entry ∈ entries, Ascending (readBelow entry)) : Ascending (readRow 0 entries) := by
  rw [readRow_eq_numbered]
  apply ascending_numbered
  intro entry hentry i
  refine List.pairwise_cons.mpr ⟨?_, h entry hentry⟩
  rintro ⟨key, position, other⟩ hmem
  cases key with
  | nil => exact absurd rfl (ne_nil_of_mem_readBelow hmem)
  | cons m rest => exact List.Lex.nil

theorem ascending_readBelow (entry : Json) : Ascending (readBelow entry) := by
  induction entry using entry_induction with
  | step entry ih =>
      rcases readBelow_cases entry with ⟨-, hnone⟩ | ⟨fields, hentry, -, hrow⟩
      · rw [hnone]
        exact List.Pairwise.nil
      · rw [hrow]
        exact ascending_readRow_of (ih fields hentry)

/-- Entries are listed in the order of their keys. -/
theorem ascending_readRow (entries : List Json) : Ascending (readRow 0 entries) :=
  ascending_readRow_of fun entry _ => ascending_readBelow entry

/-! ## Events for entries that are not kept -/

/-- An entry that is not kept is noted by this event, which says what it lacks or, with the
position of the entry, what of its content cannot be read. -/
inductive IsNoted (position : Nat) : Json → Event → Prop
  | notObject {entry : Json} (hfields : entry.fields? = none) :
      IsNoted position entry .entryNotObject
  | withoutField {fields : Json.Fields}
      (hfield : ∀ field, get? fields "field" = some (.string field) → field = "") :
      IsNoted position (.object fields) .entryWithoutField
  | withoutType {fields : Json.Fields} {field : String}
      (hfield : get? fields "field" = some (.string field)) (hname : field ≠ "")
      (htype : ∀ tag, get? fields "type" ≠ some (.string tag)) :
      IsNoted position (.object fields) (.entryWithoutType field)
  | unknownType {fields : Json.Fields} {field tag : String}
      (hfield : get? fields "field" = some (.string field)) (hname : field ≠ "")
      (htag : get? fields "type" = some (.string tag))
      (hunknown : ∀ type, ¬StatesType fields type) :
      IsNoted position (.object fields) (.entryDropped position (.unknownType tag))
  | badGroup {fields : Json.Fields} {field : String} {type : FieldType} {error : ReadError}
      (hfield : get? fields "field" = some (.string field)) (hname : field ≠ "")
      (htype : StatesType fields type)
      (herror : Constraints.readGroups fields = .error error) :
      IsNoted position (.object fields) (.entryDropped position error)

end FieldRule

/-- A tag that cannot be read is the one in the error, and there is no type that fields with
this tag state. -/
theorem FieldType.ofTag_eq_error_iff
    {fields : Json.Fields} {tag : String} (htag : get? fields "type" = some (.string tag))
    {error : ReadError} :
    ofTag tag = .error error ↔
      (∀ type, ¬StatesType fields type) ∧ error = .unknownType tag := by
  constructor
  · intro h
    constructor
    · intro type hstates
      obtain ⟨other, hother, htype⟩ := hstates.exists_ofTag
      cases htag.symm.trans hother
      cases h.symm.trans htype
    · unfold ofTag at h
      split at h
      · cases h
      · cases h
        rfl
  · rintro ⟨hunknown, rfl⟩
    unfold ofTag
    split
    next type htype =>
      have hread : ofTag tag = .ok type := by rw [ofTag, htype]
      exact absurd (.of_ofTag htag hread) (hunknown type)
    next => rfl

/-- The event for an entry that is not kept. -/
def EntryReading.event? (position : Nat) : EntryReading → Option Event
  | .kept _ _ => none
  | .skipped event => some event
  | .dropped error => some (.entryDropped position error)

namespace FieldRule

/-- The event that notes an entry, unless it is kept. -/
def noteOf? (position : Nat) (entry : Json) : Option Event :=
  (readEntry entry).event? position

theorem noteOf?_object (position : Nat) (fields : Json.Fields) :
    noteOf? position (.object fields) = (EntryReading.ofFields fields).event? position := by
  rw [noteOf?, readEntry]
  cases EntryReading.ofFields fields <;> rfl

theorem noteOf?_eq_none_iff {position : Nat} {entry : Json} :
    noteOf? position entry = none ↔ WellFormed entry := by
  rw [← exists_keptRule?_eq_some_iff, noteOf?, keptRule?]
  cases readEntry entry with
  | kept rule below =>
      constructor
      · intro _
        exact ⟨rule, rfl⟩
      · intro _
        rfl
  | skipped | dropped =>
      constructor
      · intro hnone
        cases hnone
      · rintro ⟨rule, hrule⟩
        cases hrule

theorem isNoted_of_event?_ofFields
    {position : Nat} {fields : Json.Fields} {event : Event}
    (h : (EntryReading.ofFields fields).event? position = some event) :
    IsNoted position (.object fields) event := by
  have hreading := isOwnReading_ofFields fields
  generalize EntryReading.ofFields fields = reading at h hreading
  cases hreading with
  | withoutField hfield =>
      cases h
      exact .withoutField hfield
  | withoutType hfield hname htype =>
      cases h
      exact .withoutType hfield hname htype
  | unknownType hfield hname htag herror =>
      cases h
      obtain ⟨hunknown, rfl⟩ := (FieldType.ofTag_eq_error_iff htag).mp herror
      exact .unknownType hfield hname htag hunknown
  | badGroup hfield hname htag htype herror =>
      cases h
      exact .badGroup hfield hname (.of_ofTag htag htype) herror
  | kept => cases h

theorem event?_ofFields_of_isNoted
    {position : Nat} {fields : Json.Fields} {event : Event}
    (h : IsNoted position (.object fields) event) :
    (EntryReading.ofFields fields).event? position = some event := by
  cases h with
  | notObject hfields => cases hfields
  | withoutField hfield =>
      unfold EntryReading.ofFields
      split
      next => rfl
      next field hsome =>
        have hempty := hfield field (bind_text?_eq_some_iff.mp hsome)
        rw [if_pos hempty]
        rfl
  | withoutType hfield hname htype =>
      have hnone : (get? fields "type").bind Json.text? = none := by
        rw [Option.eq_none_iff_forall_ne_some]
        intro tag htag
        exact htype tag (bind_text?_eq_some_iff.mp htag)
      simp only [EntryReading.ofFields, bind_text?_eq_some_iff.mpr hfield, if_neg hname, hnone,
        EntryReading.event?]
  | unknownType hfield hname htag hunknown =>
      have herror := (FieldType.ofTag_eq_error_iff htag).mpr ⟨hunknown, rfl⟩
      simp only [EntryReading.ofFields, bind_text?_eq_some_iff.mpr hfield, if_neg hname,
        bind_text?_eq_some_iff.mpr htag, herror, EntryReading.event?]
  | badGroup hfield hname htype herror =>
      obtain ⟨tag, htag, htype⟩ := htype.exists_ofTag
      simp only [EntryReading.ofFields, bind_text?_eq_some_iff.mpr hfield, if_neg hname,
        bind_text?_eq_some_iff.mpr htag, htype, herror, EntryReading.event?]

theorem noteOf?_eq_some_iff {position : Nat} {entry : Json} {event : Event} :
    noteOf? position entry = some event ↔ IsNoted position entry event := by
  cases entry with
  | object fields =>
      rw [noteOf?_object]
      exact ⟨isNoted_of_event?_ofFields, event?_ofFields_of_isNoted⟩
  | null | bool | number | string | array =>
      constructor
      · intro h
        cases h
        exact .notObject rfl
      · intro h
        cases h
        rfl

/-- An entry that is not well formed is noted by exactly one event. -/
theorem existsUnique_isNoted {entry : Json} (h : ¬WellFormed entry) (position : Nat) :
    ∃! event, IsNoted position entry event := by
  cases hnote : noteOf? position entry with
  | none => exact absurd (noteOf?_eq_none_iff.mp hnote) h
  | some event =>
      refine ⟨event, noteOf?_eq_some_iff.mp hnote, ?_⟩
      intro other hother
      rw [← noteOf?_eq_some_iff, hnote] at hother
      exact (Option.some.inj hother).symm

/-- A well-formed entry is noted by no event. -/
theorem not_isNoted {entry : Json} (h : WellFormed entry) (position : Nat) (event : Event) :
    ¬IsNoted position entry event := by
  intro hnoted
  rw [← noteOf?_eq_some_iff, noteOf?_eq_none_iff.mpr h] at hnoted
  cases hnoted

/-- An entry whose content cannot be read is noted by a warning with its position; any
other one that is not kept is skipped, which is noted at the lowest level. -/
theorem IsNoted.warn_or_trace {position : Nat} {entry : Json} {event : Event}
    (h : IsNoted position entry event) :
    (event.level = .warn ∧ event.message = "dropping rule entry" ∧
        ∃ error, event = .entryDropped position error) ∨
      (event.level = .trace ∧ (event = .entryNotObject ∨ event = .entryWithoutField ∨
        ∃ field, event = .entryWithoutType field)) := by
  cases h with
  | notObject => exact .inr ⟨rfl, .inl rfl⟩
  | withoutField => exact .inr ⟨rfl, .inr (.inl rfl)⟩
  | withoutType => exact .inr ⟨rfl, .inr (.inr ⟨_, rfl⟩)⟩
  | unknownType | badGroup => exact .inl ⟨rfl, rfl, _, rfl⟩

/-! ## Counting -/

mutual

/-- How many rules there are: the rule itself and all that are nested in it. -/
def size : FieldRule → Nat
  | ⟨_, _, _, nested⟩ => sizeOfAll nested + 1

/-- How many rules there are in a row, at all depths. -/
def sizeOfAll : List FieldRule → Nat
  | [] => 0
  | rule :: rest => rule.size + sizeOfAll rest

end

theorem size_eq (rule : FieldRule) : rule.size = sizeOfAll rule.nested + 1 := by
  cases rule
  rfl

/-- The events for the listed entries that are not kept. -/
def eventsOf (read : List (Key × Nat × Json)) : List Event :=
  read.filterMap fun (_, position, entry) => noteOf? position entry

theorem eventsOf_append (read more : List (Key × Nat × Json)) :
    eventsOf (read ++ more) = eventsOf read ++ eventsOf more :=
  List.filterMap_append

theorem eventsOf_cons (key : Key) (position : Nat) (entry : Json)
    (read : List (Key × Nat × Json)) :
    eventsOf ((key, position, entry) :: read) =
      (noteOf? position entry).toList ++ eventsOf read := by
  cases hnote : noteOf? position entry <;> simp [eventsOf, hnote]

theorem eventsOf_below (n : Nat) (read : List (Key × Nat × Json)) :
    eventsOf (ParamRules.below n read) = eventsOf read := by
  rw [eventsOf, ParamRules.below, List.filterMap_map]
  rfl

/-- A listing of entries accounts for what was read of them: each entry without a rule is
noted, in the order of the listing, and the numbers add up. -/
structure AccountsFor (read : List (Key × Nat × Json)) (result : List FieldRule × List Event) :
    Prop where
  events_eq : result.2 = eventsOf read
  length_eq : read.length = sizeOfAll result.1 + result.2.length

theorem readEntry_of_noteOf?_eq_none {position : Nat} {entry : Json}
    (h : noteOf? position entry = none) : ∃ rule below, readEntry entry = .kept rule below := by
  cases hread : readEntry entry with
  | kept rule below => exact ⟨rule, below, rfl⟩
  | skipped event => simp [noteOf?, hread, EntryReading.event?] at h
  | dropped error => simp [noteOf?, hread, EntryReading.event?] at h

theorem followedBy_of_noteOf?_eq_some
    {position : Nat} {entry : Json} {event : Event} (h : noteOf? position entry = some event)
    (after : List FieldRule × List Event) :
    (readEntry entry).followedBy position after = (after.1, event :: after.2) := by
  cases hread : readEntry entry with
  | kept rule below => simp [noteOf?, hread, EntryReading.event?] at h
  | skipped event | dropped error =>
      rw [noteOf?, hread] at h
      cases h
      rfl

theorem readBelow_of_noteOf?_eq_some
    {position : Nat} {entry : Json} {event : Event}
    (h : noteOf? position entry = some event) : readBelow entry = [] := by
  rcases readBelow_cases entry with ⟨-, hnone⟩ | ⟨fields, rfl, hkept, -⟩
  · exact hnone
  · rw [noteOf?_eq_none_iff.mpr hkept] at h
    cases h

/-- One more entry in front of a row. -/
theorem AccountsFor.followedBy
    {position : Nat} {entry : Json} {read : List (Key × Nat × Json)}
    {after : List FieldRule × List Event}
    (hentry : ∀ rule below, readEntry entry = .kept rule below →
      AccountsFor (readBelow entry) (rule.nested, below))
    (hafter : AccountsFor read after) :
    AccountsFor (ParamRules.below position (([], position, entry) :: readBelow entry) ++ read)
      ((readEntry entry).followedBy position after) := by
  obtain ⟨hevents, hlength⟩ := hafter
  have hcount (below : List (Key × Nat × Json)) :
      (ParamRules.below position (([], position, entry) :: below) ++ read).length =
        below.length + 1 + read.length := by
    simp only [ParamRules.below, List.length_append, List.length_map, List.length_cons]
  cases hnote : noteOf? position entry with
  | none =>
      obtain ⟨rule, below, hread⟩ := readEntry_of_noteOf?_eq_none hnote
      obtain ⟨hbelow, hnested⟩ := hentry rule below hread
      simp only at hbelow hnested
      have hresult : (readEntry entry).followedBy position after =
          (rule :: after.1, below ++ after.2) := by
        rw [hread]
        rfl
      rw [hresult]
      constructor
      · rw [eventsOf_append, eventsOf_below, eventsOf_cons, hnote, ← hevents, ← hbelow]
        rfl
      · rw [hcount, hnested, hlength, sizeOfAll, size_eq, List.length_append]
        omega
  | some event =>
      rw [readBelow_of_noteOf?_eq_some hnote, followedBy_of_noteOf?_eq_some hnote]
      constructor
      · rw [eventsOf_append, eventsOf_below, eventsOf_cons, hnote, ← hevents]
        rfl
      · rw [hcount, hlength, List.length_cons]
        simp only [List.length_nil]
        omega

theorem accountsFor_readRow_of
    {entries : List Json}
    (h : ∀ entry ∈ entries, ∀ rule below, readEntry entry = .kept rule below →
      AccountsFor (readBelow entry) (rule.nested, below)) (position : Nat) :
    AccountsFor (readRow position entries) (readEntries position entries) := by
  induction entries generalizing position with
  | nil => exact ⟨rfl, rfl⟩
  | cons entry rest ih =>
      have hrest := ih (fun other hother => h other (List.mem_cons_of_mem _ hother))
        (position + 1)
      exact hrest.followedBy (h entry List.mem_cons_self)

/-- The nested rules and the events of a kept entry are those of its nested entries. -/
theorem readEntries_of_readEntry_eq_kept
    {fields : Json.Fields} {rule : FieldRule} {below : List Event}
    (h : readEntry (.object fields) = .kept rule below) :
    readEntries 0 (itemsOf fields) = (rule.nested, below) := by
  rw [readEntry, readItems_eq_readEntries] at h
  have hreading := isOwnReading_ofFields fields
  generalize EntryReading.ofFields fields = reading at h hreading
  cases hreading with
  | kept =>
      cases h
      rfl
  | withoutField | withoutType | unknownType | badGroup => cases h

theorem accountsFor_readBelow (entry : Json) :
    ∀ rule below, readEntry entry = .kept rule below →
      AccountsFor (readBelow entry) (rule.nested, below) := by
  induction entry using entry_induction with
  | step entry ih =>
      intro rule below hread
      have hkept : ∃ rule, keptRule? entry = some rule := ⟨rule, by rw [keptRule?, hread]; rfl⟩
      rcases readBelow_cases entry with ⟨hnot, -⟩ | ⟨fields, rfl, -, hrow⟩
      · exact absurd (exists_keptRule?_eq_some_iff.mp hkept) hnot
      · rw [hrow, ← readEntries_of_readEntry_eq_kept hread]
        exact accountsFor_readRow_of (ih fields rfl) 0

theorem accountsFor_readRow (entries : List Json) :
    AccountsFor (readRow 0 entries) (readEntries 0 entries) :=
  accountsFor_readRow_of (fun entry _ => accountsFor_readBelow entry) 0

/-! ## Events with their keys -/

/-- The events of a listing of entries, each with the key of its entry. -/
def notes (read : List (Key × Nat × Json)) : List (Key × Event) :=
  read.filterMap fun (key, position, entry) =>
    (noteOf? position entry).map fun event => (key, event)

theorem map_snd_notes (read : List (Key × Nat × Json)) :
    (notes read).map Prod.snd = eventsOf read := by
  rw [notes, eventsOf, List.map_filterMap]
  refine List.filterMap_congr fun (key, position, entry) _ => ?_
  rw [Option.map_map]
  exact Option.map_id'

theorem mem_notes_iff {read : List (Key × Nat × Json)} {key : Key} {event : Event} :
    (key, event) ∈ notes read ↔
      ∃ position entry, (key, position, entry) ∈ read ∧ IsNoted position entry event := by
  simp only [notes, List.mem_filterMap, Prod.exists, Option.map_eq_some_iff, Prod.mk.injEq,
    noteOf?_eq_some_iff]
  constructor
  · rintro ⟨_, position, entry, hmem, _, hnoted, rfl, rfl⟩
    exact ⟨position, entry, hmem, hnoted⟩
  · rintro ⟨position, entry, hmem, hnoted⟩
    exact ⟨key, position, entry, hmem, event, hnoted, rfl, rfl⟩

theorem ascending_notes {read : List (Key × Nat × Json)} (h : Ascending read) :
    Ascending (notes read) := by
  rw [Ascending, notes, List.pairwise_filterMap]
  refine h.imp ?_
  rintro ⟨key, position, entry⟩ ⟨key', position', entry'⟩ hlt a ha b hb
  obtain ⟨_, -, rfl⟩ := Option.map_eq_some_iff.mp ha
  obtain ⟨_, -, rfl⟩ := Option.map_eq_some_iff.mp hb
  exact hlt

end FieldRule

namespace Schema

/-- No entry is lost silently.  The events of reading a description stand for the entries
that are read and not kept: one event for each, with the position of the entry in its own
list, in the order in which the entries are read; there is none for an entry that is kept
and none for what stands below one that is not.  The entries that are read are as many as
the rules that are made, at all depths and before rules for one field are merged, and the
events together. -/
theorem every_entry_kept_or_noted
    {description : Json} {entries : List Json} (hentries : entries? description = some entries) :
    ∃ (read : List (Key × Nat × Json)) (noted : List (Key × Event)),
      Ascending read ∧
      (∀ key position entry, (key, position, entry) ∈ read ↔
        FieldRule.IsRead entries key position entry) ∧
      Ascending noted ∧
      noted.map Prod.snd = (readDescription description).2 ∧
      (∀ key event, (key, event) ∈ noted ↔ ∃ position entry,
        FieldRule.IsRead entries key position entry ∧ FieldRule.IsNoted position entry event) ∧
      (∀ position entry, FieldRule.WellFormed entry →
        ∀ event, ¬FieldRule.IsNoted position entry event) ∧
      (∀ position entry, ¬FieldRule.WellFormed entry →
        ∃! event, FieldRule.IsNoted position entry event) ∧
      (∀ position entry event, FieldRule.IsNoted position entry event →
        (event.level = .warn ∧ event.message = "dropping rule entry" ∧
            ∃ error, event = .entryDropped position error) ∨
          (event.level = .trace ∧ (event = .entryNotObject ∨ event = .entryWithoutField ∨
            ∃ field, event = .entryWithoutType field))) ∧
      (∀ entry, FieldRule.WellFormed entry ↔
        ∃ rule, FieldRule.keptRule? entry = some rule) ∧
      ofDescription description = ofRules (entries.filterMap FieldRule.keptRule?) ∧
      read.length = FieldRule.sizeOfAll (entries.filterMap FieldRule.keptRule?) +
        (readDescription description).2.length := by
  have hevents : (readDescription description).2 = (FieldRule.readEntries 0 entries).2 := by
    rw [readDescription, hentries]
  obtain ⟨hnoted, hlength⟩ := FieldRule.accountsFor_readRow entries
  rw [FieldRule.readEntries_eq_filterMap, ← hevents] at hlength
  rw [← hevents] at hnoted
  have hascending := FieldRule.ascending_readRow entries
  refine ⟨FieldRule.readRow 0 entries, FieldRule.notes (FieldRule.readRow 0 entries),
    hascending, ?_, FieldRule.ascending_notes hascending, ?_, ?_, ?_, ?_, ?_, ?_,
    ofDescription_eq_ofRules hentries, hlength⟩
  · intro key position entry
    exact FieldRule.mem_readRow_iff
  · rw [FieldRule.map_snd_notes, hnoted]
  · intro key event
    simp only [FieldRule.mem_notes_iff, FieldRule.mem_readRow_iff]
  · intro position entry hentry event
    exact FieldRule.not_isNoted hentry position event
  · intro position entry hentry
    exact FieldRule.existsUnique_isNoted hentry position
  · intro position entry event h
    exact h.warn_or_trace
  · intro entry
    exact FieldRule.exists_keptRule?_eq_some_iff.symm

/-- Four entries are read: the user, the name and the mood of the user, and a number that
stands where an entry should. -/
theorem userEntry_kept_or_noted :
    ∃ read : List (Key × Nat × Json),
      (∀ key position entry, (key, position, entry) ∈ read ↔ FieldRule.IsRead
        [userEntry [plainEntry "mood" "symbol", plainEntry "name" "text"], .number (.whole 5)]
        key position entry) ∧
      read.length = 4 ∧
      (readDescription (.array
          [userEntry [plainEntry "mood" "symbol", plainEntry "name" "text"],
            .number (.whole 5)])).2 =
        [.entryDropped 0 (.unknownType "symbol"), .entryNotObject] := by
  obtain ⟨read, -, -, hread, -, -, -, -, -, -, -, -, hlength⟩ := every_entry_kept_or_noted
    (show entries? (.array
      [userEntry [plainEntry "mood" "symbol", plainEntry "name" "text"],
        .number (.whole 5)]) = _ from rfl)
  have hevents : (readDescription (.array
      [userEntry [plainEntry "mood" "symbol", plainEntry "name" "text"],
        .number (.whole 5)])).2 =
      [.entryDropped 0 (.unknownType "symbol"), .entryNotObject] := by
    decide
  refine ⟨read, hread, ?_, hevents⟩
  rw [hlength, hevents]
  decide

end Schema

end ParamRules
