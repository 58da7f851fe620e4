import ParamRules.Proofs.Schema.Reload

/-!
# What reading yields

Whatever a description looks like, reading it leaves a schema of one kind: all limits are
expressible, all patterns were made from their texts, and every rule, at any depth, names a
field.  Groups and rules come from parts of the description, and the lemmas below say from
which.
-/

namespace ParamRules

theorem exists_of_bind_eq_ok
    {ε α β : Type} {x : Except ε α} {f : α → Except ε β} {b : β}
    (h : x >>= f = .ok b) : ∃ a, x = .ok a ∧ f a = .ok b := by
  cases x with
  | error e => cases h
  | ok a => exact ⟨a, rfl, h⟩

theorem Json.Fields.mem_of_get?
    {fields : Json.Fields} {key : String} {v : Json} (h : fields.get? key = some v) :
    (key, v) ∈ fields := by
  obtain ⟨front, rest, rfl, -⟩ := List.lookup_eq_some_iff.mp h
  exact List.mem_append_right _ List.mem_cons_self

theorem Quantity.isExpressible_of_ofNumber?
    {n : JsonNumber} {q : Quantity} (h : ofNumber? n = some q) :
    q.isExpressible = true := by
  unfold ofNumber? at h
  split at h
  · split at h
    · next hword =>
        cases h
        exact hword
    · split at h
      · cases h
        rfl
      · cases h
  · cases h
    rfl

namespace Constraints

open Json.Fields

theorem isExpressible_of_limit?
    {fields : Json.Fields} {key : String} {q : Quantity}
    (h : limit? fields key = some q) : q.isExpressible = true := by
  obtain ⟨n, -, hq⟩ := Option.bind_eq_some_iff.mp h
  exact Quantity.isExpressible_of_ofNumber? hq

/-! ## Groups -/

/-- A group that is read has the limits and the pattern of its fields, and what it states for
elements was read under the key `element`. -/
theorem ofDescription_object_eq_ok
    {fields : Json.Fields} {group : Constraints}
    (h : ofDescription (.object fields) = .ok group) :
    group.min = limit? fields "min" ∧ group.max = limit? fields "max" ∧
      readPattern fields = .ok group.format ∧ ∀ element, group.element = some element →
        ∃ inner, get? fields "element" = some (.object inner) ∧
          ofDescription (.object inner) = .ok element.constraints := by
  rw [ofDescription, readFields] at h
  obtain ⟨format, hformat, h⟩ := exists_of_bind_eq_ok h
  obtain ⟨stated, hread, h⟩ := exists_of_bind_eq_ok h
  cases h
  refine ⟨rfl, rfl, hformat, fun element hstated => ?_⟩
  have hsome : stated = some element := hstated
  rw [readElement_eq, hsome] at hread
  cases hvalue : (get? fields "element").bind Json.fields? with
  | none =>
      rw [hvalue] at hread
      cases hread
  | some inner =>
      obtain ⟨v, hget, hv⟩ := Option.bind_eq_some_iff.mp hvalue
      rw [Json.fields?_eq_some_iff] at hv
      subst hv
      rw [hvalue] at hread
      obtain ⟨type, -, hread⟩ := exists_of_bind_eq_ok hread
      obtain ⟨constraints, hinner, hread⟩ := exists_of_bind_eq_ok hread
      cases hread
      exact ⟨inner, hget, hinner⟩

theorem allLimits_of_ofDescription
    {fields : Json.Fields} {group : Constraints}
    (h : ofDescription (.object fields) = .ok group) :
    group.allLimits Quantity.isExpressible = true := by
  induction group using Constraints.induction generalizing fields with
  | step group ih =>
      obtain ⟨hmin, hmax, -, helement⟩ := ofDescription_object_eq_ok h
      refine (group.allLimits_iff _).mpr ⟨fun q hq => ?_, fun q hq => ?_, ?_⟩
      · exact isExpressible_of_limit? (hmin.symm.trans hq)
      · exact isExpressible_of_limit? (hmax.symm.trans hq)
      · intro element hstated
        obtain ⟨inner, -, hinner⟩ := helement element hstated
        exact ih element hstated hinner

theorem isCompiled_of_readPattern
    {fields : Json.Fields} {p : Pattern} (h : readPattern fields = .ok (some p)) :
    p.IsCompiled := by
  unfold readPattern at h
  split at h
  · cases h
  · dsimp only at h
    split at h
    · next hread =>
        cases h
        exact Pattern.isCompiled_of_ofString? hread
    · cases h

theorem isCompiled_of_ofDescription
    {fields : Json.Fields} {group : Constraints}
    (h : ofDescription (.object fields) = .ok group) : ∀ p ∈ group.patterns, p.IsCompiled := by
  induction group using Constraints.induction generalizing fields with
  | step group ih =>
      obtain ⟨-, -, hformat, helement⟩ := ofDescription_object_eq_ok h
      intro p hp
      rcases mem_patterns_iff.mp hp with hown | ⟨element, hstated, hp⟩
      · rw [hown] at hformat
        exact isCompiled_of_readPattern hformat
      · obtain ⟨inner, -, hinner⟩ := helement element hstated
        exact ih element hstated hinner p hp

theorem exists_of_mem_mapM_ok
    {items : List Json} {groups : List Constraints}
    (h : items.mapM ofDescription = .ok groups) :
    ∀ group ∈ groups, ∃ item ∈ items, ofDescription item = .ok group := by
  induction items generalizing groups with
  | nil =>
      cases h
      exact fun _ hgroup => nomatch hgroup
  | cons item rest ih =>
      rw [List.mapM_cons] at h
      obtain ⟨first, hitem, h⟩ := exists_of_bind_eq_ok h
      obtain ⟨others, hrest, h⟩ := exists_of_bind_eq_ok h
      cases h
      intro group hgroup
      rcases List.mem_cons.mp hgroup with rfl | hgroup
      · exact ⟨item, List.mem_cons_self, hitem⟩
      · obtain ⟨other, hother, hread⟩ := ih hrest group hgroup
        exact ⟨other, List.mem_cons_of_mem _ hother, hread⟩

/-- A group of an entry is read from an object under `opts`, which stands there alone or in
a list. -/
theorem exists_of_mem_readGroups
    {fields : Json.Fields} {groups : List Constraints}
    (h : readGroups fields = .ok groups) {group : Constraints} (hgroup : group ∈ groups) :
    ∃ opts inner, get? fields "opts" = some opts ∧
      ofDescription (.object inner) = .ok group ∧
      (opts = .object inner ∨ ∃ items, opts = .array items ∧ .object inner ∈ items) := by
  unfold readGroups at h
  split at h
  · next items hopts =>
      obtain ⟨item, hitem, hread⟩ := exists_of_mem_mapM_ok h group hgroup
      obtain ⟨hmem, hobject⟩ := List.mem_filter.mp hitem
      obtain ⟨inner, hinner⟩ := Option.isSome_iff_exists.mp hobject
      rw [Json.fields?_eq_some_iff] at hinner
      subst hinner
      exact ⟨_, inner, hopts, hread, .inr ⟨items, rfl, hmem⟩⟩
  · next inner hopts =>
      obtain ⟨only, hread, h⟩ := exists_of_bind_eq_ok h
      cases h
      cases List.mem_singleton.mp hgroup
      exact ⟨_, inner, hopts, hread, .inl rfl⟩
  · cases h
    cases hgroup

end Constraints

namespace FieldRule

open Json.Fields

/-! ## Rules -/

/-- A rule that is read names a field; its groups were read under `opts`, and the rules
nested in it under `items`. -/
theorem readEntry_eq_kept
    {entry : Json} {rule : FieldRule} {below : List Event}
    (h : readEntry entry = .kept rule below) :
    ∃ fields, entry = .object fields ∧ rule.field ≠ "" ∧
      Constraints.readGroups fields = .ok rule.groups ∧
      rule.nested = (readItems fields).1 := by
  cases entry with
  | object fields =>
      refine ⟨fields, rfl, ?_⟩
      rw [readEntry, EntryReading.ofFields] at h
      split at h
      · cases h
      split at h
      · cases h
      · next hfield =>
          split at h
          · cases h
          split at h
          · cases h
          split at h
          · cases h
          · next hgroups =>
              cases h
              exact ⟨hfield, hgroups, rfl⟩
  | null | bool | number | string | array => cases h

theorem exists_of_mem_readEntries
    {entries : List Json} {position : Nat} {rule : FieldRule}
    (h : rule ∈ (readEntries position entries).1) :
    ∃ entry ∈ entries, ∃ below, readEntry entry = .kept rule below := by
  induction entries generalizing position with
  | nil => cases h
  | cons entry rest ih =>
      have hlater (hmem : rule ∈ (readEntries (position + 1) rest).1) :
          ∃ other ∈ entry :: rest, ∃ below, readEntry other = .kept rule below := by
        obtain ⟨other, hother, hread⟩ := ih hmem
        exact ⟨other, List.mem_cons_of_mem _ hother, hread⟩
      rw [readEntries, fst_followedBy] at h
      cases hentry : readEntry entry with
      | kept first below =>
          rw [hentry] at h
          rcases List.mem_cons.mp h with rfl | h
          · exact ⟨entry, List.mem_cons_self, below, hentry⟩
          · exact hlater h
      | skipped event =>
          rw [hentry] at h
          exact hlater h
      | dropped error =>
          rw [hentry] at h
          exact hlater h

/-- A nested rule is read from an entry of the list under `items`. -/
theorem exists_of_mem_readItems
    {fields : Json.Fields} {rule : FieldRule} (h : rule ∈ (readItems fields).1) :
    ∃ items, get? fields "items" = some (.array items) ∧
      ∃ entry ∈ items, ∃ below, readEntry entry = .kept rule below := by
  rw [readItems_eq] at h
  cases hitems : get? fields "items" with
  | none =>
      rw [hitems] at h
      cases h
  | some v =>
      rw [hitems] at h
      cases v with
      | array items => exact ⟨items, rfl, exists_of_mem_readEntries h⟩
      | null | bool | number | string | object => cases h

end FieldRule

end ParamRules
