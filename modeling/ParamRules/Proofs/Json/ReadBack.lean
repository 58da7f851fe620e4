import Mathlib.Order.Lattice
import ParamRules.Proofs.Json.PrintedValue

/-!
# Reading back what was printed

A printed value is read as the same value if it nests no deeper than the reader allows, and
not at all if it nests deeper.
-/

namespace ParamRules.Json

/-! ## Depth -/

mutual

/-- How many arrays and objects are open at the innermost place of the value. -/
def depth : Json → Nat
  | .array items => itemsDepth items + 1
  | .object fields => fieldsDepth fields + 1
  | _ => 0

/-- The greatest depth of the items of an array. -/
def itemsDepth : List Json → Nat
  | [] => 0
  | item :: rest => max item.depth (itemsDepth rest)

/-- The greatest depth of the fields of an object. -/
def fieldsDepth : List (String × Json) → Nat
  | [] => 0
  | (_, value) :: rest => max value.depth (fieldsDepth rest)

end

@[simp]
theorem depth_array (items : List Json) : (array items).depth = itemsDepth items + 1 := rfl

@[simp]
theorem depth_object (fields : Fields) : (object fields).depth = fieldsDepth fields + 1 :=
  rfl

theorem itemsDepth_le_iff {items : List Json} {d : Nat} :
    itemsDepth items ≤ d ↔ ∀ v ∈ items, v.depth ≤ d := by
  induction items with
  | nil => simp [itemsDepth]
  | cons item rest ih => simp [itemsDepth, ih]

theorem fieldsDepth_le_iff {fields : Fields} {d : Nat} :
    fieldsDepth fields ≤ d ↔ ∀ entry ∈ fields, entry.2.depth ≤ d := by
  induction fields with
  | nil => simp [fieldsDepth]
  | cons entry rest ih => simp [fieldsDepth, ih]

/-! ## Fields with distinct keys -/

theorem Fields.set_of_notMem
    {fields : Fields} {key : String} (h : key ∉ fields.map Prod.fst) (value : Json) :
    fields.set key value = fields ++ [(key, value)] := by
  induction fields with
  | nil => rfl
  | cons entry rest ih =>
      obtain ⟨k, v⟩ := entry
      rw [List.map_cons, List.mem_cons, not_or] at h
      rw [Fields.set, if_neg (Ne.symm h.1), ih h.2, List.cons_append]

theorem Fields.foldl_set_of_nodup
    {fields entries : Fields} (h : ((fields ++ entries).map Prod.fst).Nodup) :
    entries.foldl (fun fields (key, value) => Fields.set fields key value) fields =
      fields ++ entries := by
  induction entries generalizing fields with
  | nil => simp
  | cons entry rest ih =>
      obtain ⟨key, value⟩ := entry
      have hkey : key ∉ fields.map Prod.fst := by
        rw [List.map_append, List.map_cons, List.nodup_append] at h
        intro hmem
        exact h.2.2 key hmem key List.mem_cons_self rfl
      have hrest : ((fields ++ [(key, value)] ++ rest).map Prod.fst).Nodup := by
        simpa using h
      rw [List.foldl_cons]
      change List.foldl _ (fields.set key value) rest = _
      rw [Fields.set_of_notMem hkey, ih hrest, List.append_assoc, List.singleton_append]

theorem Fields.merge_of_nodup {fields : Fields} (h : (fields.map Prod.fst).Nodup) :
    Fields.merge fields = fields := by
  have hempty : (([] ++ fields).map Prod.fst).Nodup := h
  exact Fields.foldl_set_of_nodup hempty

/-! ## The value of a tree -/

/-- The tree of the value is worth the value where it nests no deeper than allowed. -/
def Survives (v : Json) : Prop :=
  ∀ d, v.concrete.value? d = if v.depth ≤ d then some v else none

theorem values?_concreteItems {items : List Json} (h : ∀ v ∈ items, v.Survives) (d : Nat) :
    Concrete.values? (concreteItems items) d =
      if itemsDepth items ≤ d then some items else none := by
  induction items with
  | nil => simp [concreteItems, Concrete.values?, itemsDepth]
  | cons item rest ih =>
      have hitem := h item List.mem_cons_self d
      have hrest := ih fun v hv => h v (List.mem_cons_of_mem _ hv)
      rw [concreteItems, Concrete.values?, hitem, hrest, itemsDepth]
      by_cases hle : item.depth ≤ d <;> by_cases hrle : itemsDepth rest ≤ d <;>
        simp [hle, hrle]

theorem fields?_concreteFields
    {fields : Fields} (h : ∀ entry ∈ fields, entry.2.Survives) (d : Nat) :
    Concrete.fields? (concreteFields fields) d =
      if fieldsDepth fields ≤ d then some fields else none := by
  induction fields with
  | nil => simp [concreteFields, Concrete.fields?, fieldsDepth]
  | cons entry rest ih =>
      obtain ⟨key, value⟩ := entry
      have hvalue := h (key, value) List.mem_cons_self d
      have hrest := ih fun entry hentry => h entry (List.mem_cons_of_mem _ hentry)
      rw [concreteFields, Concrete.fields?, Option.bind_some, hvalue, hrest, fieldsDepth]
      by_cases hle : value.depth ≤ d <;> by_cases hrle : fieldsDepth rest ≤ d <;>
        simp [hle, hrle]

theorem Legible.survives {v : Json} (h : v.Legible) : v.Survives := by
  induction h with
  | null => exact fun _ => rfl
  | bool b => exact fun _ => rfl
  | @number n h =>
      intro d
      rw [concrete, Concrete.value?, h.number?_numeral]
      rfl
  | string s => exact fun _ => rfl
  | @array items _ ih =>
      intro d
      cases d with
      | zero => simp [concrete, Concrete.value?]
      | succ d =>
          rw [concrete, Concrete.value?, values?_concreteItems ih, depth_array]
          by_cases hle : itemsDepth items ≤ d <;> simp [hle]
  | @object fields hkeys _ ih =>
      intro d
      cases d with
      | zero => simp [concrete, Concrete.value?]
      | succ d =>
          rw [concrete, Concrete.value?, fields?_concreteFields ih, depth_object]
          by_cases hle : fieldsDepth fields ≤ d <;>
            simp [hle, Fields.merge_of_nodup hkeys]

/-! ## Texts -/

theorem Legible.ofString?_eq
    {v : Json} (h : v.Legible) {cs : List Char} (hspells : SpellsWord cs v.tokens) :
    ofString? (String.ofList cs) = if v.depth ≤ nestingLimit then some v else none := by
  have hscan : Token.ofChars? cs = some v.tokens := hspells.run_start
  rw [ofString?, Concrete.ofString?, String.toList_ofList, hscan, Option.bind_some,
    ofTokens?_tokens, Option.bind_some, h.survives]

theorem Legible.ofString?_compact {v : Json} (h : v.Legible) :
    ofString? v.compact = if v.depth ≤ nestingLimit then some v else none :=
  h.ofString?_eq h.spellsWord_compactChars

theorem Legible.ofString?_pretty {v : Json} (h : v.Legible) :
    ofString? v.pretty = if v.depth ≤ nestingLimit then some v else none :=
  h.ofString?_eq (h.spellsWord_prettyChars 0)

/-- A line feed after the text of a value changes nothing. -/
theorem Legible.ofString?_prettyLine {v : Json} (h : v.Legible) :
    ofString? (v.pretty ++ "\n") = if v.depth ≤ nestingLimit then some v else none := by
  have hline : v.pretty ++ "\n" = String.ofList (v.prettyChars 0 ++ ['\n']) := by
    rw [String.ofList_append]
    rfl
  have hspells : Spells (v.prettyChars 0 ++ ['\n']) v.tokens :=
    (h.spellsWord_prettyChars 0).append_newLine 0
  rw [hline, h.ofString?_eq hspells.spellsWord]

end ParamRules.Json
