import Mathlib.Data.List.Basic
import ParamRules.Proofs.Json.ReadBack
import ParamRules.Proofs.Schema.Reload

/-!
# The printed form of a schema

The description of a schema has no key twice in an object, and its numbers are the limits
of the schema.  So the whole description is read back from its text if the limits are.
How deep the description nests is computed group by group and rule by rule.
-/

namespace ParamRules

/-- The limit is read back from its text.  A limit that is not finite has no text, and
nothing is asked of it here. -/
def Quantity.readsBack : Quantity → Bool
  | .fractional (.finite x) => decide (JsonNumber.decimal x).ReadsBack
  | _ => true

theorem Quantity.legible_toJson
    {q : Quantity} (hexpressible : q.isExpressible = true) (hreads : q.readsBack = true) :
    q.toJson.Legible := by
  cases q with
  | whole n => exact .number (JsonNumber.readsBack_whole hexpressible)
  | fractional x =>
      cases x with
      | finite x => exact .number (of_decide_eq_true hreads)
      | nan | infinite => exact .null

theorem Quantity.depth_toJson (q : Quantity) : q.toJson.depth = 0 := by
  cases q with
  | whole n => rfl
  | fractional x => cases x <;> rfl

namespace Json

theorem fieldsDepth_append (a b : Fields) :
    fieldsDepth (a ++ b) = max (fieldsDepth a) (fieldsDepth b) := by
  induction a with
  | nil => simp [fieldsDepth]
  | cons entry rest ih => simp [fieldsDepth, ih, max_assoc]

theorem fieldsDepth_flag (b : Bool) (key : String) :
    fieldsDepth (if b then [(key, .bool true)] else []) = 0 := by
  cases b <;> rfl

theorem fieldsDepth_option_toList
    {α : Type} (value : α → Json) (h : ∀ x, (value x).depth = 0) (o : Option α)
    (key : String) :
    fieldsDepth (o.map fun x => (key, value x)).toList = 0 := by
  cases o with
  | none => rfl
  | some x => simp [fieldsDepth, h]

end Json

/-! ## Groups -/

namespace Constraints

/-- The names of the constraints of a group, as they follow one another. -/
def keys : List String :=
  ["required", "message", "min", "max", "format", "blank_disallowed", "element"]

theorem sublist_flag (b : Bool) (key : String) :
    ((if b then [(key, Json.bool true)] else []).map Prod.fst).Sublist [key] := by
  cases b <;> simp

theorem sublist_option_toList
    {α : Type} (value : α → Json) (o : Option α) (key : String) :
    ((o.map fun x => (key, value x)).toList.map Prod.fst).Sublist [key] := by
  cases o <;> simp

theorem sublist_keys_toFields (group : Constraints) :
    (group.toFields.map Prod.fst).Sublist keys := by
  have hkeys : keys = ["required"] ++ ["message"] ++ ["min"] ++ ["max"] ++ ["format"] ++
      ["blank_disallowed"] ++ ["element"] := rfl
  rw [toFields_eq, elementFields, hkeys]
  simp only [List.map_append]
  refine ((((((sublist_flag _ _).append ?_).append ?_).append ?_).append ?_).append
    (sublist_flag _ _)).append ?_
  all_goals exact sublist_option_toList _ _ _

theorem nodup_keys_toFields (group : Constraints) :
    (group.toFields.map Prod.fst).Nodup :=
  group.sublist_keys_toFields.nodup (by decide)

theorem nodup_keys_type_toFields (type : FieldType) (group : Constraints) :
    ((("type", Json.string type.tag) :: group.toFields).map Prod.fst).Nodup :=
  (group.sublist_keys_toFields.cons_cons "type").nodup (by decide)

/-- The fields that describe a group are legible if its limits are. -/
theorem legible_toFields
    {group : Constraints} (hexpressible : group.allLimits Quantity.isExpressible = true)
    (hreads : group.allLimits Quantity.readsBack = true) :
    ∀ entry ∈ group.toFields, entry.2.Legible := by
  induction group using Constraints.induction with
  | step group ih =>
      obtain ⟨hmin, hmax, helement⟩ := (group.allLimits_iff _).mp hexpressible
      obtain ⟨hmin', hmax', helement'⟩ := (group.allLimits_iff _).mp hreads
      have hflag (b : Bool) (key : String) :
          ∀ entry ∈ if b then [(key, Json.bool true)] else [], entry.2.Legible := by
        cases b <;> simp [Json.Legible.bool]
      rw [toFields_eq, elementFields]
      simp only [List.forall_mem_append]
      refine ⟨⟨⟨⟨⟨⟨hflag _ _, ?_⟩, ?_⟩, ?_⟩, ?_⟩, hflag _ _⟩, ?_⟩
      all_goals
        intro entry hentry
        obtain ⟨x, hx, rfl⟩ := Option.map_eq_some_iff.mp (Option.mem_toList.mp hentry)
      · exact .string x
      · exact Quantity.legible_toJson (hmin x hx) (hmin' x hx)
      · exact Quantity.legible_toJson (hmax x hx) (hmax' x hx)
      · exact .string _
      · refine .object (nodup_keys_type_toFields x.type x.constraints) ?_
        exact List.forall_mem_cons.mpr
          ⟨.string _, ih x hx (helement x hx) (helement' x hx)⟩

theorem legible_toJson
    {group : Constraints} (hexpressible : group.allLimits Quantity.isExpressible = true)
    (hreads : group.allLimits Quantity.readsBack = true) :
    group.toJson.Legible :=
  .object group.nodup_keys_toFields (legible_toFields hexpressible hreads)

/-- Only what a group states for elements nests in its description. -/
theorem depth_toJson_le_iff {group : Constraints} {d : Nat} :
    group.toJson.depth ≤ d + 1 ↔
      ∀ element, group.element = some element → element.constraints.toJson.depth ≤ d := by
  rw [toJson, Json.depth_object, Nat.add_le_add_iff_right, toFields_eq]
  simp only [Json.fieldsDepth_append, Json.fieldsDepth_flag,
    Json.fieldsDepth_option_toList Json.string fun _ => rfl,
    Json.fieldsDepth_option_toList Quantity.toJson Quantity.depth_toJson,
    Json.fieldsDepth_option_toList (fun p : Pattern => .string p.betweenSlashes)
      fun _ => rfl,
    Nat.max_self, Nat.zero_max]
  cases group.element with
  | none => simp [elementFields, Json.fieldsDepth]
  | some element => simp [elementFields, Json.fieldsDepth, Json.depth, toJson]

end Constraints

/-! ## Rules -/

namespace FieldRule

theorem legible_toJson
    {rule : FieldRule} (hexpressible : rule.allLimits Quantity.isExpressible = true)
    (hreads : rule.allLimits Quantity.readsBack = true) :
    rule.toJson.Legible := by
  induction rule using FieldRule.induction with
  | step rule ih =>
      obtain ⟨hgroups, hnested⟩ := (rule.allLimits_iff _).mp hexpressible
      obtain ⟨hgroups', hnested'⟩ := (rule.allLimits_iff _).mp hreads
      have hopts : (Json.array (rule.groups.map Constraints.toJson)).Legible := by
        refine .array fun v hv => ?_
        obtain ⟨group, hgroup, rfl⟩ := List.mem_map.mp hv
        exact Constraints.legible_toJson (hgroups group hgroup) (hgroups' group hgroup)
      have hitems : (Json.array (rule.nested.map toJson)).Legible := by
        refine .array fun v hv => ?_
        obtain ⟨child, hchild, rfl⟩ := List.mem_map.mp hv
        exact ih child hchild (hnested child hchild) (hnested' child hchild)
      rw [toJson_eq]
      refine .object ?_ ?_
      · rw [toFields]
        split <;> simp
      · rw [toFields]
        split
        · simp [Json.Legible.string, hopts]
        · simp [Json.Legible.string, hopts, hitems]

theorem depth_toJson_le_iff {rule : FieldRule} {d : Nat} :
    rule.toJson.depth ≤ d + 2 ↔
      (∀ group ∈ rule.groups, group.toJson.depth ≤ d) ∧
        ∀ child ∈ rule.nested, child.toJson.depth ≤ d := by
  have hgroups : Json.itemsDepth (rule.groups.map Constraints.toJson) ≤ d ↔
      ∀ group ∈ rule.groups, group.toJson.depth ≤ d := by
    rw [Json.itemsDepth_le_iff, List.forall_mem_map]
  have hnested : Json.itemsDepth (rule.nested.map toJson) ≤ d ↔
      ∀ child ∈ rule.nested, child.toJson.depth ≤ d := by
    rw [Json.itemsDepth_le_iff, List.forall_mem_map]
  rw [← hgroups, ← hnested, toJson_eq, Json.depth_object, toFields]
  cases rule.nested with
  | nil => simp [Json.fieldsDepth, Json.depth, Json.itemsDepth]
  | cons child rest => simp [Json.fieldsDepth, Json.depth]

end FieldRule

/-! ## Schemas -/

namespace Schema

theorem legible_toJson
    {schema : Schema} (hexpressible : schema.allLimits Quantity.isExpressible = true)
    (hreads : schema.allLimits Quantity.readsBack = true) :
    schema.toJson.Legible := by
  have hrules := (FieldRule.allLimitsOfRow_iff _ schema.rules).mp hexpressible
  have hrules' := (FieldRule.allLimitsOfRow_iff _ schema.rules).mp hreads
  refine .array fun v hv => ?_
  obtain ⟨rule, hrule, rfl⟩ := List.mem_map.mp hv
  exact FieldRule.legible_toJson (hrules rule hrule) (hrules' rule hrule)

theorem depth_toJson_le_iff {schema : Schema} {d : Nat} :
    schema.toJson.depth ≤ d + 1 ↔ ∀ rule ∈ schema.rules, rule.toJson.depth ≤ d := by
  rw [toJson, Json.depth_array, Nat.add_le_add_iff_right, Json.itemsDepth_le_iff,
    List.forall_mem_map]

end Schema

end ParamRules
