import ParamRules.Proofs.Schema.EntryNotation
import ParamRules.Proofs.Schema.Limits
import ParamRules.Proofs.Schema.Patterns

/-!
# Reading the description of a group

The description of a group has one field for each constraint that is set.  Every key is
looked up on its own, so reading gives back each constraint from its own field: flags
and texts as they are, limits if they are expressible, what is stated for elements by
induction.  Of a pattern, the text comes back without the slashes that were put around it,
and reading makes a new pattern from it.
-/

namespace ParamRules

namespace Json.Fields

theorem get?_append (a b : Json.Fields) (key : String) :
    get? (a ++ b) key = (get? a key).or (get? b key) :=
  List.lookup_append

theorem get?_option_toList {α : Type} (value : α → Json) (o : Option α) (k key : String) :
    get? (o.map fun x => (k, value x)).toList key =
      if key = k then o.map value else none := by
  cases o with
  | none => simp
  | some x => simp [get?_cons]

theorem get?_flag (b : Bool) (k key : String) :
    get? (if b then [(k, .bool true)] else []) key =
      if key = k ∧ b then some (.bool true) else none := by
  cases b with
  | false => simp
  | true => simp [get?_cons]

end Json.Fields

namespace FieldType

theorem keyword_tag (t : FieldType) : Text.keyword t.tag = t.tag := by
  cases t <;> decide

theorem ofTag_tag (t : FieldType) : ofTag t.tag = .ok t := by
  rw [ofTag, keyword_tag, ofKeyword?_tag]

end FieldType

namespace Constraints

open Json.Fields

/-! ## The fields of a description -/

/-- What a group states for elements, as fields. -/
def elementFields (element : Option (Typed Constraints)) : Json.Fields :=
  (element.map fun e =>
    ("element", Json.object (("type", .string e.type.tag) :: e.constraints.toFields))).toList

theorem toFields_eq (group : Constraints) :
    group.toFields =
      (if group.required then [("required", .bool true)] else []) ++
      (group.message.map fun m => ("message", Json.string m)).toList ++
      (group.min.map fun q => ("min", q.toJson)).toList ++
      (group.max.map fun q => ("max", q.toJson)).toList ++
      (group.format.map fun p => ("format", Json.string p.betweenSlashes)).toList ++
      (if group.notBlank then [("blank_disallowed", .bool true)] else []) ++
      elementFields group.element := by
  obtain ⟨required, message, min, max, format, notBlank, element⟩ := group
  cases element <;> rfl

/-- Looking up a key in the description of a group finds the constraint of that name. -/
theorem get?_toFields (group : Constraints) (key : String) :
    get? group.toFields key =
      if key = "required" then if group.required then some (.bool true) else .none
      else if key = "message" then group.message.map .string
      else if key = "min" then group.min.map Quantity.toJson
      else if key = "max" then group.max.map Quantity.toJson
      else if key = "format" then group.format.map fun p => .string p.betweenSlashes
      else if key = "blank_disallowed" then
        if group.notBlank then some (.bool true) else .none
      else if key = "element" then
        group.element.map fun e =>
          .object (("type", .string e.type.tag) :: e.constraints.toFields)
      else .none := by
  rw [toFields_eq, elementFields]
  simp only [get?_append, get?_flag, get?_option_toList]
  by_cases h₁ : key = "required"
  · simp [h₁]
  by_cases h₂ : key = "message"
  · simp [h₂]
  by_cases h₃ : key = "min"
  · simp [h₃]
  by_cases h₄ : key = "max"
  · simp [h₄]
  by_cases h₅ : key = "format"
  · simp [h₅]
  by_cases h₆ : key = "blank_disallowed"
  · simp [h₆]
  · simp [h₁, h₂, h₃, h₄, h₅, h₆]

/-! ## Reading the fields -/

/-- The description of a group can be read: it carries all limits, and the texts of all
patterns denote expressions. -/
structure IsReadable (group : Constraints) : Prop where
  limits : group.allLimits Quantity.isExpressible = true
  patterns : ∀ p ∈ group.patterns, p.IsReadable

theorem IsReadable.element
    {group : Constraints} (h : group.IsReadable) {element : Typed Constraints}
    (helement : group.element = some element) : element.constraints.IsReadable := by
  obtain ⟨-, -, hlimits⟩ := (group.allLimits_iff _).mp h.limits
  refine ⟨hlimits element helement, fun p hp => h.patterns p ?_⟩
  exact mem_patterns_iff.mpr (.inr ⟨element, helement, hp⟩)

/-- What the fields of a group state for elements stands under the key `element`. -/
theorem readElement_eq (fields : Json.Fields) :
    readElement fields =
      match (get? fields "element").bind Json.fields? with
      | some inner => do
          let type ← readElementType inner
          let constraints ← ofDescription (.object inner)
          return some ⟨type, constraints⟩
      | .none => .ok .none := by
  induction fields with
  | nil => rfl
  | cons entry rest ih =>
      obtain ⟨key, value⟩ := entry
      rw [readElement, get?_cons]
      by_cases hkey : key = "element"
      · subst hkey
        cases value <;> rfl
      · have hkey' : ¬"element" = key := fun h => hkey h.symm
        rw [if_neg hkey, if_neg hkey', ih]

/-- The fields describe a group if every key but `type` finds what it finds in the
description of the group. -/
def Describes (fields : Json.Fields) (group : Constraints) : Prop :=
  ∀ key, key ≠ "type" → get? fields key = get? group.toFields key

theorem describes_toFields (group : Constraints) : Describes group.toFields group :=
  fun _ _ => rfl

theorem describes_type_toFields (type : FieldType) (group : Constraints) :
    Describes (("type", .string type.tag) :: group.toFields) group := by
  intro key hkey
  rw [get?_cons, if_neg hkey]

section Describes

variable {fields : Json.Fields} {group : Constraints}

theorem flag?_required (h : Describes fields group) :
    (flag? fields "required").getD false = group.required := by
  rw [flag?, h _ (by decide), get?_toFields, if_pos rfl]
  cases group.required <;> rfl

theorem message_eq (h : Describes fields group) :
    (get? fields "message").bind Json.text? = group.message := by
  rw [h _ (by decide), get?_toFields]
  cases group.message <;> simp [Json.text?]

theorem limit?_eq
    {key : String} {q? : Option Quantity}
    (hget : get? fields key = q?.map Quantity.toJson)
    (hlimits : ∀ q, q? = some q → q.isExpressible = true) :
    limit? fields key = q? := by
  rw [limit?, hget]
  cases q? with
  | none => rfl
  | some q => simpa using Quantity.ofNumber?_toJson (hlimits q rfl)

theorem readPattern_eq
    (h : Describes fields group) (hformat : ∀ p, group.format = some p → p.IsReadable) :
    readPattern fields = .ok (group.format.map Pattern.recompiled) := by
  rw [readPattern, h _ (by decide), get?_toFields]
  cases hpattern : group.format with
  | none => simp
  | some p =>
      have hsource : withoutSlashes p.betweenSlashes.toList = p.source.toList := by
        have htext : p.betweenSlashes.toList = '/' :: p.source.toList ++ ['/'] := by
          simp [Pattern.betweenSlashes]
        rw [htext, withoutSlashes_betweenSlashes]
      have hread := (hformat p hpattern).ofString?_source
      simp [Json.text?, hsource, hread]

theorem notBlank_eq (h : Describes fields group) :
    (flag? fields "blank" == some false || flag? fields "blank_disallowed" == some true) =
      group.notBlank := by
  rw [flag?, flag?, h _ (by decide), h _ (by decide), get?_toFields, get?_toFields]
  cases hblank : group.notBlank <;> simp [Json.bool?]

theorem readElementType_type_toFields (type : FieldType) (group : Constraints) :
    readElementType (("type", .string type.tag) :: group.toFields) = .ok type := by
  simp [readElementType, get?_cons, Json.text?, FieldType.ofTag_tag]

/-- Fields that describe a readable group are read as this group, with patterns made from
the texts of its patterns. -/
theorem ofDescription_of_describes (h : Describes fields group) (hgroup : group.IsReadable) :
    ofDescription (.object fields) = .ok group.recompiled := by
  induction group using Constraints.induction generalizing fields with
  | step group ih =>
      obtain ⟨hmin, hmax, -⟩ := (group.allLimits_iff _).mp hgroup.limits
      have hmin' : limit? fields "min" = group.min :=
        limit?_eq (by rw [h _ (by decide), get?_toFields]; rfl) hmin
      have hmax' : limit? fields "max" = group.max :=
        limit?_eq (by rw [h _ (by decide), get?_toFields]; rfl) hmax
      have hformat := readPattern_eq h fun p hp =>
        hgroup.patterns p (mem_patterns_iff.mpr (.inl hp))
      have helement : readElement fields = .ok (group.element.map fun element =>
          { element with constraints := element.constraints.recompiled }) := by
        rw [readElement_eq, h _ (by decide), get?_toFields]
        cases hstated : group.element with
        | none => simp
        | some element =>
            have hinner := ih element hstated
              (describes_type_toFields element.type element.constraints)
              (hgroup.element hstated)
            simp [Json.fields?, readElementType_type_toFields, hinner, bind, Except.bind,
              pure, Except.pure]
      rw [ofDescription, readFields, hformat, helement, flag?_required h, message_eq h, hmin',
        hmax', notBlank_eq h, recompiled_eq]
      rfl

end Describes

/-- Reading the description of a readable group gives the group back, with patterns made
from the texts of its patterns. -/
theorem ofDescription_toJson {group : Constraints} (hgroup : group.IsReadable) :
    ofDescription group.toJson = .ok group.recompiled :=
  ofDescription_of_describes group.describes_toFields hgroup

end Constraints

end ParamRules
