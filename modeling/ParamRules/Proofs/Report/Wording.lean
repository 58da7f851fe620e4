import Mathlib.Data.List.Induction
import ParamRules.Report.Violation

/-!
# What an issue says

The relations of this module spell out the three parts of an issue, without mention of how
an issue is put together: the text of a location step by step, the kind of a violation with
the words for it, names of types and limits included, and the message, which is the one of
the group or else the usual one.
They leave no choice, so a violation of a group at a location has exactly one issue.
-/

namespace ParamRules

/-- A location is written as this text.  Keys are joined by dots, and an index stands in
brackets. -/
inductive Location.WrittenAs : Location → String → Prop
  | root : WrittenAs .root ""
  | field (name : String) : WrittenAs (Location.root.key name) name
  | key {location : Location} {text : String} (hinside : location ≠ .root)
      (h : WrittenAs location text) (name : String) :
      WrittenAs (location.key name) (text ++ "." ++ name)
  | index {location : Location} {text : String} (h : WrittenAs location text) (i : Nat) :
      WrittenAs (location.index i) (text ++ "[" ++ toString i ++ "]")

/-- A type goes by this name. -/
inductive FieldType.IsNamed : FieldType → String → Prop
  | text : IsNamed .text "String"
  | wholeNumber : IsNamed .wholeNumber "Integer"
  | decimal : IsNamed .decimal "Decimal"
  | boolean : IsNamed .boolean "Boolean"
  | date : IsNamed .date "Date"
  | timestamp : IsNamed .timestamp "Timestamp"
  | object : IsNamed .object "Object"
  | list : IsNamed .list "List"

/-- A quantity is written as this text: in the digits of the whole number, or as the binary
number is written. -/
inductive Quantity.WrittenAs : Quantity → String → Prop
  | whole (n : Int) : WrittenAs (.whole n) (toString n)
  | fractional (x : Binary64) : WrittenAs (.fractional x) x.text

/-- A violation is of this kind, and these words say it of a parameter. -/
inductive Violation.Means : Violation → Issue.Kind → String → Prop
  | missing : Means .missing .missing "is required"
  | wrongType {expected : FieldType} {name : String} (hname : expected.IsNamed name) :
      Means (.wrongType expected) .wrongType ("must be of type " ++ name)
  | belowMin {min : Quantity} {text : String} (htext : min.WrittenAs text) :
      Means (.belowMin min) .outOfRange ("must be at least " ++ text)
  | aboveMax {max : Quantity} {text : String} (htext : max.WrittenAs text) :
      Means (.aboveMax max) .outOfRange ("must be at most " ++ text)
  | badFormat : Means .badFormat .badFormat "format is invalid"
  | blank : Means .blank .blank "cannot be blank"

/-- An issue reports a violation of a group at a location. -/
structure Issue.Reports (issue : Issue) (group : Constraints) (location : Location)
    (violation : Violation) : Prop where
  place : location.WrittenAs issue.place
  wording : ∃ words, violation.Means issue.kind words ∧
    issue.message = group.message.getD ("Parameter " ++ issue.place ++ " " ++ words)

namespace Location

theorem isRoot_eq_false_iff {location : Location} :
    location.isRoot = false ↔ location ≠ .root := by
  obtain ⟨steps⟩ := location
  cases steps <;> simp [isRoot, root]

theorem writtenAs_text (location : Location) : location.WrittenAs location.text := by
  obtain ⟨steps⟩ := location
  induction steps using List.reverseRecOn with
  | nil => exact .root
  | append_singleton steps step ih =>
      cases step with
      | key name =>
          by_cases hroot : (⟨steps⟩ : Location) = .root
          · cases hroot
            change (Location.root.key name).WrittenAs (Location.root.key name).text
            rw [text_root_key]
            exact .field name
          · change (key ⟨steps⟩ name).WrittenAs (key ⟨steps⟩ name).text
            rw [text_key (isRoot_eq_false_iff.mpr hroot)]
            exact ih.key hroot name
      | index i =>
          change (index ⟨steps⟩ i).WrittenAs (index ⟨steps⟩ i).text
          rw [text_index]
          exact ih.index i

/-- A location has one text. -/
theorem writtenAs_iff {location : Location} {text : String} :
    location.WrittenAs text ↔ text = location.text := by
  constructor
  · intro h
    induction h with
    | root => rfl
    | field name => rw [text_root_key]
    | key hinside _ name ih => rw [text_key (isRoot_eq_false_iff.mpr hinside), ih]
    | index _ i ih => rw [text_index, ih]
  · rintro rfl
    exact writtenAs_text location

end Location

theorem FieldType.isNamed_iff {type : FieldType} {name : String} :
    type.IsNamed name ↔ name = type.name := by
  constructor
  · intro h
    cases h <;> rfl
  · rintro rfl
    cases type <;> constructor

theorem toString_eq_wholeText (n : Int) : toString n = String.ofList (wholeText n) := by
  cases n with
  | ofNat m => rfl
  | negSucc m =>
      rw [wholeText, if_pos (Int.negSucc_lt_zero m), String.ofList_cons]
      rfl

theorem Quantity.writtenAs_iff {q : Quantity} {text : String} :
    q.WrittenAs text ↔ text = q.text := by
  constructor
  · intro h
    cases h with
    | whole n => exact toString_eq_wholeText n
    | fractional x => rfl
  · rintro rfl
    cases q with
    | whole n =>
        rw [Quantity.text, ← toString_eq_wholeText]
        exact .whole n
    | fractional x => exact .fractional x

theorem Violation.means_iff {violation : Violation} {kind : Issue.Kind} {words : String} :
    violation.Means kind words ↔ kind = violation.kind ∧ words = violation.predicate := by
  constructor
  · intro h
    cases h with
    | wrongType hname =>
        rw [FieldType.isNamed_iff.mp hname]
        exact ⟨rfl, rfl⟩
    | belowMin htext | aboveMax htext =>
        rw [Quantity.writtenAs_iff.mp htext]
        exact ⟨rfl, rfl⟩
    | missing | badFormat | blank => exact ⟨rfl, rfl⟩
  · rintro ⟨rfl, rfl⟩
    cases violation with
    | missing => exact .missing
    | wrongType expected => exact .wrongType (FieldType.isNamed_iff.mpr rfl)
    | belowMin min => exact .belowMin (Quantity.writtenAs_iff.mpr rfl)
    | aboveMax max => exact .aboveMax (Quantity.writtenAs_iff.mpr rfl)
    | badFormat => exact .badFormat
    | blank => exact .blank

namespace Issue

variable {issue : Issue} {group : Constraints} {location : Location} {violation : Violation}

/-- The issue of a violation is the one that reports it. -/
theorem reports_iff :
    issue.Reports group location violation ↔ issue = group.issue location.text violation := by
  constructor
  · rintro ⟨hplace, words, hmeans, hmessage⟩
    rw [Location.writtenAs_iff] at hplace
    obtain ⟨hkind, rfl⟩ := Violation.means_iff.mp hmeans
    obtain ⟨place, kind, message⟩ := issue
    rw [hplace] at hmessage
    simp only [Constraints.issue, Violation.usualMessage, Issue.mk.injEq]
    exact ⟨hplace, hkind, hmessage⟩
  · rintro rfl
    exact ⟨location.writtenAs_text, _, Violation.means_iff.mpr ⟨rfl, rfl⟩, rfl⟩

theorem Reports.kind_eq (h : issue.Reports group location violation) :
    issue.kind = violation.kind := by
  obtain ⟨words, hmeans, -⟩ := h.wording
  exact (Violation.means_iff.mp hmeans).1

theorem Reports.place_eq (h : issue.Reports group location violation) :
    issue.place = location.text :=
  Location.writtenAs_iff.mp h.place

end Issue

end ParamRules
