import ParamRules.Event
import ParamRules.Schema.Basic

/-!
# Descriptions

A description is a list of entries, or an object whose values are the entries.  An entry
is an object with a field, a type, the groups of constraints under `opts` and the entries
for a nested object under `items`.  Groups come as a list or alone.

An entry that cannot be read is left out with everything below it; this touches no other
entry and is noted by one event.
-/

namespace ParamRules

/-- A text without the slashes around it, if it has both. -/
def withoutSlashes (cs : List Char) : List Char :=
  match cs with
  | '/' :: rest => if rest.getLast? = some '/' then rest.dropLast else cs
  | _ => cs

namespace Constraints

open Json.Fields

/-- The boolean under a key. -/
def flag? (fields : Json.Fields) (key : String) : Option Bool :=
  (get? fields key).bind Json.bool?

/-- The limit under a key. -/
def limit? (fields : Json.Fields) (key : String) : Option Quantity :=
  ((get? fields key).bind Json.number?).bind Quantity.ofNumber?

/-- The pattern of a group, which may stand between slashes. -/
def readPattern (fields : Json.Fields) : Except ReadError (Option Pattern) :=
  match (get? fields "format").bind Json.text? with
  | .none => .ok .none
  | some text =>
      let source := String.ofList (withoutSlashes text.toList)
      match Pattern.ofString? source with
      | some pattern => .ok (some pattern)
      | .none => .error (.invalidPattern source)

/-- The type that a group states for elements, which must be there. -/
def readElementType (fields : Json.Fields) : Except ReadError FieldType :=
  match (get? fields "type").bind Json.text? with
  | some tag => FieldType.ofTag tag
  | .none => .error (.unknownType "")

/-- The group described by fields, given what it states for elements. -/
def readFields (fields : Json.Fields)
    (element : Except ReadError (Option (Typed Constraints))) :
    Except ReadError Constraints := do
  let format ← readPattern fields
  let element ← element
  return {
    required := (flag? fields "required").getD false
    message := (get? fields "message").bind Json.text?
    min := limit? fields "min"
    max := limit? fields "max"
    format
    notBlank :=
      flag? fields "blank" == some false || flag? fields "blank_disallowed" == some true
    element }

mutual

/-- Reads the description of a group.  Unknown keys and values of an unexpected kind
count for nothing, and neither does a description that is not an object. -/
def ofDescription : Json → Except ReadError Constraints
  | .object fields => readFields fields (readElement fields)
  | _ => .ok {}

/-- Reads what the fields of a group state for elements. -/
def readElement : List (String × Json) → Except ReadError (Option (Typed Constraints))
  | [] => .ok .none
  | (key, value) :: rest =>
      if key = "element" then
        match value.fields? with
        | some fields => do
            let type ← readElementType fields
            let constraints ← ofDescription value
            return some ⟨type, constraints⟩
        | .none => .ok .none
      else
        readElement rest

end

/-- Reads the groups under `opts`: the objects of a list, or one object alone. -/
def readGroups (fields : Json.Fields) : Except ReadError (List Constraints) :=
  match get? fields "opts" with
  | some (.array items) =>
      (items.filter fun item => item.fields?.isSome).mapM ofDescription
  | some (.object group) => do return [← ofDescription (.object group)]
  | _ => .ok []

end Constraints

/-- What becomes of an entry of a description. -/
inductive EntryReading where
  /-- It is kept, with the events of the entries below it. -/
  | kept (rule : FieldRule) (below : List Event)
  /-- It lacks something that every entry has. -/
  | skipped (event : Event)
  /-- Its content cannot be read. -/
  | dropped (error : ReadError)

namespace EntryReading

open Json.Fields

/-- What an entry says of its own field: a rule without nested ones. -/
def ofFields (fields : Json.Fields) : EntryReading :=
  match (get? fields "field").bind Json.text? with
  | none => .skipped .entryWithoutField
  | some field =>
      if field = "" then
        .skipped .entryWithoutField
      else
        match (get? fields "type").bind Json.text? with
        | none => .skipped (.entryWithoutType field)
        | some tag =>
            match FieldType.ofTag tag with
            | .error e => .dropped e
            | .ok type =>
                match Constraints.readGroups fields with
                | .error e => .dropped e
                | .ok groups => .kept { field, type, groups } []

/-- Adds what was read of the entries below to a kept entry. -/
def nest (reading : EntryReading) (below : List FieldRule × List Event) : EntryReading :=
  match reading with
  | .kept rule events => .kept { rule with nested := below.1 } (events ++ below.2)
  | other => other

/-- Puts what was read of an entry before what was read of the entries after it. -/
def followedBy (reading : EntryReading) (position : Nat)
    (after : List FieldRule × List Event) : List FieldRule × List Event :=
  match reading with
  | .kept rule below => (rule :: after.1, below ++ after.2)
  | .skipped event => (after.1, event :: after.2)
  | .dropped error => (after.1, .entryDropped position error :: after.2)

end EntryReading

namespace FieldRule

mutual

/-- Reads an entry. -/
def readEntry : Json → EntryReading
  | .object fields => (EntryReading.ofFields fields).nest (readItems fields)
  | _ => .skipped .entryNotObject

/-- Reads the entries under `items` among the fields of an entry. -/
def readItems : List (String × Json) → List FieldRule × List Event
  | [] => ([], [])
  | (key, value) :: rest => if key = "items" then readList value else readItems rest

/-- Reads the entries of a list; any other value has none. -/
def readList : Json → List FieldRule × List Event
  | .array items => readEntries 0 items
  | _ => ([], [])

/-- Reads a row of entries, of which the first has the given position. -/
def readEntries (position : Nat) : List Json → List FieldRule × List Event
  | [] => ([], [])
  | entry :: rest =>
      (readEntry entry).followedBy position (readEntries (position + 1) rest)

end

end FieldRule

namespace Schema

/-- The entries of a description, if it is one. -/
def entries? : Json → Option (List Json)
  | .array entries => some entries
  | .object fields => some (fields.map (·.2))
  | _ => none

/-- Reads a description, with the events of what it leaves out. -/
def readDescription (description : Json) : Schema × List Event :=
  match entries? description with
  | some entries =>
      let (rules, events) := FieldRule.readEntries 0 entries
      (ofRules rules, events)
  | none => (empty, [.notADescription description.kind])

/-- The schema of a description. -/
def ofDescription (description : Json) : Schema :=
  (readDescription description).1

end Schema

end ParamRules
