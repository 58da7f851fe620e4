import ParamRules.Calendar.Notation
import ParamRules.Json.Basic
import ParamRules.ReadError

/-!
# Field types

The types that a field may be declared with.  Dates and timestamps are strings in a
certain notation; every number is a decimal, and those that are whole and fit 64 bits
are whole numbers as well.
-/

namespace ParamRules

/-- The type that a field is declared with. -/
inductive FieldType where
  | text
  | wholeNumber
  | decimal
  | boolean
  | date
  | timestamp
  | object
  | list
deriving DecidableEq, Repr

namespace FieldType

/-- Every type, in the order in which types are listed. -/
def all : List FieldType :=
  [.text, .wholeNumber, .decimal, .boolean, .date, .timestamp, .object, .list]

/-- The name of a type in messages. -/
def name : FieldType → String
  | .text => "String"
  | .wholeNumber => "Integer"
  | .decimal => "Decimal"
  | .boolean => "Boolean"
  | .date => "Date"
  | .timestamp => "Timestamp"
  | .object => "Object"
  | .list => "List"

/-- The tag of a type in descriptions. -/
def tag : FieldType → String
  | .text => "string"
  | .wholeNumber => "integer"
  | .decimal => "decimal"
  | .boolean => "boolean"
  | .date => "date"
  | .timestamp => "timestamp"
  | .object => "object"
  | .list => "list"

/-- The type of a keyword, which is its tag or another word for it. -/
def ofKeyword? (keyword : String) : Option FieldType :=
  if keyword ∈ ["string", "text", "str"] then some .text
  else if keyword ∈ ["integer", "int", "whole_number"] then some .wholeNumber
  else if keyword ∈ ["float", "decimal", "number", "bigdecimal"] then some .decimal
  else if keyword ∈ ["boolean", "bool"] then some .boolean
  else if keyword = "date" then some .date
  else if keyword ∈ ["datetime", "time", "timestamp"] then some .timestamp
  else if keyword ∈ ["hash", "object", "map"] then some .object
  else if keyword ∈ ["array", "list"] then some .list
  else none

/-- Reads a tag, up to blanks around it and the case of its letters.  An error keeps the
tag as it was given. -/
def ofTag (tag : String) : Except ReadError FieldType :=
  match ofKeyword? (Text.keyword tag) with
  | some t => .ok t
  | none => .error (.unknownType tag)

/-- Values of the type are numbers. -/
def isNumberType : FieldType → Bool
  | .wholeNumber | .decimal => true
  | _ => false

/-- The value has the type. -/
def accepts : FieldType → Json → Bool
  | .text, .string _ => true
  | .wholeNumber, .number (.whole n) => fitsWord n
  | .decimal, .number _ => true
  | .boolean, .bool _ => true
  | .date, .string s => Calendar.isDate s
  | .timestamp, .string s => Calendar.isTimestamp s
  | .object, .object _ => true
  | .list, .array _ => true
  | _, _ => false

theorem mem_all (t : FieldType) : t ∈ all := by
  cases t <;> decide

theorem ofKeyword?_tag (t : FieldType) : ofKeyword? t.tag = some t := by
  cases t <;> decide

end FieldType

end ParamRules
