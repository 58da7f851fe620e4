import ParamRules.Json.Concrete

/-!
# Reading JSON values

A document has a value if it nests at most so deep, every number is in range and no
string holds half of a surrogate pair.  Of fields with the same key the last value
counts, at the place of the first.

A numeral without point and exponent is a whole number while it fits 64 bits; any
other is a binary number, `-0` included.
-/

namespace ParamRules

/-- The number a numeral stands for, if that is finite. -/
def Numeral.number? (n : Numeral) : Option JsonNumber :=
  match n.whole?.filter fun whole => fitsWord whole && !(n.negative && whole == 0) with
  | some whole => some (.whole whole)
  | none => n.toFinite?.map .decimal

namespace Json

namespace Concrete

mutual

/-- The value of a document in which at most `depth` arrays and objects are open at a
time. -/
def value? : Concrete → Nat → Option Json
  | .null, _ => some .null
  | .bool b, _ => some (.bool b)
  | .numeral n, _ => n.number?.map .number
  | .text s, _ => s.map .string
  | .array _, 0 => none
  | .array items, depth + 1 => (values? items depth).map .array
  | .object _, 0 => none
  | .object entries, depth + 1 => (fields? entries depth).map fun fs => .object (Fields.merge fs)

/-- The values of the items of an array. -/
def values? : List Concrete → Nat → Option (List Json)
  | [], _ => some []
  | item :: rest, depth =>
      (item.value? depth).bind fun v => (values? rest depth).map (v :: ·)

/-- The keys and values of the entries of an object. -/
def fields? : List (Option String × Concrete) → Nat → Option (List (String × Json))
  | [], _ => some []
  | (key, item) :: rest, depth =>
      key.bind fun k =>
        (item.value? depth).bind fun v => (fields? rest depth).map ((k, v) :: ·)

end

end Concrete

/-- How many arrays and objects may be open at a time in a text. -/
def nestingLimit : Nat := 127

/-- Reads the value of a text. -/
def ofString? (text : String) : Option Json :=
  (Concrete.ofString? text).bind fun c => c.value? nestingLimit

end Json

end ParamRules
