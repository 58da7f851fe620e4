import ParamRules.Number.Binary64

/-!
# JSON values

Objects keep the order of their fields, and looking up a key finds its first field.
A number is whole or a finite binary one; which of the two it is depends on how it was
written, so `1` and `1.0` are different values.
-/

namespace ParamRules

/-- A number of a JSON value. -/
inductive JsonNumber where
  /-- Written without point and exponent. -/
  | whole (n : Int)
  /-- Any other number. -/
  | decimal (x : FiniteBinary64)
deriving DecidableEq

/-- The whole numbers that JSON text carries as such: those of 64 bits, signed or
unsigned. -/
def fitsWord (n : Int) : Bool :=
  -0x8000000000000000 ≤ n && n < 0x10000000000000000

/-- A JSON value. -/
inductive Json where
  | null
  | bool (b : Bool)
  | number (n : JsonNumber)
  | string (s : String)
  | array (items : List Json)
  | object (fields : List (String × Json))
deriving Inhabited

namespace Json

/-- The fields of an object, in order. -/
abbrev Fields := List (String × Json)

/-- A whole number as a value. -/
def ofNat (n : Nat) : Json :=
  .number (.whole n)

/-- The name of the kind of a value. -/
def kind : Json → String
  | .null => "null"
  | .bool _ => "boolean"
  | .number _ => "number"
  | .string _ => "string"
  | .array _ => "array"
  | .object _ => "object"

/-- The fields of an object; other values have none. -/
def fields? : Json → Option Fields
  | .object fields => some fields
  | _ => none

/-- The text of a string. -/
def text? : Json → Option String
  | .string s => some s
  | _ => none

/-- The truth value of a boolean. -/
def bool? : Json → Option Bool
  | .bool b => some b
  | _ => none

/-- The number of a numeric value. -/
def number? : Json → Option JsonNumber
  | .number n => some n
  | _ => none

namespace Fields

/-- The value of the first field with this key. -/
def get? (fields : Fields) (key : String) : Option Json :=
  List.lookup key fields

/-- Sets a field: in place if the key is there, at the end otherwise. -/
def set (fields : Fields) (key : String) (value : Json) : Fields :=
  match fields with
  | [] => [(key, value)]
  | (k, v) :: rest => if k = key then (k, value) :: rest else (k, v) :: set rest key value

/-- The fields in the order of their first mention, each with its last value. -/
def merge (entries : List (String × Json)) : Fields :=
  entries.foldl (fun fields (key, value) => Fields.set fields key value) []

@[simp]
theorem get?_nil (key : String) : get? [] key = none := rfl

theorem get?_cons (k : String) (v : Json) (rest : Fields) (key : String) :
    get? ((k, v) :: rest) key = if key = k then some v else get? rest key := by
  by_cases h : key = k
  · simp [get?, h]
  · have hk : (key == k) = false := by simp [h]
    simp [get?, List.lookup_cons, h, hk]

theorem get?_set (fields : Fields) (key other : String) (value : Json) :
    (fields.set key value).get? other =
      if other = key then some value else fields.get? other := by
  induction fields with
  | nil => simp [set, get?_cons]
  | cons entry rest ih =>
    obtain ⟨k, v⟩ := entry
    by_cases hk : k = key
    · subst hk
      simp only [set, if_true, get?_cons]
      by_cases ho : other = k <;> simp [ho]
    · simp only [set, hk, if_false, get?_cons, ih]
      by_cases ho : other = k
      · subst ho
        simp [hk]
      · simp [ho]

end Fields

end Json

end ParamRules
