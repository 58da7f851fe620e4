/-!
# Locations

A location leads from the payload to a value: a key for each step into an object and an
index for each step into a list.  In text, keys are joined by dots and an index stands
in brackets.
-/

namespace ParamRules

/-- One step towards a value. -/
inductive Step where
  /-- Into the field of an object. -/
  | key (name : String)
  /-- Into the element of a list. -/
  | index (i : Nat)
deriving DecidableEq, Repr

/-- The steps from the payload to a value. -/
structure Location where
  steps : List Step
deriving DecidableEq, Repr

namespace Step

/-- The text of a step that follows another one. -/
def suffix : Step → List Char
  | .key name => '.' :: name.toList
  | .index i => '[' :: Nat.toDigits 10 i ++ [']']

/-- The text of a first step. -/
def lead : Step → List Char
  | .key name => name.toList
  | .index i => suffix (.index i)

end Step

namespace Location

/-- The payload itself. -/
def root : Location := ⟨[]⟩

/-- A field of the object at a location. -/
def key (location : Location) (name : String) : Location :=
  ⟨location.steps ++ [.key name]⟩

/-- An element of the list at a location. -/
def index (location : Location) (i : Nat) : Location :=
  ⟨location.steps ++ [.index i]⟩

/-- How many steps lead to the location. -/
def depth (location : Location) : Nat :=
  location.steps.length

/-- No steps lead to the location. -/
def isRoot (location : Location) : Bool :=
  location.steps.isEmpty

/-- The characters of a location. -/
def chars (location : Location) : List Char :=
  match location.steps with
  | [] => []
  | first :: rest => first.lead ++ rest.flatMap Step.suffix

/-- The text of a location. -/
def text (location : Location) : String :=
  String.ofList location.chars

theorem chars_key {location : Location} (h : location.isRoot = false) (name : String) :
    (location.key name).chars = location.chars ++ '.' :: name.toList := by
  obtain ⟨steps⟩ := location
  cases steps with
  | nil => cases h
  | cons first rest => simp [key, chars, Step.suffix]

theorem chars_index (location : Location) (i : Nat) :
    (location.index i).chars = location.chars ++ ('[' :: Nat.toDigits 10 i ++ [']']) := by
  obtain ⟨steps⟩ := location
  cases steps with
  | nil => simp [index, chars, Step.lead, Step.suffix]
  | cons first rest => simp [index, chars, Step.suffix]

theorem text_root_key (name : String) : (root.key name).text = name := by
  simp [root, key, text, chars, Step.lead]

theorem text_key {location : Location} (h : location.isRoot = false) (name : String) :
    (location.key name).text = location.text ++ "." ++ name := by
  have hchars := chars_key h name
  apply String.toList_injective
  simp [text, hchars]

theorem text_index (location : Location) (i : Nat) :
    (location.index i).text = location.text ++ "[" ++ toString i ++ "]" := by
  apply String.toList_injective
  simp [text, chars_index]

end Location

end ParamRules
