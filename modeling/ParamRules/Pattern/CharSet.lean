import ParamRules.Unicode.Derived
import ParamRules.Unicode.CaseFolding
import ParamRules.Text.Blank

/-!
# Character sets of patterns

The sets that a pattern can name in a few characters.  A set is kept as its ranges in
canonical form, so equal sets are equal values.
-/

namespace ParamRules

/-- A set of characters, as the canonical ranges of their codes. -/
abbrev CharSet := Unicode.Ranges

namespace CharSet

open Unicode

/-- All characters. -/
def all : CharSet := [(0, greatest)]

/-- The set of one character. -/
def single (code : Nat) : CharSet := [(code, code)]

/-- The decimal digits. -/
def digit : CharSet := GeneralCategory.decimalNumber.toRanges

/-- The blanks. -/
def space : CharSet := Text.blankRanges

/-- The characters of which words consist. -/
def word : CharSet := Unicode.word.toRanges

/-- The ASCII digits. -/
def asciiDigit : CharSet := [(0x30, 0x39)]

/-- The ASCII blanks. -/
def asciiSpace : CharSet := [(0x09, 0x0D), (0x20, 0x20)]

/-- The ASCII letters, digits and the underscore. -/
def asciiWord : CharSet := [(0x30, 0x39), (0x41, 0x5A), (0x5F, 0x5F), (0x61, 0x7A)]

/-- The named classes that may stand inside a bracketed class. -/
def ofAsciiClass? (name : String) : Option CharSet :=
  match name with
  | "alnum" => some [(0x30, 0x39), (0x41, 0x5A), (0x61, 0x7A)]
  | "alpha" => some [(0x41, 0x5A), (0x61, 0x7A)]
  | "ascii" => some [(0x00, 0x7F)]
  | "blank" => some [(0x09, 0x09), (0x20, 0x20)]
  | "cntrl" => some [(0x00, 0x1F), (0x7F, 0x7F)]
  | "digit" => some asciiDigit
  | "graph" => some [(0x21, 0x7E)]
  | "lower" => some [(0x61, 0x7A)]
  | "print" => some [(0x20, 0x7E)]
  | "punct" => some [(0x21, 0x2F), (0x3A, 0x40), (0x5B, 0x60), (0x7B, 0x7E)]
  | "space" => some asciiSpace
  | "upper" => some [(0x41, 0x5A)]
  | "word" => some asciiWord
  | "xdigit" => some [(0x30, 0x39), (0x41, 0x46), (0x61, 0x66)]
  | _ => none

/-- All characters that agree with a member up to the case of ASCII letters. -/
def asciiCaseClosure (set : CharSet) : CharSet :=
  let capitals := Ranges.inter set [(0x41, 0x5A)]
  let smalls := Ranges.inter set [(0x61, 0x7A)]
  Ranges.union set <|
    (capitals.map fun (low, high) => (low + 32, high + 32)) ++
      smalls.map fun (low, high) => (low - 32, high - 32)

/-- No character outside of ASCII is in the set. -/
def isAscii (set : CharSet) : Bool :=
  List.all set fun (_, high) => high < 0x80

theorem contains_single (code other : Nat) :
    (single code).contains other = (code == other) := by
  rw [Bool.eq_iff_iff]
  simp [single, Ranges.contains]
  omega

end CharSet

end ParamRules
