/-!
# Blank characters and trimming

The blank characters are those with the Unicode property `White_Space`; they
decide what trimming removes and which text counts as blank.  Case folding of
keywords touches the letters `A` to `Z` only.
-/

namespace ParamRules.Text

/-- The code points with the property `White_Space`, as inclusive ranges. -/
def blankRanges : List (Nat × Nat) :=
  [(0x09, 0x0D), (0x20, 0x20), (0x85, 0x85), (0xA0, 0xA0), (0x1680, 0x1680),
    (0x2000, 0x200A), (0x2028, 0x2029), (0x202F, 0x202F), (0x205F, 0x205F),
    (0x3000, 0x3000)]

/-- `c` has the property `White_Space`. -/
def isBlank (c : Char) : Bool :=
  blankRanges.any fun (low, high) => low ≤ c.toNat && c.toNat ≤ high

/-- Every character is blank; empty text is blank too. -/
def allBlank (s : String) : Bool :=
  s.toList.all isBlank

/-- Drops leading blanks. -/
def skipBlanks (cs : List Char) : List Char :=
  cs.dropWhile isBlank

/-- Drops blanks at both ends. -/
def trimList (cs : List Char) : List Char :=
  (skipBlanks (skipBlanks cs).reverse).reverse

/-- The form in which keywords are compared: no outer blanks, and the letters
`A` to `Z` in lower case. -/
def keyword (s : String) : String :=
  String.ofList ((trimList s.toList).map Char.toLower)

theorem allBlank_empty : allBlank "" = true := by
  simp [allBlank]

end ParamRules.Text
