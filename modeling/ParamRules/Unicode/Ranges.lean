/-!
# Ranges of code points

Sets of code points are lists of inclusive ranges.  In their canonical form the ranges
ascend and no two of them touch.  Surrogates are no characters: the neighbour of U+D7FF
is U+E000, but two ranges that end there do not touch.

Tables are kept as text: ranges in hexadecimal, `41-5A` or a single `5F`, with blanks or
line ends between them.
-/

namespace ParamRules.Unicode

/-- A list of inclusive ranges of code points. -/
abbrev Ranges := List (Nat × Nat)

/-- The greatest code point. -/
def greatest : Nat := 0x10FFFF

/-- The next code point that may be a character. -/
def successor (code : Nat) : Nat :=
  if code = 0xD7FF then 0xE000 else code + 1

/-- The code point before that may be a character. -/
def predecessor (code : Nat) : Nat :=
  if code = 0xE000 then 0xD7FF else code - 1

namespace Ranges

/-- The code point lies in one of the ranges. -/
def contains (ranges : Ranges) (code : Nat) : Bool :=
  ranges.any fun (low, high) => low ≤ code && code ≤ high

/-- The value of an upper-case hexadecimal digit. -/
def digitValue (c : Char) : Nat :=
  if c.isDigit then c.toNat - 48 else c.toNat - 55

/-- A reader of a table: the ranges so far, last first, the lower end of a range whose
upper end is being read, and the number being read. -/
structure Reader where
  reversed : Ranges
  low : Option Nat
  code : Option Nat

/-- Ends the range being read, if there is one. -/
def Reader.close (reader : Reader) : Ranges :=
  match reader.code with
  | some code => (reader.low.getD code, code) :: reader.reversed
  | none => reader.reversed

/-- Takes one character of a table. -/
def Reader.step (reader : Reader) (c : Char) : Reader :=
  if c = ' ' ∨ c = '\n' then ⟨reader.close, none, none⟩
  else if c = '-' then ⟨reader.reversed, reader.code, none⟩
  else ⟨reader.reversed, reader.low, some (reader.code.getD 0 * 16 + digitValue c)⟩

/-- The ranges of a table. -/
def ofText (table : String) : Ranges :=
  (table.toList.foldl Reader.step ⟨[], none, none⟩).close.reverse

/-- Joins a range to those it touches in a row sorted by lower ends, and goes on from the
first one that it does not touch. -/
def joinFrom (low high : Nat) : Ranges → Ranges
  | [] => [(low, high)]
  | (low', high') :: rest =>
      if low' ≤ high + 1 then joinFrom low (max high high') rest
      else (low, high) :: joinFrom low' high' rest

/-- Joins the ranges that touch in a row sorted by lower ends. -/
def joinSorted : Ranges → Ranges
  | [] => []
  | (low, high) :: rest => joinFrom low high rest

/-- The canonical form of any ranges. -/
def normalize (ranges : Ranges) : Ranges :=
  joinSorted (ranges.mergeSort fun a b => a.1 ≤ b.1)

/-- The code points in at least one of two sets. -/
def union (a b : Ranges) : Ranges :=
  normalize (a ++ b)

/-- What two ranges have in common. -/
def overlap? (a b : Nat × Nat) : Option (Nat × Nat) :=
  let low := max a.1 b.1
  let high := min a.2 b.2
  if low ≤ high then some (low, high) else none

/-- The code points in both of two sets. -/
def inter (a b : Ranges) : Ranges :=
  a.flatMap fun range => b.filterMap (overlap? range)

/-- What is left of a range without another one. -/
def cut (removed range : Nat × Nat) : Ranges :=
  if removed.2 < range.1 ∨ range.2 < removed.1 then
    [range]
  else
    (if range.1 < removed.1 then [(range.1, predecessor removed.1)] else []) ++
      (if removed.2 < range.2 then [(successor removed.2, range.2)] else [])

/-- The code points of the first set that are not in the second one. -/
def diff (a b : Ranges) : Ranges :=
  b.foldl (fun left removed => left.flatMap (cut removed)) a

/-- The code points in exactly one of two sets. -/
def symmDiff (a b : Ranges) : Ranges :=
  (a.union b).diff (a.inter b)

/-- The gaps of a row of ranges above a code point.  The gap between two ranges that
meet around the surrogates has its ends in the wrong order; it is taken to be the range
of these two ends. -/
def gapsAbove (code : Nat) : Ranges → Ranges
  | [] => if code < greatest then [(successor code, greatest)] else []
  | (low, high) :: rest =>
      let first := successor code
      let last := predecessor low
      (min first last, max first last) :: gapsAbove high rest

/-- The code points that are not in a set. -/
def complement : Ranges → Ranges
  | [] => [(0, greatest)]
  | (low, high) :: rest =>
      (if 0 < low then [(0, predecessor low)] else []) ++ gapsAbove high rest

theorem contains_append (a b : Ranges) (code : Nat) :
    (contains (a ++ b) code) = (contains a code || contains b code) := by
  simp [contains]

theorem contains_inter (a b : Ranges) (code : Nat) :
    contains (inter a b) code = (contains a code && contains b code) := by
  rw [Bool.eq_iff_iff]
  simp only [contains, inter, List.any_flatMap, List.any_eq_true, List.mem_filterMap,
    overlap?, Bool.and_eq_true, decide_eq_true_eq]
  constructor
  · rintro ⟨x, hx, z, ⟨y, hy, h⟩, hlow, hhigh⟩
    split at h
    · cases h
      exact ⟨⟨x, hx, by omega⟩, ⟨y, hy, by omega⟩⟩
    · cases h
  · rintro ⟨⟨x, hx, hx'⟩, ⟨y, hy, hy'⟩⟩
    refine ⟨x, hx, (max x.1 y.1, min x.2 y.2), ⟨y, hy, ?_⟩, ?_, ?_⟩
    · rw [if_pos (by omega)]
    · show max x.1 y.1 ≤ code
      omega
    · show code ≤ min x.2 y.2
      omega

end Ranges

end ParamRules.Unicode
