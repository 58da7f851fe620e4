import ParamRules.Pattern.CharSet

/-!
# Character sets as bytes

An automaton reads text byte by byte in UTF-8.  The encodings of a range of characters
form a short list of sequences of byte ranges: each sequence stands for all choices of
one byte from each of its ranges.
-/

namespace ParamRules.Automaton

open Unicode

/-- An inclusive range of bytes. -/
structure ByteRange where
  low : Nat
  high : Nat
deriving DecidableEq

/-- The encoding of a character. -/
def utf8 (code : Nat) : List Nat :=
  if code < 0x80 then
    [code]
  else if code < 0x800 then
    [0xC0 + code / 0x40, 0x80 + code % 0x40]
  else if code < 0x10000 then
    [0xE0 + code / 0x1000, 0x80 + code / 0x40 % 0x40, 0x80 + code % 0x40]
  else
    [0xF0 + code / 0x40000, 0x80 + code / 0x1000 % 0x40, 0x80 + code / 0x40 % 0x40,
      0x80 + code % 0x40]

/-- The characters with encodings of one, two, three and four bytes; the surrogates
divide those of three. -/
def encodingBlocks : Ranges :=
  [(0, 0x7F), (0x80, 0x7FF), (0x800, 0xD7FF), (0xE000, 0xFFFF), (0x10000, greatest)]

/-- Divides a range into pieces in ascending order, such that in each piece all last
bytes are independent of the bytes before them.  The blocks are the ranges of characters
that share all but the last byte, all but the last two, and so on. -/
def pieces : List Nat → Nat × Nat → Ranges
  | [], range => [range]
  | block :: larger, (low, high) =>
      if low / block = high / block then
        [(low, high)]
      else
        let low' := (low + block - 1) / block * block
        let front := if low < low' then [(low, low' - 1)] else []
        if low' / block = high / block then
          front ++ [(low', high)]
        else
          let high' := (high + 1) / block * block - 1
          let back := if high' < high then [(high' + 1, high)] else []
          front ++ pieces larger (low', high') ++ back

/-- The pieces of a range of characters whose encodings have one length. -/
def encodedPieces (range : Nat × Nat) : Ranges :=
  if range.2 < 0x80 then [range] else pieces [0x40, 0x1000, 0x40000] range

/-- The byte sequences of a set of characters, in ascending order. -/
def byteSequences (set : CharSet) : List (List ByteRange) :=
  set.flatMap fun range =>
    (encodingBlocks.filterMap (Ranges.overlap? range)).flatMap fun block =>
      (encodedPieces block).map fun (low, high) =>
        List.zipWith ByteRange.mk (utf8 low) (utf8 high)

end ParamRules.Automaton
