import ParamRules.Text.Blank

/-!
# Flags of patterns

Flags tell how the characters that follow are to be read.  One of them lets blanks and
comments stand between the characters that count.
-/

namespace ParamRules.Pattern

/-- How the characters that follow are to be read. -/
structure Flags where
  /-- Letters stand for both cases. -/
  ignoreCase : Bool := false
  /-- `^` and `$` also stand for the ends of lines. -/
  multiLine : Bool := false
  /-- The point also stands for line ends. -/
  dotAll : Bool := false
  /-- Lines end with a carriage return, a line feed or both. -/
  crlf : Bool := false
  /-- The greedy and the lazy form of repetition change places. -/
  swapGreed : Bool := false
  /-- Classes and case are those of Unicode, not those of ASCII. -/
  unicode : Bool := true
  /-- Blanks and comments stand for nothing. -/
  verbose : Bool := false

namespace Flags

/-- Sets one flag. -/
def set (flags : Flags) (letter : Char) (value : Bool) : Flags :=
  match letter with
  | 'i' => { flags with ignoreCase := value }
  | 'm' => { flags with multiLine := value }
  | 's' => { flags with dotAll := value }
  | 'R' => { flags with crlf := value }
  | 'U' => { flags with swapGreed := value }
  | 'u' => { flags with unicode := value }
  | 'x' => { flags with verbose := value }
  | _ => flags

/-- Sets the flags before the minus and clears those after it. -/
def update (flags : Flags) (items : List Char) : Flags :=
  let on := items.takeWhile (· != '-')
  let off := items.dropWhile (· != '-')
  off.foldl (fun flags letter => flags.set letter false)
    (on.foldl (fun flags letter => flags.set letter true) flags)

end Flags

/-- The rest behind the items of a flag group and the character that ends them.  An item
is a flag or one minus; none may be repeated, and the minus may not come last. -/
def flagItems? (seen : List Char) : List Char → Option (List Char × Char × List Char)
  | [] => none
  | c :: rest =>
      if c = ':' ∨ c = ')' then
        if seen.head? = some '-' then none else some (seen.reverse, c, rest)
      else if ['-', 'i', 'm', 's', 'u', 'U', 'R', 'x'].contains c && !seen.contains c then
        flagItems? (c :: seen) rest
      else
        none

mutual

/-- Drops blanks and comments. -/
def skipVerbose : List Char → List Char
  | [] => []
  | c :: rest =>
      if Text.isBlank c then skipVerbose rest
      else if c = '#' then skipComment rest
      else c :: rest

/-- Drops the rest of a comment, then blanks and comments. -/
def skipComment : List Char → List Char
  | [] => []
  | c :: rest => if c = '\n' then skipVerbose rest else skipComment rest

end

/-- Drops blanks and comments if they stand for nothing. -/
def skip (flags : Flags) (cs : List Char) : List Char :=
  if flags.verbose then skipVerbose cs else cs

/-- Takes the characters that satisfy `keep`, with what stands for nothing between
them. -/
def takeSpaced (flags : Flags) (keep : Char → Bool) :
    Nat → List Char → List Char × List Char
  | 0, cs => ([], cs)
  | _ + 1, [] => ([], [])
  | fuel + 1, c :: rest =>
      if keep c then
        let (taken, rest) := takeSpaced flags keep fuel (skip flags rest)
        (c :: taken, rest)
      else
        ([], c :: rest)

end ParamRules.Pattern
