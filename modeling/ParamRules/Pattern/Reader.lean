import ParamRules.Pattern.Automaton.Layout
import ParamRules.Pattern.Bracket
import ParamRules.Pattern.Simplify
import ParamRules.Unicode.NextEdition

/-!
# Reading regular expressions

The notation has alternatives, groups, greedy and lazy repetition, bracketed classes,
Unicode and ASCII classes, assertions, escapes and flags.  Groups that are still open
are kept on a stack, and each step takes at least one character.

A flag changes how the rest of its group is read.
-/

namespace ParamRules.Pattern

/-- Reads a repetition count, which may have blanks around it. -/
def count? (flags : Flags) (cs : List Char) : Option (Nat × List Char) :=
  let cs := Text.skipBlanks cs
  let (digits, rest) := takeSpaced flags Char.isDigit cs.length cs
  let n := Decimal.digitsValue digits
  if digits.isEmpty || 0x100000000 ≤ n then none
  else some (n, skip flags (Text.skipBlanks rest))

/-- Reads what follows the opening brace of a counted repetition. -/
def countedRange? (flags : Flags) (cs : List Char) :
    Option (Nat × Option Nat × List Char) := do
  let (least, rest) ← count? flags (skip flags cs)
  match rest with
  | '\x7d' :: rest => return (least, some least, rest)
  | ',' :: rest =>
      match skip flags rest with
      | '\x7d' :: rest => return (least, none, rest)
      | rest =>
          let (most, rest) ← count? flags rest
          match rest with
          | '\x7d' :: rest => if least ≤ most then return (least, some most, rest) else none
          | _ => none
  | _ => none

/-- Reads the mark of a lazy repetition, if it is there: whether the repetition is
greedy, and the rest. -/
def greed (flags : Flags) : List Char → Bool × List Char
  | '?' :: rest => (flags.swapGreed, rest)
  | rest => (!flags.swapGreed, rest)

/-- A finished part of an expression: how deep its notation nests, and whether a
repetition may follow it. -/
structure Part where
  regex : Regex
  height : Nat
  repeatable : Bool := true

/-- An open group: its number if it has one, what was read before it, and the flags to
return to. -/
structure GroupFrame where
  capture : Option Nat
  flags : Flags
  parts : List Part
  branches : List Part

/-- The state of reading an expression: the flags, the parts of the present branch and
the finished branches of the present group, last first, the open groups, how many groups
have numbers, and the names of groups. -/
structure State where
  flags : Flags
  parts : List Part
  branches : List Part
  groups : List GroupFrame
  captures : Nat
  names : List (List Char)

/-- Nothing read yet. -/
def State.start : State :=
  ⟨{}, [], [], [], 0, []⟩

/-- The height of a notation with these parts. -/
def heightOver (parts : List Part) : Nat :=
  (parts.map (·.height)).foldl max 0 + 1

/-- The parts of a branch, last first, as one part. -/
def joinParts : List Part → Part
  | [] => ⟨.empty, 0, true⟩
  | [part] => part
  | reversed => ⟨.concat (reversed.reverse.map (·.regex)), heightOver reversed, true⟩

/-- The branches of a group, last first, as one part. -/
def joinBranches : List Part → Part
  | [] => ⟨.empty, 0, true⟩
  | [part] => part
  | reversed => ⟨.alternation (reversed.reverse.map (·.regex)), heightOver reversed, true⟩

/-- The content of the present group as one part. -/
def State.content (state : State) : Part :=
  joinBranches (joinParts state.parts :: state.branches)

/-- Adds a part to the present branch. -/
def State.push (state : State) (part : Part) : State :=
  { state with parts := part :: state.parts }

/-- Opens a group without a number in which the given flags hold. -/
def State.openGroup (state : State) (flags : Flags) : State :=
  { state with
    flags, parts := [], branches := [],
    groups := ⟨none, state.flags, state.parts, state.branches⟩ :: state.groups }

/-- Opens a group with the next number. -/
def State.openCapture (state : State) : State :=
  let index := state.captures + 1
  { state with
    parts := [], branches := [], captures := index,
    groups := ⟨some index, state.flags, state.parts, state.branches⟩ :: state.groups }

/-- Closes the innermost group. -/
def State.closeGroup? (state : State) : Option State :=
  match state.groups with
  | [] => none
  | frame :: groups =>
      let content := state.content
      let regex :=
        match frame.capture with
        | some index => .capture index content.regex
        | none => content.regex
      some { state with
        flags := frame.flags, parts := ⟨regex, content.height + 1, true⟩ :: frame.parts,
        branches := frame.branches, groups }

/-- Repeats the last part. -/
def State.repeatLast? (state : State) (least : Nat) (most : Option Nat) (greedy : Bool) :
    Option State :=
  match state.parts with
  | part :: before =>
      if part.repeatable then
        let part := ⟨.repeated part.regex least most greedy, part.height + 1, true⟩
        some { state with parts := part :: before }
      else
        none
  | [] => none

/-- The code points that are alphabetic. -/
def nameLetters : CharSet :=
  Unicode.NextEdition.alphabetic.toRanges

/-- The code points that are numbers. -/
def nameNumbers : CharSet :=
  Unicode.NextEdition.number.toRanges

/-- A character that may begin the name of a group. -/
def isNameStart (c : Char) : Bool :=
  c == '_' || nameLetters.contains c.toNat

/-- A character that may stand in the name of a group. -/
def isNamePart (c : Char) : Bool :=
  isNameStart c || c == '.' || c == '[' || c == ']' ||
    nameNumbers.contains c.toNat

/-- Reads the name of a group up to its closing angle, and opens the group. -/
def namedGroup? (state : State) (cs : List Char) : Option (State × List Char) :=
  let name := cs.takeWhile (· != '>')
  match name, cs.dropWhile (· != '>') with
  | first :: others, _ :: rest =>
      if isNameStart first && others.all isNamePart && !state.names.contains name then
        let state := { state with names := name :: state.names }
        some (state.openCapture, rest)
      else
        none
  | _, _ => none

/-- Reads what follows an opening parenthesis. -/
def group? (state : State) (cs : List Char) : Option (State × List Char) :=
  match skip state.flags cs with
  | '?' :: 'P' :: '<' :: rest => namedGroup? state rest
  | '?' :: '<' :: rest => namedGroup? state rest
  | '?' :: rest =>
      match flagItems? [] rest with
      | none => none
      | some (items, ending, rest) =>
          let flags := state.flags.update items
          if ending = ':' then
            some (state.openGroup flags, rest)
          else if items.isEmpty then
            none
          else
            some ({ state with flags }.push ⟨.empty, 0, false⟩, rest)
  | rest => some (state.openCapture, rest)

/-- The set of the point. -/
def pointSet? (flags : Flags) : Option CharSet :=
  if !flags.unicode then none
  else if flags.dotAll then some .all
  else if flags.crlf then some (Unicode.Ranges.complement [(0x0A, 0x0A), (0x0D, 0x0D)])
  else some (Unicode.Ranges.complement [(0x0A, 0x0A)])

/-- What the two anchors stand for under the flags. -/
def anchor (flags : Flags) (start : Bool) : Assertion :=
  if flags.multiLine then
    if flags.crlf then
      if start then .crlfLineStart else .crlfLineEnd
    else
      if start then .lineStart else .lineEnd
  else
    if start then .textStart else .textEnd

/-- The expression of an item outside of classes.  A byte above ASCII alone is no
text. -/
def itemRegex? (flags : Flags) : Item → Option Regex
  | .literal code byte =>
      if !flags.unicode && byte && 0x80 ≤ code then none
      else some (.ofSet flags.unicode (foldCase flags (.single code)))
  | .named set => some (.ofSet flags.unicode set)
  | .assertion a => some (.check a)

/-- One step of reading an expression whose next character counts. -/
def step? (state : State) (cs : List Char) : Option (State × List Char) :=
  let flags := state.flags
  match cs with
  | [] => none
  | c :: rest =>
      match c with
      | '(' => group? state rest
      | ')' => state.closeGroup?.map fun state => (state, rest)
      | '|' =>
          some ({ state with parts := [], branches := joinParts state.parts :: state.branches },
            rest)
      | '[' =>
          (bracketClass? flags rest).map fun (part, rest) =>
            (state.push ⟨.ofSet flags.unicode part.set, part.height, true⟩, rest)
      | '?' =>
          let (greedy, rest) := greed flags rest
          (state.repeatLast? 0 (some 1) greedy).map fun state => (state, rest)
      | '*' =>
          let (greedy, rest) := greed flags rest
          (state.repeatLast? 0 none greedy).map fun state => (state, rest)
      | '+' =>
          let (greedy, rest) := greed flags rest
          (state.repeatLast? 1 none greedy).map fun state => (state, rest)
      | '\x7b' => do
          let (least, most, rest) ← countedRange? flags rest
          let (greedy, rest) := greed flags (skip flags rest)
          let state ← state.repeatLast? least most greedy
          return (state, rest)
      | '\\' => do
          let (item, rest) ← escape? flags rest
          let regex ← itemRegex? flags item
          return (state.push ⟨regex, 0, true⟩, rest)
      | '.' =>
          (pointSet? flags).map fun set =>
            (state.push ⟨.ofSet flags.unicode set, 0, true⟩, rest)
      | '^' => some (state.push ⟨.check (anchor flags true), 0, true⟩, rest)
      | '$' => some (state.push ⟨.check (anchor flags false), 0, true⟩, rest)
      | _ =>
          (itemRegex? flags (.literal c.toNat false)).map fun regex =>
            (state.push ⟨regex, 0, true⟩, rest)

/-- Reads to the end in at most `fuel` steps. -/
def loop? : Nat → State → List Char → Option State
  | 0, _, _ => none
  | fuel + 1, state, cs =>
      match skip state.flags cs with
      | [] => some state
      | cs =>
          match step? state cs with
          | none => none
          | some (state, rest) => loop? fuel state rest

/-- How deep the notation of an expression may nest. -/
def heightLimit : Nat := 250

/-- The expression that a text denotes, unless it is malformed or too large. -/
def regexOf? (source : List Char) : Option Regex := do
  let state ← loop? (source.length + 1) .start source
  let content := state.content
  if state.groups.isEmpty && content.height ≤ heightLimit && content.regex.fits then
    return content.regex
  else
    none

end ParamRules.Pattern
