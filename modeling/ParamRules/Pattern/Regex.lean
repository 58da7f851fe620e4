import ParamRules.Pattern.CharSet

/-!
# Regular expressions

An expression describes a step from one position of a text to a later one.  The parts
of a sequence form a row that ends with `empty`, and the branches of an alternation form
a row that ends with `never`.

Besides its meaning, an expression says a few things about itself that do not depend on
any text: whether it takes characters at all, and whether it holds only at one end of the
text.
-/

namespace ParamRules

/-- A condition on the characters before and after a position. -/
inductive Assertion where
  | textStart
  | textEnd
  | lineStart
  | lineEnd
  /-- The start of a line, where a carriage return before a line feed ends none. -/
  | crlfLineStart
  | crlfLineEnd
  /-- The position is between a word character and another one. -/
  | wordBoundary (word : CharSet)
  | notWordBoundary (word : CharSet)
  | wordStart (word : CharSet)
  | wordEnd (word : CharSet)
  /-- No word character stands before the position. -/
  | wordStartHalf (word : CharSet)
  /-- No word character stands after the position. -/
  | wordEndHalf (word : CharSet)
deriving DecidableEq

namespace Assertion

/-- The character is there and in the set. -/
def isIn (set : CharSet) (c : Option Char) : Bool :=
  c.any fun c => set.contains c.toNat

/-- The assertion holds between two characters, either of which may be missing. -/
def holds (before after : Option Char) : Assertion → Bool
  | .textStart => before.isNone
  | .textEnd => after.isNone
  | .lineStart => before.isNone || before == some '\n'
  | .lineEnd => after.isNone || after == some '\n'
  | .crlfLineStart =>
      before.isNone || before == some '\n' || before == some '\r' && after != some '\n'
  | .crlfLineEnd =>
      after.isNone || after == some '\r' || after == some '\n' && before != some '\r'
  | .wordBoundary word => isIn word before != isIn word after
  | .notWordBoundary word => isIn word before == isIn word after
  | .wordStart word => !isIn word before && isIn word after
  | .wordEnd word => isIn word before && !isIn word after
  | .wordStartHalf word => !isIn word before
  | .wordEndHalf word => !isIn word after

end Assertion

/-- A regular expression. -/
inductive Regex where
  /-- Takes nothing; the end of a row of parts. -/
  | empty
  /-- Takes these characters, of which there is at least one. -/
  | literal (text : List Char)
  /-- Takes one character of a set, which was written with Unicode in force or without. -/
  | set (members : CharSet) (unicode : Bool)
  | check (assertion : Assertion)
  /-- A group with a number of its own. -/
  | capture (index : Nat) (inner : Regex)
  /-- At least `least` and, if there is a limit, at most so many repetitions. -/
  | times (inner : Regex) (least : Nat) (most : Option Nat) (greedy : Bool)
  | seq (first rest : Regex)
  /-- Matches nowhere; the end of a row of branches. -/
  | never
  | alt (first rest : Regex)
deriving DecidableEq

namespace Regex

/-- The expression takes no character. -/
def isZeroWidth : Regex → Bool
  | .empty => true
  | .literal _ => false
  | .set _ _ => false
  | .check _ => true
  | .capture _ inner => inner.isZeroWidth
  | .times inner _ most _ => inner.isZeroWidth && most.isSome
  | .seq first rest => first.isZeroWidth && rest.isZeroWidth
  | .never => true
  | .alt first rest => first.isZeroWidth && rest.isZeroWidth

/-- No set in the expression is without members. -/
def isInhabited : Regex → Bool
  | .empty => true
  | .literal _ => true
  | .set members _ => !members.isEmpty
  | .check _ => true
  | .capture _ inner => inner.isInhabited
  | .times inner _ _ _ => inner.isInhabited
  | .seq first rest => first.isInhabited && rest.isInhabited
  | .never => true
  | .alt first rest => first.isInhabited && rest.isInhabited

/-- The expression takes at least one character wherever it matches. -/
def takesSome : Regex → Bool
  | .empty => false
  | .literal _ => true
  | .set _ _ => true
  | .check _ => false
  | .capture _ inner => inner.takesSome
  | .times inner least _ _ => 0 < least && inner.takesSome
  | .seq first rest => first.takesSome || rest.takesSome
  | .never => true
  | .alt first rest => first.takesSome && rest.takesSome

/-- The expression can match only at the start of the text. -/
def beginsText : Regex → Bool
  | .check assertion => assertion = .textStart
  | .capture _ inner => inner.beginsText
  | .times inner least _ _ => 0 < least && inner.beginsText
  | .seq first rest => first.beginsText || first.isZeroWidth && rest.beginsText
  | .never => true
  | .alt first rest => first.beginsText && rest.beginsText
  | _ => false

/-- The expression can match only at the end of the text. -/
def endsText : Regex → Bool
  | .check assertion => assertion = .textEnd
  | .capture _ inner => inner.endsText
  | .times inner least _ _ => 0 < least && inner.endsText
  | .seq first rest => rest.endsText || rest.isZeroWidth && first.endsText
  | .never => true
  | .alt first rest => first.endsText && rest.endsText
  | _ => false

/-- How many constructors an expression is made of. -/
def size : Regex → Nat
  | .capture _ inner => inner.size + 1
  | .times inner _ _ _ => inner.size + 1
  | .seq first rest => first.size + rest.size + 1
  | .alt first rest => first.size + rest.size + 1
  | _ => 1

end Regex

end ParamRules
