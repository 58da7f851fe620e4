import ParamRules.Pattern.Match
import ParamRules.Pattern.Reader

/-!
# Patterns

A pattern is an expression together with a text for it.  A pattern may be made from its
text, which then denotes the expression.  It may also be made from an expression that was
read in another way, say one whose letters match in either case without the text saying
so.  Patterns are compared, and described, by their texts alone.
-/

namespace ParamRules

/-- An expression that is matched, and the text that stands for it. -/
structure Pattern where
  source : String
  regex : Regex
deriving DecidableEq

namespace Pattern

/-- The pattern made from this text, if the text denotes an expression. -/
def ofString? (source : String) : Option Pattern :=
  (regexOf? source.toList).map (Pattern.mk source)

/-- Equality of the texts, whatever is matched. -/
instance : BEq Pattern := ⟨fun p q => p.source == q.source⟩

/-- The text of a pattern as it stands in a description. -/
def betweenSlashes (pattern : Pattern) : String :=
  "/" ++ pattern.source ++ "/"

/-- The pattern matches somewhere in the text. -/
def isMatch (pattern : Pattern) (text : String) : Bool :=
  pattern.regex.isMatch text.toList

theorem source_of_ofString? {source : String} {p : Pattern} (h : ofString? source = some p) :
    p.source = source := by
  obtain ⟨regex, -, rfl⟩ := Option.map_eq_some_iff.mp h
  rfl

end Pattern

end ParamRules
