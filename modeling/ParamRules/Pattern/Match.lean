import ParamRules.Pattern.Regex
import Std.Data.HashMap

/-!
# Matching

Matching carries a whole set of positions through an expression at once: the set of
positions that can be reached from a given set.  A text matches if any position can be
reached from any other, so neither the order of alternatives nor greed plays a part.

Sets of positions are the bits of a number.  What a character, a set or an assertion
means on a given text is such a set too; a plan is an expression in which these sets
have been worked out for one text.
-/

namespace ParamRules

/-- A set of positions, as the bits of a number. -/
abbrev Positions := Nat

namespace Positions

/-- The positions at which a row of answers says yes. -/
def ofAnswers : List Bool → Positions
  | [] => 0
  | answer :: rest => 2 * ofAnswers rest + if answer then 1 else 0

/-- Applies `f` exactly `n` times; a set that `f` does not change ends it early. -/
def power (f : Positions → Positions) : Nat → Positions → Positions
  | 0, set => set
  | n + 1, set =>
      let next := f set
      if next = set then set else power f n next

/-- What `f` reaches from `frontier` in at most `n` applications, added to `reached`; it
ends when nothing new is reached. -/
def spread (f : Positions → Positions) : Nat → Positions → Positions → Positions
  | 0, reached, _ => reached
  | n + 1, reached, frontier =>
      let next := f frontier
      let all := reached ||| next
      if all = reached then reached else spread f n all (all ^^^ reached)

end Positions

/-- An expression laid over one text. -/
inductive Plan where
  | stay
  /-- One character further, from these positions. -/
  | step (places : Positions)
  /-- No further, at these positions. -/
  | check (places : Positions)
  | seq (first rest : Plan)
  | stop
  | alt (first rest : Plan)
  | times (inner : Plan) (least : Nat) (most : Option Nat)

namespace Plan

/-- The positions reached from a set of positions of a text with `size` characters. -/
def advance (size : Nat) : Plan → Positions → Positions
  | .stay, set => set
  | .step places, set => (set &&& places) <<< 1
  | .check places, set => set &&& places
  | .seq first rest, set => rest.advance size (first.advance size set)
  | .stop, _ => 0
  | .alt first rest, set => first.advance size set ||| rest.advance size set
  | .times inner least most, set =>
      let start := Positions.power (inner.advance size) least set
      let more :=
        match most with
        | some most => most - least
        | none => size + 1
      Positions.spread (inner.advance size) more start start

end Plan

namespace Regex

/-- The characters before and after each position of a text, given what stands before
it. -/
def contexts (before : Option Char) : List Char → List (Option Char × Option Char)
  | [] => [(before, none)]
  | c :: rest => (before, some c) :: contexts (some c) rest

/-- The positions at which each character of a text, given by its code, is the next
one. -/
abbrev Places := Std.HashMap Nat Positions

/-- The places of the characters of a text. -/
def placesOf (text : List Char) : Places :=
  text.zipIdx.foldl
    (fun places (c, i) =>
      places.insert c.toNat (places.getD c.toNat 0 ||| 1 <<< i)) ∅

/-- The positions at which a set has the next character. -/
def setPlaces (places : Places) (set : CharSet) : Positions :=
  places.fold (fun all code some => if set.contains code then all ||| some else all) 0

/-- The positions of a text at which an assertion holds. -/
def checkPlaces (text : List Char) (assertion : Assertion) : Positions :=
  Positions.ofAnswers <|
    (contexts none text).map fun (before, after) => assertion.holds before after

/-- The plan that takes the given characters one after the other. -/
def literalPlan (places : Places) (literal : List Char) : Plan :=
  literal.foldr (fun c rest => .seq (.step (places.getD c.toNat 0)) rest) .stay

/-- The expression laid over a text whose characters have the given places. -/
def plan (text : List Char) (places : Places) : Regex → Plan
  | .empty => .stay
  | .literal cs => literalPlan places cs
  | .set members _ => .step (setPlaces places members)
  | .check assertion => .check (checkPlaces text assertion)
  | .capture _ inner => inner.plan text places
  | .times inner least most _ => .times (inner.plan text places) least most
  | .seq first rest => .seq (first.plan text places) (rest.plan text places)
  | .never => .stop
  | .alt first rest => .alt (first.plan text places) (rest.plan text places)

/-- The expression matches somewhere in the text. -/
def isMatch (regex : Regex) (text : List Char) : Bool :=
  (regex.plan text (placesOf text)).advance text.length
    (Nat.pow 2 (text.length + 1) - 1) != 0

end Regex

end ParamRules
