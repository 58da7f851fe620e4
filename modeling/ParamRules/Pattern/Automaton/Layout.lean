import ParamRules.Pattern.Automaton.Classes
import ParamRules.Pattern.Automaton.DirectSearch

/-!
# The automata of an expression

An expression is matched with two automata, one that reads forwards and marks the
groups, and one that reads backwards and does not.  Each is laid out part by part; a
repetition lays out its inner expression as often as it is counted.  `Regex.fits` tells
whether neither automaton exceeds the limit.  What is searched for directly needs none.

Two parts are joined by an edge from the last state of one to the first state of the
other.  The edge takes a word if that last state is one with a list of free branches,
which is the case at the end of most repetitions without limit.
-/

namespace ParamRules.Regex

open Automaton

/-- How an automaton reads a text. -/
inductive Direction where
  | forwards
  | backwards
deriving DecidableEq

/-- The expression takes a character wherever it matches, and can match at all: it may be
repeated by going back from its last state to a first one. -/
def isLoopable (regex : Regex) : Bool :=
  regex.isInhabited && regex.takesSome

/-- The last state of the automaton for an expression has a list of free branches. -/
def endsFree (direction : Direction) : Regex → Bool
  | .capture _ inner => direction = .backwards && inner.endsFree direction
  | .times inner least none _ => 0 < least || inner.isLoopable
  | .times inner least (some most) _ =>
      least = most && 0 < least && inner.endsFree direction
  | .seq first rest =>
      if direction = .backwards ∨ rest = .empty then first.endsFree direction
      else rest.endsFree direction
  | _ => false

/-- The words of an edge from the end of an expression. -/
def edgeWords (direction : Direction) (regex : Regex) : Nat :=
  if regex.endsFree direction then 1 else 0

/-- A literal as the bytes that are read. -/
def readBytes (direction : Direction) (text : List Char) : Word :=
  let bytes := text.flatMap fun c => utf8 c.toNat
  match direction with
  | .forwards => bytes
  | .backwards => bytes.reverse

/-- Adds the states for a set. -/
def laySet? (direction : Direction) (set : CharSet) (extent : Extent) : Option Extent :=
  if set.isAscii then
    extent.grow? 2 (2 * set.length)
  else
    match direction with
    | .forwards => layForwards? set extent
    | .backwards => layBackwards? set extent

/-- Adds the states for a repetition of what `lay?` lays out.  `edge` is the number of
words of an edge from the end of that. -/
def layTimes? (lay? : Extent → Option Extent) (edge : Nat) (isLoopable : Bool)
    (least : Nat) (most : Option Nat) (extent : Extent) : Option Extent :=
  match least, most with
  | 0, some 1 => do
      let extent ← extent.grow? 1 0
      let extent ← lay? extent
      extent.grow? 1 (2 + edge)
  | 0, none =>
      if isLoopable then do
        let extent ← extent.grow? 1 0
        let extent ← lay? extent
        extent.grow? 0 (1 + edge)
      else do
        let extent ← lay? extent
        extent.grow? 3 (4 + edge)
  | least + 1, none => do
      let extent ← Extent.repeat? (fun extent => (lay? extent).bind (·.grow? 0 edge))
        (least + 1) extent
      extent.grow? 1 1
  | 0, some most => do
      let extent ← extent.grow? 2 0
      Extent.repeat?
        (fun extent => do
          let extent ← extent.grow? 1 0
          let extent ← lay? extent
          extent.grow? 0 (2 + edge))
        most extent
  | least + 1, some most => do
      let extent ← lay? extent
      let extent ← Extent.repeat? (fun extent => (extent.grow? 0 edge).bind lay?) least extent
      if most ≤ least + 1 then
        return extent
      else
        let extent ← extent.grow? 1 edge
        Extent.repeat?
          (fun extent => do
            let extent ← extent.grow? 1 0
            let extent ← lay? extent
            extent.grow? 0 (2 + edge))
          (most - (least + 1)) extent

mutual

/-- Adds the states for an expression. -/
def lay? (direction : Direction) : Regex → Extent → Option Extent
  | .empty, extent => extent.grow? 1 0
  | .literal text, extent => extent.grow? (readBytes direction text).length 0
  | .set members _, extent => laySet? direction members extent
  | .check _, extent => extent.grow? 1 0
  | .capture _ inner, extent =>
      match direction with
      | .forwards => do
          let extent ← extent.grow? 1 0
          let extent ← lay? direction inner extent
          extent.grow? 1 (inner.edgeWords direction)
      | .backwards => lay? direction inner extent
  | .times inner least most _, extent =>
      layTimes? (lay? direction inner) (inner.edgeWords direction)
        inner.isLoopable least most extent
  | .seq first rest, extent =>
      if rest = .empty then
        lay? direction first extent
      else
        match direction with
        | .forwards => do
            let extent ← lay? direction first extent
            let extent ← lay? direction rest extent
            extent.grow? 0 (first.edgeWords direction)
        | .backwards => do
            let extent ← lay? direction rest extent
            let extent ← lay? direction first extent
            extent.grow? 0 (rest.edgeWords direction)
  | .never, extent => some extent
  | .alt first rest, extent =>
      match literals? (.alt first rest) with
      | some words => layWords? (words.map (readBytes direction)) extent
      | none => do
          let extent ← lay? direction first extent
          let extent ← extent.grow? 0 (1 + first.edgeWords direction)
          layBranches? direction 1 rest extent

/-- Adds the states for the branches from the given one on.  The states at which the
branches part and meet come behind the second branch. -/
def layBranches? (direction : Direction) (index : Nat) : Regex → Extent → Option Extent
  | .alt first rest, extent => do
      let extent ← lay? direction first extent
      let extent ← extent.grow? (if index = 1 then 2 else 0) (1 + first.edgeWords direction)
      layBranches? direction (index + 1) rest extent
  | _, extent => some extent

end

/-- The automaton that reads forwards.  Unless it can start only at the start of the
text, states for an arbitrary beginning come first; the states around the expression mark
where the match begins and ends. -/
def layForwardsWhole? (regex : Regex) : Option Extent := do
  let extent ← if regex.beginsText then Extent.none.grow? 1 0 else Extent.none.grow? 3 4
  let extent ← extent.grow? 1 0
  let extent ← regex.lay? .forwards extent
  extent.grow? 2 (regex.edgeWords .forwards)

/-- The automaton that reads backwards. -/
def layBackwardsWhole? (regex : Regex) : Option Extent := do
  let extent ← if regex.endsText then Extent.none.grow? 1 0 else Extent.none.grow? 3 4
  let extent ← regex.lay? .backwards extent
  extent.grow? 1 (regex.edgeWords .backwards)

/-- Neither automaton of the expression exceeds the limit, or it needs none. -/
def fits (regex : Regex) : Bool :=
  regex.layForwardsWhole?.isSome && regex.layBackwardsWhole?.isSome || regex.isDirect

end ParamRules.Regex
