/-!
# The extent of an automaton

An automaton takes 32 bytes for each state and 4 for each word of its lists of branches:
one word for a free branch, two for a branch on a range of bytes.  None may take more
than ten mebibytes.
-/

namespace ParamRules.Automaton

/-- How much of an automaton is there: its states, which are numbered from zero, and the
words of their lists of branches. -/
structure Extent where
  states : Nat
  words : Nat

namespace Extent

/-- Nothing yet. -/
def none : Extent := ⟨0, 0⟩

/-- The bytes that the automaton takes. -/
def bytes (extent : Extent) : Nat :=
  32 * extent.states + 4 * extent.words

/-- The bytes that an automaton may take: ten mebibytes. -/
def limit : Nat := 10485760

/-- Adds states and words, if there is room for them. -/
def grow? (extent : Extent) (states words : Nat) : Option Extent :=
  let extent := Extent.mk (extent.states + states) (extent.words + words)
  if extent.bytes ≤ limit then some extent else Option.none

theorem bytes_le_of_grow? {before after : Extent} {states words : Nat}
    (h : before.grow? states words = some after) : after.bytes ≤ limit := by
  simp only [grow?] at h
  split at h
  · cases h
    assumption
  · cases h

/-- Applies a step that adds to an automaton `n` times. -/
def repeat? (step : Extent → Option Extent) : Nat → Extent → Option Extent
  | 0, extent => some extent
  | n + 1, extent =>
      match step extent with
      | some extent => repeat? step n extent
      | Option.none => Option.none

end Extent

end ParamRules.Automaton
