import ParamRules.Pattern.Automaton.ByteRanges
import ParamRules.Pattern.Automaton.Extent
import Std.Data.HashMap

/-!
# States for character sets

The byte sequences of a set share states.  Forwards, where a text is read from its
start, sequences with a common beginning share the states for it, and states with the
same branches are one.  Backwards, states are shared between sequences that begin, and
thus are left, in the same way.

To find a state that is already there, finished states are kept in a table of limited
width.  A state is looked up and kept at the slot that its branches hash to, and a later
state at the same slot displaces it; so the limit on size is the limit on an automaton in
which a few equal states occur twice.
-/

namespace ParamRules.Automaton

/-- One step of the hash: the value is mixed into the bits and these are spread by a
prime. -/
def mixHash (hash : UInt64) (value : Nat) : UInt64 :=
  (hash ^^^ value.toUInt64) * 1099511628211

/-- The slot of a row of numbers in a table. -/
def slot (width : Nat) (key : List Nat) : Nat :=
  (key.foldl mixHash 14695981039346656037).toNat % width

/-- An automaton with a table of states that may be used again. -/
structure Sharing where
  extent : Extent
  width : Nat
  /-- For each slot, what the state kept there does, and its number. -/
  kept : Std.HashMap Nat (List Nat × Nat)

namespace Sharing

/-- A table in which no state is kept. -/
def start (width : Nat) (extent : Extent) : Sharing :=
  ⟨extent, width, ∅⟩

/-- Adds a state that is described by a row of numbers and keeps it. -/
def add? (sharing : Sharing) (key : List Nat) (words : Nat) : Option (Nat × Sharing) :=
  (sharing.extent.grow? 1 words).map fun extent =>
    let state := sharing.extent.states
    (state, ⟨extent, sharing.width, sharing.kept.insert (slot sharing.width key) (key, state)⟩)

/-- Finds the state that is described by a row of numbers, or adds it. -/
def share? (sharing : Sharing) (key : List Nat) (words : Nat) : Option (Nat × Sharing) :=
  match sharing.kept[slot sharing.width key]? with
  | some (key', state) =>
      if key' = key then some (state, sharing) else sharing.add? key words
  | none => sharing.add? key words

end Sharing

/-- A state whose branches are not complete: the branches with their targets, and the
range of the last branch, whose target is still open. -/
structure OpenState where
  branches : List (ByteRange × Nat)
  last : Option ByteRange

namespace OpenState

/-- The branches once the target of the last one is known. -/
def close (state : OpenState) (target : Nat) : List (ByteRange × Nat) :=
  state.branches ++ (state.last.map fun range => (range, target)).toList

/-- The state with these branches, shared if there is one. -/
def finish? (branches : List (ByteRange × Nat)) (sharing : Sharing) :
    Option (Nat × Sharing) :=
  sharing.share? (branches.flatMap fun (range, target) => [range.low, range.high, target])
    (2 * branches.length)

/-- Completes a row of open states, each of which leads to the next one and the last one
to `target`, from the last one on. -/
def finishAll? (target : Nat) : List OpenState → Sharing → Option (Nat × Sharing)
  | [], sharing => some (target, sharing)
  | state :: deeper, sharing => do
      let (next, sharing) ← finishAll? target deeper sharing
      finish? (state.close next) sharing

/-- Adds a sequence that comes after all before it.  The open states whose last branch it
shares stay open, and those behind them are completed. -/
def insert? (target : Nat) :
    List OpenState → List ByteRange → Sharing → Option (List OpenState × Sharing)
  | state :: deeper, range :: rest, sharing =>
      if state.last = some range then do
        let (deeper, sharing) ← insert? target deeper rest sharing
        return (state :: deeper, sharing)
      else do
        let (next, sharing) ← finishAll? target deeper sharing
        return (⟨state.close next, some range⟩ :: rest.map fun range => ⟨[], some range⟩,
          sharing)
  | states, _, sharing => some (states, sharing)

end OpenState

/-- Adds the states for a set of characters that is read forwards. -/
def layForwards? (set : CharSet) (extent : Extent) : Option Extent := do
  let target := extent.states
  let extent ← extent.grow? 1 0
  let (states, sharing) ← (byteSequences set).foldlM
    (fun (states, sharing) sequence => OpenState.insert? target states sequence sharing)
    ([OpenState.mk [] none], Sharing.start 10000 extent)
  let (_, sharing) ← OpenState.finishAll? target states sharing
  return sharing.extent

/-- Adds the states for a byte sequence that is read backwards, and a branch to them. -/
def laySequence? (target : Nat) (sharing : Sharing) (sequence : List ByteRange) :
    Option Sharing := do
  let (_, sharing) ← sequence.foldlM
    (fun (next, sharing) range => Sharing.share? sharing [next, range.low, range.high] 0)
    (target, sharing)
  let extent ← sharing.extent.grow? 0 1
  return { sharing with extent }

/-- Adds the states for a set of characters that is read backwards. -/
def layBackwards? (set : CharSet) (extent : Extent) : Option Extent := do
  let target := extent.states + 1
  let extent ← extent.grow? 2 0
  let sharing ← (byteSequences set).foldlM (laySequence? target) (Sharing.start 1000 extent)
  return sharing.extent

end ParamRules.Automaton
