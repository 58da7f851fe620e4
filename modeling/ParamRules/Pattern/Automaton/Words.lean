import ParamRules.Pattern.Automaton.Extent

/-!
# States for a choice of words

Words to choose from form a tree, in which words with a common beginning share a node.
The order of the words is kept: where one word is the beginning of another, the words
before it, the word itself and the words after it come in this order, and only words on
the same side of it share nodes.
-/

namespace ParamRules.Automaton

/-- A word, as bytes. -/
abbrev Word := List Nat

/-- Divides a row of words at the empty ones. -/
def divideAtEmpty : List Word → List (List Word)
  | [] => [[]]
  | word :: rest =>
      match divideAtEmpty rest with
      | [] => [[word]]
      | part :: parts =>
          if word.isEmpty then [] :: part :: parts else (word :: part) :: parts

/-- The parts between which a node ends a word.  Empty words at the start count once. -/
def wordParts (words : List Word) : List (List Word) :=
  let rest := words.dropWhile List.isEmpty
  (if rest.length < words.length then [[]] else []) ++ divideAtEmpty rest

/-- Adds a word to rows of words with equal first bytes. -/
def addWord (first : Nat) (tail : Word) :
    List (Nat × List Word) → List (Nat × List Word)
  | [] => [(first, [tail])]
  | (first', tails) :: rows =>
      if first' = first then (first, tail :: tails) :: rows
      else (first', tails) :: addWord first tail rows

/-- The words without their first bytes, in rows of equal first bytes. -/
def rowsByFirst (words : List Word) : List (Nat × List Word) :=
  words.foldr
    (fun word rows =>
      match word with
      | [] => rows
      | first :: tail => addWord first tail rows)
    []

/-- Adds the states for a node from which the words go on, where no word is longer than
`depth`.  A part takes one state, and one more state chooses between the parts. -/
def layWordsWithin? : Nat → List Word → Extent → Option Extent
  | 0, _, extent => some extent
  | depth + 1, words, extent =>
      if words.all List.isEmpty then
        some extent
      else do
        let parts := (wordParts words).map rowsByFirst
        let extent ← parts.foldlM
          (fun extent rows => do
            let extent ← rows.foldlM
              (fun extent row => layWordsWithin? depth row.2 extent) extent
            match rows with
            | [] => some extent
            | [_] => extent.grow? 1 0
            | rows => extent.grow? 1 (2 * rows.length))
          extent
        let filled := parts.countP fun rows => !rows.isEmpty
        extent.grow? 1 (filled + (parts.length - 1))

/-- Adds the states for a choice of words. -/
def layWords? (words : List Word) (extent : Extent) : Option Extent := do
  let extent ← extent.grow? 1 0
  layWordsWithin? ((words.map List.length).foldl max 0) words extent

end ParamRules.Automaton
