import ParamRules.Pattern.Automaton.ByteRanges
import ParamRules.Pattern.Automaton.Words
import ParamRules.Pattern.Regex

/-!
# Search without an automaton

An expression that amounts to a few words, or to a long list of them, is searched for
directly, and no limit holds for it.

Whether an expression amounts to a few words is seen from the beginnings of its matches.
These are worked out as far as their number and their length allow.  A beginning that
continues an earlier one is left out: where it matches, the earlier one is found first.
-/

namespace ParamRules

open Automaton

/-- A word with which a match may begin. -/
structure Beginning where
  word : Word
  /-- The match ends with the word. -/
  whole : Bool

namespace Beginning

/-- The first `n` bytes of a beginning. -/
def take (n : Nat) (beginning : Beginning) : Beginning :=
  if beginning.word.length ≤ n then beginning else ⟨beginning.word.take n, false⟩

/-- The same word, with which the match need not end. -/
def unfinished (beginning : Beginning) : Beginning :=
  { beginning with whole := false }

/-- Continues a beginning, unless the match need not end with it. -/
def extend (beginning : Beginning) (next : List Beginning) : List Beginning :=
  if beginning.whole then
    next.map fun more => ⟨beginning.word ++ more.word, more.whole⟩
  else
    [beginning]

/-- Joins a beginning to those with the same word that follow it, in a row. -/
def joinEqual (beginning : Beginning) : List Beginning → List Beginning
  | [] => [beginning]
  | next :: rest =>
      if next.word = beginning.word then
        joinEqual ⟨beginning.word, beginning.whole && next.whole⟩ rest
      else
        beginning :: joinEqual next rest

/-- A row in which the same word does not stand twice one after the other. -/
def withoutRepeats : List Beginning → List Beginning
  | [] => []
  | beginning :: rest => beginning.joinEqual rest

/-- The beginnings that continue no earlier one. -/
def withoutContinued (list : List Beginning) : List Beginning :=
  list.foldl
    (fun kept beginning =>
      if kept.any fun earlier => earlier.word.isPrefixOf beginning.word then kept
      else kept ++ [beginning])
    []

end Beginning

/-- What is known of the words with which a match may begin. -/
inductive Beginnings where
  /-- They are too many. -/
  | tooMany
  /-- They are these, in the order in which they are tried. -/
  | words (list : List Beginning)

namespace Beginnings

/-- How many beginnings are kept. -/
def mostWords : Nat := 250

/-- How many bytes of a beginning are kept. -/
def mostBytes : Nat := 100

/-- How many characters of a set, and how many repetitions, are followed. -/
def mostChoices : Nat := 10

/-- The beginning of what takes nothing. -/
def ofEmpty : Beginnings := .words [⟨[], true⟩]

/-- The beginnings, with none of which the match need end. -/
def unfinished : Beginnings → Beginnings
  | .tooMany => .tooMany
  | .words list => .words (list.map Beginning.unfinished)

/-- No beginning can be continued. -/
def isUnfinished : Beginnings → Bool
  | .tooMany => true
  | .words list => list.all fun beginning => !beginning.whole

theorem isUnfinished_unfinished (beginnings : Beginnings) :
    beginnings.unfinished.isUnfinished = true := by
  cases beginnings with
  | tooMany => rfl
  | words list => simp [unfinished, isUnfinished, Beginning.unfinished]

/-- The two rows one after the other, if they are not too long. -/
def joined (first second : List Beginning) : Beginnings :=
  if first.length + second.length ≤ mostWords then
    .words (Beginning.withoutRepeats (first ++ second))
  else
    .tooMany

/-- The beginnings, and those of another expression that is tried afterwards.  If they
are too many, only their first four bytes are kept. -/
def union : Beginnings → Beginnings → Beginnings
  | .words first, .words second =>
      if first.length + second.length ≤ mostWords then
        joined first second
      else
        joined (Beginning.withoutRepeats (first.map (·.take 4)))
          (Beginning.withoutRepeats (second.map (·.take 4)))
  | _, _ => .tooMany

/-- The beginnings, continued by too many others. -/
def appendTooMany (first : List Beginning) : Beginnings :=
  if first.any (·.word.isEmpty) then .tooMany
  else .words (first.map Beginning.unfinished)

/-- The beginnings, continued by those of an expression that follows. -/
def append : Beginnings → Beginnings → Beginnings
  | .tooMany, _ => .tooMany
  | .words first, .tooMany => appendTooMany first
  | .words first, .words second =>
      if first.length * second.length ≤ mostWords then
        let list := Beginning.withoutRepeats (first.flatMap (·.extend second))
        .words (list.map (·.take mostBytes))
      else
        appendTooMany first

/-- The beginnings, continued `n` times. -/
def appendTimes (next : Beginnings) : Nat → Beginnings → Beginnings
  | 0, beginnings => beginnings
  | n + 1, beginnings =>
      if beginnings.isUnfinished then beginnings
      else appendTimes next n (beginnings.append next)

/-- The beginnings of a repetition. -/
def times (inner : Beginnings) (least : Nat) (most : Option Nat) (greedy : Bool) :
    Beginnings :=
  if least = 0 then
    let inner := if most = some 1 then inner else inner.unfinished
    if greedy then inner.union ofEmpty else ofEmpty.union inner
  else
    let repeated := appendTimes inner (min least mostChoices) ofEmpty
    if most = some least ∧ least ≤ mostChoices then repeated else repeated.unfinished

/-- The members of a set, if they are few. -/
def ofSet (set : CharSet) : Beginnings :=
  if (set.map fun (low, high) => high + 1 - low).foldl (· + ·) 0 ≤ mostChoices then
    .words (set.flatMap fun (low, high) =>
      (List.range' low (high + 1 - low)).map fun code => ⟨utf8 code, true⟩)
  else
    .tooMany

/-- What two words both begin with. -/
def sharedBytes : Word → Word → Word
  | a :: as, b :: bs => if a = b then a :: sharedBytes as bs else []
  | _, _ => []

/-- A byte that is frequent in texts. -/
def isFrequent (byte : Nat) : Bool :=
  0xC0 ≤ byte ||
    "\n\r (),-./0129:_abcdefghilmnoprstuvxy|".toList.any fun c => c.toNat = byte

/-- The words are searched for whole.  Of words that share a short and rare beginning, or
a long one, or a beginning if they are many, only that beginning is searched for. -/
def isWholeSearch (given : Nat) (words : List Word) : Bool :=
  match words with
  | [] => false
  | word :: others =>
      let shared := others.foldl sharedBytes word
      let rare := !shared.head?.any isFrequent
      if 1 < given ∧ 1 ≤ shared.length ∧ shared.length ≤ 3 ∧ rare then
        words.all fun word => word.length ≤ 1
      else if 4 < shared.length ∨ 1 < shared.length ∧ 16 < words.length then
        words.all fun word => word.length ≤ shared.length
      else
        true

end Beginnings

namespace Regex

/-- The expression has neither groups with numbers nor assertions. -/
def isPlain : Regex → Bool
  | .empty => true
  | .literal _ => true
  | .set _ _ => true
  | .check _ => false
  | .capture _ _ => false
  | .times inner _ _ _ => inner.isPlain
  | .seq first rest => first.isPlain && rest.isPlain
  | .never => true
  | .alt first rest => first.isPlain && rest.isPlain

mutual

/-- The beginnings of the matches of an expression. -/
def beginnings : Regex → Beginnings
  | .empty => .ofEmpty
  | .literal text =>
      .words [Beginning.take Beginnings.mostBytes ⟨text.flatMap fun c => utf8 c.toNat, true⟩]
  | .set members _ => .ofSet members
  | .check _ => .ofEmpty
  | .capture _ inner => inner.beginnings
  | .times inner least most greedy => inner.beginnings.times least most greedy
  | .seq first rest => rest.beginningsAfter (Beginnings.ofEmpty.append first.beginnings)
  | .never => .words []
  | .alt first rest =>
      rest.beginningsBeside (Beginnings.union (.words []) first.beginnings)

/-- Beginnings, continued by the parts of a sequence. -/
def beginningsAfter : Regex → Beginnings → Beginnings
  | .seq first rest, before =>
      if before.isUnfinished then before
      else rest.beginningsAfter (before.append first.beginnings)
  | _, before => before

/-- Beginnings, and those of further branches. -/
def beginningsBeside : Regex → Beginnings → Beginnings
  | .alt first rest, before =>
      match before with
      | .tooMany => .tooMany
      | before => rest.beginningsBeside (before.union first.beginnings)
  | _, before => before

end

/-- The expression amounts to a few words. -/
def isFewWords (regex : Regex) : Bool :=
  match Beginnings.union (.words []) regex.beginnings with
  | .tooMany => false
  | .words list =>
      let kept := Beginning.withoutContinued list
      list.all (!·.word.isEmpty) && kept.all (·.whole) &&
        Beginnings.isWholeSearch list.length (kept.map (·.word))

/-- The literals of a row of branches, if all branches are literals. -/
def literals? : Regex → Option (List (List Char))
  | .never => some []
  | .alt (.literal text) rest => rest.literals?.map (text :: ·)
  | _ => none

/-- How many words make a long list. -/
def manyWords : Nat := 3000

/-- The expression is a choice of many words and of nothing else. -/
def isWordList (regex : Regex) : Bool :=
  regex.literals?.any fun words => manyWords ≤ words.length

/-- The expression is searched for without an automaton. -/
def isDirect (regex : Regex) : Bool :=
  regex.isPlain && (regex.isFewWords || regex.isWordList)

end Regex

end ParamRules
