import ParamRules.Pattern.Regex

/-!
# Expressions put together

Expressions are built in a simple form.  Adjacent literals are one literal, sequences
and alternations do not nest in themselves, an alternation of single characters or of
sets is a set, and what all branches of an alternation begin with stands before it.
A repetition of what takes no character happens at most once.

The simple form matches what the given parts match; it decides how large the automaton
for an expression is.
-/

namespace ParamRules.Regex

/-- The expression that takes one character of a set.  Sets without members are alike. -/
def ofSet (unicode : Bool) : CharSet → Regex
  | [] => .set [] false
  | [(low, high)] =>
      if low = high then .literal [Char.ofNat low] else .set [(low, high)] unicode
  | members => .set members unicode

/-- The parts that an expression has in a sequence. -/
def parts : Regex → List Regex
  | .empty => []
  | .seq first rest => first :: rest.parts
  | part => [part]

/-- Joins adjacent literals. -/
def joinLiterals : List Regex → List Regex
  | [] => []
  | .literal text :: rest =>
      match joinLiterals rest with
      | .literal more :: others => .literal (text ++ more) :: others
      | others => .literal text :: others
  | part :: rest => part :: joinLiterals rest

/-- Parts in a row. -/
def inSequence : List Regex → Regex
  | [] => .empty
  | part :: rest => .seq part (inSequence rest)

/-- The sequence of some expressions. -/
def concat (list : List Regex) : Regex :=
  match joinLiterals (list.flatMap parts) with
  | [part] => part
  | parts => inSequence parts

/-- The branches that an expression has in an alternation. -/
def branches : Regex → List Regex
  | .never => []
  | .alt first rest => first :: rest.branches
  | branch => [branch]

/-- Branches in a row. -/
def inAlternation : List Regex → Regex
  | [] => .never
  | branch :: rest => .alt branch (inAlternation rest)

/-- The code of an expression that takes one particular character. -/
def code? : Regex → Option Nat
  | .literal [c] => some c.toNat
  | _ => none

/-- The set of an expression that takes one character of a set. -/
def set? : Regex → Option CharSet
  | .set members _ => some members
  | _ => none

/-- The set that an alternation of single characters, or of sets, amounts to. -/
def unionOfBranches? (branches : List Regex) : Option CharSet :=
  match branches.mapM code? with
  | some codes => some (Unicode.Ranges.normalize (codes.map fun code => (code, code)))
  | none => (branches.mapM set?).map fun sets => Unicode.Ranges.normalize sets.flatten

/-- The parts of an expression that is a sequence of at least two. -/
def sequence? : Regex → Option (List Regex)
  | .seq first rest => some (first :: rest.parts)
  | _ => none

/-- What two rows of parts both begin with. -/
def sharedParts : List Regex → List Regex → List Regex
  | a :: as, b :: bs => if a = b then a :: sharedParts as bs else []
  | _, _ => []

/-- What all rows of parts begin with. -/
def sharedStart : List (List Regex) → List Regex
  | [] => []
  | row :: rows => rows.foldl sharedParts row

/-- The alternation of some expressions, where shared starts are drawn to the front at
most `depth` times. -/
def alternationWithin : Nat → List Regex → Regex
  | 0, list => inAlternation (list.flatMap branches)
  | depth + 1, list =>
      match list.flatMap branches with
      | [branch] => branch
      | branches =>
          match unionOfBranches? branches with
          | some members => ofSet true members
          | none =>
              let rows := (branches.mapM sequence?).getD []
              match sharedStart rows with
              | [] => inAlternation branches
              | shared =>
                  let rest := rows.map fun row => concat (row.drop shared.length)
                  concat (shared ++ [alternationWithin depth rest])

/-- The alternation of some expressions.  Each drawn part is one of the first branch, so
their number is bounded by its size. -/
def alternation (list : List Regex) : Regex :=
  alternationWithin (inAlternation list).size list

/-- The repetition of an expression. -/
def repeated (inner : Regex) (least : Nat) (most : Option Nat) (greedy : Bool) : Regex :=
  let (least, most) :=
    if inner.isZeroWidth then (min least 1, some (min (most.getD 1) 1)) else (least, most)
  match least, most with
  | 0, some 0 => .empty
  | 1, some 1 => inner
  | least, most => .times inner least most greedy

end ParamRules.Regex
