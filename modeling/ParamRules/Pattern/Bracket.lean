import ParamRules.Pattern.Escape

/-!
# Bracketed classes

A bracketed class lists characters, ranges, named sets and further bracketed classes,
with set operations between them.  The classes and operations that are still open are
kept on a stack, and each step takes at least one character.
-/

namespace ParamRules.Pattern

/-- The set of a finished class.  Without Unicode its members are bytes, and only the
ASCII ones stand in text; a complement has others. -/
def closeClass? (flags : Flags) (negated : Bool) (set : CharSet) : Option CharSet :=
  if negated && !flags.unicode then none else some (foldAndNegate flags negated set)

/-- The operations between the operands of a bracketed class. -/
inductive SetOperation where
  | intersection
  | difference
  | symmetricDifference

/-- Applies an operation between two sets. -/
def SetOperation.apply : SetOperation → CharSet → CharSet → CharSet
  | .intersection, a, b => a.inter b
  | .difference, a, b => a.diff b
  | .symmetricDifference, a, b => a.symmDiff b

/-- A set and how deep its notation nests. -/
structure ClassPart where
  set : CharSet
  height : Nat

/-- Members of a class listed one after the other, last first, as one set. -/
def unite (reversed : List ClassPart) : ClassPart :=
  match reversed with
  | [] => ⟨[], 0⟩
  | [part] => part
  | parts =>
      ⟨Unicode.Ranges.normalize (parts.flatMap (·.set)),
        (parts.map (·.height)).foldl max 0 + 1⟩

/-- An entry of the stack of open classes. -/
inductive ClassFrame where
  /-- A bracket with the members of the class around it. -/
  | bracket (outer : List ClassPart) (negated : Bool)
  /-- An operation with its left operand. -/
  | operation (op : SetOperation) (left : ClassPart)

/-- The state of reading a bracketed class: the open brackets and operations, and the
members of the innermost one. -/
structure ClassState where
  stack : List ClassFrame
  members : List ClassPart

/-- Applies the pending operation, if there is one, to a right operand. -/
def applyOperation (flags : Flags) (stack : List ClassFrame) (right : ClassPart) :
    ClassPart × List ClassFrame :=
  match stack with
  | .operation op left :: stack =>
      (⟨op.apply (foldCase flags left.set) (foldCase flags right.set),
        max left.height right.height + 1⟩, stack)
  | stack => (right, stack)

/-- Begins an operation whose left operand ends here. -/
def pushOperation (flags : Flags) (state : ClassState) (op : SetOperation) : ClassState :=
  let (left, stack) := applyOperation flags state.stack (unite state.members)
  ⟨.operation op left :: stack, []⟩

/-- Reads what may follow an opening bracket in the first place: a negation, hyphens
that stand for themselves, or else a closing bracket that does. -/
def openBracket? (flags : Flags) (state : ClassState) (cs : List Char) :
    Option (ClassState × List Char) :=
  let cs := skip flags cs
  let negated := cs.head? == some '^'
  let cs := if negated then skip flags (cs.drop 1) else cs
  let (hyphens, cs) := takeSpaced flags (· == '-') cs.length cs
  let members := hyphens.map fun _ => ClassPart.mk (.single 0x2D) 0
  let stack := .bracket state.members negated :: state.stack
  match cs with
  | [] => none
  | c :: rest =>
      if members.isEmpty && c == ']' then
        match skip flags rest with
        | [] => none
        | cs => some (⟨stack, [⟨.single 0x5D, 0⟩]⟩, cs)
      else
        some (⟨stack, members⟩, cs)

/-- Reads a named ASCII class behind its opening bracket. -/
def asciiClass? (cs : List Char) : Option (Bool × CharSet × List Char) :=
  match cs with
  | ':' :: rest =>
      let negated := rest.head? == some '^'
      let rest := if negated then rest.drop 1 else rest
      let name := rest.takeWhile (· != ':')
      match rest.dropWhile (· != ':') with
      | ':' :: ']' :: rest =>
          (CharSet.ofAsciiClass? (String.ofList name)).map fun set => (negated, set, rest)
      | _ => none
  | _ => none

/-- Reads one character or escape of a class. -/
def classItem? (flags : Flags) (cs : List Char) : Option (Item × List Char) :=
  match cs with
  | [] => none
  | '\\' :: rest => escape? flags rest
  | c :: rest => some (.literal c.toNat false, rest)

/-- The code of a literal of a class.  Without Unicode only ASCII may be named. -/
def classCode? (flags : Flags) : Item → Option Nat
  | .literal code _ => if flags.unicode || code < 0x80 then some code else none
  | _ => none

/-- The character behind a hyphen that tells whether the hyphen makes a range.  Where
blanks and comments stand for nothing, blanks are passed over, and so is one number sign,
but not the comment that it begins. -/
def behindHyphen (flags : Flags) (cs : List Char) : Option Char :=
  if flags.verbose then
    match Text.skipBlanks cs with
    | '#' :: rest => (Text.skipBlanks rest).head?
    | cs => cs.head?
  else
    cs.head?

/-- Reads a member of a class: a range, a character or a named set. -/
def classMember? (flags : Flags) (cs : List Char) : Option (ClassPart × List Char) := do
  let (first, rest) ← classItem? flags cs
  let rest := skip flags rest
  let single (rest : List Char) : Option (ClassPart × List Char) :=
    match first with
    | .named set => some (⟨set, 0⟩, rest)
    | item => (classCode? flags item).map fun code => (⟨.single code, 0⟩, rest)
  match rest with
  | [] => none
  | '-' :: behind =>
      let next := behindHyphen flags behind
      if next = some ']' ∨ next = some '-' then
        single rest
      else
        let (last, rest) ← classItem? flags (skip flags behind)
        let low ← classCode? flags first
        let high ← classCode? flags last
        if low ≤ high then return (⟨[(low, high)], 0⟩, rest) else none
  | _ => single rest

/-- One step of reading a class: the new state, or the finished class. -/
def classStep? (flags : Flags) (state : ClassState) (cs : List Char) :
    Option ((ClassState ⊕ ClassPart) × List Char) :=
  match skip flags cs with
  | [] => none
  | '[' :: rest =>
      match asciiClass? rest with
      | some (negated, set, rest) =>
          (closeClass? flags negated set).map fun set =>
            (.inl ⟨state.stack, ⟨set, 0⟩ :: state.members⟩, rest)
      | none => (openBracket? flags state rest).map fun (state, rest) => (.inl state, rest)
  | ']' :: rest =>
      let (part, stack) := applyOperation flags state.stack (unite state.members)
      match stack with
      | .bracket outer negated :: stack =>
          (closeClass? flags negated part.set).map fun set =>
            let part := ClassPart.mk set (part.height + 1)
            if stack.isEmpty then (.inr part, rest)
            else (.inl ⟨stack, part :: outer⟩, rest)
      | _ => none
  | '&' :: '&' :: rest => some (.inl (pushOperation flags state .intersection), rest)
  | '-' :: '-' :: rest => some (.inl (pushOperation flags state .difference), rest)
  | '~' :: '~' :: rest =>
      some (.inl (pushOperation flags state .symmetricDifference), rest)
  | cs =>
      (classMember? flags cs).map fun (part, rest) =>
        (.inl ⟨state.stack, part :: state.members⟩, rest)

/-- Reads a class to its end in at most `fuel` steps. -/
def classLoop? (flags : Flags) : Nat → ClassState → List Char → Option (ClassPart × List Char)
  | 0, _, _ => none
  | fuel + 1, state, cs =>
      match classStep? flags state cs with
      | none => none
      | some (.inr part, rest) => some (part, rest)
      | some (.inl state, rest) => classLoop? flags fuel state rest

/-- Reads a bracketed class behind its opening bracket. -/
def bracketClass? (flags : Flags) (cs : List Char) : Option (ClassPart × List Char) := do
  let (state, rest) ← openBracket? flags ⟨[], []⟩ cs
  classLoop? flags (rest.length + 1) state rest

end ParamRules.Pattern
