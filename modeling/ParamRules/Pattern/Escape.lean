import ParamRules.Json.Concrete
import ParamRules.Pattern.Flags
import ParamRules.Pattern.Property
import ParamRules.Pattern.Regex

/-!
# Escapes of patterns

What follows a backslash is a character by its code or by a letter, a named set, or an
assertion.  Some escapes mean the same inside bracketed classes and outside of them.
-/

namespace ParamRules.Pattern

/-- What an escape or a plain character stands for. -/
inductive Item where
  /-- A character; `byte` tells that it was written as a byte in hexadecimal. -/
  | literal (code : Nat) (byte : Bool)
  /-- A named set. -/
  | named (set : CharSet)
  | assertion (a : Assertion)

/-- The code as a character, if there is such a character. -/
def scalar? (digits : List Char) : Option Nat :=
  let code := digits.foldl (fun n c => n * 16 + (Json.Token.hexDigit? c).getD 0) 0
  if code < 0xD800 ∨ 0xE000 ≤ code ∧ code < 0x110000 then some code else none

/-- The character is a hexadecimal digit. -/
def isHexDigit (c : Char) : Bool :=
  (Json.Token.hexDigit? c).isSome

/-- Reads the digits of a hexadecimal escape: `width` of them, or any in braces. -/
def hexEscape? (flags : Flags) (width : Nat) (cs : List Char) :
    Option (Item × List Char) :=
  match skip flags cs with
  | '\x7b' :: rest =>
      let cs := skip flags rest
      let (digits, rest) := takeSpaced flags isHexDigit cs.length cs
      match rest with
      | '\x7d' :: rest =>
          if digits.isEmpty then none
          else (scalar? digits).map fun code => (.literal code false, skip flags rest)
      | _ => none
  | cs =>
      let (digits, rest) := takeSpaced flags isHexDigit width cs
      if digits.length < width then none
      else (scalar? digits).map fun code => (.literal code (width == 2), rest)

/-- Closes a set under case if the flags ask for it. -/
def foldCase (flags : Flags) (set : CharSet) : CharSet :=
  if flags.ignoreCase then
    if flags.unicode then set.caseClosure else set.asciiCaseClosure
  else
    set

/-- Closes a set under case if the flags ask for it, then complements it if it is
negated. -/
def foldAndNegate (flags : Flags) (negated : Bool) (set : CharSet) : CharSet :=
  let set := foldCase flags set
  if negated then set.complement else set

/-- Reads the name of a property class: one letter, or any text in braces. -/
def propertyEscape? (flags : Flags) (negated : Bool) (cs : List Char) :
    Option (CharSet × List Char) :=
  if !flags.unicode then
    none
  else
    match skip flags cs with
    | [] => none
    | '\x7b' :: rest =>
        let cs := skip flags rest
        let (name, rest) := takeSpaced flags (· != '\x7d') cs.length cs
        match rest with
        | [] => none
        | _ :: rest =>
            (CharSet.ofPropertyText? name).map fun (set, unequal) =>
              (foldAndNegate flags (negated != unequal) set, rest)
    | c :: rest =>
        if c = '\\' then none
        else
          (CharSet.ofName? [c]).map fun set =>
            (foldAndNegate flags negated set, skip flags rest)

/-- The set of a one-letter class, which without Unicode has no complement in text. -/
def letterClass? (flags : Flags) (letter : Char) : Option CharSet :=
  let set : CharSet :=
    match letter.toLower with
    | 'd' => if flags.unicode then .digit else .asciiDigit
    | 's' => if flags.unicode then .space else .asciiSpace
    | _ => if flags.unicode then .word else .asciiWord
  if letter.isLower then some set
  else if flags.unicode then some set.complement
  else none

/-- The word characters under the flags. -/
def wordSet (flags : Flags) : CharSet :=
  if flags.unicode then .word else .asciiWord

/-- Reads what follows the escape of a word boundary.  A brace begins the name of a
special boundary if a letter or hyphen follows it, and a counted repetition otherwise. -/
def wordBoundary? (flags : Flags) (cs : List Char) : Option (Assertion × List Char) :=
  let word := wordSet flags
  match cs with
  | '\x7b' :: rest =>
      match skip flags rest with
      | [] => none
      | c :: tail =>
          let isNameChar (c : Char) : Bool := c.isAlpha || c == '-'
          if isNameChar c then
            let (name, rest) := takeSpaced flags isNameChar (tail.length + 1) (c :: tail)
            match rest with
            | '\x7d' :: rest =>
                match String.ofList name with
                | "start" => some (.wordStart word, rest)
                | "end" => some (.wordEnd word, rest)
                | "start-half" => some (.wordStartHalf word, rest)
                | "end-half" => some (.wordEndHalf word, rest)
                | _ => none
            | _ => none
          else
            some (.wordBoundary word, cs)
  | _ => some (.wordBoundary word, cs)

/-- An ASCII character that stands for itself behind a backslash. -/
def isPlainEscape (c : Char) : Bool :=
  c.toNat < 0x80 && !c.isAlphanum && c != '<' && c != '>'

/-- Reads an escape behind its backslash. -/
def escape? (flags : Flags) : List Char → Option (Item × List Char)
  | [] => none
  | c :: rest =>
      match c with
      | 'x' => hexEscape? flags 2 rest
      | 'u' => hexEscape? flags 4 rest
      | 'U' => hexEscape? flags 8 rest
      | 'p' => (propertyEscape? flags false rest).map fun (set, rest) => (.named set, rest)
      | 'P' => (propertyEscape? flags true rest).map fun (set, rest) => (.named set, rest)
      | 'd' | 's' | 'w' | 'D' | 'S' | 'W' =>
          (letterClass? flags c).map fun set => (.named set, rest)
      | 'a' => some (.literal 0x07 false, rest)
      | 'f' => some (.literal 0x0C false, rest)
      | 't' => some (.literal 0x09 false, rest)
      | 'n' => some (.literal 0x0A false, rest)
      | 'r' => some (.literal 0x0D false, rest)
      | 'v' => some (.literal 0x0B false, rest)
      | 'A' => some (.assertion .textStart, rest)
      | 'z' => some (.assertion .textEnd, rest)
      | 'b' => (wordBoundary? flags rest).map fun (a, rest) => (.assertion a, rest)
      | 'B' => some (.assertion (.notWordBoundary (wordSet flags)), rest)
      | '<' => some (.assertion (.wordStart (wordSet flags)), rest)
      | '>' => some (.assertion (.wordEnd (wordSet flags)), rest)
      | _ => if isPlainEscape c then some (.literal c.toNat false, rest) else none

end ParamRules.Pattern
