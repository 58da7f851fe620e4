import ParamRules.Calendar.Day
import ParamRules.Number.Decimal
import ParamRules.Text.Blank

/-!
# Dates and timestamps in text

A date is a year, a month and a day with hyphens between them.  Each number may follow
blanks and may have fewer digits than usual; a signed year may have any number of
digits.  A timestamp is either in the strict form of RFC 3339, with an offset, or such
a loose date followed by a time of day, joined by `T` or by blanks, possibly none.
-/

namespace ParamRules.Calendar

open ParamRules.Text

/-- Reads one to `most` digits. -/
def digits? (most : Nat) (cs : List Char) : Option (Nat × List Char) :=
  let digits := (cs.take most).takeWhile Char.isDigit
  if digits.isEmpty then none
  else some (Decimal.digitsValue digits, cs.drop digits.length)

/-- Reads exactly `count` digits. -/
def fixedDigits? (count : Nat) (cs : List Char) : Option (Nat × List Char) :=
  let digits := cs.take count
  if digits.length = count ∧ digits.all Char.isDigit then
    some (Decimal.digitsValue digits, cs.drop count)
  else
    none

/-- Reads one given character. -/
def mark? (mark : Char) : List Char → Option (List Char)
  | [] => none
  | c :: rest => if c = mark then some rest else none

/-- Reads a year after blanks: at most four digits, or a sign and any digits. -/
def year? (cs : List Char) : Option (Int × List Char) :=
  match skipBlanks cs with
  | '-' :: rest => (digits? rest.length rest).map fun (n, rest) => (-(n : Int), rest)
  | '+' :: rest => (digits? rest.length rest).map fun (n, rest) => ((n : Int), rest)
  | rest => (digits? 4 rest).map fun (n, rest) => ((n : Int), rest)

/-- Reads one or two digits after blanks. -/
def pair? (cs : List Char) : Option (Nat × List Char) :=
  digits? 2 (skipBlanks cs)

/-- Reads a loose date. -/
def day? (cs : List Char) : Option (Day × List Char) := do
  let (year, cs) ← year? cs
  let cs ← mark? '-' cs
  let (month, cs) ← pair? cs
  let cs ← mark? '-' cs
  let (day, cs) ← pair? cs
  return (⟨year, month, day⟩, cs)

/-- Reads a loose time of day. -/
def time? (cs : List Char) : Option (Time × List Char) := do
  let (hour, cs) ← pair? cs
  let cs ← mark? ':' cs
  let (minute, cs) ← pair? cs
  let cs ← mark? ':' cs
  let (second, cs) ← pair? cs
  return (⟨hour, minute, second⟩, cs)

/-- The text is a loose date of a day that exists. -/
def isDate (s : String) : Bool :=
  match day? s.toList with
  | some (day, []) => day.isValid
  | _ => false

/-- The text is a loose date and time; `joint?` reads what stands between the two. -/
def isDateTime (joint? : List Char → Option (List Char)) (cs : List Char) : Bool :=
  match day? cs with
  | none => false
  | some (day, rest) =>
      match (joint? rest).bind time? with
      | some (time, []) => day.isValid && time.isValid
      | _ => false

/-- What stands before an offset from universal time: the sign. -/
def isOffsetSign (c : Char) : Bool :=
  c == '+' || c == '-' || c == '\u2212'

/-- The rest of a strict timestamp after its seconds is an optional fraction and an
offset. -/
def isZoneTail (cs : List Char) : Bool :=
  let zone (cs : List Char) : Bool :=
    match cs with
    | ['Z'] | ['z'] => true
    | sign :: rest =>
        let offset := do
          let (hour, cs) ← fixedDigits? 2 rest
          let cs ← mark? ':' cs
          let (minute, cs) ← fixedDigits? 2 cs
          return (hour, minute, cs)
        match offset with
        | some (hour, minute, []) => isOffsetSign sign && hour ≤ 23 && minute ≤ 59
        | _ => false
    | [] => false
  match cs with
  | '.' :: rest =>
      !(rest.takeWhile Char.isDigit).isEmpty && zone (rest.dropWhile Char.isDigit)
  | rest => zone rest

/-- Reads the date and time of a strict timestamp. -/
def strictDateTime? (cs : List Char) : Option (Day × Time × List Char) := do
  let (year, cs) ← fixedDigits? 4 cs
  let cs ← mark? '-' cs
  let (month, cs) ← fixedDigits? 2 cs
  let cs ← mark? '-' cs
  let (day, cs) ← fixedDigits? 2 cs
  let cs ← (mark? 'T' cs <|> mark? 't' cs <|> mark? ' ' cs)
  let (hour, cs) ← fixedDigits? 2 cs
  let cs ← mark? ':' cs
  let (minute, cs) ← fixedDigits? 2 cs
  let cs ← mark? ':' cs
  let (second, cs) ← fixedDigits? 2 cs
  return (⟨year, month, day⟩, ⟨hour, minute, second⟩, cs)

/-- The text is a strict timestamp. -/
def isStrictTimestamp (cs : List Char) : Bool :=
  match strictDateTime? cs with
  | some (day, time, rest) => day.isValid && time.isValid && isZoneTail rest
  | none => false

/-- The text is a timestamp in one of the three forms. -/
def isTimestamp (s : String) : Bool :=
  isStrictTimestamp s.toList ||
    isDateTime (fun cs => some (skipBlanks cs)) s.toList ||
    isDateTime (mark? 'T') s.toList

end ParamRules.Calendar
