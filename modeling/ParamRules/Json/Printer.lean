import ParamRules.Json.Basic
import ParamRules.Number.Shortest

/-!
# Printing JSON values

There are two forms, compact without any white space and pretty with an indentation of
two blanks.  Only quotes, backslashes and the characters below the blank are escaped.
-/

namespace ParamRules

/-- The digits of a whole number, with a minus if it is negative. -/
def wholeText (n : Int) : List Char :=
  if n < 0 then '-' :: Decimal.digitsOf n.natAbs else Decimal.digitsOf n.natAbs

/-- The text of a number. -/
def JsonNumber.chars : JsonNumber → List Char
  | .whole n => wholeText n
  | .decimal x => x.jsonText

namespace Json

/-- A character below the blank as a hexadecimal escape. -/
def controlEscape (c : Char) : List Char :=
  ['\\', 'u', '0', '0', Nat.digitChar (c.toNat / 16), Nat.digitChar (c.toNat % 16)]

/-- A character as it is written inside a string. -/
def escapeChar (c : Char) : List Char :=
  if c = '"' then ['\\', '"']
  else if c = '\\' then ['\\', '\\']
  else if c = '\x08' then ['\\', 'b']
  else if c = '\t' then ['\\', 't']
  else if c = '\n' then ['\\', 'n']
  else if c = '\x0c' then ['\\', 'f']
  else if c = '\r' then ['\\', 'r']
  else if c.toNat < 0x20 then controlEscape c
  else [c]

/-- A string with its quotes and escapes. -/
def quote (s : String) : List Char :=
  '"' :: s.toList.flatMap escapeChar ++ ['"']

mutual

/-- The compact form. -/
def compactChars : Json → List Char
  | .null => ['n', 'u', 'l', 'l']
  | .bool true => ['t', 'r', 'u', 'e']
  | .bool false => ['f', 'a', 'l', 's', 'e']
  | .number n => n.chars
  | .string s => quote s
  | .array items => '[' :: compactItems items ++ [']']
  | .object fields => '\x7b' :: compactFields fields ++ ['\x7d']

/-- The items of an array with commas between them. -/
def compactItems : List Json → List Char
  | [] => []
  | item :: rest =>
      item.compactChars ++ if rest.isEmpty then [] else ',' :: compactItems rest

/-- The fields of an object with commas between them. -/
def compactFields : List (String × Json) → List Char
  | [] => []
  | (key, value) :: rest =>
      quote key ++ ':' :: value.compactChars ++
        if rest.isEmpty then [] else ',' :: compactFields rest

end

/-- A line break and the indentation of a nesting level. -/
def newLine (level : Nat) : List Char :=
  '\n' :: List.replicate (2 * level) ' '

mutual

/-- The pretty form at a nesting level. -/
def prettyChars : Json → Nat → List Char
  | .null, _ => ['n', 'u', 'l', 'l']
  | .bool true, _ => ['t', 'r', 'u', 'e']
  | .bool false, _ => ['f', 'a', 'l', 's', 'e']
  | .number n, _ => n.chars
  | .string s, _ => quote s
  | .array items, level =>
      if items.isEmpty then
        ['[', ']']
      else
        '[' :: prettyItems items (level + 1) ++ newLine level ++ [']']
  | .object fields, level =>
      if fields.isEmpty then
        ['\x7b', '\x7d']
      else
        '\x7b' :: prettyFields fields (level + 1) ++ newLine level ++ ['\x7d']

/-- The items of an array, each on a line of its own. -/
def prettyItems : List Json → Nat → List Char
  | [], _ => []
  | item :: rest, level =>
      newLine level ++ item.prettyChars level ++
        if rest.isEmpty then [] else ',' :: prettyItems rest level

/-- The fields of an object, each on a line of its own. -/
def prettyFields : List (String × Json) → Nat → List Char
  | [], _ => []
  | (key, value) :: rest, level =>
      newLine level ++ quote key ++ ':' :: ' ' :: value.prettyChars level ++
        if rest.isEmpty then [] else ',' :: prettyFields rest level

end

/-- The compact text of a value. -/
def compact (v : Json) : String :=
  String.ofList v.compactChars

/-- The pretty text of a value. -/
def pretty (v : Json) : String :=
  String.ofList (v.prettyChars 0)

end Json

end ParamRules
