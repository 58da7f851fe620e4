import ParamRules.Unicode.NextEdition

/-!
# Quoted names

A name that comes from outside is written on a log line in double quotes.  Quotes and
backslashes are escaped, and so is every character that would not show as itself: most
by its code in hexadecimal, a few by a letter.
-/

namespace ParamRules.Text

/-- A character by its code. -/
def codeEscape (c : Char) : List Char :=
  '\\' :: 'u' :: '\x7b' :: Nat.toDigits 16 c.toNat ++ ['\x7d']

/-- The code points that show as themselves at any place.  A mark that would join the
quote before it does not, and neither do the Hangul fillers, which show as nothing. -/
def shown : Unicode.Ranges :=
  (Unicode.NextEdition.printable \
    (Unicode.NextEdition.attachedMark ∪ .table "115F-1160 3164 FFA0")).toRanges

/-- A character as it is written between quotes. -/
def quotedChar (c : Char) : List Char :=
  if c = '"' then ['\\', '"']
  else if c = '\\' then ['\\', '\\']
  else if c = '\t' then ['\\', 't']
  else if c = '\r' then ['\\', 'r']
  else if c = '\n' then ['\\', 'n']
  else if c = '\x00' then ['\\', '0']
  else if shown.contains c.toNat then [c]
  else codeEscape c

/-- A text in quotes. -/
def quoted (s : String) : String :=
  String.ofList ('"' :: s.toList.flatMap quotedChar ++ ['"'])

end ParamRules.Text
