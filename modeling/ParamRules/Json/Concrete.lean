import ParamRules.Json.Basic
import ParamRules.Number.Numeral

/-!
# JSON text as it is written

Text is split into tokens, and tokens are assembled into a tree that still shows
everything that was written: repeated keys, the spelling class of each number, strings
whose escapes name half of a surrogate pair.  What such a tree is worth as a value is
decided in `Json.Reader`; a reader of settings uses the tree itself.

Both passes consume one item at a time and keep what is still open on a stack, so
nesting of any depth is read.
-/

namespace ParamRules.Json

/-- A token of JSON text. -/
inductive Token where
  | openArray
  | closeArray
  | openObject
  | closeObject
  | colon
  | comma
  | null
  | bool (b : Bool)
  | numeral (n : Numeral)
  /-- A string; `none` if an escape names half of a surrogate pair alone. -/
  | text (s : Option String)

namespace Token

/-- White space of JSON text. -/
def isSpace (c : Char) : Bool :=
  c == ' ' || c == '\t' || c == '\n' || c == '\r'

/-- The token a punctuation mark stands for. -/
def ofMark? : Char → Option Token
  | '[' => some .openArray
  | ']' => some .closeArray
  | '\x7b' => some .openObject
  | '\x7d' => some .closeObject
  | ':' => some .colon
  | ',' => some .comma
  | _ => none

/-- The token of an unquoted word. -/
def ofWord? (word : List Char) : Option Token :=
  if word = ['n', 'u', 'l', 'l'] then some .null
  else if word = ['t', 'r', 'u', 'e'] then some (.bool true)
  else if word = ['f', 'a', 'l', 's', 'e'] then some (.bool false)
  else (Numeral.ofChars? word).map .numeral

/-- The character of a one-letter escape. -/
def escaped? : Char → Option Char
  | '"' => some '"'
  | '\\' => some '\\'
  | '/' => some '/'
  | 'b' => some '\x08'
  | 'f' => some '\x0c'
  | 'n' => some '\n'
  | 'r' => some '\r'
  | 't' => some '\t'
  | _ => none

/-- The value of a hexadecimal digit. -/
def hexDigit? (c : Char) : Option Nat :=
  if c.isDigit then some (c.toNat - 48)
  else if 'a' ≤ c ∧ c ≤ 'f' then some (c.toNat - 87)
  else if 'A' ≤ c ∧ c ≤ 'F' then some (c.toNat - 55)
  else none

/-- The code is the first half of a surrogate pair. -/
def isHighSurrogate (code : Nat) : Bool :=
  0xD800 ≤ code && code < 0xDC00

/-- The code is the second half of a surrogate pair. -/
def isLowSurrogate (code : Nat) : Bool :=
  0xDC00 ≤ code && code < 0xE000

/-- The characters of a row of codes, in which each surrogate pair is one character
and no half of a pair stands alone. -/
def charsOfCodes? : List Nat → Option (List Char)
  | [] => some []
  | [code] =>
      if isHighSurrogate code || isLowSurrogate code then none else some [Char.ofNat code]
  | first :: second :: rest =>
      if isHighSurrogate first then
        if isLowSurrogate second then
          (charsOfCodes? rest).map
            (Char.ofNat (0x10000 + (first - 0xD800) * 0x400 + (second - 0xDC00)) :: ·)
        else
          none
      else if isLowSurrogate first then
        none
      else
        (charsOfCodes? (second :: rest)).map (Char.ofNat first :: ·)

/-- The string token of the codes read between two quotes, last code first. -/
def ofCodes (reversed : List Nat) : Token :=
  .text ((charsOfCodes? reversed.reverse).map String.ofList)

end Token

/-- Where the scanner stands. -/
inductive ScanMode where
  /-- Between two tokens. -/
  | between
  /-- Inside an unquoted word, whose characters are kept last first. -/
  | word (reversed : List Char)
  /-- Inside a string, whose codes are kept last first. -/
  | text (reversed : List Nat)
  /-- Behind the backslash of an escape. -/
  | escape (reversed : List Nat)
  /-- Inside a hexadecimal escape that still lacks `missing` digits. -/
  | hex (reversed : List Nat) (missing : Nat) (value : Nat)

/-- The tokens found so far, last first, and the mode. -/
structure Scan where
  tokens : List Token
  mode : ScanMode

namespace Scan

/-- Nothing read yet. -/
def start : Scan :=
  ⟨[], .between⟩

/-- Takes a character that stands between two tokens or ends a word. -/
def takeBetween? (tokens : List Token) (c : Char) : Option Scan :=
  if Token.isSpace c then
    some ⟨tokens, .between⟩
  else if c = '"' then
    some ⟨tokens, .text []⟩
  else
    match Token.ofMark? c with
    | some token => some ⟨token :: tokens, .between⟩
    | none => some ⟨tokens, .word [c]⟩

/-- A character that ends a word. -/
def isDelimiter (c : Char) : Bool :=
  Token.isSpace c || c == '"' || (Token.ofMark? c).isSome

/-- Takes one character. -/
def step (scan : Scan) (c : Char) : Option Scan :=
  match scan.mode with
  | .between => takeBetween? scan.tokens c
  | .word reversed =>
      if isDelimiter c then
        (Token.ofWord? reversed.reverse).bind fun token =>
          takeBetween? (token :: scan.tokens) c
      else
        some ⟨scan.tokens, .word (c :: reversed)⟩
  | .text reversed =>
      if c = '"' then some ⟨Token.ofCodes reversed :: scan.tokens, .between⟩
      else if c = '\\' then some ⟨scan.tokens, .escape reversed⟩
      else if c.toNat < 0x20 then none
      else some ⟨scan.tokens, .text (c.toNat :: reversed)⟩
  | .escape reversed =>
      if c = 'u' then
        some ⟨scan.tokens, .hex reversed 4 0⟩
      else
        (Token.escaped? c).map fun e => ⟨scan.tokens, .text (e.toNat :: reversed)⟩
  | .hex reversed missing value =>
      (Token.hexDigit? c).map fun digit =>
        if missing ≤ 1 then
          ⟨scan.tokens, .text ((value * 16 + digit) :: reversed)⟩
        else
          ⟨scan.tokens, .hex reversed (missing - 1) (value * 16 + digit)⟩

/-- The tokens in order, if no string is left open. -/
def finish (scan : Scan) : Option (List Token) :=
  match scan.mode with
  | .between => some scan.tokens.reverse
  | .word reversed =>
      (Token.ofWord? reversed.reverse).map fun token => (token :: scan.tokens).reverse
  | _ => none

end Scan

/-- The tokens of a text. -/
def Token.ofChars? (cs : List Char) : Option (List Token) :=
  (cs.foldlM Scan.step Scan.start).bind Scan.finish

/-- JSON as it is written.  A string or key is `none` if an escape in it names half
of a surrogate pair alone. -/
inductive Concrete where
  | null
  | bool (b : Bool)
  | numeral (n : Numeral)
  | text (s : Option String)
  | array (items : List Concrete)
  | object (entries : List (Option String × Concrete))
deriving Inhabited

/-- An array or object that is still open, with what it holds so far, last first. -/
inductive OpenNode where
  | array (reversed : List Concrete)
  | object (reversed : List (Option String × Concrete))
  /-- An object whose last key still lacks its value. -/
  | member (reversed : List (Option String × Concrete)) (key : Option String)

/-- What may come next. -/
inductive Expect where
  /-- A value, or the end of the array that has just begun. -/
  | value (first : Bool)
  /-- A key, or the end of the object that has just begun. -/
  | key (first : Bool)
  | colon
  /-- A comma or the end of what is open. -/
  | separator
  /-- Nothing: the document is complete. -/
  | nothing (document : Concrete)

/-- The open nodes, innermost first, and what may come next. -/
structure Assembly where
  stack : List OpenNode
  expect : Expect

namespace Assembly

/-- Nothing read yet. -/
def start : Assembly :=
  ⟨[], .value false⟩

/-- Puts a finished value where it belongs. -/
def complete (v : Concrete) : List OpenNode → Assembly
  | [] => ⟨[], .nothing v⟩
  | .array reversed :: stack => ⟨.array (v :: reversed) :: stack, .separator⟩
  | .member reversed key :: stack => ⟨.object ((key, v) :: reversed) :: stack, .separator⟩
  | .object reversed :: stack => ⟨.object reversed :: stack, .separator⟩

/-- Takes one token. -/
def step (state : Assembly) (token : Token) : Option Assembly :=
  match state.expect, token, state.stack with
  | .value _, .null, stack => some (complete .null stack)
  | .value _, .bool b, stack => some (complete (.bool b) stack)
  | .value _, .numeral n, stack => some (complete (.numeral n) stack)
  | .value _, .text s, stack => some (complete (.text s) stack)
  | .value _, .openArray, stack => some ⟨.array [] :: stack, .value true⟩
  | .value _, .openObject, stack => some ⟨.object [] :: stack, .key true⟩
  | .value true, .closeArray, .array _ :: stack => some (complete (.array []) stack)
  | .key _, .text s, .object reversed :: stack =>
      some ⟨.member reversed s :: stack, .colon⟩
  | .key true, .closeObject, .object _ :: stack => some (complete (.object []) stack)
  | .colon, .colon, stack => some ⟨stack, .value false⟩
  | .separator, .comma, .array reversed :: stack =>
      some ⟨.array reversed :: stack, .value false⟩
  | .separator, .comma, .object reversed :: stack =>
      some ⟨.object reversed :: stack, .key false⟩
  | .separator, .closeArray, .array reversed :: stack =>
      some (complete (.array reversed.reverse) stack)
  | .separator, .closeObject, .object reversed :: stack =>
      some (complete (.object reversed.reverse) stack)
  | _, _, _ => none

/-- The document, if it is complete. -/
def finish (state : Assembly) : Option Concrete :=
  match state.expect with
  | .nothing document => some document
  | _ => none

end Assembly

namespace Concrete

/-- Assembles the tokens of one document. -/
def ofTokens? (tokens : List Token) : Option Concrete :=
  (tokens.foldlM Assembly.step Assembly.start).bind Assembly.finish

/-- Reads a text that holds exactly one document. -/
def ofString? (text : String) : Option Concrete :=
  (Token.ofChars? text.toList).bind ofTokens?

end Concrete

end ParamRules.Json
