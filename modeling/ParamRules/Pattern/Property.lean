import ParamRules.Pattern.CharSet
import ParamRules.Unicode.Age
import ParamRules.Unicode.ScriptExtension
import ParamRules.Unicode.Segmentation

/-!
# Properties named in patterns

A property is asked for by its own name, or by a name and a value.  Names are compared
loosely: case, blanks, hyphens, underscores and a leading `is` do not matter.
-/

namespace ParamRules.CharSet

open Unicode

/-- The form in which property names are compared.  The name `isc` keeps its start. -/
def looseName (name : List Char) : String :=
  let plain (name : List Char) : List Char :=
    (name.filter fun c => c.toNat < 0x80 && c != ' ' && c != '-' && c != '_').map Char.toLower
  match name with
  | first :: second :: rest =>
      if first.toLower = 'i' ∧ second.toLower = 's' then
        if plain rest = ['c'] then "isc" else String.ofList (plain rest)
      else
        String.ofList (plain name)
  | short => String.ofList (plain short)

/-- The entry of a table of names. -/
def find? (table : List (List String × SetFormula)) (name : String) :
    Option (List String × SetFormula) :=
  table.find? fun (names, _) => names.contains name

/-- The set of a property that has a name of its own.  Binary properties come before
general categories, and these before scripts. -/
def ofName? (name : List Char) : Option CharSet :=
  let name := looseName name
  (find? binaryProperties name <|> find? GeneralCategory.named name <|>
    find? scripts name).map fun entry => entry.2.toRanges

/-- The set of the code points for which a property has a value. -/
def ofNameValue? (name value : List Char) : Option CharSet :=
  let value := looseName value
  match looseName name with
  | "gc" | "generalcategory" =>
      (find? GeneralCategory.named value).map fun entry => entry.2.toRanges
  | "sc" | "script" => (find? scripts value).map fun entry => entry.2.toRanges
  | "scx" | "scriptextensions" =>
      (find? scripts value).map fun (names, own) => (scriptExtension names own).toRanges
  | "age" => (assignedBy? value).map SetFormula.toRanges
  | "gcb" | "graphemeclusterbreak" =>
      (find? graphemeClusterBreaks value).map fun entry => entry.2.toRanges
  | "sb" | "sentencebreak" => (find? sentenceBreaks value).map fun entry => entry.2.toRanges
  | "wb" | "wordbreak" => (find? wordBreaks value).map fun entry => entry.2.toRanges
  | _ => none

/-- Splits at the first occurrence of a mark. -/
def splitAt? (mark : Char) (cs : List Char) : Option (List Char × List Char) :=
  match cs.dropWhile (· != mark) with
  | [] => none
  | _ :: rest => some (cs.takeWhile (· != mark), rest)

/-- Splits at the first occurrence of `!=`. -/
def splitAtUnequal? : List Char → Option (List Char × List Char)
  | '!' :: '=' :: rest => some ([], rest)
  | c :: rest => (splitAtUnequal? rest).map fun (before, after) => (c :: before, after)
  | [] => none

/-- What stands between the braces of a property class: a name, or a name and a value
with `=`, `:` or `!=` between them.  The answer also tells whether the complement is
asked for, as it is by `!=`. -/
def ofPropertyText? (text : List Char) : Option (CharSet × Bool) :=
  match splitAtUnequal? text with
  | some (name, value) => (ofNameValue? name value).map fun set => (set, true)
  | none =>
      let set :=
        match splitAt? ':' text with
        | some (name, value) => ofNameValue? name value
        | none =>
            match splitAt? '=' text with
            | some (name, value) => ofNameValue? name value
            | none => ofName? text
      set.map fun set => (set, false)

end ParamRules.CharSet
