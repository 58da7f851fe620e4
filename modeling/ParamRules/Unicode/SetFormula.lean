import ParamRules.Unicode.Ranges

/-!
# Formulas for sets of code points

The character database defines many properties from others: a property is a union of
some sets without the members of another one.  A formula keeps such a definition as it
is stated; `SetFormula.toRanges` works out its members.
-/

namespace ParamRules.Unicode

/-- How a set of code points is put together. -/
inductive SetFormula where
  /-- The ranges of a table kept as text. -/
  | table (text : String)
  | listed (ranges : Ranges)
  /-- Every code point. -/
  | all
  | compl (a : SetFormula)
  | union (a b : SetFormula)
  | inter (a b : SetFormula)
  | diff (a b : SetFormula)

namespace SetFormula

instance : Union SetFormula := ⟨.union⟩

instance : Inter SetFormula := ⟨.inter⟩

instance : SDiff SetFormula := ⟨.diff⟩

/-- The members of a set, in canonical form. -/
def toRanges : SetFormula → Ranges
  | .table text => (Ranges.ofText text).normalize
  | .listed ranges => ranges.normalize
  | .all => [(0, greatest)]
  | .compl a => a.toRanges.complement
  | .union a b => a.toRanges.union b.toRanges
  | .inter a b => a.toRanges.inter b.toRanges
  | .diff a b => a.toRanges.diff b.toRanges

end SetFormula

end ParamRules.Unicode
