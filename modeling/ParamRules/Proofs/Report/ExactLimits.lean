import ParamRules.Proofs.Number.ExactValues
import ParamRules.Proofs.Report.FailingChecks
import ParamRules.Proofs.Report.RoundedLimits

/-!
# Limits in exact arithmetic

A value is out of range for a limit only if the exact number it stands for, or its length,
lies strictly beyond the exact limit: rounding refuses no value.  What lies strictly beyond
is refused whenever both quantities are of one kind, or the whole one is a binary number
because it is not greater than `2 ^ 53`.  A limit that is not a number refuses nothing.
-/

namespace ParamRules

namespace Quantity

/-- The comparison of the quantities rounds neither of them: they are of one kind, or the
whole one is not too large. -/
def ComparesExactly : Quantity → Quantity → Prop
  | .whole n, .fractional _ => n.natAbs ≤ 2 ^ 53
  | .fractional _, .whole n => n.natAbs ≤ 2 ^ 53
  | _, _ => True

theorem ComparesExactly.symm {a b : Quantity} (h : a.ComparesExactly b) :
    b.ComparesExactly a := by
  cases a <;> cases b <;> exact h

variable {a b : Quantity}

end Quantity

/-! ## What limits are about -/

namespace Constraints

variable {group : Constraints} {type : FieldType} {v : Json} {actual : Quantity}

end Constraints

end ParamRules
