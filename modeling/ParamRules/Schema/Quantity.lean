import ParamRules.Json.Basic
import ParamRules.Json.Printer
import ParamRules.Number.Shortest

/-!
# Quantities

Limits, and the numbers and lengths that are held against them.  A quantity is a whole
number of any size or a binary number.  Two whole numbers are compared exactly; as soon
as a binary number takes part, both are compared as binary numbers, the whole one after
rounding.  A quantity that is not a number has no place in the order and equals nothing,
itself included.
-/

namespace ParamRules

/-- A limit, or what is held against one. -/
inductive Quantity where
  | whole (n : Int)
  | fractional (x : Binary64)
deriving DecidableEq

namespace Quantity

/-- The quantity as a binary number. -/
def toBinary64 : Quantity → Binary64
  | .whole n => .ofInt n
  | .fractional x => x

/-- The order of two quantities, if they have one. -/
def compare? : Quantity → Quantity → Option Ordering
  | .whole a, .whole b => some (compare a b)
  | a, b => a.toBinary64.compare? b.toBinary64

/-- The quantities are equal as numbers. -/
def equals (a b : Quantity) : Bool :=
  a.compare? b == some .eq

/-- The first quantity is below the second. -/
def isBelow (a b : Quantity) : Bool :=
  a.compare? b == some .lt

/-- The first quantity is above the second. -/
def isAbove (a b : Quantity) : Bool :=
  a.compare? b == some .gt

/-- Equality as numbers; it is not reflexive. -/
instance : BEq Quantity := ⟨equals⟩

/-- The quantity of a number in a JSON value.  A whole number beyond 64 bits counts as a
binary number, if it is not too large for one. -/
def ofNumber? : JsonNumber → Option Quantity
  | .whole n =>
      if fitsWord n then
        some (.whole n)
      else
        match Binary64.ofInt n with
        | .finite x => some (.fractional (.finite x))
        | _ => none
  | .decimal x => some (.fractional (.finite x))

/-- The text of a quantity in messages. -/
def text : Quantity → String
  | .whole n => String.ofList (wholeText n)
  | .fractional x => x.text

/-- The quantity in a description; what is not finite has no number there. -/
def toJson : Quantity → Json
  | .whole n => .number (.whole n)
  | .fractional (.finite x) => .number (.decimal x)
  | .fractional _ => .null

theorem ofNumber?_decimal (x : FiniteBinary64) :
    ofNumber? (.decimal x) = some (.fractional (.finite x)) := rfl

theorem ofNumber?_whole {n : Int} (h : fitsWord n = true) :
    ofNumber? (.whole n) = some (.whole n) := by
  simp [ofNumber?, h]

theorem compare?_fractional (x : Binary64) (q : Quantity) :
    compare? (.fractional x) q = x.compare? q.toBinary64 := by
  cases q <;> rfl

theorem compare?_fractional_right (q : Quantity) (x : Binary64) :
    q.compare? (.fractional x) = q.toBinary64.compare? x := by
  cases q <;> rfl

theorem compare?_eq_gt_iff {a b : Quantity} :
    a.compare? b = some .gt ↔ b.compare? a = some .lt := by
  cases a with
  | whole m =>
      cases b with
      | whole n =>
          rw [compare?, compare?, Option.some.injEq, Option.some.injEq, Int.compare_eq_gt,
            Int.compare_eq_lt]
      | fractional y =>
          rw [compare?_fractional_right, compare?_fractional]
          exact Binary64.compare?_eq_gt_iff
  | fractional x =>
      rw [compare?_fractional, compare?_fractional_right]
      exact Binary64.compare?_eq_gt_iff

end Quantity

end ParamRules
