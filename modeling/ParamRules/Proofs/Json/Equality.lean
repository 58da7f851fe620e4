import ParamRules.Proofs.Schema.ReadRules

/-!
# Equality of values

Values are compared as what they stand for.  The fields of an object have no order, and
zero has no sign; but a number written as a whole one differs from every decimal one.
-/

namespace ParamRules

/-- Numbers of the same kind and of the same value. -/
inductive JsonNumber.Equal : JsonNumber → JsonNumber → Prop
  | whole (n : Int) : Equal (.whole n) (.whole n)
  | decimal {x y : FiniteBinary64} (h : x.signedUnits = y.signedUnits) :
      Equal (.decimal x) (.decimal y)

namespace Json

open Json.Fields

/-- Values that are equal up to the order of fields and the sign of zero. -/
inductive Equal : Json → Json → Prop
  | null : Equal .null .null
  | bool (b : Bool) : Equal (.bool b) (.bool b)
  | number {m n : JsonNumber} (h : m.Equal n) : Equal (.number m) (.number n)
  | string (s : String) : Equal (.string s) (.string s)
  | array {xs ys : List Json} (hlength : xs.length = ys.length)
      (h : ∀ (i : Nat) x y, xs[i]? = some x → ys[i]? = some y → Equal x y) :
      Equal (.array xs) (.array ys)
  | object {a b : Json.Fields}
      (hkeys : ∀ key, (get? a key).isSome = (get? b key).isSome)
      (h : ∀ key x y, get? a key = some x → get? b key = some y → Equal x y) :
      Equal (.object a) (.object b)

theorem Equal.refl (v : Json) : v.Equal v := by
  induction v using Json.induction with
  | null => exact .null
  | bool b => exact .bool b
  | number n =>
      cases n with
      | whole n => exact .number (.whole n)
      | decimal x => exact .number (.decimal rfl)
  | string s => exact .string s
  | array items ih =>
      refine .array rfl fun i x y hx hy => ?_
      obtain rfl := Option.some.inj (hx.symm.trans hy)
      exact ih x (List.mem_of_getElem? hx)
  | object fields ih =>
      refine .object (fun _ => rfl) fun key x y hx hy => ?_
      obtain rfl := Option.some.inj (hx.symm.trans hy)
      exact ih (key, x) (mem_of_get? hx)

end Json

end ParamRules
