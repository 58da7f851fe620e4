import ParamRules.Number.Decimal

/-!
# Shortest decimal digits

Among the decimal numbers that round to a given binary one, those with the fewest
digits are preferred, and of these the nearest.  The search tries one digit, two
digits and so on; on each grid only the two neighbours of the value can be hits, and
each is tested against the exact interval of values that round to the number.

Two notations write the digits: JSON's, which turns to an exponent for large and
small numbers, and plain display, which never does.
-/

namespace ParamRules

/-- The value `digits * 10 ^ exponent`. -/
structure ShortDecimal where
  digits : Nat
  exponent : Int
deriving DecidableEq, Inhabited

namespace ShortDecimal

/-- Moves trailing zeros of the digits into the exponent, at most `fuel` of them. -/
def stripZeros : Nat → ShortDecimal → ShortDecimal
  | 0, d => d
  | fuel + 1, d =>
      if d.digits % 10 = 0 ∧ d.digits ≠ 0 then
        stripZeros fuel ⟨d.digits / 10, d.exponent + 1⟩
      else
        d

/-- The exponent of the leading digit. -/
def leadExponent (d : ShortDecimal) : Int :=
  d.exponent + (Decimal.digitsOf d.digits).length - 1

end ShortDecimal

/-- Which of two equally near candidates is taken. -/
inductive TieRule where
  /-- The one with an even last digit. -/
  | toEven
  /-- The one of larger magnitude. -/
  | away
deriving DecidableEq

namespace FiniteBinary64

/-- The exponent of the leading decimal digit of a magnitude that is not zero. -/
def decimalExponent (units : Nat) : Int :=
  if unitsPerOne ≤ units then
    (Decimal.digitsOf (units / unitsPerOne)).length - 1
  else
    -(Decimal.digitsOf ((unitsPerOne + units - 1) / units - 1)).length

/-- The ends of the interval that rounds to `units`, in quarter units, and whether
they belong to it. -/
def roundingInterval (units : Nat) : Nat × Nat × Bool :=
  let above := BinaryFormat.double.spacing units
  let below := BinaryFormat.double.spacing (units - 1)
  (4 * units - 2 * below, 4 * units + 2 * above, units / above % 2 = 0)

/-- The better of the two neighbours of `units` among the multiples of
`10 ^ exponent`, if one of them rounds to `units`. -/
def gridHit? (tie : TieRule) (units : Nat) (exponent : Int) : Option ShortDecimal :=
  -- the magnitude is `num / den` grid steps
  let num := if 0 ≤ exponent then units else units * Nat.pow 10 (-exponent).toNat
  let scale := if 0 ≤ exponent then 1 else Nat.pow 10 (-exponent).toNat
  let den := unitsPerOne * if 0 ≤ exponent then Nat.pow 10 exponent.toNat else 1
  let (low, high, closed) := roundingInterval units
  let hits (d : Nat) : Bool :=
    if closed then
      low * scale ≤ 4 * d * den && 4 * d * den ≤ high * scale
    else
      low * scale < 4 * d * den && 4 * d * den < high * scale
  let floor := num / den
  let rest := num % den
  match hits floor, hits (floor + 1) with
  | false, false => none
  | true, false => some ⟨floor, exponent⟩
  | false, true => some ⟨floor + 1, exponent⟩
  | true, true =>
      let upper :=
        den < 2 * rest ||
          den == 2 * rest && (tie == .away || floor % 2 == 1)
      some ⟨if upper then floor + 1 else floor, exponent⟩

/-- The shortest digits of the magnitude, the nearest of those; zero has the digit
`0`.  Seventeen digits always suffice. -/
def shortest (tie : TieRule) (x : FiniteBinary64) : ShortDecimal :=
  if x.units = 0 then
    ⟨0, 0⟩
  else
    let lead := decimalExponent x.units
    let hit := (List.range 17).findSome? fun (n : Nat) => gridHit? tie x.units (lead - n)
    (hit.getD ⟨0, 0⟩).stripZeros 20

/-- A minus for a negative number. -/
def signText (x : FiniteBinary64) : List Char :=
  if x.negative then ['-'] else []

/-- Digits with a point, padded with zeros to reach it.  Without digits after the
point there is no point, except that `keepPoint` asks for one zero there. -/
def positional (keepPoint : Bool) (d : ShortDecimal) : List Char :=
  let digits := Decimal.digitsOf d.digits
  if 0 ≤ d.exponent then
    let whole := digits ++ List.replicate d.exponent.toNat '0'
    if keepPoint then whole ++ ['.', '0'] else whole
  else
    let places := (-d.exponent).toNat
    let padded := List.replicate (places + 1 - digits.length) '0' ++ digits
    padded.take (padded.length - places) ++ '.' :: padded.drop (padded.length - places)

/-- One digit, the others after a point, and the exponent with its sign. -/
def scientific (d : ShortDecimal) : List Char :=
  let digits := Decimal.digitsOf d.digits
  let exponent := d.leadExponent
  let significand :=
    match digits with
    | first :: second :: rest => first :: '.' :: second :: rest
    | short => short
  let sign := if exponent < 0 then '-' else '+'
  significand ++ 'e' :: sign :: Decimal.digitsOf exponent.natAbs

/-- The text of a number in JSON: positional while the leading digit stands for
`10 ^ -5` to `10 ^ 15`, always with a fractional digit, and scientific otherwise. -/
def jsonText (x : FiniteBinary64) : List Char :=
  let d := x.shortest .toEven
  x.signText ++
    if -5 ≤ d.leadExponent ∧ d.leadExponent ≤ 15 then positional true d else scientific d

end FiniteBinary64

/-- The text of a number outside of JSON: never scientific, whole numbers without a
point, and a zero without a sign. -/
def Binary64.text : Binary64 → String
  | .nan => "NaN"
  | .infinite negative => if negative then "-inf" else "inf"
  | .finite x =>
      let text := FiniteBinary64.positional false (x.shortest .away)
      String.ofList (if x.units = 0 then text else x.signText ++ text)

end ParamRules
