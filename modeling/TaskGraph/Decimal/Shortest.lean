import TaskGraph.Decimal.Binary

/-!
# Shortest decimals

The shortest decimal of a float is the one with the fewest digits among those that round back to
it, and of these the nearest. The search compares exact integers only: the decimals of `n` digits
form a grid, and if one of its points rounds back then so does a neighbour of the float.
-/

namespace TaskGraph

/-- The number `coefficient * 10 ^ exponent`. -/
structure Decimal where
  coefficient : Nat
  exponent : Int
  deriving DecidableEq, Repr

namespace Decimal

/-- Which neighbour to take when both are equally near. -/
inductive Tie where
  | toEven
  | away
  deriving DecidableEq

def digits (d : Decimal) : List Char := Nat.toDigits 10 d.coefficient

/-- The power of ten of the leading digit. -/
def leading (d : Decimal) : Int := d.exponent + d.digits.length - 1

/-- Drops up to `fuel` trailing zeros. -/
def stripZeros : Nat → Decimal → Decimal
  | 0, d => d
  | fuel + 1, d =>
    if d.coefficient ≠ 0 ∧ d.coefficient % 10 = 0 then
      stripZeros fuel ⟨d.coefficient / 10, d.exponent + 1⟩
    else d

/-- Twice the reach of rounding around a mantissa, in quarters of its unit: downwards it is half as
far at the smallest normal mantissa, whose lower neighbour is nearer. -/
def reachBelow (b : Binary) : Nat :=
  if b.mantissa = Binary.hidden ∧ b.exponent ≠ -1074 then 1 else 2

/-- The point of the grid of step `10 ^ step` that rounds to `b`, if there is one. -/
def onGrid? (tie : Tie) (b : Binary) (step : Int) : Option Nat :=
  let quarter := b.exponent - 2
  let scale := Nat.pow 2 quarter.toNat * Nat.pow 10 (-step).toNat
  let unit := Nat.pow 2 (-quarter).toNat * Nat.pow 10 step.toNat
  let value := 4 * b.mantissa * scale
  let low := (4 * b.mantissa - reachBelow b) * scale
  let high := (4 * b.mantissa + 2) * scale
  let below := value / unit
  let above := below + 1
  let closed := b.mantissa % 2 = 0
  let belowFits := low < below * unit ∨ closed ∧ low = below * unit
  let aboveFits := above * unit < high ∨ closed ∧ above * unit = high
  if belowFits then
    if aboveFits then
      match compare (2 * value) ((below + above) * unit) with
      | .lt => some below
      | .gt => some above
      | .eq =>
        match tie with
        | .toEven => some (if below % 2 = 0 then below else above)
        | .away => some above
    else some below
  else if aboveFits then some above
  else none

/-- The number of digits before the point (a position left of the first digit, if negative). -/
def magnitude (b : Binary) : Int :=
  let num := b.mantissa * Nat.pow 2 b.exponent.toNat
  let den := Nat.pow 2 (-b.exponent).toNat
  let guess : Int := (Nat.toDigits 10 num).length - (Nat.toDigits 10 den).length
  if num * Nat.pow 10 (-guess).toNat < den * Nat.pow 10 guess.toNat then guess else guess + 1

/-- The shortest decimal of a float other than zero. Seventeen digits always suffice. -/
def shortest (tie : Tie) (b : Binary) : Decimal :=
  if b.mantissa = 0 then ⟨0, 0⟩
  else
    let size := magnitude b
    let found := (List.range 17).findSome? fun n =>
      let step := size - (n + 1 : Nat)
      (onGrid? tie b step).map fun c => stripZeros 20 ⟨c, step⟩
    found.getD ⟨0, 0⟩

/-- The nearest float. Exponents far outside the range of floats are settled without computing the
power of ten. -/
def toFloat (negative : Bool) (d : Decimal) : Float :=
  Binary.signed negative <|
    if d.coefficient = 0 then 0.0
    else if d.leading < -400 then 0.0
    else if 400 < d.leading then Binary.infinity
    else
      match d.exponent with
      | .ofNat e => Float.ofScientific d.coefficient false e
      | .negSucc e => Float.ofScientific d.coefficient true (e + 1)

end Decimal

end TaskGraph
