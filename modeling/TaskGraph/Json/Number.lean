import TaskGraph.Json.Basic
import TaskGraph.Decimal.Shortest

/-!
# Reading JSON numbers

Integers are read exactly. Floats are read with two roundings, so that the result may be off by a
unit in the last place: of the digits only as many count as make a coefficient of 64 bits, the
nearest float to the coefficient is taken, and that is multiplied or divided by a power of ten.
-/

namespace TaskGraph.Json

/-- A digit put at the end of a number. -/
def withDigit (n : Nat) (c : Char) : Nat := n * 10 + (c.toNat - '0'.toNat)

def digitsValue (digits : List Char) : Nat := digits.foldl withDigit 0

/-- The coefficient of the digits before the point. From the first that does not fit on, each only
adds to the exponent. -/
def wholeDigits (coefficient : Nat) : List Char → Decimal
  | [] => ⟨coefficient, 0⟩
  | c :: rest =>
    if withDigit coefficient c < nat64Bound then wholeDigits (withDigit coefficient c) rest
    else ⟨coefficient, (rest.length + 1 : Nat)⟩

/-- Continues with the digits after the point, up to the first that does not fit. -/
def fractionDigits (d : Decimal) : List Char → Decimal
  | [] => d
  | c :: rest =>
    if withDigit d.coefficient c < nat64Bound then
      fractionDigits ⟨withDigit d.coefficient c, d.exponent - 1⟩ rest
    else d

/-- The largest power of ten that a float is scaled by in one step. -/
def largestPower : Nat := 308

def powerOfTen (n : Nat) : Float := Float.ofScientific 1 false n

/-- Divides by a power of ten, in several steps if the power is not a float. -/
def scaleDown (x : Float) (n : Nat) : Float :=
  if n ≤ largestPower then x / powerOfTen n
  else if x == 0.0 then x
  else scaleDown (x / powerOfTen largestPower) (n - largestPower)
termination_by n
decreasing_by simp only [largestPower] at *; omega

/-- Multiplies by a power of ten, if the product is finite. -/
def scaleUp? (x : Float) (n : Nat) : Option Float :=
  if n ≤ largestPower then
    let y := x * powerOfTen n
    if isFiniteFloat y then some y else none
  else if x == 0.0 then some x
  else none

def scale? (d : Decimal) : Option Float :=
  let x := Float.ofNat d.coefficient
  match d.exponent with
  | .ofNat n => scaleUp? x n
  | .negSucc n => some (scaleDown x (n + 1))

/-- The float of a literal, if it is finite. -/
def floatLiteral? (negative : Bool) (whole fraction : List Char) (exponent : Int) :
    Option JsonNumber :=
  let d := fractionDigits (wholeDigits 0 whole) fraction
  (scale? { d with exponent := d.exponent + exponent }).map fun x =>
    .float (Binary.signed negative x)

/-- Integers are the literals without fraction and exponent that fit 64 bits, signed or not; `-0`
is not one of them. -/
def integer? (negative : Bool) (n : Nat) : Option Int :=
  if negative then if n ≠ 0 ∧ n ≤ int64Bound then some (-n) else none
  else if n < nat64Bound then some n else none

/-- The digits of an exponent, after its mark. -/
def exponentPart (s : List Char) : Option (Int × List Char) :=
  let (negative, s) := match s with
    | '-' :: rest => (true, rest)
    | '+' :: rest => (false, rest)
    | s => (false, s)
  let digits := s.takeWhile Char.isDigit
  let rest := s.dropWhile Char.isDigit
  if digits.isEmpty then none
  else
    let n : Int := digitsValue digits
    some (if negative then -n else n, rest)

end TaskGraph.Json
