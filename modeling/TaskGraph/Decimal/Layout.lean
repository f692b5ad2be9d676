import TaskGraph.Decimal.Shortest

/-!
# Layouts of float text

How the digits of a float are written: where positional notation ends, whether a whole number keeps
a fraction digit, and which way equally near decimals go.
-/

namespace TaskGraph.Decimal

structure Layout where
  tie : Tie
  /-- Whether a number whose leading digit has this power of ten is written without an exponent. -/
  positional : Int → Bool
  /-- Whether a whole number is written with a fraction digit. -/
  fraction : Bool
  /-- The least number of digits of an exponent. -/
  exponentWidth : Nat := 1

def zeros (n : Int) : List Char := List.replicate n.toNat '0'

/-- The digits with the point in place and zeros up to it. -/
def writePositional (fraction : Bool) (d : Decimal) : List Char :=
  let digits := d.digits
  let whole := digits.length + d.exponent
  if d.exponent < 0 then
    if whole ≤ 0 then '0' :: '.' :: zeros (-whole) ++ digits
    else digits.take whole.toNat ++ '.' :: digits.drop whole.toNat
  else digits ++ zeros d.exponent ++ if fraction then ['.', '0'] else []

/-- One digit before the point and an exponent with its sign. -/
def writeScientific (width : Nat) (d : Decimal) : List Char :=
  let power := d.leading
  let digits := Nat.toDigits 10 power.natAbs
  let exponent := 'e' :: (if power < 0 then '-' else '+') ::
    (zeros (width - digits.length : Nat) ++ digits)
  match d.digits with
  | [] => exponent
  | [c] => c :: exponent
  | c :: rest => c :: '.' :: rest ++ exponent

def Layout.magnitude (l : Layout) (b : Binary) : List Char :=
  let d := shortest l.tie b
  if l.positional d.leading then writePositional l.fraction d else writeScientific l.exponentWidth d

def Layout.render (l : Layout) (x : Float) : String :=
  match FloatClass.of x with
  | .nan => "NaN"
  | .infinite negative => if negative then "-inf" else "inf"
  | .finite b => String.ofList (if b.negative then '-' :: l.magnitude b else l.magnitude b)

/-- Floats in messages never have an exponent or a needless fraction. -/
def plain : Layout where
  tie := .away
  positional _ := true
  fraction := false

/-- Floats in JSON text are positional from `0.00001` up to below `10 ^ 16`. -/
def json : Layout where
  tie := .toEven
  positional power := -5 ≤ power && power < 16
  fraction := true

/-- Floats as resource quantities are positional from `0.0001` up to below a million. -/
def quantity : Layout where
  tie := .away
  positional power := -4 ≤ power && power < 6
  fraction := false
  exponentWidth := 2

end TaskGraph.Decimal
