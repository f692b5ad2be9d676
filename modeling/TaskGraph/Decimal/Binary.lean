/-!
# Binary floats as exact numbers

A finite float is an integer times a power of two. Reading a float that way makes truncation and
remainder exact, without rounding in between.
-/

namespace TaskGraph

/-- The number `(-1) ^ negative * mantissa * 2 ^ exponent`. -/
structure Binary where
  negative : Bool
  mantissa : Nat
  exponent : Int
  deriving DecidableEq, Repr

/-- The leading bit of a normal mantissa, which is not stored. -/
abbrev Binary.hidden : Nat := 0x10000000000000

inductive FloatClass where
  | nan
  | infinite (negative : Bool)
  | finite (value : Binary)
  deriving DecidableEq, Repr

/-- Splits the bits into sign, exponent and fraction; exponent zero holds the subnormal floats. -/
def FloatClass.of (x : Float) : FloatClass :=
  let bits := x.toBits.toNat
  let negative := decide (0x8000000000000000 ≤ bits)
  let biased : Nat := bits / Binary.hidden % 2048
  let fraction : Nat := bits % Binary.hidden
  if biased = 2047 then
    if fraction = 0 then .infinite negative else .nan
  else if biased = 0 then .finite ⟨negative, fraction, -1074⟩
  else .finite ⟨negative, Binary.hidden + fraction, (biased : Int) - 1075⟩

namespace Binary

def infinity : Float := Float.ofBits 0x7ff0000000000000

def nan : Float := Float.ofBits 0x7ff8000000000000

def signed (negative : Bool) (x : Float) : Float := if negative then -x else x

/-- The nearest float. Negative powers of two are turned into powers of ten, which is exact. -/
def toFloat (b : Binary) : Float :=
  signed b.negative <|
    match b.exponent with
    | .ofNat e => Float.ofNat (b.mantissa * Nat.pow 2 e)
    | .negSucc e => Float.ofScientific (b.mantissa * Nat.pow 5 (e + 1)) true (e + 1)

/-- The mantissa, brought to a smaller or equal exponent. -/
def mantissaAt (b : Binary) (exponent : Int) : Nat :=
  b.mantissa * Nat.pow 2 (b.exponent - exponent).toNat

def isWhole (b : Binary) : Bool :=
  match b.exponent with
  | .ofNat _ => true
  | .negSucc e => b.mantissa % Nat.pow 2 (e + 1) = 0

/-- The integer part, toward zero. -/
def truncate (b : Binary) : Int :=
  let size : Nat :=
    match b.exponent with
    | .ofNat e => b.mantissa * Nat.pow 2 e
    | .negSucc e => b.mantissa / Nat.pow 2 (e + 1)
  if b.negative then -size else size

/-- The exact remainder of a division that truncates; it has the sign of the dividend. -/
def remainder (a b : Binary) : Binary :=
  let exponent := min a.exponent b.exponent
  ⟨a.negative, a.mantissaAt exponent % b.mantissaAt exponent, exponent⟩

end Binary

/-- The remainder of two floats, exact whenever it is a number. -/
def floatRemainder (x y : Float) : Float :=
  match FloatClass.of x, FloatClass.of y with
  | .finite a, .finite b => if b.mantissa = 0 then Binary.nan else (a.remainder b).toFloat
  | .finite _, .infinite _ => x
  | _, _ => Binary.nan

/-- The integer part of a finite float. -/
def truncateFloat? (x : Float) : Option Int :=
  match FloatClass.of x with
  | .finite b => some b.truncate
  | _ => none

def isFiniteFloat (x : Float) : Bool :=
  match FloatClass.of x with
  | .finite _ => true
  | _ => false

end TaskGraph
