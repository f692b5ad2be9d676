import TaskGraph.Bounds

/-!
# Reading bounded integers

An optional sign and decimal digits. The digits are read from left to right, so of an overflow and a
stray character the one that comes first is reported.
-/

namespace TaskGraph.Text

inductive IntegerError where
  | empty
  | invalidDigit
  | tooLarge
  | tooSmall
  deriving DecidableEq, Repr

def IntegerError.message : IntegerError → String
  | .empty => "cannot parse integer from empty string"
  | .invalidDigit => "invalid digit found in string"
  | .tooLarge => "number too large to fit in target type"
  | .tooSmall => "number too small to fit in target type"

/-- Reads digits after the value `n`; no value on the way may exceed `limit`. -/
def boundedDigits (limit : Nat) (overflow : IntegerError) (n : Nat) :
    List Char → Except IntegerError Nat
  | [] => .ok n
  | c :: rest =>
    if c.isDigit then
      let n := n * 10 + (c.toNat - '0'.toNat)
      if limit < n then .error overflow else boundedDigits limit overflow n rest
    else .error .invalidDigit

/-- Reads an integer that fits 64 signed bits. -/
def readInt64 (s : String) : Except IntegerError Int :=
  match s.toList with
  | [] => .error .empty
  | ['-'] | ['+'] => .error .invalidDigit
  | '-' :: digits => do
    let n ← boundedDigits int64Bound .tooSmall 0 digits
    return -n
  | '+' :: digits => do
    let n ← boundedDigits (int64Bound - 1) .tooLarge 0 digits
    return n
  | digits => do
    let n ← boundedDigits (int64Bound - 1) .tooLarge 0 digits
    return n

end TaskGraph.Text
