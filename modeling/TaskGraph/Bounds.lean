/-!
# Bounds of integers

Integers of 64 bits, signed or not. The bounds themselves are not reached from below.
-/

namespace TaskGraph

abbrev int64Bound : Nat := 0x8000000000000000

abbrev nat64Bound : Nat := 0x10000000000000000

/-- The integers that fit 64 signed bits. -/
def fitsInt64 (n : Int) : Bool := decide (-int64Bound ≤ n ∧ n < int64Bound)

end TaskGraph
