/-!
# Sets of characters as boundaries

A set of code points is written as the ascending list of the points where membership changes: it
starts outside, the first boundary is the first member, the second the first non-member after it.
-/

namespace TaskGraph.Unicode

/-- Whether an odd number of the boundaries lie at or below `n`. -/
def within (n : Nat) : List Nat → Bool
  | [] => false
  | b :: rest => if n < b then false else !within n rest

/-- The boundaries of the points where `f` holds of the memberships in two sets, which are `inA` and
`inB` up to the next boundary; `out` is what `f` gave last. -/
def merge (f : Bool → Bool → Bool) (inA inB out : Bool) (a b : List Nat) : List Nat :=
  match a, b with
  | [], [] => []
  | x :: a, [] =>
    let now := f (!inA) inB
    if now = out then merge f (!inA) inB out a [] else x :: merge f (!inA) inB now a []
  | [], y :: b =>
    let now := f inA (!inB)
    if now = out then merge f inA (!inB) out [] b else y :: merge f inA (!inB) now [] b
  | x :: a, y :: b =>
    if x < y then
      let now := f (!inA) inB
      if now = out then merge f (!inA) inB out a (y :: b)
      else x :: merge f (!inA) inB now a (y :: b)
    else if y < x then
      let now := f inA (!inB)
      if now = out then merge f inA (!inB) out (x :: a) b
      else y :: merge f inA (!inB) now (x :: a) b
    else
      let now := f (!inA) (!inB)
      if now = out then merge f (!inA) (!inB) out a b else x :: merge f (!inA) (!inB) now a b
termination_by a.length + b.length

/-- `f` has to be false of points that lie in neither set. -/
def combine (f : Bool → Bool → Bool) (a b : List Nat) : List Nat := merge f false false false a b

def union (a b : List Nat) : List Nat := combine (· || ·) a b

def inter (a b : List Nat) : List Nat := combine (· && ·) a b

def difference (a b : List Nat) : List Nat := combine (fun x y => x && !y) a b

/-- The first number that is no code point. -/
def codePointBound : Nat := 0x110000

def complement (a : List Nat) : List Nat := difference [0, codePointBound] a

/-- The first and the last point of each run of members. -/
def spans : List Nat → List (Nat × Nat)
  | first :: next :: rest => (first, next - 1) :: spans rest
  | [first] => [(first, codePointBound - 1)]
  | [] => []

end TaskGraph.Unicode
