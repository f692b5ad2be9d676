import TaskGraph.Decimal.Binary
import TaskGraph.Expr.Error

/-!
# Operators on values

Two integers that fit 64 signed bits are compared and computed exactly, and a result that does not
fit is an error. Any other two numbers are compared and computed as floats.
-/

namespace TaskGraph

def JsonNumber.compare? (a b : JsonNumber) : Option Ordering :=
  match a.toInt64?, b.toInt64? with
  | some a, some b => some (compare a b)
  | _, _ =>
    let x := a.toFloat
    let y := b.toFloat
    if x < y then some .lt
    else if x == y then some .eq
    else if y < x then some .gt
    else none

namespace Json

mutual

/-- Equality of values, numbers by value and objects as sets of fields. -/
def same : Json → Json → Bool
  | .null, .null => true
  | .bool a, .bool b => a == b
  | .num a, .num b => a.compare? b == some .eq
  | .str a, .str b => a == b
  | .arr a, .arr b => sameItems a b
  | .obj a, .obj b => a.length == b.length && sameFields a b
  | _, _ => false

def sameItems : List Json → List Json → Bool
  | [], [] => true
  | x :: a, y :: b => same x y && sameItems a b
  | _, _ => false

/-- Whether every field of the first list has an equal one in the second. -/
def sameFields : List (String × Json) → List (String × Json) → Bool
  | [], _ => true
  | (key, x) :: a, b => (match b.lookup key with
    | some y => same x y
    | none => false) && sameFields a b

end

end Json

namespace Expr

/-- Values hold finite floats only. -/
def floatValue (x : Float) : Except EvalError Json :=
  if isFiniteFloat x then .ok (.float x) else .error (.notFinite x)

/-- An exact integer result, if it fits. -/
def intResult (n : Int) : Option Int := if fitsInt64 n then some n else none

/-- Division truncates; a quotient that does not fit makes the remainder fail as well. -/
def intOperation (op : BinaryOp) (a b : Int) : Option Int :=
  match op with
  | .add => intResult (a + b)
  | .sub => intResult (a - b)
  | .mul => intResult (a * b)
  | .div => if b = 0 then none else intResult (a.tdiv b)
  | .mod => if b = 0 then none else (intResult (a.tdiv b)).map fun _ => a.tmod b
  | _ => none

def floatOperation (op : BinaryOp) (x y : Float) : Float :=
  match op with
  | .add => x + y
  | .sub => x - y
  | .mul => x * y
  | .div => x / y
  | .mod => floatRemainder x y
  | _ => Binary.nan

def numberOperation (op : BinaryOp) (a b : JsonNumber) : Except EvalError Json :=
  match a.toInt64?, b.toInt64? with
  | some m, some n =>
    match intOperation op m n with
    | some r => .ok (.int r)
    | none => .error (.arithmetic op m n)
  | _, _ => floatValue (floatOperation op a.toFloat b.toFloat)

def arithmetic (op : BinaryOp) (left right : Json) : Except EvalError Json :=
  match op, left, right with
  | _, .num a, .num b => numberOperation op a b
  | .add, .str a, .str b => .ok (.str (a ++ b))
  | .add, .arr a, .arr b => .ok (.arr (a ++ b))
  | _, _, _ => .error (.noOverload op left.kind right.kind)

def compareValues? : Json → Json → Option Ordering
  | .num a, .num b => a.compare? b
  | .str a, .str b => some (compare a b)
  | .bool a, .bool b => some (compare a.toNat b.toNat)
  | _, _ => none

def comparison (op : BinaryOp) (holds : Ordering → Bool) (left right : Json) :
    Except EvalError Json :=
  match compareValues? left right with
  | some o => .ok (.bool (holds o))
  | none => .error (.noOverload op left.kind right.kind)

def membership (left right : Json) : Except EvalError Json :=
  match left, right with
  | x, .arr items => .ok (.bool (items.any x.same))
  | .str key, .obj fields => .ok (.bool (fields.lookup key).isSome)
  | _, _ => .error (.noOverload .in left.kind right.kind)

/-- A binary operator that always takes both operands. -/
def applyBinary (op : BinaryOp) (left right : Json) : Except EvalError Json :=
  match op with
  | .add | .sub | .mul | .div | .mod => arithmetic op left right
  | .eq => .ok (.bool (left.same right))
  | .ne => .ok (.bool (!left.same right))
  | .lt => comparison op Ordering.isLT left right
  | .le => comparison op Ordering.isLE left right
  | .gt => comparison op Ordering.isGT left right
  | .ge => comparison op Ordering.isGE left right
  | .in => membership left right
  | .and | .or => .error (.noOverload op left.kind right.kind)

def asBool (operator : String) : Json → Except EvalError Bool
  | .bool b => .ok b
  | j => .error (.notBool operator j.kind)

def applyUnary (op : UnaryOp) (operand : Json) : Except EvalError Json :=
  match op, operand with
  | .not, j => do return .bool !(← asBool "!" j)
  | .neg, .num n =>
    match n.toInt64? with
    | some i =>
      match intResult (-i) with
      | some r => .ok (.int r)
      | none => .error .negationOverflow
    | none => floatValue (-n.toFloat)
  | .neg, j => .error (.cannotNegate j.kind)

/-- A float with no fraction, brought into the range of 64 signed bits. -/
def wholeFloat? (x : Float) : Option Int :=
  match FloatClass.of x with
  | .finite b =>
    if b.isWhole then some (max (-int64Bound) (min (int64Bound - 1) b.truncate)) else none
  | _ => none

def listIndex? (n : JsonNumber) : Option Int :=
  match n.toInt64? with
  | some i => some i
  | none => wholeFloat? n.toFloat

def applyIndex (object subscript : Json) : Except EvalError Json :=
  match object, subscript with
  | .arr items, .num n =>
    match listIndex? n with
    | none => .error (.invalidIndex n)
    | some i =>
      match if i < 0 then none else items[i.toNat]? with
      | some j => .ok j
      | none => .error (.outOfRange i items.length)
  | .obj fields, .str key =>
    match fields.lookup key with
    | some j => .ok j
    | none => .error (.noKey key)
  | _, _ => .error (.cannotIndex object.kind subscript.kind)

def applyMember (object : Json) (property : String) : Except EvalError Json :=
  match object with
  | .obj fields =>
    match fields.lookup property with
    | some j => .ok j
    | none => .error (.noKey property)
  | _ => .error (.cannotAccess property object.kind)

end Expr

end TaskGraph
