import TaskGraph.Expr.Operators
import TaskGraph.Pattern.Parser
import TaskGraph.Text.Basic
import TaskGraph.Text.Float
import TaskGraph.Text.Integer

/-!
# Functions of the expression language

Conversions between kinds, sizes, and tests on text.
-/

namespace TaskGraph.Expr

abbrev Function := List Json → Except EvalError Json

def oneArgument (name : String) (f : Json → Except EvalError Json) : Function
  | [j] => f j
  | args => .error (.argumentCount name 1 args.length)

def twoTexts (name : String) (f : String → String → Except EvalError Json) : Function
  | [.str a, .str b] => f a b
  | [a, b] => .error (.noFunctionOverload name [a.kind, b.kind])
  | args => .error (.argumentCount name 2 args.length)

def wrongKind (name : String) (j : Json) : Except EvalError Json :=
  .error (.noFunctionOverload name [j.kind])

def parseJson : Json → Except EvalError Json
  | .str text =>
    match Json.parse? text with
    | some j => .ok j
    | none => .error (.invalidJson text)
  | j => wrongKind "parseJson" j

/-- The integer part of a float; the one float just above the greatest integer gives that one. -/
def intOfFloat (x : Float) : Except EvalError Json :=
  match truncateFloat? x with
  | some n =>
    if Float.ofInt (-int64Bound) ≤ x && x ≤ Float.ofInt int64Bound then
      .ok (.int (min n (int64Bound - 1)))
    else .error (.intOutOfRange x)
  | none => .error (.intOutOfRange x)

def toInt : Json → Except EvalError Json
  | .num n =>
    match n.toInt64? with
    | some i => .ok (.int i)
    | none => intOfFloat n.toFloat
  | .str text =>
    match Text.readInt64 (Text.trim text) with
    | .ok n => .ok (.int n)
    | .error _ => .error (.cannotConvert "int" text)
  | .bool b => .ok (.int b.toNat)
  | j => wrongKind "int" j

def toDouble : Json → Except EvalError Json
  | .num n => floatValue n.toFloat
  | .str text =>
    match Text.readFloat? (Text.trim text) with
    | some x => floatValue x
    | none => .error (.cannotConvert "double" text)
  | j => wrongKind "double" j

def toText : Json → Except EvalError Json
  | .str text => .ok (.str text)
  | j => .ok (.str j.text)

def trueTexts : List String := ["true", "True", "TRUE", "t", "1"]

def falseTexts : List String := ["false", "False", "FALSE", "f", "0"]

def toBool : Json → Except EvalError Json
  | .bool b => .ok (.bool b)
  | .str text =>
    if text ∈ trueTexts then .ok (.bool true)
    else if text ∈ falseTexts then .ok (.bool false)
    else .error (.cannotConvert "bool" text)
  | j => wrongKind "bool" j

def size : Json → Except EvalError Json
  | .str text => .ok (.int text.length)
  | .arr items => .ok (.int items.length)
  | .obj fields => .ok (.int fields.length)
  | j => wrongKind "size" j

def matchesPattern (text pattern : String) : Except EvalError Json :=
  match Pattern.parse? pattern with
  | some p => .ok (.bool (p.occursIn text))
  | none => .error (.invalidPattern pattern)

def textTest (test : String → String → Bool) (a b : String) : Except EvalError Json :=
  .ok (.bool (test a b))

def function? : String → Option Function
  | "parseJson" => some (oneArgument "parseJson" parseJson)
  | "int" => some (oneArgument "int" toInt)
  | "double" => some (oneArgument "double" toDouble)
  | "string" => some (oneArgument "string" toText)
  | "bool" => some (oneArgument "bool" toBool)
  | "size" => some (oneArgument "size" size)
  | "contains" => some (twoTexts "contains" (textTest Text.contains))
  | "startsWith" => some (twoTexts "startsWith" (textTest Text.startsWith))
  | "endsWith" => some (twoTexts "endsWith" (textTest Text.endsWith))
  | "matches" => some (twoTexts "matches" matchesPattern)
  | _ => none

def applyFunction (name : String) (args : List Json) : Except EvalError Json :=
  match function? name with
  | some f => f args
  | none => .error (.unknownFunction name)

end TaskGraph.Expr
