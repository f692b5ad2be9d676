import TaskGraph.Expr.Functions

/-!
# Evaluation

Operands and arguments are evaluated from left to right. The second operand of `&&` and `||` and the
branches of a conditional are evaluated only where they decide the result.
-/

namespace TaskGraph.Expr

/-- The variables an expression sees. -/
abbrev Scope := Dict Json

mutual

def eval (scope : Scope) : Expr → Except EvalError Json
  | .null => .ok .null
  | .bool b => .ok (.bool b)
  | .int n => .ok (.int n)
  | .double x => floatValue x
  | .string s => .ok (.str s)
  | .ident name =>
    match scope.get? name with
    | some j => .ok j
    | none => .error (.undeclared name)
  | .call name args => do
    let args ← evalItems scope args
    applyFunction name args
  | .index object subscript => do
    let object ← eval scope object
    let subscript ← eval scope subscript
    applyIndex object subscript
  | .member object property => do
    let object ← eval scope object
    applyMember object property
  | .unary op operand => do
    let operand ← eval scope operand
    applyUnary op operand
  | .binary .and left right => do
    let left ← eval scope left
    if ← asBool "&&" left then
      let right ← eval scope right
      return .bool (← asBool "&&" right)
    else return .bool false
  | .binary .or left right => do
    let left ← eval scope left
    if ← asBool "||" left then return .bool true
    else
      let right ← eval scope right
      return .bool (← asBool "||" right)
  | .binary op left right => do
    let left ← eval scope left
    let right ← eval scope right
    applyBinary op left right
  | .ternary condition yes no => do
    let condition ← eval scope condition
    if ← asBool "?:" condition then eval scope yes else eval scope no
  | .list items => do
    let items ← evalItems scope items
    return .arr items
  | .map fields => do
    let fields ← evalFields scope ∅ fields
    return Json.ofDict fields

def evalItems (scope : Scope) : List Expr → Except EvalError (List Json)
  | [] => .ok []
  | e :: rest => do
    let j ← eval scope e
    let js ← evalItems scope rest
    return j :: js

/-- Of the fields under one key the last stays. -/
def evalFields (scope : Scope) (done : Dict Json) :
    List (String × Expr) → Except EvalError (Dict Json)
  | [] => .ok done
  | (key, e) :: rest => do
    let j ← eval scope e
    evalFields scope (done.insert key j) rest

end

/-- Reads and evaluates the text of an expression. -/
def evaluate (scope : Scope) (text : String) : Except Error Json :=
  match parse text with
  | .error e => .error (.parse text e)
  | .ok expr =>
    match eval scope expr with
    | .error e => .error (.eval text e)
    | .ok j => .ok j

/-- The variable a selector finds its value under. -/
def valueName : Json.Kind → String
  | .null => "null_value"
  | .bool => "bool_value"
  | .number => "number_value"
  | .string => "string_value"
  | .list => "list_value"
  | .struct => "struct_value"

/-- Applies a selector to one value. -/
def select (value : Json) (text : String) : Except Error Json :=
  evaluate (SortedMap.ofList [(valueName value.kind, value)]) text

/-- Evaluates a trigger condition over the inputs of a task. -/
def condition (inputs : Json) (text : String) : Except Error Bool := do
  match ← evaluate (SortedMap.ofList [("inputs", inputs)]) text with
  | .bool b => return b
  | j => throw (.notBool text j.kind)

end TaskGraph.Expr
