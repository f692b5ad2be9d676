/-!
# Expressions

The tree of a selector or a trigger condition. A method call is a call with the object as its first
argument.
-/

namespace TaskGraph

inductive UnaryOp where
  | not
  | neg
  deriving DecidableEq, Repr

inductive BinaryOp where
  | add
  | sub
  | mul
  | div
  | mod
  | eq
  | ne
  | lt
  | le
  | gt
  | ge
  | in
  | and
  | or
  deriving DecidableEq, Repr

inductive Expr where
  | null
  | bool (value : Bool)
  | int (value : Int)
  | double (value : Float)
  | string (value : String)
  | ident (name : String)
  | call (name : String) (args : List Expr)
  | index (object index : Expr)
  | member (object : Expr) (property : String)
  | unary (op : UnaryOp) (operand : Expr)
  | binary (op : BinaryOp) (left right : Expr)
  | ternary (condition yes no : Expr)
  | list (items : List Expr)
  | map (fields : List (String × Expr))
  deriving Inhabited

def UnaryOp.symbol : UnaryOp → String
  | .not => "!"
  | .neg => "-"

def BinaryOp.symbol : BinaryOp → String
  | .add => "+"
  | .sub => "-"
  | .mul => "*"
  | .div => "/"
  | .mod => "%"
  | .eq => "=="
  | .ne => "!="
  | .lt => "<"
  | .le => "<="
  | .gt => ">"
  | .ge => ">="
  | .in => "in"
  | .and => "&&"
  | .or => "||"

/-- What an arithmetic operator computes, as messages name it. -/
def BinaryOp.activity : BinaryOp → String
  | .add => "addition"
  | .sub => "subtraction"
  | .mul => "multiplication"
  | .div => "division"
  | .mod => "modulus"
  | _ => "operation"

end TaskGraph
