import TaskGraph.Expr.Parser

/-!
# Why an expression fails
-/

namespace TaskGraph.Expr

inductive EvalError where
  | undeclared (name : String)
  | notFinite (x : Float)
  | invalidIndex (n : JsonNumber)
  | outOfRange (index : Int) (size : Nat)
  | noKey (key : String)
  | cannotIndex (object subscript : Json.Kind)
  | cannotAccess (property : String) (object : Json.Kind)
  /-- An operator that takes booleans met another kind. -/
  | notBool (operator : String) (kind : Json.Kind)
  | noOverload (op : BinaryOp) (left right : Json.Kind)
  | negationOverflow
  | cannotNegate (kind : Json.Kind)
  /-- The exact result does not exist or does not fit 64 signed bits. -/
  | arithmetic (op : BinaryOp) (left right : Int)
  | unknownFunction (name : String)
  | argumentCount (function : String) (expected actual : Nat)
  | noFunctionOverload (function : String) (args : List Json.Kind)
  | intOutOfRange (x : Float)
  | cannotConvert (function text : String)
  | invalidJson (text : String)
  | invalidPattern (text : String)
  deriving DecidableEq

/-- Stands for the rest of a message, which says what a reader of a foreign format objects to. -/
def detail : String := "<detail>"

def EvalError.cause : EvalError → String
  | .undeclared name => s!"undeclared reference to '{name}'"
  | .notFinite x => s!"{Decimal.plain.render x} is not a finite number"
  | .invalidIndex n => s!"invalid list index {Json.numberText n}"
  | .outOfRange i size => s!"index {Json.intText i} out of range for list of size {size}"
  | .noKey key => s!"no such key: {key}"
  | .cannotIndex object subscript => s!"cannot index {object.name} with {subscript.name}"
  | .cannotAccess property object => s!"cannot access field '{property}' on {object.name}"
  | .notBool operator kind => s!"no such overload: {operator} applied to {kind.name}"
  | .noOverload op left right => s!"no such overload: {left.name} {op.symbol} {right.name}"
  | .negationOverflow => "integer overflow"
  | .cannotNegate kind => s!"cannot negate {kind.name}"
  | .arithmetic op a b =>
    s!"integer {op.activity} failed: {Json.intText a} {op.symbol} {Json.intText b}"
  | .unknownFunction name => s!"unknown function: {name}"
  | .argumentCount function expected actual =>
    s!"{function}() requires {expected} argument(s), got {actual}"
  | .noFunctionOverload function args =>
    let kinds := String.intercalate ", " (args.map Json.Kind.name)
    s!"no such overload: {function}({kinds})"
  | .intOutOfRange x => s!"int: {Decimal.plain.render x} is out of range"
  | .cannotConvert function text => s!"{function}: cannot convert {Text.quoted text}"
  | .invalidJson text => s!"parseJson: invalid JSON {Text.quoted text}: {detail}"
  | .invalidPattern text => s!"matches: invalid pattern {Text.quoted text}: {detail}"

def EvalError.message (e : EvalError) : String := s!"evaluation error: {e.cause}"

/-- A failure of a whole expression, with its text. -/
inductive Error where
  | parse (text : String) (error : ParseError)
  | eval (text : String) (error : EvalError)
  | notBool (text : String) (kind : Json.Kind)
  deriving DecidableEq

def Error.message : Error → String
  | .parse text e => s!"failed to parse expression {Text.quoted text}: {e.message}"
  | .eval text e => s!"failed to evaluate expression {Text.quoted text}: {e.message}"
  | .notBool text kind => s!"condition {Text.quoted text} evaluated to {kind.name}, expected bool"

end TaskGraph.Expr
