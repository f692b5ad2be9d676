import TaskGraph.Decimal.Layout
import TaskGraph.Placeholder

/-!
# Resource quantities

A quantity is an optional sign, a decimal number with digits on at least one side of its point, and
either an exponent or a unit.
-/

namespace TaskGraph.Quantity

def isDecimalUnit (c : Char) : Bool := "numkMGTPE".toList.contains c

def isBinaryUnit (c : Char) : Bool := "KMGTPE".toList.contains c

def dropSign : List Char → List Char
  | '+' :: rest | '-' :: rest => rest
  | rest => rest

def isDigits (s : List Char) : Bool := !s.isEmpty && s.all Char.isDigit

def isExponent : List Char → Bool
  | 'e' :: rest | 'E' :: rest => isDigits (dropSign rest)
  | _ => false

/-- What may follow the number: nothing, a unit or an exponent. -/
def isTail (s : List Char) : Bool :=
  match s with
  | [] => true
  | [c] => isDecimalUnit c
  | [c, 'i'] => isBinaryUnit c
  | _ => isExponent s

/-- What follows the number at the start. -/
def afterNumber? (s : List Char) : Option (List Char) :=
  let whole := s.takeWhile Char.isDigit
  match s.dropWhile Char.isDigit with
  | '.' :: rest =>
    if whole.isEmpty && (rest.takeWhile Char.isDigit).isEmpty then none
    else some (rest.dropWhile Char.isDigit)
  | rest => if whole.isEmpty then none else some rest

def isQuantity (s : List Char) : Bool := (afterNumber? (dropSign s)).any isTail

/-- A quantity without the blanks around it. -/
def parse (text : String) : Result String :=
  let trimmed := Text.trim text
  if isQuantity trimmed.toList then .ok trimmed else .fail (.invalidQuantity text)

/-- A number with a unit after it. -/
def ofFloat (value : Float) (unit : String) : String := Decimal.quantity.render value ++ unit

/-- An amount of a resource: the text of its field, or else its legacy number unless that is
zero. -/
def resource? (inputs : ExecutorInputs) (field : String) (legacy : Float) (unit : String) :
    Result (Option String) := do
  if !field.isEmpty then
    let text ← (Placeholder.resolve inputs field).within .podResource
    return some (← parse text)
  else if legacy == 0 then return none
  else return some (← parse (ofFloat legacy unit))

end TaskGraph.Quantity
