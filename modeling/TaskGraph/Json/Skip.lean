import TaskGraph.Json.Parser

/-!
# Skipping JSON text

A value that nobody asks for is passed over and not read. Its text has to be well formed, but may
nest to any depth, and its numbers and escapes need not stand for anything.
-/

namespace TaskGraph.Json

/-- What follows the closing quote of a string whose opening quote is read. -/
def afterString : List Char → Option (List Char)
  | [] => none
  | '"' :: rest => some rest
  | '\\' :: 'u' :: a :: b :: c :: d :: rest =>
    if (hexQuad? a b c d).isSome then afterString rest else none
  | '\\' :: c :: rest => if (simpleEscape? c).isSome then afterString rest else none
  | c :: rest => if c.toNat < 32 ∨ c = '\\' then none else afterString rest

def afterScalar : List Char → Option (List Char)
  | 'n' :: 'u' :: 'l' :: 'l' :: rest => some rest
  | 't' :: 'r' :: 'u' :: 'e' :: rest => some rest
  | 'f' :: 'a' :: 'l' :: 's' :: 'e' :: rest => some rest
  | '"' :: rest => afterString rest
  | s => (numberText? s).map (·.2)

/-- What follows the key of a field and its colon. -/
def afterKey (s : List Char) : Option (List Char) :=
  match skipBlank s with
  | '"' :: rest => (afterString rest).bind colon
  | _ => none

inductive Container where
  | array
  | object
  deriving DecidableEq

/-- A place in a text, inside containers that are still open. -/
inductive Place where
  | value
  | field
  | afterValue
  deriving DecidableEq

/-- What follows the value that is being read. `fuel` bounds the steps; the innermost open
container is the first of `within`. -/
def skipFrom (fuel : Nat) (place : Place) (within : List Container) (s : List Char) :
    Option (List Char) :=
  match fuel with
  | 0 => none
  | fuel + 1 =>
    match place with
    | .value =>
      match skipBlank s with
      | '[' :: rest =>
        match skipBlank rest with
        | ']' :: rest => skipFrom fuel .afterValue within rest
        | _ => skipFrom fuel .value (.array :: within) rest
      | '{' :: rest =>
        match skipBlank rest with
        | '}' :: rest => skipFrom fuel .afterValue within rest
        | _ => skipFrom fuel .field (.object :: within) rest
      | s =>
        match afterScalar s with
        | none => none
        | some rest => skipFrom fuel .afterValue within rest
    | .field =>
      match afterKey s with
      | none => none
      | some rest => skipFrom fuel .value within rest
    | .afterValue =>
      match within with
      | [] => some s
      | container :: outer =>
        match container, skipBlank s with
        | .array, ',' :: rest => skipFrom fuel .value within rest
        | .array, ']' :: rest => skipFrom fuel .afterValue outer rest
        | .object, ',' :: rest => skipFrom fuel .field within rest
        | .object, '}' :: rest => skipFrom fuel .afterValue outer rest
        | _, _ => none

end TaskGraph.Json
