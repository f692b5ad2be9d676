import TaskGraph.Json.Basic
import TaskGraph.Decimal.Layout

/-!
# JSON text

Compact text: no blanks, fields in the order they are held, and only quotes, backslashes and
control characters escaped.
-/

namespace TaskGraph.Json

def lowerHex (n : Nat) : List Char := Nat.toDigits 16 n

/-- The text of one character inside a string. -/
def escapeChar (c : Char) : List Char :=
  match c with
  | '"' => ['\\', '"']
  | '\\' => ['\\', '\\']
  | '\n' => ['\\', 'n']
  | '\r' => ['\\', 'r']
  | '\t' => ['\\', 't']
  | '\x08' => ['\\', 'b']
  | '\x0c' => ['\\', 'f']
  | c =>
    if c.toNat < 16 then '\\' :: 'u' :: '0' :: '0' :: '0' :: lowerHex c.toNat
    else if c.toNat < 32 then '\\' :: 'u' :: '0' :: '0' :: lowerHex c.toNat
    else [c]

def stringChars (s : String) : List Char := '"' :: s.toList.flatMap escapeChar ++ ['"']

def intChars (n : Int) : List Char :=
  if n < 0 then '-' :: Nat.toDigits 10 n.natAbs else Nat.toDigits 10 n.natAbs

def numberChars : JsonNumber → List Char
  | .int n => intChars n
  | .float x => (Decimal.json.render x).toList

mutual

def chars : Json → List Char
  | .null => ['n', 'u', 'l', 'l']
  | .bool true => ['t', 'r', 'u', 'e']
  | .bool false => ['f', 'a', 'l', 's', 'e']
  | .num n => numberChars n
  | .str s => stringChars s
  | .arr items => '[' :: itemsChars items ++ [']']
  | .obj fields => '{' :: fieldsChars fields ++ ['}']

def itemsChars : List Json → List Char
  | [] => []
  | [j] => chars j
  | j :: rest => chars j ++ ',' :: itemsChars rest

def fieldsChars : List (String × Json) → List Char
  | [] => []
  | [(key, j)] => stringChars key ++ ':' :: chars j
  | (key, j) :: rest => stringChars key ++ ':' :: chars j ++ ',' :: fieldsChars rest

end

def text (j : Json) : String := String.ofList j.chars

def numberText (n : JsonNumber) : String := String.ofList (numberChars n)

def intText (n : Int) : String := String.ofList (intChars n)

mutual

/-- Text over several lines, each level two blanks further in; empty containers stay on one line. -/
def prettyChars (indent : List Char) : Json → List Char
  | .arr [] => ['[', ']']
  | .arr items =>
    '[' :: prettyItems (' ' :: ' ' :: indent) items ++ '\n' :: indent ++ [']']
  | .obj [] => ['{', '}']
  | .obj fields =>
    '{' :: prettyFields (' ' :: ' ' :: indent) fields ++ '\n' :: indent ++ ['}']
  | j => chars j

def prettyItems (indent : List Char) : List Json → List Char
  | [] => []
  | [j] => '\n' :: indent ++ prettyChars indent j
  | j :: rest => '\n' :: indent ++ prettyChars indent j ++ ',' :: prettyItems indent rest

def prettyFields (indent : List Char) : List (String × Json) → List Char
  | [] => []
  | [(key, j)] => '\n' :: indent ++ stringChars key ++ ':' :: ' ' :: prettyChars indent j
  | (key, j) :: rest =>
    '\n' :: indent ++ stringChars key ++ ':' :: ' ' :: prettyChars indent j ++
      ',' :: prettyFields indent rest

end

def pretty (j : Json) : String := String.ofList (j.prettyChars [])

end TaskGraph.Json
