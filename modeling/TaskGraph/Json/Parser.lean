import TaskGraph.Json.Number

/-!
# Reading JSON text

The grammar is strict: no comments, trailing commas, leading zeros, raw control characters in
strings or escapes of half a surrogate pair. Arrays and objects nest at most 127 deep.
-/

namespace TaskGraph.Json

def isBlank (c : Char) : Bool := c = ' ' || c = '\t' || c = '\n' || c = '\r'

def skipBlank (s : List Char) : List Char := s.dropWhile isBlank

def hexDigit? (c : Char) : Option Nat :=
  if '0' ≤ c ∧ c ≤ '9' then some (c.toNat - '0'.toNat)
  else if 'a' ≤ c ∧ c ≤ 'f' then some (c.toNat - 'a'.toNat + 10)
  else if 'A' ≤ c ∧ c ≤ 'F' then some (c.toNat - 'A'.toNat + 10)
  else none

def hexQuad? (a b c d : Char) : Option Nat := do
  return ((← hexDigit? a) * 16 + (← hexDigit? b)) * 256 + (← hexDigit? c) * 16 + (← hexDigit? d)

def isHighSurrogate (n : Nat) : Bool := decide (0xd800 ≤ n ∧ n < 0xdc00)

def isLowSurrogate (n : Nat) : Bool := decide (0xdc00 ≤ n ∧ n < 0xe000)

/-- What a character after a backslash stands for. -/
def simpleEscape? : Char → Option Char
  | '"' => some '"'
  | '\\' => some '\\'
  | '/' => some '/'
  | 'b' => some '\x08'
  | 'f' => some '\x0c'
  | 'n' => some '\n'
  | 'r' => some '\r'
  | 't' => some '\t'
  | _ => none

/-- The rest of a string after its opening quote, and what follows the closing one. -/
def stringBody : List Char → Option (List Char × List Char)
  | [] => none
  | '"' :: rest => some ([], rest)
  | '\\' :: 'u' :: a :: b :: c :: d :: '\\' :: 'u' :: e :: f :: g :: h :: rest =>
    match hexQuad? a b c d with
    | none => none
    | some first =>
      if isHighSurrogate first then
        match hexQuad? e f g h with
        | none => none
        | some second =>
          if isLowSurrogate second then
            let code := 0x10000 + (first - 0xd800) * 0x400 + (second - 0xdc00)
            (stringBody rest).map fun (cs, r) => (Char.ofNat code :: cs, r)
          else none
      else if isLowSurrogate first then none
      else
        (stringBody ('\\' :: 'u' :: e :: f :: g :: h :: rest)).map
          fun (cs, r) => (Char.ofNat first :: cs, r)
  | '\\' :: 'u' :: a :: b :: c :: d :: rest =>
    match hexQuad? a b c d with
    | none => none
    | some code =>
      if isHighSurrogate code || isLowSurrogate code then none
      else (stringBody rest).map fun (cs, r) => (Char.ofNat code :: cs, r)
  | '\\' :: c :: rest =>
    match simpleEscape? c with
    | none => none
    | some c => (stringBody rest).map fun (cs, r) => (c :: cs, r)
  | c :: rest =>
    if c.toNat < 32 ∨ c = '\\' then none
    else (stringBody rest).map fun (cs, r) => (c :: cs, r)

/-- The digits before the point: a single zero, or digits that do not begin with one. -/
def wholePart : List Char → Option (List Char × List Char)
  | '0' :: rest => if rest.head?.any Char.isDigit then none else some (['0'], rest)
  | s =>
    let digits := s.takeWhile Char.isDigit
    if digits.isEmpty then none else some (digits, s.dropWhile Char.isDigit)

/-- The digits after the point, if there is one. -/
def fractionPart : List Char → Option (List Char × List Char)
  | '.' :: rest =>
    let digits := rest.takeWhile Char.isDigit
    if digits.isEmpty then none else some (digits, rest.dropWhile Char.isDigit)
  | s => some ([], s)

/-- The parts of a number's text; the exponent is `none` if it has no mark. -/
structure NumberText where
  negative : Bool
  whole : List Char
  fraction : List Char
  exponent : Option Int

def numberText? (s : List Char) : Option (NumberText × List Char) := do
  let (negative, s) := match s with
    | '-' :: rest => (true, rest)
    | s => (false, s)
  let (whole, s) ← wholePart s
  let (fraction, s) ← fractionPart s
  match s with
  | 'e' :: rest | 'E' :: rest => do
    let (exponent, rest) ← exponentPart rest
    return (⟨negative, whole, fraction, some exponent⟩, rest)
  | s => return (⟨negative, whole, fraction, none⟩, s)

/-- The number of a text: an integer where it can be one. -/
def NumberText.value? (t : NumberText) : Option JsonNumber :=
  let integer :=
    if t.fraction.isEmpty && t.exponent.isNone then integer? t.negative (digitsValue t.whole)
    else none
  match integer with
  | some n => some (.int n)
  | none => floatLiteral? t.negative t.whole t.fraction (t.exponent.getD 0)

/-- A value that is no container. -/
def scalar : List Char → Option (Json × List Char)
  | 'n' :: 'u' :: 'l' :: 'l' :: rest => some (.null, rest)
  | 't' :: 'r' :: 'u' :: 'e' :: rest => some (.bool true, rest)
  | 'f' :: 'a' :: 'l' :: 's' :: 'e' :: rest => some (.bool false, rest)
  | '"' :: rest => (stringBody rest).map fun (cs, r) => (.str (String.ofList cs), r)
  | s => do
    let (t, rest) ← numberText? s
    return (.num (← t.value?), rest)

/-- The key of a field. -/
def key (s : List Char) : Option (String × List Char) :=
  match skipBlank s with
  | '"' :: rest => (stringBody rest).map fun (cs, r) => (String.ofList cs, r)
  | _ => none

def colon (s : List Char) : Option (List Char) :=
  match skipBlank s with
  | ':' :: rest => some rest
  | _ => none

mutual

/-- One value and what follows it. `fuel` bounds the steps and `depth` the nesting. -/
def value (fuel depth : Nat) (s : List Char) : Option (Json × List Char) :=
  match fuel with
  | 0 => none
  | fuel + 1 =>
    match skipBlank s with
    | '[' :: rest =>
      match depth with
      | 0 => none
      | depth + 1 =>
        match skipBlank rest with
        | ']' :: rest => some (.arr [], rest)
        | _ => (items fuel depth rest).map fun (js, r) => (.arr js, r)
    | '{' :: rest =>
      match depth with
      | 0 => none
      | depth + 1 =>
        match skipBlank rest with
        | '}' :: rest => some (.obj [], rest)
        | _ => (fields fuel depth rest).map fun (fs, r) => (.obj fs, r)
    | s => scalar s

/-- The items up to the closing bracket. -/
def items (fuel depth : Nat) (s : List Char) : Option (List Json × List Char) :=
  match fuel with
  | 0 => none
  | fuel + 1 =>
    match value fuel depth s with
    | none => none
    | some (j, rest) =>
      match skipBlank rest with
      | ',' :: rest => (items fuel depth rest).map fun (js, r) => (j :: js, r)
      | ']' :: rest => some ([j], rest)
      | _ => none

/-- The fields up to the closing brace. -/
def fields (fuel depth : Nat) (s : List Char) : Option (List (String × Json) × List Char) :=
  match fuel with
  | 0 => none
  | fuel + 1 =>
    match key s with
    | none => none
    | some (key, rest) =>
      match colon rest with
      | none => none
      | some rest =>
        match value fuel depth rest with
        | none => none
        | some (j, rest) =>
          match skipBlank rest with
          | ',' :: rest => (fields fuel depth rest).map fun (fs, r) => ((key, j) :: fs, r)
          | '}' :: rest => some ([(key, j)], rest)
          | _ => none

end

def maxDepth : Nat := 127

/-- Reads a whole text, keeping the fields of objects as they are written. -/
def document? (s : String) : Option Json :=
  let cs := s.toList
  match value (2 * cs.length + 2) maxDepth cs with
  | some (j, rest) => if (skipBlank rest).isEmpty then some j else none
  | none => none

/-- Reads a whole text as a value. -/
def parse? (s : String) : Option Json := (document? s).map normalize

end TaskGraph.Json
