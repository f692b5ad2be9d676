import TaskGraph.Text.Float

/-!
# Media types

What a `Content-Type` header says of a body: a type and a subtype, and for a subtype such as
`problem+json` the format it is written in. Parameters have to be well formed, but say nothing.
-/

namespace TaskGraph

structure MediaType where
  type : String
  subtype : String
  format : Option String
  deriving DecidableEq, Repr

namespace MediaType

def isTokenChar (c : Char) : Bool := c.isAlphanum || "!#$%&'*+-.^_`|~".toList.contains c

/-- The characters of a quoted value. -/
def isQuotable (c : Char) : Bool := decide (32 ≤ c.toNat ∧ c.toNat < 127)

/-- What follows the value of a parameter and its semicolon; empty at the end of the header. Without
quotes only the last value may be empty; in quotes there is one character at least, which may be a
quote itself. -/
def afterValue : List Char → Option (List Char)
  | '"' :: c :: rest =>
    if isQuotable c then
      match rest.dropWhile fun c => isQuotable c && c ≠ '"' with
      | '"' :: rest =>
        match rest.dropWhile (· = ' ') with
        | [] => some []
        | ';' :: rest => some rest
        | _ => none
      | _ => none
    else none
  | s =>
    match s.dropWhile isTokenChar with
    | [] => some []
    | ';' :: rest => if s.head?.any isTokenChar then some rest else none
    | _ => none

/-- Whether all parameters are well formed. `fuel` bounds their number. -/
def parametersValid (fuel : Nat) (s : List Char) : Bool :=
  match fuel with
  | 0 => false
  | fuel + 1 =>
    match s.dropWhile (· = ' ') with
    | [] => true
    | s =>
      match s.dropWhile isTokenChar with
      | '=' :: value => s.head?.any isTokenChar && (afterValue value).any (parametersValid fuel)
      | _ => false

/-- Splits a subtype at its last plus, unless nothing stands before it. -/
def splitFormat (subtype : List Char) : List Char × Option (List Char) :=
  let format := (subtype.reverse.takeWhile (· ≠ '+')).reverse
  match subtype.take (subtype.length - format.length - 1) with
  | [] => (subtype, none)
  | name => (name, some format)

/-- Letter case does not count. -/
def parse? (text : String) : Option MediaType :=
  let s := text.toList
  let type := s.takeWhile isTokenChar
  match type, s.dropWhile isTokenChar with
  | _ :: _, '/' :: rest =>
    let (subtype, format) := splitFormat (rest.takeWhile isTokenChar)
    let mediaType : MediaType :=
      ⟨Text.lowerAscii type, Text.lowerAscii subtype, format.map Text.lowerAscii⟩
    match rest.dropWhile isTokenChar with
    | [] => some mediaType
    | ';' :: parameters =>
      if rest.head?.any isTokenChar && parametersValid (parameters.length + 1) parameters then
        some mediaType
      else none
    | _ => none
  | _, _ => none

/-- Whether a body of this type is JSON text. -/
def isJson (t : MediaType) : Bool :=
  t.type = "application" && (t.subtype = "json" || t.format = some "json")

end MediaType

end TaskGraph
