import TaskGraph.Expr.Token
import TaskGraph.Json.Parser
import TaskGraph.Unicode.Blank
import TaskGraph.Unicode.Letter

/-!
# Splitting expressions into tokens

Blanks separate tokens and mean nothing else. Positions are offsets in bytes of UTF-8.
-/

namespace TaskGraph.Expr

inductive LexFault where
  | expectedOperator (operator : String)
  | unexpectedCharacter (c : Char)
  | unterminatedString
  | invalidEscape (c : Char)
  | invalidNumber (text : String)
  deriving DecidableEq

structure LexError where
  fault : LexFault
  position : Nat
  deriving DecidableEq

def LexFault.message : LexFault → String
  | .expectedOperator operator => s!"expected '{operator}' operator"
  | .unexpectedCharacter c => s!"unexpected character: '{c}'"
  | .unterminatedString => "unterminated string"
  | .invalidEscape c => s!"invalid escape sequence: \\{c}"
  | .invalidNumber text => s!"invalid number: {text}"

def LexError.message (e : LexError) : String :=
  s!"lex error at position {e.position}: {e.fault.message}"

def byteLength : List Char → Nat
  | [] => 0
  | c :: s => c.utf8Size + byteLength s

namespace Token

def escape? : Char → Option Char
  | 'n' => some '\n'
  | 't' => some '\t'
  | 'r' => some '\r'
  | '\\' => some '\\'
  | '\'' => some '\''
  | '"' => some '"'
  | _ => none

/-- The rest of a string after its opening quote at `start`, and what follows the closing one.
`position` is the offset of the text that is left. -/
def scanString (quote : Char) (start position : Nat) :
    List Char → Except LexError (List Char × List Char)
  | [] => .error ⟨.unterminatedString, start⟩
  | '\\' :: rest =>
    match rest with
    | [] => .error ⟨.unterminatedString, start⟩
    | c :: rest =>
      match escape? c with
      | none => .error ⟨.invalidEscape c, position⟩
      | some e => do
        let (body, rest) ← scanString quote start (position + 1 + c.utf8Size) rest
        return (e :: body, rest)
  | c :: rest =>
    if c = quote then .ok ([], rest)
    else do
      let (body, rest) ← scanString quote start (position + c.utf8Size) rest
      return (c :: body, rest)

/-- A number starting at `position`. A point belongs to it only before a further digit, and an
integer has to fit 64 signed bits. -/
def scanNumber (position : Nat) (s : List Char) : Except LexError (Token × List Char) :=
  let whole := s.takeWhile Char.isDigit
  let rest := s.dropWhile Char.isDigit
  let fraction := match rest with
    | '.' :: tail => tail.takeWhile Char.isDigit
    | _ => []
  if fraction.isEmpty then
    let n := Json.digitsValue whole
    if n < int64Bound then .ok (.int n, rest)
    else .error ⟨.invalidNumber (String.ofList whole), position⟩
  else
    let x := Decimal.toFloat Bool.false ⟨Json.digitsValue (whole ++ fraction), -fraction.length⟩
    .ok (.double x, rest.drop (1 + fraction.length))

def isNameStart (c : Char) : Bool := c.isAlpha || c = '_'

def isNameRest (c : Char) : Bool := Unicode.isAlphanumeric c || c = '_'

/-- A word is a keyword or else a name. -/
def ofWord : String → Token
  | "null" => .null
  | "true" => .true
  | "false" => .false
  | "in" => .in
  | name => .identifier name

/-- The first token of a text that does not start with a blank, and what follows it. -/
def scan (position : Nat) : List Char → Except LexError (Token × List Char)
  | [] => .ok (.eof, [])
  | '+' :: rest => .ok (.plus, rest)
  | '-' :: rest => .ok (.minus, rest)
  | '*' :: rest => .ok (.star, rest)
  | '/' :: rest => .ok (.slash, rest)
  | '%' :: rest => .ok (.percent, rest)
  | '.' :: rest => .ok (.dot, rest)
  | ',' :: rest => .ok (.comma, rest)
  | ':' :: rest => .ok (.colon, rest)
  | '?' :: rest => .ok (.question, rest)
  | '(' :: rest => .ok (.openParen, rest)
  | ')' :: rest => .ok (.closeParen, rest)
  | '[' :: rest => .ok (.openBracket, rest)
  | ']' :: rest => .ok (.closeBracket, rest)
  | '\x7b' :: rest => .ok (.openBrace, rest)
  | '\x7d' :: rest => .ok (.closeBrace, rest)
  | '=' :: '=' :: rest => .ok (.eq, rest)
  | '=' :: _ => .error ⟨.expectedOperator "==", position⟩
  | '!' :: '=' :: rest => .ok (.ne, rest)
  | '!' :: rest => .ok (.not, rest)
  | '<' :: '=' :: rest => .ok (.le, rest)
  | '<' :: rest => .ok (.lt, rest)
  | '>' :: '=' :: rest => .ok (.ge, rest)
  | '>' :: rest => .ok (.gt, rest)
  | '&' :: '&' :: rest => .ok (.and, rest)
  | '&' :: _ => .error ⟨.expectedOperator "&&", position⟩
  | '|' :: '|' :: rest => .ok (.or, rest)
  | '|' :: _ => .error ⟨.expectedOperator "||", position⟩
  | c :: rest =>
    if c = '\'' ∨ c = '"' then do
      let (body, rest) ← scanString c position (position + 1) rest
      return (.string (String.ofList body), rest)
    else if c.isDigit then scanNumber position (c :: rest)
    else if isNameStart c then
      let word := c :: rest.takeWhile isNameRest
      .ok (ofWord (String.ofList word), rest.dropWhile isNameRest)
    else .error ⟨.unexpectedCharacter c, position⟩

/-- The tokens of a text at an offset, the last of them `eof`. Every other token takes at least one
character, so as many steps as there are characters suffice. -/
def scanAll (fuel position : Nat) (s : List Char) : Except LexError (List Token) :=
  let blanks := s.takeWhile Unicode.isBlank
  let s := s.dropWhile Unicode.isBlank
  let position := position + byteLength blanks
  match s, fuel with
  | [], _ | _, 0 => .ok [.eof]
  | s, fuel + 1 => do
    let (token, rest) ← scan position s
    let tokens ← scanAll fuel (position + byteLength s - byteLength rest) rest
    return token :: tokens

end Token

def tokenize (text : String) : Except LexError (List Token) :=
  let s := text.toList
  Token.scanAll s.length 0 s

end TaskGraph.Expr
