import TaskGraph.Expr.Lexer
import TaskGraph.Expr.Syntax

/-!
# Reading expressions

From loosest to tightest: the conditional, nested to the right; six levels of binary operators,
nested to the left; the prefix operators; member access, method calls and indexing; and the
primaries. Lists, maps and arguments allow a comma after their last part. Positions count tokens.
-/

namespace TaskGraph.Expr

inductive ParseFault where
  | lex (fault : LexFault)
  | empty
  | unexpected (token : Token)
  | expected (what : String)
  /-- Never reported: a parse has as much fuel as its tokens need. -/
  | exhausted
  deriving DecidableEq

structure ParseError where
  fault : ParseFault
  position : Nat
  deriving DecidableEq

def ParseFault.message : ParseFault → String
  | .lex fault => fault.message
  | .empty => "empty expression"
  | .unexpected token => s!"unexpected token: {token.display}"
  | .expected what => s!"expected {what}"
  | .exhausted => "expression too deep"

def ParseError.message (e : ParseError) : String :=
  s!"parse error at position {e.position}: {e.fault.message}"

/-- The tokens that are left and the number of tokens taken. -/
structure Cursor where
  rest : List Token
  position : Nat
  deriving DecidableEq

namespace Cursor

/-- The next token; past the last one there is only `eof`. -/
def peek (c : Cursor) : Token := c.rest.headD .eof

def advance (c : Cursor) : Cursor := ⟨c.rest.tail, c.position + 1⟩

def fail (c : Cursor) (fault : ParseFault) : Except ParseError α := .error ⟨fault, c.position⟩

def expect (c : Cursor) (token : Token) (what : String) : Except ParseError Cursor :=
  if c.peek = token then .ok c.advance else c.fail (.expected what)

end Cursor

/-- The binary operators, by level from the loosest, level zero, to the tightest, level five. -/
def operator? : Nat → Token → Option BinaryOp
  | 0, .or => some .or
  | 1, .and => some .and
  | 2, .eq => some .eq
  | 2, .ne => some .ne
  | 3, .lt => some .lt
  | 3, .le => some .le
  | 3, .gt => some .gt
  | 3, .ge => some .ge
  | 3, .in => some .in
  | 4, .plus => some .add
  | 4, .minus => some .sub
  | 5, .star => some .mul
  | 5, .slash => some .div
  | 5, .percent => some .mod
  | _, _ => none

def levels : Nat := 6

def prefixOp? : Token → Option UnaryOp
  | .not => some .not
  | .minus => some .neg
  | _ => none

def literal? : Token → Option Expr
  | .null => some .null
  | .true => some (.bool Bool.true)
  | .false => some (.bool Bool.false)
  | .int n => some (.int n)
  | .double x => some (.double x)
  | .string s => some (.string s)
  | _ => none

def mapKey? : Token → Option String
  | .string s => some s
  | .identifier s => some s
  | _ => none

namespace Parse

mutual

def conditional (fuel : Nat) (c : Cursor) : Except ParseError (Expr × Cursor) :=
  match fuel with
  | 0 => c.fail .exhausted
  | fuel + 1 => do
    let (condition, c) ← binary fuel 0 c
    if c.peek = .question then
      let (yes, c) ← conditional fuel c.advance
      let c ← c.expect .colon "':' in ternary expression"
      let (no, c) ← conditional fuel c
      return (.ternary condition yes no, c)
    else return (condition, c)

/-- An operand of the given level, and the operators of that level after it. -/
def binary (fuel level : Nat) (c : Cursor) : Except ParseError (Expr × Cursor) :=
  match fuel with
  | 0 => c.fail .exhausted
  | fuel + 1 =>
    if level < levels then do
      let (left, c) ← binary fuel (level + 1) c
      binaryRest fuel level left c
    else unary fuel c

def binaryRest (fuel level : Nat) (left : Expr) (c : Cursor) :
    Except ParseError (Expr × Cursor) :=
  match fuel with
  | 0 => c.fail .exhausted
  | fuel + 1 =>
    match operator? level c.peek with
    | none => .ok (left, c)
    | some op => do
      let (right, c) ← binary fuel (level + 1) c.advance
      binaryRest fuel level (.binary op left right) c

def unary (fuel : Nat) (c : Cursor) : Except ParseError (Expr × Cursor) :=
  match fuel with
  | 0 => c.fail .exhausted
  | fuel + 1 =>
    match prefixOp? c.peek with
    | none => do
      let (object, c) ← primary fuel c
      accesses fuel object c
    | some op => do
      let (operand, c) ← unary fuel c.advance
      return (.unary op operand, c)

/-- The accesses after an object. A token that should be a member's name is passed before it is
refused. -/
def accesses (fuel : Nat) (object : Expr) (c : Cursor) : Except ParseError (Expr × Cursor) :=
  match fuel with
  | 0 => c.fail .exhausted
  | fuel + 1 =>
    match c.peek with
    | .dot =>
      let name := c.advance
      let c := name.advance
      match name.peek with
      | .identifier property =>
        if c.peek = .openParen then do
          let (args, c) ← sequence fuel .closeParen c.advance
          let c ← c.expect .closeParen "')'"
          accesses fuel (.call property (object :: args)) c
        else accesses fuel (.member object property) c
      | _ => c.fail (.expected "property name after '.'")
    | .openBracket => do
      let (subscript, c) ← conditional fuel c.advance
      let c ← c.expect .closeBracket "']'"
      accesses fuel (.index object subscript) c
    | _ => .ok (object, c)

def primary (fuel : Nat) (c : Cursor) : Except ParseError (Expr × Cursor) :=
  match fuel with
  | 0 => c.fail .exhausted
  | fuel + 1 =>
    match literal? c.peek, c.peek with
    | some e, _ => .ok (e, c.advance)
    | none, .identifier name =>
      let c := c.advance
      if c.peek = .openParen then do
        let (args, c) ← sequence fuel .closeParen c.advance
        let c ← c.expect .closeParen "')'"
        return (.call name args, c)
      else .ok (.ident name, c)
    | none, .openParen => do
      let (e, c) ← conditional fuel c.advance
      let c ← c.expect .closeParen "')'"
      return (e, c)
    | none, .openBracket => do
      let (items, c) ← sequence fuel .closeBracket c.advance
      let c ← c.expect .closeBracket "']'"
      return (.list items, c)
    | none, .openBrace => do
      let (fields, c) ← mapFields fuel c.advance
      let c ← c.expect .closeBrace "'\x7d'"
      return (.map fields, c)
    | none, token => c.fail (.unexpected token)

/-- Expressions with commas between them, up to but without the closing token. -/
def sequence (fuel : Nat) (close : Token) (c : Cursor) : Except ParseError (List Expr × Cursor) :=
  match fuel with
  | 0 => c.fail .exhausted
  | fuel + 1 =>
    if c.peek = close then .ok ([], c)
    else do
      let (item, c) ← conditional fuel c
      if c.peek = .comma then
        let (items, c) ← sequence fuel close c.advance
        return (item :: items, c)
      else return ([item], c)

/-- The fields of a map, up to but without the closing brace. A token that should be a key is passed
before it is refused. -/
def mapFields (fuel : Nat) (c : Cursor) : Except ParseError (List (String × Expr) × Cursor) :=
  match fuel with
  | 0 => c.fail .exhausted
  | fuel + 1 =>
    if c.peek = .closeBrace then .ok ([], c)
    else
      match mapKey? c.peek with
      | none => c.advance.fail (.expected "map key")
      | some key => do
        let c ← c.advance.expect .colon "':' after map key"
        let (value, c) ← conditional fuel c
        if c.peek = .comma then
          let (fields, c) ← mapFields fuel c.advance
          return ((key, value) :: fields, c)
        else return ([(key, value)], c)

end

end Parse

/-- Reads a whole list of tokens. Between two tokens taken, a parse descends at most through the
levels once, which bounds the fuel it needs. -/
def ofTokens (tokens : List Token) : Except ParseError Expr := do
  let start : Cursor := ⟨tokens, 0⟩
  if start.peek = .eof then start.fail .empty
  else
    let (e, c) ← Parse.conditional (12 * (tokens.length + 2)) start
    if c.peek = .eof then return e else c.fail (.unexpected c.peek)

def parse (text : String) : Except ParseError Expr :=
  match tokenize text with
  | .ok tokens => ofTokens tokens
  | .error e => .error ⟨.lex e.fault, e.position⟩

end TaskGraph.Expr
