import TaskGraph.Decimal.Layout
import TaskGraph.Json.Printer
import TaskGraph.Text.Quoted

/-!
# Tokens of expressions
-/

namespace TaskGraph.Expr

inductive Token where
  | null
  | true
  | false
  | int (value : Int)
  | double (value : Float)
  | string (value : String)
  | identifier (name : String)
  | plus
  | minus
  | star
  | slash
  | percent
  | eq
  | ne
  | lt
  | le
  | gt
  | ge
  | and
  | or
  | not
  | in
  | dot
  | comma
  | colon
  | question
  | openParen
  | closeParen
  | openBracket
  | closeBracket
  | openBrace
  | closeBrace
  | eof
  deriving DecidableEq, Inhabited

/-- How messages show a token. -/
def Token.display : Token → String
  | .null => "null"
  | .true => "true"
  | .false => "false"
  | .int n => Json.intText n
  | .double x => Decimal.plain.render x
  | .string s => Text.quoted s
  | .identifier s => s
  | .plus => "+"
  | .minus => "-"
  | .star => "*"
  | .slash => "/"
  | .percent => "%"
  | .eq => "=="
  | .ne => "!="
  | .lt => "<"
  | .le => "<="
  | .gt => ">"
  | .ge => ">="
  | .and => "&&"
  | .or => "||"
  | .not => "!"
  | .in => "in"
  | .dot => "."
  | .comma => ","
  | .colon => ":"
  | .question => "?"
  | .openParen => "("
  | .closeParen => ")"
  | .openBracket => "["
  | .closeBracket => "]"
  | .openBrace => "\x7b"
  | .closeBrace => "\x7d"
  | .eof => "EOF"

end TaskGraph.Expr
