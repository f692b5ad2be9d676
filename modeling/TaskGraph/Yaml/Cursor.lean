/-!
# Places in a YAML text

The grammar speaks of lines and columns: the column of a node decides what it belongs to. A place is
what is left of the text together with the line and the column where that starts.
-/

namespace TaskGraph.Yaml

/-- The characters that a text may hold, be it in a comment. -/
def isReadable (c : Char) : Bool :=
  c = '\t' || c = '\n' || c = '\r' || c = '\u0085' ||
    (' ' ≤ c && c ≤ '~') || ('\u00a0' ≤ c && c ≤ '\ufffd') || 0x10000 ≤ c.toNat

/-- A text with all its line ends written alike. -/
def unifyBreaks : List Char → List Char
  | [] => []
  | '\r' :: '\n' :: rest => '\n' :: unifyBreaks rest
  | c :: rest => (if c = '\r' || c = '\u0085' then '\n' else c) :: unifyBreaks rest

/-- Line and paragraph separators end a line too. -/
def isBreak (c : Char) : Bool := c = '\n' || c = '\u2028' || c = '\u2029'

def isBlank (c : Char) : Bool := c = ' ' || c = '\t'

def isSpace (c : Char) : Bool := isBlank c || isBreak c

structure Cursor where
  rest : List Char
  line : Nat
  column : Nat

namespace Cursor

/-- The start of a text, if all of it may be read. -/
def ofText? (text : String) : Option Cursor :=
  if text.toList.all isReadable then some ⟨unifyBreaks text.toList, 0, 0⟩ else none

def advance (c : Cursor) : Cursor :=
  match c.rest with
  | [] => c
  | ch :: rest => if isBreak ch then ⟨rest, c.line + 1, 0⟩ else ⟨rest, c.line, c.column + 1⟩

/-- Passes `n` characters. -/
def skip (c : Cursor) : Nat → Cursor
  | 0 => c
  | n + 1 => c.advance.skip n

def skipWhile (p : Char → Bool) (c : Cursor) : Cursor := c.skip (c.rest.takeWhile p).length

def skipBlanks (c : Cursor) : Cursor := c.skipWhile isBlank

/-- Passes the rest of the line but not its end. -/
def skipLine (c : Cursor) : Cursor := c.skipWhile (!isBreak ·)

/-- Passes blanks and a comment. -/
def skipComment (c : Cursor) : Cursor :=
  let c := c.skipBlanks
  if c.rest.head? = some '#' then c.skipLine else c

def atEnd (c : Cursor) : Bool := c.rest.isEmpty

def atLineEnd (c : Cursor) : Bool := c.rest.head?.all isBreak

/-- Whether a blank, a line end or nothing comes after `n` characters. -/
def separatedAfter (c : Cursor) (n : Nat) : Bool := (c.rest.drop n).head?.all isSpace

/-- Whether a line begins here with three times `ch`, alone or before a blank. -/
def atMarkOf (c : Cursor) (ch : Char) : Bool :=
  c.column = 0 && c.rest.take 3 = [ch, ch, ch] && c.separatedAfter 3

/-- Whether a document starts or ends here. -/
def atDocumentMark (c : Cursor) : Bool := c.atMarkOf '-' || c.atMarkOf '.'

end Cursor

/-- White space inside a scalar: the blanks before its first line end, and its line ends. -/
structure Gap where
  blanks : List Char
  breaks : List Char

namespace Gap

def empty : Gap := ⟨[], []⟩

/-- What a gap reads as: its blanks if it stays on the line, a blank if it is a single line end, and
else one line end less than it has. A separator is never left out. -/
def text (g : Gap) : List Char :=
  match g.breaks with
  | [] => g.blanks
  | ['\n'] => [' ']
  | '\n' :: more => more
  | breaks => breaks

def wraps (g : Gap) : Bool := !g.breaks.isEmpty

end Gap

/-- The gap at a place, and where it ends. -/
def Cursor.gap (c : Cursor) : Gap × Cursor :=
  let space := c.rest.takeWhile isSpace
  (⟨space.takeWhile isBlank, space.filter isBreak⟩, c.skip space.length)

end TaskGraph.Yaml
