import TaskGraph.Yaml.Basic
import TaskGraph.Yaml.Cursor

/-!
# The text of scalars

Plain, quoted and block scalars. Each reader starts at the scalar's first character and returns the
text and the place behind it. A fuel above the length of what is left is enough for all of them.
-/

namespace TaskGraph.Yaml

/-! ## Plain scalars -/

def isFlowMark (c : Char) : Bool :=
  c = ',' || c = '[' || c = ']' || c = '\x7b' || c = '\x7d'

/-- The characters of a plain scalar up to the next white space or its end: a colon with white space
behind it or, inside a flow collection, a flow mark. A colon right before a mark is refused there.
-/
def plainChunk (flow : Bool) : List Char → Option (List Char)
  | [] => some []
  | c :: rest =>
    if isSpace c then some []
    else if flow && c = ':' && rest.head?.any (fun next => isFlowMark next || next = '?') then none
    else if c = ':' && rest.head?.all isSpace || flow && isFlowMark c then some []
    else (plainChunk flow rest).map (c :: ·)

/-- Whether one of the lines that begin in the white space ahead has a tab before column `inner`. -/
def tabIndented (inner : Nat) (wrapped : Bool) (column : Nat) : List Char → Bool
  | [] => false
  | c :: rest =>
    if isBreak c then tabIndented inner true 0 rest
    else if isBlank c then
      wrapped && c = '\t' && column < inner || tabIndented inner wrapped (column + 1) rest
    else false

/-- A plain scalar and the gap behind it. -/
structure PlainText where
  chars : List Char
  /-- Whether the gap holds a line end. -/
  wraps : Bool
  after : Cursor

/-- The part of a plain scalar that begins after `gap`. In block style a line that begins before
column `inner` ends it. -/
def plainText (fuel : Nat) (flow : Bool) (inner : Nat) (gap : Gap) (c : Cursor) :
    Option PlainText :=
  match fuel with
  | 0 => none
  | fuel + 1 =>
    if gap.wraps && !flow && c.column < inner || c.atDocumentMark || c.rest.head? = some '#' then
      some ⟨[], gap.wraps, c⟩
    else do
      let chunk ← plainChunk flow c.rest
      if chunk.isEmpty then return ⟨[], gap.wraps, c⟩
      let behind := c.skip chunk.length
      if tabIndented inner false 0 behind.rest then none
      let (next, after) := behind.gap
      let part ← plainText fuel flow inner next after
      return { part with chars := gap.text ++ chunk ++ part.chars }

/-! ## Quoted scalars -/

/-- What a character after a backslash stands for. -/
def escape? : Char → Option Char
  | '0' => some '\x00'
  | 'a' => some '\x07'
  | 'b' => some '\x08'
  | 't' | '\t' => some '\t'
  | 'n' => some '\n'
  | 'v' => some '\x0b'
  | 'f' => some '\x0c'
  | 'r' => some '\r'
  | 'e' => some '\x1b'
  | ' ' => some ' '
  | '"' => some '"'
  | '/' => some '/'
  | '\\' => some '\\'
  | 'N' => some '\u0085'
  | '_' => some '\u00a0'
  | 'L' => some '\u2028'
  | 'P' => some '\u2029'
  | _ => none

/-- How many hexadecimal digits follow a character after a backslash. -/
def codeSize? : Char → Option Nat
  | 'x' => some 2
  | 'u' => some 4
  | 'U' => some 8
  | _ => none

/-- The character of an escape after its backslash, and how many characters name it. -/
def escaped? : List Char → Option (Char × Nat)
  | [] => none
  | c :: rest =>
    match codeSize? c with
    | none => (escape? c).map fun e => (e, 1)
    | some size => do
      let code ← radixNat? 16 (rest.take size)
      if (rest.take size).length = size ∧ code.isValidChar then some (Char.ofNat code, size + 1)
      else none

/-- The text of a quoted scalar behind its opening quote. No line of it may be a document mark. In
double quotes a backslash at a line's end joins it with the next one. -/
def quotedPart (fuel : Nat) (double : Bool) (c : Cursor) : Option (List Char × Cursor) :=
  match fuel with
  | 0 => none
  | fuel + 1 =>
    let continueAt (head : List Char) (c : Cursor) :=
      if c.atDocumentMark then none
      else (quotedPart fuel double c).map fun (body, after) => (head ++ body, after)
    match c.rest with
    | [] => none
    | ch :: rest =>
      if isSpace ch then
        let (gap, after) := c.gap
        continueAt gap.text after
      else if double && ch = '\\' then
        if rest.head?.any isBreak then
          let (gap, after) := (c.skip 2).gap
          continueAt gap.breaks after
        else do
          let (e, size) ← escaped? rest
          continueAt [e] (c.skip (size + 1))
      else if !double && ch = '\'' && rest.head? = some '\'' then continueAt ['\''] (c.skip 2)
      else if ch = (if double then '"' else '\'') then some ([], c.advance)
      else continueAt [ch] c.advance

def quotedText (fuel : Nat) (double : Bool) (c : Cursor) : Option (List Char × Cursor) :=
  quotedPart fuel double c.advance

/-! ## Block scalars -/

/-- What becomes of the line ends at the end of a block scalar: none, the first or all are kept. -/
inductive Chomping where
  | strip | clip | keep
  deriving DecidableEq

def chomping? : Char → Option Chomping
  | '-' => some .strip
  | '+' => some .keep
  | _ => none

/-- How far in a block scalar stands from what it belongs to. -/
def blockStep? (c : Char) : Option Nat :=
  if c.isDigit && c ≠ '0' then some (c.toNat - '0'.toNat) else none

/-- The marks after a block scalar's first character. -/
def blockMarks? : List Char → Option (Chomping × Option Nat)
  | [] => some (.clip, none)
  | [m] => (chomping? m).map (·, none) <|> (blockStep? m).map fun n => (.clip, some n)
  | [m, n] =>
    (do return (← chomping? m, some (← blockStep? n))) <|>
      (do return (← chomping? n, some (← blockStep? m)))
  | _ => none

/-- The marks of a block scalar and the start of the line below them. -/
def blockHeader? (c : Cursor) : Option (Chomping × Option Nat × Cursor) := do
  let marks := (c.rest.take 2).takeWhile fun m => m.isDigit || (chomping? m).isSome
  let (chomping, step) ← blockMarks? marks
  let c := (c.skip marks.length).skipComment
  if c.atLineEnd then some (chomping, step, c.advance) else none

/-- Empty lines inside a block scalar. -/
structure EmptyLines where
  breaks : List Char
  /-- The column of the line that has the most blanks. -/
  widest : Nat
  after : Cursor

/-- Passes the empty lines ahead, and at the line behind them the blanks before column `indent`. An
indent that is not known yet takes all blanks. A tab cannot indent. -/
def emptyLines (fuel : Nat) (indent : Option Nat) (c : Cursor) : Option EmptyLines :=
  match fuel with
  | 0 => none
  | fuel + 1 => do
    let blanks := (c.rest.takeWhile (· = ' ')).length
    let c := c.skip ((indent.map fun n => min blanks (n - c.column)).getD blanks)
    if indent.all (c.column < ·) && c.rest.head? = some '\t' then none
    match c.rest with
    | [] => return ⟨[], c.column, c⟩
    | ch :: _ =>
      if isBreak ch then
        let more ← emptyLines fuel indent c.advance
        return { more with breaks := ch :: more.breaks, widest := max c.column more.widest }
      else return ⟨[], c.column, c⟩

/-- What stands between two lines of a block scalar. -/
structure LineJoint where
  /-- The end of the line before, if there is one. -/
  first : List Char
  /-- The empty lines. -/
  more : List Char
  /-- Whether the line before begins with a blank. -/
  indented : Bool

/-- A folded scalar joins two lines by a blank, unless one of them begins with a blank or empty
lines stand between them. -/
def LineJoint.text (j : LineJoint) (folded indented : Bool) : List Char :=
  if folded && j.first = ['\n'] && !j.indented && !indented then
    if j.more.isEmpty then [' '] else j.more
  else j.first ++ j.more

def LineJoint.tail (j : LineJoint) : Chomping → List Char
  | .strip => []
  | .clip => j.first
  | .keep => j.first ++ j.more

/-- The lines of a block scalar, all of which begin at column `indent`. -/
def blockLines (fuel : Nat) (folded : Bool) (chomping : Chomping) (indent : Nat) (joint : LineJoint)
    (c : Cursor) : Option (List Char × Cursor) :=
  match fuel with
  | 0 => none
  | fuel + 1 =>
    if c.column = indent && !c.atEnd then do
      let indented := c.rest.head?.any isBlank
      let line := c.rest.takeWhile (!isBreak ·)
      let behind := c.skipLine
      let gap ← emptyLines fuel (some indent) behind.advance
      let (text, after) ← blockLines fuel folded chomping indent
        ⟨behind.rest.take 1, gap.breaks, indented⟩ gap.after
      return (joint.text folded indented ++ line ++ text, after)
    else some (joint.tail chomping, c)

/-- A block scalar inside a collection at `parent`. If no mark says how far in it stands, its first
line that is not empty does. -/
def blockText (fuel : Nat) (folded : Bool) (parent : Option Nat) (c : Cursor) :
    Option (List Char × Cursor) := do
  let (chomping, step, c) ← blockHeader? c.advance
  let known := step.map (parent.getD 0 + ·)
  let gap ← emptyLines fuel known c
  let inner := (parent.map (· + 1)).getD 0
  let indent := known.getD (max (max gap.widest inner) 1)
  blockLines fuel folded chomping indent ⟨[], gap.breaks, false⟩ gap.after

end TaskGraph.Yaml
