import TaskGraph.Yaml.Scalar
import TaskGraph.Yaml.Tag

/-!
# The tokens of a YAML text

Tokens make the structure explicit: where a block collection begins and ends, which the text shows
by indentation only, and what the keys of a mapping are, which the text shows by the colon behind
them. A token that may turn out to be the start of a key is remembered until the colon is found,
and then the token for the key is put before it.
-/

namespace TaskGraph.Yaml

inductive Token where
  | directive (d : Directive)
  | documentStart | documentEnd
  | blockSeq | blockMap | blockEnd
  | flowSeq | flowSeqEnd | flowMap | flowMapEnd
  | item | comma | key | value
  | reference (name : String)
  | anchor (name : String)
  | tag (name : TagName)
  | scalar (style : ScalarStyle) (text : String)

/-- A token that may be the start of a key. -/
structure PossibleKey where
  /-- Whether it stands where only a key of the block mapping around it can stand. -/
  required : Bool
  /-- The number of tokens before it. -/
  number : Nat
  line : Nat
  column : Nat

structure Scanner where
  place : Cursor
  tokens : Array Token := #[]
  /-- The columns of the block collections around the place, the innermost first. -/
  indents : List Nat := []
  /-- Whether a key may start at the place. -/
  keyAllowed : Bool := true
  key : Option PossibleKey := none
  /-- The possible keys outside each flow collection around the place. -/
  outer : List (Option PossibleKey) := []

namespace Scanner

def inFlow (s : Scanner) : Bool := !s.outer.isEmpty

/-- The first column that is inside the innermost block collection. -/
def inner (s : Scanner) : Nat :=
  match s.indents with
  | [] => 0
  | indent :: _ => indent + 1

def emit (t : Token) (s : Scanner) : Scanner := { s with tokens := s.tokens.push t }

/-- Emits a token of `n` characters. -/
def mark (t : Token) (n : Nat) (s : Scanner) : Scanner :=
  { s.emit t with place := s.place.skip n }

/-- Puts a token where there were `number` tokens. -/
def insert (number : Nat) (t : Token) (s : Scanner) : Scanner :=
  { s with tokens := s.tokens.insertIdxIfInBounds number t }

/-- Passes blanks, comments and line ends. Tabs cannot indent: outside flow collections they are
passed only where no key may start. A byte order mark may begin a line. -/
def skipSpace (fuel : Nat) (s : Scanner) : Scanner :=
  match fuel with
  | 0 => s
  | fuel + 1 =>
    match s.place.rest with
    | [] => s
    | c :: _ =>
      if c = ' ' || c = '\t' && (s.inFlow || !s.keyAllowed) ||
          c = '\ufeff' && s.place.column = 0 then
        skipSpace fuel { s with place := s.place.advance }
      else if c = '#' then skipSpace fuel { s with place := s.place.skipLine }
      else if isBreak c then
        skipSpace fuel { s with place := s.place.advance, keyAllowed := s.keyAllowed || !s.inFlow }
      else s

/-- A key has to end on its line and within 1024 characters. -/
def keyInReach? (c : Cursor) : Option PossibleKey → Option (Option PossibleKey)
  | none => some none
  | some k =>
    if k.line < c.line || k.column + 1024 < c.column then
      if k.required then none else some none
    else some (some k)

def dropStaleKeys (s : Scanner) : Option Scanner := do
  let key ← keyInReach? s.place s.key
  let outer ← s.outer.mapM (keyInReach? s.place)
  return { s with key, outer }

/-- Ends the block collections at column `column` and further in. -/
def endBlocks (column : Nat) (s : Scanner) : Scanner :=
  if s.inFlow then s
  else
    let ended := s.indents.takeWhile (column ≤ ·)
    { s with
      indents := s.indents.drop ended.length
      tokens := s.tokens ++ Array.replicate ended.length .blockEnd }

/-- Begins a block collection at column `column`, where there were `number` tokens, if it is further
in than the one around it. -/
def beginBlock (column number : Nat) (t : Token) (s : Scanner) : Scanner :=
  if s.inFlow || column < s.inner then s
  else { s.insert number t with indents := column :: s.indents }

def beginBlockHere (t : Token) (s : Scanner) : Scanner :=
  s.beginBlock s.place.column s.tokens.size t

/-- The possible key is none after all. -/
def forgetKey (s : Scanner) : Option Scanner :=
  if s.key.any (·.required) then none else some { s with key := none }

/-- The next token may be the start of a key. -/
def offerKey (s : Scanner) : Option Scanner :=
  if s.keyAllowed then do
    let s ← s.forgetKey
    let c := s.place
    let required := !s.inFlow && s.indents.head? = some c.column
    return { s with key := some ⟨required, s.tokens.size, c.line, c.column⟩ }
  else some s

/-- A token that may be a key or the start of one, and after which none may start. -/
def content (read : Cursor → Option (Token × Cursor)) (s : Scanner) : Option Scanner := do
  let s ← s.offerKey
  let (t, place) ← read s.place
  return { s.emit t with place, keyAllowed := false }

/-- A line that stands outside all block collections. -/
def outside (s : Scanner) : Option Scanner := do
  return { ← (s.endBlocks 0).forgetKey with keyAllowed := false }

def directive (fuel : Nat) (s : Scanner) : Option Scanner := do
  let s ← s.outside
  let (d, place) ← directive? fuel s.place
  return { s.emit (.directive d) with place }

def flowStart (t : Token) (s : Scanner) : Option Scanner := do
  let s ← s.offerKey
  return { s.mark t 1 with key := none, outer := s.key :: s.outer, keyAllowed := true }

def flowEnd (t : Token) (s : Scanner) : Option Scanner := do
  let s ← s.forgetKey
  return { s.mark t 1 with
    key := s.outer.head?.getD none, outer := s.outer.tail, keyAllowed := false }

def comma (s : Scanner) : Option Scanner := do
  return { (← s.forgetKey).mark .comma 1 with keyAllowed := true }

/-- The dash of an item. Inside flow collections it is read too, but belongs to nothing. -/
def item (s : Scanner) : Option Scanner := do
  if !s.inFlow && !s.keyAllowed then none
  return { (← (s.beginBlockHere .blockSeq).forgetKey).mark .item 1 with keyAllowed := true }

/-- The question mark of a key. -/
def explicitKey (s : Scanner) : Option Scanner := do
  if !s.inFlow && !s.keyAllowed then none
  return { (← (s.beginBlockHere .blockMap).forgetKey).mark .key 1 with keyAllowed := !s.inFlow }

/-- The colon before a value. If there is a possible key, that is its key. -/
def value (s : Scanner) : Option Scanner :=
  match s.key with
  | some k =>
    let s := (s.insert k.number .key).beginBlock k.column k.number .blockMap
    some { s.mark .value 1 with key := none, keyAllowed := false }
  | none =>
    if !s.inFlow && !s.keyAllowed then none
    else some { (s.beginBlockHere .blockMap).mark .value 1 with keyAllowed := !s.inFlow }

def quoted (fuel : Nat) (double : Bool) (s : Scanner) : Option Scanner :=
  s.content fun c => do
    let (text, after) ← quotedText fuel double c
    return (.scalar .quoted (String.ofList text), after)

def block (fuel : Nat) (folded : Bool) (s : Scanner) : Option Scanner := do
  let s ← s.forgetKey
  let (text, place) ← blockText fuel folded s.indents.head? s.place
  let style := if folded then ScalarStyle.folded else .literal
  return { s.emit (.scalar style (String.ofList text)) with place, keyAllowed := true }

/-- A plain scalar. If it ends with its line, a key may start behind it. -/
def plain (fuel : Nat) (s : Scanner) : Option Scanner := do
  let s ← s.offerKey
  let t ← plainText fuel s.inFlow s.inner .empty s.place
  return { s.emit (.scalar .plain (String.ofList t.chars)) with
    place := t.after, keyAllowed := t.wraps }

/-- Whether a plain scalar can start with `c`, before what comes after it. -/
def startsPlain (flow : Bool) (c : Char) (after : Option Char) : Bool :=
  match c with
  | '-' => !after.any isBlank
  | '?' | ':' => !flow && !after.all isSpace
  | _ => c ∉ [',', '[', ']', '\x7b', '\x7d', '#', '&', '*', '!', '|', '>', '\'', '"', '%', '@',
      '\x60'] && !isSpace c

/-- Reads the token that begins with `c`. -/
def token (fuel : Nat) (c : Char) (s : Scanner) : Option Scanner :=
  let separated := s.place.separatedAfter 1
  if c = '%' && s.place.column = 0 then s.directive fuel
  else if s.place.atMarkOf '-' then (·.mark .documentStart 3) <$> s.outside
  else if s.place.atMarkOf '.' then (·.mark .documentEnd 3) <$> s.outside
  else if c = '[' then s.flowStart .flowSeq
  else if c = '\x7b' then s.flowStart .flowMap
  else if c = ']' then s.flowEnd .flowSeqEnd
  else if c = '\x7d' then s.flowEnd .flowMapEnd
  else if c = ',' then s.comma
  else if c = '-' && separated then s.item
  else if c = '?' && (s.inFlow || separated) then s.explicitKey
  else if c = ':' && (s.inFlow || separated) then s.value
  else if c = '*' then s.content fun c =>
    (anchorName? c.advance).map fun (name, after) => (.reference name, after)
  else if c = '&' then s.content fun c =>
    (anchorName? c.advance).map fun (name, after) => (.anchor name, after)
  else if c = '!' then
    let flow := s.inFlow
    s.content fun c => (tagName? fuel flow c).map fun (name, after) => (.tag name, after)
  else if c = '|' && !s.inFlow then s.block fuel false
  else if c = '>' && !s.inFlow then s.block fuel true
  else if c = '\'' then s.quoted fuel false
  else if c = '"' then s.quoted fuel true
  else if startsPlain s.inFlow c (s.place.rest.drop 1).head? then s.plain fuel
  else none

/-- The tokens up to the end of the text. A fuel above the length of the text is enough. -/
def run (fuel : Nat) (s : Scanner) : Option (List Token) :=
  match fuel with
  | 0 => none
  | fuel + 1 => do
    let s ← (s.skipSpace (fuel + 1)).dropStaleKeys
    let s := s.endBlocks (s.place.column + 1)
    match s.place.rest with
    | [] => return (← (s.endBlocks 0).forgetKey).tokens.toList
    | c :: _ => run fuel (← s.token (fuel + 1) c)

end Scanner

def tokens? (text : String) : Option (List Token) := do
  let place ← Cursor.ofText? text
  Scanner.run (place.rest.length + 1) { place }

end TaskGraph.Yaml
