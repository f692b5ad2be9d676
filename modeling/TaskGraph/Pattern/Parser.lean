import TaskGraph.Pattern.Size
import TaskGraph.Json.Number
import TaskGraph.Json.Parser
import TaskGraph.Unicode.Letter

/-!
# Reading patterns

Literals, `.`, classes, groups, alternatives, repetition, anchors and flags. References back to a
group and looking around are not part of the language.
-/

namespace TaskGraph.Pattern

structure Flags where
  caseless : Bool := false
  dotAll : Bool := false
  multiLine : Bool := false
  /-- Whether lines may end with a carriage return. -/
  returns : Bool := false
  /-- Whether characters beyond ASCII are told apart. Without it nothing may match them. -/
  unicode : Bool := true
  /-- Whether blanks and comments in the pattern count for nothing. -/
  spaced : Bool := false

/-- Drops the blanks and comments at the start of a text. `fuel` bounds the number of comments. -/
def skipRemarks (fuel : Nat) (s : List Char) : List Char :=
  match fuel, s.dropWhile Unicode.isBlank with
  | fuel + 1, '#' :: rest => skipRemarks fuel ((rest.dropWhile (· ≠ '\n')).drop 1)
  | _, rest => rest

namespace Flags

/-- Takes the characters that differ in case only into a set. -/
def fold (f : Flags) (s : CharSet) : CharSet :=
  if !f.caseless then s
  else if f.unicode then .caseless s
  else .inter .ascii (.caseless s)

/-- All characters but those of a set, which need to be told apart from one another. -/
def negate? (f : Flags) (s : CharSet) : Option CharSet :=
  if f.unicode then some (.complement s) else none

def negateIf? (f : Flags) (negated : Bool) (s : CharSet) : Option CharSet :=
  if negated then f.negate? s else some s

/-- A set that is named by an escape. -/
def named (f : Flags) (s : CharSet) : CharSet := if f.unicode then s else .inter .ascii s

def accepts (f : Flags) (c : Char) : Bool := f.unicode || decide (c.toNat < 128)

/-- Everything that a dot stands for. -/
def dot? (f : Flags) : Option CharSet :=
  f.negate? <|
    if f.dotAll then .none
    else if f.returns then .union (.single '\r') (.single '\n')
    else .single '\n'

def lineStart (f : Flags) : Assertion :=
  if !f.multiLine then .textStart else if f.returns then .returnStart else .lineStart

def lineEnd (f : Flags) : Assertion :=
  if !f.multiLine then .textEnd else if f.returns then .returnEnd else .lineEnd

/-- What follows the first character of a text, from the next one that counts on. -/
def next (f : Flags) (s : List Char) : List Char := if f.spaced then skipRemarks s.length s else s

end Flags

/-- What a backslash and the characters after it stand for. -/
inductive Escape where
  | literal (c : Char)
  | set (s : CharSet)
  | assertion (a : Assertion)

def hexValue? (digits : List Char) : Option Nat :=
  if digits.isEmpty then none
  else digits.foldlM (fun n c => (Json.hexDigit? c).map (n * 16 + ·)) 0

def charOfCode? (n : Nat) : Option Char :=
  if n.isValidChar then some (Char.ofNat n) else none

/-- `size` hexadecimal digits. -/
def hexDigits (flags : Flags) : Nat → List Char → Option (List Char × List Char)
  | 0, s => some ([], s)
  | _ + 1, [] => none
  | size + 1, c :: rest => (hexDigits flags size (flags.next rest)).map fun (cs, r) => (c :: cs, r)

/-- Hexadecimal digits up to the closing brace. -/
def bracedDigits (flags : Flags) (fuel : Nat) (s : List Char) : Option (List Char × List Char) :=
  match fuel, s with
  | 0, _ | _, [] => none
  | fuel + 1, c :: rest =>
    let rest := flags.next rest
    if c = '\x7d' then some ([], rest)
    else (bracedDigits flags fuel rest).map fun (cs, r) => (c :: cs, r)

/-- The character of an escape by code: `size` hexadecimal digits, or any number in braces. -/
def codeEscape (flags : Flags) (size : Nat) (s : List Char) : Option (Escape × List Char) := do
  let (digits, rest) ← match flags.next s with
    | '\x7b' :: rest => bracedDigits flags (rest.length + 1) (flags.next rest)
    | s => hexDigits flags size s
  return (.literal (← charOfCode? (← hexValue? digits)), rest)

def isEdgeNameChar (c : Char) : Bool := c.isAlpha || c = '-'

def edgeNamed? : String → Option WordEdge
  | "start" => some .start
  | "end" => some .stop
  | "start-half" => some .startHalf
  | "end-half" => some .stopHalf
  | _ => none

/-- The letters of a name, and what follows them. -/
def edgeName (flags : Flags) (fuel : Nat) (s : List Char) : List Char × List Char :=
  match fuel, s with
  | fuel + 1, c :: rest =>
    if isEdgeNameChar c then (edgeName flags fuel (flags.next rest)).map (c :: ·) id else ([], s)
  | _, s => ([], s)

/-- The edge of a word that is named in braces after `\b`. A brace without a name belongs to a
repetition. -/
def wordEdge (flags : Flags) (s : List Char) : Option (WordEdge × List Char) :=
  match s with
  | '\x7b' :: rest =>
    match flags.next rest with
    | [] => none
    | c :: inside =>
      if isEdgeNameChar c then
        match edgeName flags s.length (c :: inside) with
        | (name, '\x7d' :: rest) => (edgeNamed? (String.ofList name)).map (·, rest)
        | _ => none
      else some (.boundary, s)
  | s => some (.boundary, s)

def escape (flags : Flags) : List Char → Option (Escape × List Char)
  | [] => none
  | c :: rest =>
    let letters := flags.named .word
    match c with
    | 'd' => some (.set (flags.named .digit), rest)
    | 'D' => (flags.negate? .digit).map (.set ·, rest)
    | 's' => some (.set (flags.named .blank), rest)
    | 'S' => (flags.negate? .blank).map (.set ·, rest)
    | 'w' => some (.set letters, rest)
    | 'W' => (flags.negate? .word).map (.set ·, rest)
    | 'A' => some (.assertion .textStart, rest)
    | 'z' => some (.assertion .textEnd, rest)
    | 'b' => (wordEdge flags rest).map fun (edge, rest) => (.assertion (.word edge letters), rest)
    | 'B' => some (.assertion (.word .inside letters), rest)
    | '<' => some (.assertion (.word .start letters), rest)
    | '>' => some (.assertion (.word .stop letters), rest)
    | 'a' => some (.literal '\x07', rest)
    | 'f' => some (.literal '\x0c', rest)
    | 't' => some (.literal '\t', rest)
    | 'n' => some (.literal '\n', rest)
    | 'r' => some (.literal '\r', rest)
    | 'v' => some (.literal '\x0b', rest)
    | 'x' => codeEscape flags 2 rest
    | 'u' => codeEscape flags 4 rest
    | 'U' => codeEscape flags 8 rest
    | c => if c.toNat < 128 ∧ !c.isAlphanum then some (.literal c, rest) else none

def ranges (rs : List (Char × Char)) : CharSet :=
  rs.foldl (fun s r => .union s (.range r.1 r.2)) .none

def namedSet? : String → Option CharSet
  | "alnum" => some (ranges [('0', '9'), ('A', 'Z'), ('a', 'z')])
  | "alpha" => some (ranges [('A', 'Z'), ('a', 'z')])
  | "ascii" => some (ranges [('\x00', '\x7f')])
  | "blank" => some (ranges [('\t', '\t'), (' ', ' ')])
  | "cntrl" => some (ranges [('\x00', '\x1f'), ('\x7f', '\x7f')])
  | "digit" => some (ranges [('0', '9')])
  | "graph" => some (ranges [('!', '~')])
  | "lower" => some (ranges [('a', 'z')])
  | "print" => some (ranges [(' ', '~')])
  | "punct" => some (ranges [('!', '/'), (':', '@'), ('[', '\x60'), ('\x7b', '~')])
  | "space" => some (ranges [('\t', '\r'), (' ', ' ')])
  | "upper" => some (ranges [('A', 'Z')])
  | "word" => some (ranges [('0', '9'), ('A', 'Z'), ('a', 'z'), ('_', '_')])
  | "xdigit" => some (ranges [('0', '9'), ('A', 'F'), ('a', 'f')])
  | _ => none

/-- Whether a class by name is negated, its set, and what follows it, if there is one. -/
def namedClass : List Char → Option (Bool × CharSet × List Char)
  | '[' :: ':' :: s => do
    let (negated, s) := match s with
      | '^' :: rest => (true, rest)
      | s => (false, s)
    match s.dropWhile (· ≠ ':') with
    | ':' :: ']' :: rest =>
      return (negated, ← namedSet? (String.ofList (s.takeWhile (· ≠ ':'))), rest)
    | _ => none
  | _ => none

/-- One character or one set inside a class. -/
def classAtom (flags : Flags) : List Char → Option ((Char ⊕ CharSet) × List Char)
  | [] => none
  | '\\' :: rest =>
    match escape flags rest with
    | some (.literal c, rest) => if flags.accepts c then some (.inl c, rest) else none
    | some (.set s, rest) => some (.inr s, rest)
    | _ => none
  | c :: rest => if flags.accepts c then some (.inl c, rest) else none

def atomSet : Char ⊕ CharSet → CharSet
  | .inl c => .single c
  | .inr s => s

/-- One item of a class: an atom, or a range between two characters. -/
def classItem (flags : Flags) (s : List Char) : Option (CharSet × List Char) := do
  let (first, rest) ← classAtom flags s
  match flags.next rest with
  | [] => none
  | '-' :: rest =>
    match flags.next rest with
    | ']' :: _ | '-' :: _ => return (atomSet first, '-' :: rest)
    | rest =>
      let (last, rest) ← classAtom flags rest
      match first, last with
      | .inl a, .inl b => if a ≤ b then return (.range a b, rest) else none
      | _, _ => none
  | rest => return (atomSet first, rest)

inductive SetOperator where
  | inter
  | difference
  | symmetric

def SetOperator.apply : SetOperator → CharSet → CharSet → CharSet
  | .inter, a, b => .inter a b
  | .difference, a, b => .inter a (.complement b)
  | .symmetric, a, b => .inter (.union a b) (.complement (.inter a b))

/-- A set and how many levels its text nests. -/
structure Operand where
  set : CharSet
  levels : Nat

/-- The items of a class that stand next to one another: their union, their number and how many
levels the deepest of them nests. -/
structure ClassItems where
  set : CharSet := .none
  size : Nat := 0
  levels : Nat := 0

namespace ClassItems

def push (items : ClassItems) (o : Operand) : ClassItems :=
  ⟨.union items.set o.set, items.size + 1, max items.levels o.levels⟩

/-- Several items nest one level deeper than a single one. -/
def operand (items : ClassItems) : Operand :=
  ⟨items.set, if items.size ≤ 1 then items.levels else items.levels + 1⟩

end ClassItems

/-- Applies the operator that awaits its right side. -/
def applyPending (flags : Flags) : Option (Operand × SetOperator) → Operand → Operand
  | none, b => b
  | some (a, op), b => ⟨op.apply (flags.fold a.set) (flags.fold b.set), max a.levels b.levels + 1⟩

/-- The hyphens that come first in a class. `fuel` bounds their number. -/
def hyphens (flags : Flags) (fuel : Nat) (items : ClassItems) (s : List Char) :
    ClassItems × List Char :=
  match fuel, s with
  | fuel + 1, '-' :: rest => hyphens flags fuel (items.push ⟨.single '-', 0⟩) (flags.next rest)
  | _, s => (items, s)

mutual

/-- A class after its opening bracket. A hyphen or a closing bracket that comes first is literal. -/
def classOpen (fuel : Nat) (flags : Flags) (s : List Char) : Option (Operand × List Char) :=
  match fuel with
  | 0 => none
  | fuel + 1 => do
    let (negated, s) := match flags.next s with
      | '^' :: rest => (true, flags.next rest)
      | s => (false, s)
    let (items, s) := match hyphens flags s.length {} s with
      | (⟨_, 0, _⟩, ']' :: rest) => (ClassItems.push {} ⟨.single ']', 0⟩, rest)
      | (items, s) => (items, s)
    let (inner, rest) ← classRest fuel flags none items s
    return (⟨← flags.negateIf? negated (flags.fold inner.set), inner.levels + 1⟩, rest)

/-- The rest of a class up to its closing bracket; `left` is what an operator is applied to. -/
def classRest (fuel : Nat) (flags : Flags) (left : Option (Operand × SetOperator))
    (items : ClassItems) (s : List Char) : Option (Operand × List Char) :=
  match fuel with
  | 0 => none
  | fuel + 1 =>
    let pending (op : SetOperator) := some (applyPending flags left items.operand, op)
    match flags.next s with
    | [] => none
    | ']' :: rest => some (applyPending flags left items.operand, rest)
    | '[' :: rest =>
      match namedClass ('[' :: rest) with
      | some (negated, set, rest) => do
        let set ← flags.negateIf? negated (flags.fold set)
        classRest fuel flags left (items.push ⟨set, 0⟩) rest
      | none => do
        let (inner, rest) ← classOpen fuel flags rest
        classRest fuel flags left (items.push inner) rest
    | '&' :: '&' :: rest => classRest fuel flags (pending .inter) {} rest
    | '-' :: '-' :: rest => classRest fuel flags (pending .difference) {} rest
    | '~' :: '~' :: rest => classRest fuel flags (pending .symmetric) {} rest
    | s => do
      let (set, rest) ← classItem flags s
      classRest fuel flags left (items.push ⟨set, 0⟩) rest

end

/-- The digits of a count, between blanks. `fuel` bounds their number. -/
def countDigits (flags : Flags) (fuel : Nat) (s : List Char) : List Char × List Char :=
  match fuel, s with
  | fuel + 1, c :: rest =>
    if c.isDigit then (countDigits flags fuel (flags.next rest)).map (c :: ·) id
    else ([], s.dropWhile Unicode.isBlank)
  | _, s => ([], s)

/-- A count of 32 bits, and what follows it from the next character that counts on. -/
def count (flags : Flags) (s : List Char) : Option (Nat × List Char) :=
  let (digits, rest) := countDigits flags s.length (s.dropWhile Unicode.isBlank)
  let n := Json.digitsValue digits
  if digits.isEmpty ∨ 0x100000000 ≤ n then none else some (n, flags.next rest)

/-- The bounds of a repetition after its opening brace: `m`, `m,` or `m,n`. -/
def bounds (flags : Flags) (s : List Char) : Option ((Nat × Option Nat) × List Char) := do
  let (least, rest) ← count flags (flags.next s)
  match rest with
  | '\x7d' :: rest => return ((least, some least), rest)
  | ',' :: rest =>
    match flags.next rest with
    | '\x7d' :: rest => return ((least, none), rest)
    | rest =>
      match ← count flags rest with
      | (most, '\x7d' :: rest) => if least ≤ most then return ((least, some most), rest) else none
      | _ => none
  | _ => none

/-- Whether a repetition takes much or little does not change what is found. -/
def skipLazy : List Char → List Char
  | '?' :: rest => rest
  | s => s

/-- The flags up to the `)` or `:` that ends them. Each may be named once, and those after the one
hyphen are taken back; a hyphen has flags after it. -/
def readFlags (flags : Flags) (negated : Bool) (seen : List Char) :
    List Char → Option (Flags × List Char)
  | [] => none
  | c :: rest =>
    if c = ')' ∨ c = ':' then
      if seen.head? = some '-' then none else some (flags, c :: rest)
    else if seen.contains c then none
    else
      let value := !negated
      let set (flags : Flags) := readFlags flags negated (c :: seen) rest
      match c with
      | '-' => readFlags flags true (c :: seen) rest
      | 'i' => set { flags with caseless := value }
      | 's' => set { flags with dotAll := value }
      | 'm' => set { flags with multiLine := value }
      | 'R' => set { flags with returns := value }
      | 'u' => set { flags with unicode := value }
      | 'x' => set { flags with spaced := value }
      | 'U' => set flags
      | _ => none

/-- A group's name and what follows its closing angle bracket. -/
def groupName (s : List Char) : Option (String × List Char) :=
  match s.takeWhile (· ≠ '>'), s.dropWhile (· ≠ '>') with
  | c :: name, _ :: rest =>
    if (Unicode.isLetter c || c = '_') &&
        name.all fun c => Unicode.isAlphanumeric c || ['_', '.', '[', ']'].contains c then
      some (String.ofList (c :: name), rest)
    else none
  | _, _ => none

def ofEscape? (flags : Flags) : Escape → Option Tree
  | .literal c => if flags.accepts c then some (.set (flags.fold (.single c))) else none
  | .set s => some (.set s)
  | .assertion a => some (.assertion a)

/-- Puts a repetition around the item read last. -/
def repeatLast (least : Nat) (most : Option Nat) : List Tree → Option (List Tree)
  | [] => none
  | t :: done => if t.isFlags then none else some (.repetition t least most :: done)

mutual

/-- Alternatives up to the end of the group. Flags set on the way stay set for what follows. -/
def branches (fuel : Nat) (flags : Flags) (s : List Char) : Option (List Tree × List Char) :=
  match fuel with
  | 0 => none
  | fuel + 1 => do
    let (t, flags, rest) ← branch fuel flags [] s
    match rest with
    | '|' :: rest =>
      let (ts, rest) ← branches fuel flags rest
      return (t :: ts, rest)
    | rest => return ([t], rest)

/-- The items of an alternative. Those in `done` are read, the last one first. -/
def branch (fuel : Nat) (flags : Flags) (done : List Tree) (s : List Char) :
    Option (Tree × Flags × List Char) :=
  match fuel with
  | 0 => none
  | fuel + 1 =>
    match flags.next s with
    | [] => some (.ofItems done.reverse, flags, [])
    | c :: rest =>
      match c with
      | ')' | '|' => some (.ofItems done.reverse, flags, c :: rest)
      | '(' =>
        match flags.next rest with
        | '?' :: 'P' :: '<' :: rest | '?' :: '<' :: rest => do
          let (name, rest) ← groupName rest
          let (t, rest) ← group fuel flags rest
          branch fuel flags (.capture (some name) t :: done) rest
        | '?' :: ')' :: _ => none
        | '?' :: rest => do
          match ← readFlags flags false [] rest with
          | (inner, ':' :: rest) =>
            let (t, rest) ← group fuel inner rest
            branch fuel flags (.group t :: done) rest
          | (inner, rest) => branch fuel inner (.flags :: done) (rest.drop 1)
        | rest => do
          let (t, rest) ← group fuel flags rest
          branch fuel flags (.capture none t :: done) rest
      | '*' => do branch fuel flags (← repeatLast 0 none done) (skipLazy rest)
      | '+' => do branch fuel flags (← repeatLast 1 none done) (skipLazy rest)
      | '?' => do branch fuel flags (← repeatLast 0 (some 1) done) (skipLazy rest)
      | '\x7b' => do
        let ((least, most), rest) ← bounds flags rest
        branch fuel flags (← repeatLast least most done) (skipLazy (flags.next rest))
      | '[' => do
        let (o, rest) ← classOpen (2 * s.length + 2) flags rest
        branch fuel flags (.bracketed o.set o.levels :: done) rest
      | '.' => do branch fuel flags (.set (← flags.dot?) :: done) rest
      | '^' => branch fuel flags (.assertion flags.lineStart :: done) rest
      | '$' => branch fuel flags (.assertion flags.lineEnd :: done) rest
      | '\\' => do
        let (e, rest) ← escape flags rest
        branch fuel flags ((← ofEscape? flags e) :: done) rest
      | c => do branch fuel flags ((← ofEscape? flags (.literal c)) :: done) rest

/-- The alternatives of a group and its closing parenthesis. -/
def group (fuel : Nat) (flags : Flags) (s : List Char) : Option (Tree × List Char) :=
  match fuel with
  | 0 => none
  | fuel + 1 => do
    match ← branches fuel flags s with
    | (ts, ')' :: rest) => return (.ofBranches ts, rest)
    | _ => none

end

/-- Reads a pattern as it is written. No two groups have one name. -/
def tree? (text : String) : Option Tree := do
  let s := text.toList
  let (ts, rest) ← branches (4 * s.length + 4) {} s
  let t := Tree.ofBranches ts
  if rest.isEmpty ∧ t.depth ≤ Tree.maxDepth ∧ t.names.Nodup then some t else none

/-- Reads a pattern whose automata are small enough. -/
def parse? (text : String) : Option Pattern := do
  let t ← tree? text
  if (Form.ofTree t).fits then some t.pattern else none

end TaskGraph.Pattern
