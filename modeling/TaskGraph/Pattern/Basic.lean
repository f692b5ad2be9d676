import TaskGraph.Unicode.Blank
import TaskGraph.Unicode.Fold
import TaskGraph.Unicode.Word

/-!
# Text patterns

Regular expressions and their search by partial derivatives: after a character, a pattern is
replaced by the patterns for what may follow. These are finitely many, so a search keeps a short
list of them and reads the text once.
-/

namespace TaskGraph

inductive CharSet where
  | none
  | range (first last : Char)
  | digit
  | blank
  | word
  | union (a b : CharSet)
  | inter (a b : CharSet)
  | complement (a : CharSet)
  /-- The characters that differ from a member in case only. -/
  | caseless (a : CharSet)
  deriving DecidableEq, Inhabited

namespace CharSet

def contains : CharSet → Char → Bool
  | .none, _ => false
  | .range first last, c => first ≤ c && c ≤ last
  | .digit, c => Unicode.isDigit c
  | .blank, c => Unicode.isBlank c
  | .word, c => Unicode.isWord c
  | .union a b, c => a.contains c || b.contains c
  | .inter a b, c => a.contains c && b.contains c
  | .complement a, c => !a.contains c
  | .caseless a, c => (Unicode.caseVariants c).any a.contains

def single (c : Char) : CharSet := .range c c

def ascii : CharSet := .range '\x00' '\x7f'

/-- Boundaries of the code points of the members. -/
def boundaries : CharSet → List Nat
  | .none => []
  | .range first last => if first ≤ last then [first.toNat, last.toNat + 1] else []
  | .digit => Unicode.digitSet
  | .blank => Unicode.blanks
  | .word => Unicode.wordSet
  | .union a b => Unicode.union a.boundaries b.boundaries
  | .inter a b => Unicode.inter a.boundaries b.boundaries
  | .complement a => Unicode.complement a.boundaries
  | .caseless a => Unicode.foldClosure a.boundaries

end CharSet

/-- A place in a text: the characters on both sides of it. -/
structure Place where
  before : Option Char
  after : Option Char

/-- What holds at an edge of a word. The halves look at one side only. -/
inductive WordEdge where
  | boundary
  | inside
  | start
  | stop
  | startHalf
  | stopHalf
  deriving DecidableEq

inductive Assertion where
  | textStart
  | textEnd
  | lineStart
  | lineEnd
  /-- As `lineStart`, where a carriage return ends lines too, alone or before a line feed. -/
  | returnStart
  | returnEnd
  | word (edge : WordEdge) (letters : CharSet)
  deriving DecidableEq

def WordEdge.holds : WordEdge → (before after : Bool) → Bool
  | .boundary, before, after => before != after
  | .inside, before, after => before == after
  | .start, before, after => !before && after
  | .stop, before, after => before && !after
  | .startHalf, before, _ => !before
  | .stopHalf, _, after => !after

def Assertion.holds : Assertion → Place → Bool
  | .textStart, p => p.before.isNone
  | .textEnd, p => p.after.isNone
  | .lineStart, p => p.before.all (· = '\n')
  | .lineEnd, p => p.after.all (· = '\n')
  | .returnStart, p => p.before.all fun c => c = '\n' || (c = '\r' && p.after != some '\n')
  | .returnEnd, p => p.after.all fun c => c = '\r' || (c = '\n' && p.before != some '\r')
  | .word edge letters, p =>
    edge.holds (p.before.any letters.contains) (p.after.any letters.contains)

inductive Pattern where
  | empty
  | char (set : CharSet)
  | assert (a : Assertion)
  | seq (p q : Pattern)
  | alt (p q : Pattern)
  | star (p : Pattern)
  /-- `n` times one after another. -/
  | times (p : Pattern) (n : Nat)
  /-- At most `n` times one after another. -/
  | upTo (p : Pattern) (n : Nat)
  deriving DecidableEq, Inhabited

namespace Pattern

/-- Whether a pattern matches the empty text at a place. -/
def nullable (place : Place) : Pattern → Bool
  | .empty => true
  | .char _ => false
  | .assert a => a.holds place
  | .seq p q => p.nullable place && q.nullable place
  | .alt p q => p.nullable place || q.nullable place
  | .star _ => true
  | .times p n => n = 0 || p.nullable place
  | .upTo _ _ => true

/-- Whether a pattern matches the empty text at any place whatsoever. -/
def alwaysNullable : Pattern → Bool
  | .empty => true
  | .char _ | .assert _ => false
  | .seq p q => p.alwaysNullable && q.alwaysNullable
  | .alt p q => p.alwaysNullable || q.alwaysNullable
  | .star _ => true
  | .times p n => n = 0 || p.alwaysNullable
  | .upTo _ _ => true

/-- One pattern after another. -/
def andThen (p q : Pattern) : Pattern := if p = .empty then q else .seq p q

/-- How many times of `n + 1` may be left once one of them has taken a character. Times that take no
text may come before that one, but need not be told apart where they are always possible: fewer
times then match nothing that more do not. -/
def timesLeft (place : Place) (p : Pattern) (n : Nat) : List Nat :=
  if p.nullable place && !p.alwaysNullable then List.range (n + 1) else [n]

/-- What may follow once the pattern has taken the character `c` at a place. -/
def after (place : Place) (c : Char) : Pattern → List Pattern
  | .empty => []
  | .char set => if set.contains c then [.empty] else []
  | .assert _ => []
  | .seq p q =>
    let through := (p.after place c).map (·.andThen q)
    if p.nullable place then through ++ q.after place c else through
  | .alt p q => p.after place c ++ q.after place c
  | .star p => (p.after place c).map (·.andThen (.star p))
  | .times _ 0 | .upTo _ 0 => []
  | .times p (n + 1) =>
    match p.after place c with
    | [] => []
    | rests => (timesLeft place p n).flatMap fun k => rests.map (·.andThen (.times p k))
  | .upTo p (n + 1) => (p.after place c).map (·.andThen (.upTo p n))

/-- Whether a match ends somewhere in the rest of a text. `pending` holds what the matches begun so
far may go on with; a new one may begin at every place. -/
def searchFrom (p : Pattern) (before : Option Char) (pending : List Pattern) : List Char → Bool
  | [] => (p :: pending).any (nullable ⟨before, none⟩)
  | c :: rest =>
    let here : Place := ⟨before, some c⟩
    let pending := p :: pending
    pending.any (nullable here) ||
      searchFrom p (some c) (pending.flatMap (after here c)).eraseDups rest

def occursIn (p : Pattern) (text : String) : Bool := searchFrom p none [] text.toList

end Pattern

end TaskGraph
