import Std.Data.HashMap
import TaskGraph.Pattern.Form

/-!
# Sizes of automata

A pattern is refused if an automaton for it would be too large. There are two of them, one that
reads text forwards and marks where groups begin and end, and one that reads it backwards and marks
nothing. Both read bytes, so a set beyond ASCII takes a state for every range of bytes at each of
its positions, except where ranges lead on to the same state.
-/

namespace TaskGraph.Pattern

/-- The bytes of a code point. -/
def encoding (n : Nat) : List Nat := (String.singleton (Char.ofNat n)).toUTF8.toList.map UInt8.toNat

/-- Where code points between two bounds have to be parted so that each part is one range of bytes
at each position. -/
def cut? (first last : Nat) : Option Nat :=
  match [0x7f, 0x7ff, 0xffff].find? fun n => first ≤ n && n < last with
  | some n => some n
  | none =>
    if last < 0x80 then none
    else
      [0x40, 0x1000, 0x40000].findSome? fun block =>
        if first / block = last / block then none
        else if first % block ≠ 0 then some ((first / block + 1) * block - 1)
        else if last % block ≠ block - 1 then some (last / block * block - 1)
        else none

/-- The ranges of bytes, position by position, of all code points between two bounds. -/
def byteRanges (first last : Nat) : List (List (Nat × Nat)) :=
  match cut? first last with
  | none => [(encoding first).zip (encoding last)]
  | some n =>
    if first ≤ n ∧ n < last then byteRanges first n ++ byteRanges (n + 1) last else []
termination_by last - first

/-- The ranges of bytes of a set of characters. -/
def setRanges (spans : List (Nat × Nat)) : List (List (Nat × Nat)) :=
  spans.flatMap fun (first, last) =>
    let low := min last 0xd7ff
    let high := max first 0xe000
    (if first ≤ low then byteRanges first low else []) ++
      if high ≤ last then byteRanges high last else []

/-- What an automaton takes so far: its states, and the bytes that some of them need on top. -/
structure Tally where
  states : Nat := 0
  extra : Nat := 0

/-- Counting ends without a result once the automaton is too large. -/
abbrev Count := StateT Tally Option

namespace Count

def maxBytes : Nat := 0xa00000

def stateBytes : Nat := 32

/-- The bytes for one range of a state that tells several apart. -/
def rangeBytes : Nat := 8

/-- The bytes for one way on from a state that goes on in several. -/
def wayBytes : Nat := 4

def charge (states extra : Nat) : Count Unit := fun t =>
  let t : Tally := ⟨t.states + states, t.extra + extra⟩
  if t.states * stateBytes + t.extra ≤ maxBytes then some ((), t) else none

/-- One more state; its number is given back. -/
def state (extra : Nat := 0) : Count Nat := do
  let t ← get
  charge 1 extra
  return t.states

def ways (n : Nat) : Count Unit := charge 0 (n * wayBytes)

/-- A part of an automaton may end in a state with several ways on; what follows is one more. -/
def follow (branching : Bool) : Count Unit := if branching then ways 1 else pure ()

end Count

/-- States that are used again if they read the same and lead to the same state. They are kept in
slots, where a newcomer takes the place of what was there. -/
abbrev Slots := Std.HashMap Nat (List Nat × Nat)

/-- The slot of a state with the given content. -/
def slotOf (slots : Nat) (content : List Nat) : Nat :=
  let mixed := content.foldl (fun (h : UInt64) n => (h ^^^ n.toUInt64) * 0x100000001b3)
    0xcbf29ce484222325
  mixed.toNat % slots

/-- The state with the given content, with its number. -/
def shared (slots : Nat) (content : List Nat) (extra : Nat) : StateT Slots Count Nat := do
  let slot := slotOf slots content
  match (← get)[slot]? with
  | some (other, n) => if other = content then return n else make slot
  | none => make slot
where
  make (slot : Nat) : StateT Slots Count Nat := do
    let n ← (Count.state extra : Count Nat)
    modify fun table => table.insert slot (content, n)
    return n

/-- The states for one sequence of byte ranges, read from its last position on. -/
def backwardSequence (target : Nat) : List (Nat × Nat) → StateT Slots Count Unit
  | [] => (Count.ways 1 : Count Unit)
  | (low, high) :: rest => do
    let n ← shared 1000 [target, low, high] 0
    backwardSequence n rest

def backwardSequences (target : Nat) : List (List (Nat × Nat)) → StateT Slots Count Unit
  | [] => pure ()
  | s :: rest => do
    backwardSequence target s
    backwardSequences target rest

/-- A state that is not yet complete: its ranges of bytes and where they lead, and the last range,
whose target is not yet known. -/
structure OpenState where
  ranges : List (Nat × Nat × Nat) := []
  last : Option (Nat × Nat) := none

namespace OpenState

/-- Lets the last range lead to a state. -/
def close (s : OpenState) (target : Nat) : OpenState :=
  match s.last with
  | none => s
  | some (low, high) => ⟨s.ranges ++ [(low, high, target)], none⟩

def content (s : OpenState) : List Nat := s.ranges.flatMap fun (low, high, n) => [low, high, n]

def finish (s : OpenState) : StateT Slots Count Nat :=
  shared 10000 s.content (s.ranges.length * Count.rangeBytes)

end OpenState

/-- Completes the states of a path from the inside out. -/
def finishPath (target : Nat) : List OpenState → StateT Slots Count Nat
  | [] => return target
  | s :: rest => do (s.close (← finishPath target rest)).finish

/-- Adds a sequence of byte ranges to a path of states that are not yet complete. The states after
the ranges that it begins with alike are completed. -/
def addSequence (target : Nat) :
    List OpenState → List (Nat × Nat) → StateT Slots Count (List OpenState)
  | s :: path, range :: rest => do
    if s.last = some range then return s :: (← addSequence target path rest)
    else
      let s := s.close (← finishPath target path)
      return { s with last := some range } :: rest.map fun range => ⟨[], some range⟩
  | path, _ => return path

def addSequences (target : Nat) (path : List OpenState) :
    List (List (Nat × Nat)) → StateT Slots Count (List OpenState)
  | [] => return path
  | s :: rest => do addSequences target (← addSequence target path s) rest

/-- The states for a set of characters. -/
def countSet (backward : Bool) (spans : List (Nat × Nat)) : Count Bool := do
  if spans.all (·.2 < 0x80) then
    Count.charge 2 (spans.length * Count.rangeBytes)
  else if backward then
    Count.charge 1 0
    let target ← Count.state
    let _ ← (backwardSequences target (setRanges spans)).run ∅
  else
    let target ← Count.state
    let _ ← (do finishPath target (← addSequences target [{}] (setRanges spans))).run ∅
  return false

/-- Literals side by side, by their bytes. A part of the next bytes is closed where a literal ends,
so that what follows is tried after it. -/
inductive Trie where
  | node (closed : List (List (Nat × Trie))) (next : List (Nat × Trie))

namespace Trie

def root : Trie := .node [] []

def isLeaf : Trie → Bool
  | .node closed next => closed.all List.isEmpty && next.isEmpty

mutual

def insert : List Nat → Trie → Trie
  | [], .node closed next =>
    if isLeaf (.node closed next) && !closed.isEmpty then .node closed next
    else .node (closed ++ [next]) []
  | b :: bytes, .node closed next => .node closed (insertNext b bytes next)

def insertNext (b : Nat) (bytes : List Nat) : List (Nat × Trie) → List (Nat × Trie)
  | [] => [(b, insert bytes root)]
  | (c, t) :: rest =>
    if c < b then (c, t) :: insertNext b bytes rest
    else if c = b then (c, insert bytes t) :: rest
    else (b, insert bytes root) :: (c, t) :: rest

end

mutual

def count : Trie → Count Unit
  | .node closed next => do
    countParts closed
    countPart next
    let parts := if next.isEmpty then closed else closed ++ [next]
    Count.charge 1 0
    Count.ways (closed.length + parts.countP fun part => !part.isEmpty)

def countParts : List (List (Nat × Trie)) → Count Unit
  | [] => pure ()
  | part :: rest => do
    countPart part
    countParts rest

/-- The states behind each byte, and the one that tells the bytes apart. -/
def countPart : List (Nat × Trie) → Count Unit
  | [] => pure ()
  | [(_, t)] => do
    countInner t
    Count.charge 1 0
  | part => do
    countInners part
    Count.charge 1 (part.length * Count.rangeBytes)

def countInners : List (Nat × Trie) → Count Unit
  | [] => pure ()
  | (_, t) :: rest => do
    countInner t
    countInners rest

def countInner (t : Trie) : Count Unit :=
  if t.isLeaf then pure () else count t

end

end Trie

def literalBytes (text : List Char) : List Nat := text.flatMap fun c => encoding c.toNat

/-- The states for a choice between literals. -/
def countLiterals (backward : Bool) (texts : List (List Char)) : Count Bool := do
  Count.charge 1 0
  let add (t : Trie) (text : List Char) : Trie :=
    let bytes := literalBytes text
    t.insert (if backward then bytes.reverse else bytes)
  (texts.foldl add .root).count
  return false

/-- Parts one after another. -/
def chain : List (Count Bool) → Count Bool
  | [] => do
    Count.charge 1 0
    return false
  | [part] => part
  | part :: rest => do
    Count.follow (← part)
    chain rest

/-- `n` copies one after another, after a part that may end branching. -/
def copies (part : Count Bool) (n : Nat) (branching : Bool) : Count Bool :=
  match n with
  | 0 => return branching
  | n + 1 => do
    Count.follow branching
    copies part n (← part)

def exactly (part : Count Bool) : Nat → Count Bool
  | 0 => chain []
  | n + 1 => copies part n =<< part

/-- `n` copies that may each be the last. -/
def optionalCopies (part : Count Bool) (n : Nat) (branching : Bool) : Count Bool :=
  match n with
  | 0 => return branching
  | n + 1 => do
    Count.charge 1 0
    Count.follow branching
    Count.ways 2
    optionalCopies part n (← part)

def countRepetition (part : Count Bool) (takesText : Bool) :
    (least : Nat) → (most : Option Nat) → Count Bool
  | 0, some 1 => do
    Count.charge 1 0
    Count.follow (← part)
    Count.charge 1 0
    Count.ways 2
    return false
  | 0, none =>
    if takesText then do
      Count.charge 1 0
      Count.follow (← part)
      Count.ways 1
      return true
    else do
      Count.follow (← part)
      Count.charge 3 0
      Count.ways 4
      return false
  | n + 1, none => do
    let branching ← exactly part (n + 1)
    Count.charge 1 0
    Count.follow branching
    Count.ways 1
    return true
  | least, some most =>
    if least = most then exactly part least
    else do
      let branching ← exactly part least
      Count.charge 1 0
      Count.follow (← optionalCopies part (most - least) branching)
      return false

def sides : List (Count Bool) → Count Unit
  | [] => pure ()
  | part :: rest => do
    Count.follow (← part)
    Count.ways 1
    sides rest

/-- Parts side by side. -/
def sideBySide (parts : List (Count Bool)) : Count Bool := do
  sides (parts.take 2)
  Count.charge 2 0
  sides (parts.drop 2)
  return false

def literalText? : Form → Option (List Char)
  | .literal text => some text
  | _ => none

mutual

/-- Counts the automaton of a form. The result is whether it ends in a state with several ways. -/
def countForm (backward : Bool) : Form → Count Bool
  | .empty | .assertion _ => do
    Count.charge 1 0
    return false
  | .literal text => do
    Count.charge (literalBytes text).length 0
    return false
  | .set spans => countSet backward spans
  | .repetition inner least most =>
    countRepetition (countForm backward inner) (inner.least.any (0 < ·)) least most
  | .capture inner =>
    if backward then countForm backward inner
    else do
      Count.charge 1 0
      let branching ← countForm backward inner
      Count.charge 1 0
      Count.follow branching
      return false
  | .concat items =>
    let parts := countForms backward items
    chain (if backward then parts.reverse else parts)
  | .choice branches =>
    match branches.mapM literalText? with
    | some texts => countLiterals backward texts
    | none => sideBySide (countForms backward branches)

def countForms (backward : Bool) : List Form → List (Count Bool)
  | [] => []
  | f :: rest => countForm backward f :: countForms backward rest

end

mutual

/-- Whether a match can only begin, or only end, where an assertion holds. -/
def anchored (backward : Bool) (a : Assertion) : Form → Bool
  | .assertion b => a = b
  | .repetition inner least _ => decide (0 < least) && anchored backward a inner
  | .capture inner => anchored backward a inner
  | .concat items =>
    let parts := anchoredAll backward a items
    let parts := if backward then parts.reverse else parts
    (parts.dropWhile fun part => !part.1 && part.2).head?.any (·.1)
  | .choice branches => (anchoredAll backward a branches).all (·.1)
  | _ => false

/-- For each form whether it is anchored, and whether it takes no text. -/
def anchoredAll (backward : Bool) (a : Assertion) : List Form → List (Bool × Bool)
  | [] => []
  | f :: rest => (anchored backward a f, decide (f.most = some 0)) :: anchoredAll backward a rest

end

/-- Counts a whole automaton. Unless it is anchored it first skips any bytes. -/
def countWhole (backward : Bool) (f : Form) : Count Unit := do
  if anchored backward (if backward then .textEnd else .textStart) f then Count.charge 1 0
  else
    Count.charge 3 Count.rangeBytes
    Count.ways 2
  if backward then Count.follow (← countForm backward f)
  else
    Count.charge 1 0
    let branching ← countForm backward f
    Count.charge 1 0
    Count.follow branching
  Count.charge 1 0

/-- Whether both automata are small enough. -/
def Form.fits (f : Form) : Bool :=
  (countWhole false f |>.run {}).isSome && (countWhole true f |>.run {}).isSome

end TaskGraph.Pattern
