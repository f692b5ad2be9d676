import TaskGraph.Pattern.Basic

/-!
# Patterns as they are written

A tree has a node for every bracket, group, repetition and alternative of a pattern's text, also
where the pattern means the same without it. How deep it nests is limited.
-/

namespace TaskGraph.Pattern

inductive Tree where
  | empty
  /-- A change of flags, which holds for what follows. -/
  | flags
  | set (s : CharSet)
  /-- A set in brackets, with the number of levels that it nests by itself. -/
  | bracketed (s : CharSet) (levels : Nat)
  | assertion (a : Assertion)
  /-- A group that is told apart from others, by name or by number. -/
  | capture (name : Option String) (inner : Tree)
  | group (inner : Tree)
  | repetition (inner : Tree) (least : Nat) (most : Option Nat)
  | concat (items : List Tree)
  | choice (branches : List Tree)
  deriving Inhabited

namespace Tree

/-- How deep a pattern may nest. -/
def maxDepth : Nat := 250

def isFlags : Tree → Bool
  | .flags => true
  | _ => false

/-- One item after another; a single one is no sequence. -/
def ofItems : List Tree → Tree
  | [] => .empty
  | [t] => t
  | items => .concat items

def ofBranches : List Tree → Tree
  | [t] => t
  | branches => .choice branches

mutual

/-- How deep a tree nests. -/
def depth : Tree → Nat
  | .empty | .flags | .set _ | .assertion _ => 0
  | .bracketed _ levels => levels
  | .capture _ inner | .group inner | .repetition inner _ _ => depth inner + 1
  | .concat items | .choice items => depths items + 1

def depths : List Tree → Nat
  | [] => 0
  | t :: rest => max (depth t) (depths rest)

end

mutual

/-- The names of the groups. -/
def names : Tree → List String
  | .empty | .flags | .set _ | .bracketed _ _ | .assertion _ => []
  | .capture name inner => name.toList ++ names inner
  | .group inner | .repetition inner _ _ => names inner
  | .concat items | .choice items => allNames items

def allNames : List Tree → List String
  | [] => []
  | t :: rest => names t ++ allNames rest

end

def repeated (p : Pattern) : Nat → Option Nat → Pattern
  | 0, none => .star p
  | 0, some most => p.upTo most
  | least, none => .seq (p.times least) (.star p)
  | least, some most => .seq (p.times least) (p.upTo (most - least))

mutual

/-- What a tree means. -/
def pattern : Tree → Pattern
  | .empty | .flags => .empty
  | .set s | .bracketed s _ => .char s
  | .assertion a => .assert a
  | .capture _ inner | .group inner => pattern inner
  | .repetition inner least most => repeated (pattern inner) least most
  | .concat items => sequence items
  | .choice branches => alternatives branches

def sequence : List Tree → Pattern
  | [] => .empty
  | t :: rest => .seq (pattern t) (sequence rest)

def alternatives : List Tree → Pattern
  | [] => .char .none
  | [t] => pattern t
  | t :: rest => .alt (pattern t) (alternatives rest)

end

end Tree

end TaskGraph.Pattern
