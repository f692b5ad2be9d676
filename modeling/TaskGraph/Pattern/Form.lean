import TaskGraph.Pattern.Tree

/-!
# Normal forms of patterns

An automaton is not built from a tree but from a form, in which adjacent literals are joined, nested
sequences and alternatives are flat, alternatives of single characters are sets, and what all
alternatives begin with stands before them.
-/

namespace TaskGraph.Pattern

inductive Form where
  | empty
  | literal (text : List Char)
  /-- A set of characters as spans of code points, ascending. -/
  | set (spans : List (Nat × Nat))
  | assertion (a : Assertion)
  | repetition (inner : Form) (least : Nat) (most : Option Nat)
  | capture (inner : Form)
  | concat (items : List Form)
  | choice (branches : List Form)
  deriving Inhabited

def encodedSize (n : Nat) : Nat := (Char.ofNat n).utf8Size

namespace Form

mutual

/-- The least number of bytes that a match takes, if something matches at all. -/
def least : Form → Option Nat
  | .empty | .assertion _ => some 0
  | .literal text => some (text.foldl (fun n c => n + c.utf8Size) 0)
  | .set spans => spans.head?.map fun span => encodedSize span.1
  | .repetition inner n _ => (least inner).map (n * ·)
  | .capture inner => least inner
  | .concat items => leastAll items
  | .choice branches => leastOf branches

def leastAll : List Form → Option Nat
  | [] => some 0
  | f :: rest => return (← least f) + (← leastAll rest)

def leastOf : List Form → Option Nat
  | [] => none
  | [f] => least f
  | f :: rest => return min (← least f) (← leastOf rest)

end

mutual

/-- The largest number of bytes that a match takes, if it is known to be bounded. -/
def most : Form → Option Nat
  | .empty | .assertion _ => some 0
  | .literal text => some (text.foldl (fun n c => n + c.utf8Size) 0)
  | .set spans => spans.getLast?.map fun span => encodedSize span.2
  | .repetition inner _ n => return (← n) * (← most inner)
  | .capture inner => most inner
  | .concat items => mostAll items
  | .choice branches => mostOf branches

def mostAll : List Form → Option Nat
  | [] => some 0
  | f :: rest => return (← most f) + (← mostAll rest)

def mostOf : List Form → Option Nat
  | [] => none
  | [f] => most f
  | f :: rest => return max (← most f) (← mostOf rest)

end

mutual

/-- Whether two forms are written alike. No two groups that are told apart are. -/
def same : Form → Form → Bool
  | .empty, .empty => true
  | .literal a, .literal b => a == b
  | .set a, .set b => a == b
  | .assertion a, .assertion b => a == b
  | .repetition f m n, .repetition g k l => m == k && n == l && same f g
  | .concat a, .concat b | .choice a, .choice b => sameAll a b
  | _, _ => false

def sameAll : List Form → List Form → Bool
  | [], [] => true
  | f :: a, g :: b => same f g && sameAll a b
  | _, _ => false

end

def ofSpans : List (Nat × Nat) → Form
  | [(first, last)] => if first = last then .literal [Char.ofNat first] else .set [(first, last)]
  | spans => .set spans

def ofSet (s : CharSet) : Form := ofSpans (Unicode.spans s.boundaries)

/-- Repeating what takes no text once is as good as repeating it more often. -/
def repeated (f : Form) (least : Nat) (most : Option Nat) : Form :=
  let (least, most) := if f.most = some 0 then (min least 1, some (min (most.getD 1) 1))
    else (least, most)
  match least, most with
  | 0, some 0 => .empty
  | 1, some 1 => f
  | least, most => .repetition f least most

/-- The items that a form adds to a sequence. -/
def items : Form → List Form
  | .empty => []
  | .concat items => items
  | f => [f]

def joinLiterals : List Form → List Form
  | [] => []
  | .literal a :: rest =>
    match joinLiterals rest with
    | .literal b :: rest => .literal (a ++ b) :: rest
    | rest => .literal a :: rest
  | f :: rest => f :: joinLiterals rest

def ofItems (fs : List Form) : Form :=
  match joinLiterals (fs.flatMap items) with
  | [] => .empty
  | [f] => f
  | fs => .concat fs

def branches : Form → List Form
  | .choice branches => branches
  | f => [f]

/-- The character of a literal that has no other. -/
def onlyChar? : Form → Option Char
  | .literal [c] => some c
  | _ => none

def spans? : Form → Option (List (Nat × Nat))
  | .set spans => some spans
  | _ => none

def boundariesOf (spans : List (Nat × Nat)) : List Nat :=
  spans.foldl (fun s span => Unicode.union s [span.1, span.2 + 1]) []

/-- What two sequences begin with alike. -/
def common : List Form → List Form → List Form
  | f :: a, g :: b => if same f g then f :: common a b else []
  | _, _ => []

/-- What all of several sequences begin with. -/
def commonPrefix : List Form → List Form
  | .concat items :: rest =>
    rest.foldl (fun lead f => match f with | .concat items => common lead items | _ => []) items
  | _ => []

/-- Alternatives. `fuel` bounds how often their common beginnings are taken out. -/
def ofBranches (fuel : Nat) (fs : List Form) : Form :=
  match fs.flatMap branches with
  | [f] => f
  | fs =>
    match fs.mapM onlyChar? with
    | some cs => ofSpans (Unicode.spans (boundariesOf (cs.map fun c => (c.toNat, c.toNat))))
    | none =>
      match fs.mapM spans? with
      | some sets => ofSpans (Unicode.spans (boundariesOf sets.flatten))
      | none =>
        match fuel, commonPrefix fs with
        | 0, _ | _, [] => .choice fs
        | fuel + 1, lead =>
          ofItems (lead ++ [ofBranches fuel (fs.map fun f => ofItems (f.items.drop lead.length))])

mutual

def ofTree : Tree → Form
  | .empty | .flags => .empty
  | .set s | .bracketed s _ => ofSet s
  | .assertion a => .assertion a
  | .capture _ inner => .capture (ofTree inner)
  | .group inner => ofTree inner
  | .repetition inner least most => repeated (ofTree inner) least most
  | .concat items => ofItems (ofTrees items)
  | .choice branches => ofBranches Tree.maxDepth (ofTrees branches)

def ofTrees : List Tree → List Form
  | [] => []
  | t :: rest => ofTree t :: ofTrees rest

end

end Form

end TaskGraph.Pattern
