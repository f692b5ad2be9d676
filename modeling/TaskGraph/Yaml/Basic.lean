import TaskGraph.Json.Parser

/-!
# YAML documents

A document is a tree of scalars, sequences and mappings. A scalar has no type of its own: the place
it is read into decides, and only a plain scalar can be anything else than text. A literal scalar
can too if it is tagged as what the place expects.
-/

namespace TaskGraph

/-- How a scalar is written. -/
inductive ScalarStyle where
  | plain | quoted | literal | folded
  deriving DecidableEq

inductive Yaml where
  | scalar (style : ScalarStyle) (tag : Option String) (text : String)
  | seq (items : List Yaml)
  | map (entries : List (Yaml × Yaml))
  deriving Inhabited

namespace Yaml

/-- What stands where nothing is written. -/
def empty : Yaml := .scalar .plain none ""

def isEmpty : Yaml → Bool
  | .scalar .plain _ text => text.isEmpty
  | _ => false

/-- The full name of a tag of the core types. -/
def coreTag (name : String) : String := "tag:yaml.org,2002:" ++ name

def string? : Yaml → Option String
  | .scalar _ _ text => some text
  | _ => none

/-- The text of a scalar that may be read as the core type `name`. -/
def typed? (name : String) : Yaml → Option String
  | .scalar .plain _ text => some text
  | .scalar .literal (some tag) text => if tag = coreTag name then some text else none
  | _ => none

def bool? (y : Yaml) : Option Bool := do
  let text ← y.typed? "bool"
  if text ∈ ["true", "True", "TRUE"] then some true
  else if text ∈ ["false", "False", "FALSE"] then some false
  else none

def radixDigit? (radix : Nat) (c : Char) : Option Nat :=
  (Json.hexDigit? c).bind fun d => if d < radix then some d else none

def radixNat? (radix : Nat) (digits : List Char) : Option Nat :=
  if digits.isEmpty then none
  else digits.foldlM (fun n c => (radixDigit? radix c).map (n * radix + ·)) 0

/-- An unsigned number: decimal without leading zeros, or marked `0x`, `0o` or `0b`. -/
def natText? (s : List Char) : Option Nat :=
  let s := match s with
    | '+' :: rest => rest
    | s => s
  match s with
  | '0' :: 'x' :: rest => radixNat? 16 rest
  | '0' :: 'o' :: rest => radixNat? 8 rest
  | '0' :: 'b' :: rest => radixNat? 2 rest
  | ['0'] => some 0
  | '0' :: _ => none
  | s => radixNat? 10 s

/-- A number of at most sixteen bits. -/
def uint16? (y : Yaml) : Option Nat := do
  let n ← natText? (← y.typed? "int").toList
  if n < 65536 then some n else none

def isNullText (text : String) : Bool := text ∈ ["~", "null", "Null", "NULL"]

/-- An optional value: null, in any spelling, is none. A plain scalar that is tagged is null only if
the tag says so, and then it has to be spelt as one. -/
def optional (read : Yaml → Option α) (y : Yaml) : Option (Option α) :=
  match y with
  | .scalar .plain none text =>
    if text.isEmpty || isNullText text then some none else (read y).map some
  | .scalar .plain (some tag) text =>
    if tag = coreTag "null" then if isNullText text then some none else none
    else (read y).map some
  | y => (read y).map some

def list? (read : Yaml → Option α) : Yaml → Option (List α)
  | .seq items => items.mapM read
  | y => if y.isEmpty then some [] else none

/-- The named fields of a mapping, whose keys are all text. A name that occurs twice is refused. -/
def record? (names : List String) (y : Yaml) : Option (List (Option Yaml)) := do
  let entries ← match y with
    | .map entries => some entries
    | y => if y.isEmpty then some [] else none
  let fields ← entries.mapM fun (key, value) => return (← key.string?, value)
  if names.any fun name => 2 ≤ fields.countP (·.1 = name) then none
  else some (names.map fun name => fields.lookup name)

def field (read : Yaml → Option α) (default : α) : Option Yaml → Option α
  | none => some default
  | some y => read y

end Yaml

end TaskGraph
