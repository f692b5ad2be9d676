import TaskGraph.Yaml.Token

/-!
# Reading YAML

The tree of a text is read off its tokens. A node may be named by an anchor; a reference stands for
the last node before it that was given the name.
-/

namespace TaskGraph.Yaml

/-- What is left to read of a document. -/
structure Feed where
  tokens : List Token
  /-- What the handles of tags stand for. -/
  handles : List (String × String)
  /-- The nodes that were named, the last one first; a node that is not complete has no tree yet. -/
  anchors : List (String × Option Yaml) := []

namespace Feed

def skip (f : Feed) : Feed := { f with tokens := f.tokens.tail }

/-- Names a node. -/
def named (anchor : Option String) (y : Option Yaml) (f : Feed) : Feed :=
  match anchor with
  | none => f
  | some name => { f with anchors := (name, y) :: f.anchors }

/-- Gives the node that was named last in `before` its tree. -/
def complete (f : Feed) (anchor : Option String) (before : Feed) (y : Yaml) : Feed :=
  match anchor with
  | none => f
  | some name =>
    let position := f.anchors.length - before.anchors.length
    { f with anchors := f.anchors.set position (name, some y) }

/-- The full name of a tag. -/
def tagText? (f : Feed) (t : TagName) : Option String :=
  if t.handle.isEmpty then some t.suffix else (f.handles.lookup t.handle).map (· ++ t.suffix)

end Feed

/-- What stands before the content of a node. -/
structure Properties where
  anchor : Option String := none
  tag : Option TagName := none

/-- An anchor and a tag, in any order. -/
def properties : List Token → Properties × List Token
  | .anchor name :: .tag t :: rest | .tag t :: .anchor name :: rest => (⟨some name, some t⟩, rest)
  | .anchor name :: rest => (⟨some name, none⟩, rest)
  | .tag t :: rest => (⟨none, some t⟩, rest)
  | rest => ({}, rest)

/-- Where a node stands. -/
inductive Position where
  /-- Inside a flow collection. -/
  | flow
  | block
  /-- A key or a value of a block mapping; a sequence there need not stand further in. -/
  | entry
  deriving DecidableEq

namespace Position

def startsCollection (p : Position) : Token → Bool
  | .flowSeq | .flowMap => true
  | .blockSeq | .blockMap => p ≠ .flow
  | .item => p = .entry
  | _ => false

/-- Whether a token comes after a node, so that the node is empty if the token comes first. -/
def ends (p : Position) : Token → Bool
  | .key | .blockEnd => p ≠ .flow
  | .value => true
  | .item => p = .block
  | .comma | .flowSeqEnd | .flowMapEnd => p = .flow
  | _ => false

end Position

mutual

/-- A node that may be empty. -/
def nodeOrEmpty (fuel : Nat) (p : Position) (f : Feed) : Option (Yaml × Feed) :=
  match fuel with
  | 0 => none
  | fuel + 1 => if f.tokens.head?.any p.ends then some (empty, f) else node fuel p f

/-- A node. It may be empty only if it has an anchor or a tag. -/
def node (fuel : Nat) (p : Position) (f : Feed) : Option (Yaml × Feed) :=
  match fuel with
  | 0 => none
  | fuel + 1 =>
    match f.tokens with
    | .reference name :: _ => do return (← (← f.anchors.lookup name), f.skip)
    | _ => do
      let (given, tokens) := properties f.tokens
      let tag ← match given.tag with
        | none => pure none
        | some t => some <$> f.tagText? t
      let f := { f with tokens }
      match tokens with
      | .scalar style text :: _ =>
        let y := .scalar style (if tag = some "!" then none else tag) text
        return (y, f.skip.named given.anchor (some y))
      | _ =>
        if tokens.head?.any p.startsCollection then
          let start := f.named given.anchor none
          let (y, f) ← collection fuel start
          return (y, f.complete given.anchor start y)
        else if given.anchor.isSome || tag.isSome then
          let y := .scalar .plain tag ""
          return (y, f.named given.anchor (some y))
        else none

def collection (fuel : Nat) (f : Feed) : Option (Yaml × Feed) :=
  match fuel with
  | 0 => none
  | fuel + 1 =>
    match f.tokens with
    | .flowSeq :: _ => flowItems fuel [] f.skip
    | .flowMap :: _ => flowEntries fuel [] f.skip
    | .blockSeq :: _ => do
      let (y, f) ← blockItems fuel [] f.skip
      match f.tokens with
      | .blockEnd :: _ => some (y, f.skip)
      | _ => none
    | .item :: _ => blockItems fuel [] f
    | .blockMap :: _ => blockEntries fuel [] f.skip
    | _ => none

/-- Items of a block sequence. -/
def blockItems (fuel : Nat) (done : List Yaml) (f : Feed) : Option (Yaml × Feed) :=
  match fuel with
  | 0 => none
  | fuel + 1 =>
    match f.tokens with
    | .item :: _ => do
      let (y, f) ← nodeOrEmpty fuel .block f.skip
      blockItems fuel (y :: done) f
    | _ => some (.seq done.reverse, f)

/-- The value of a key, if it has one. -/
def valueOf (fuel : Nat) (p : Position) (f : Feed) : Option (Yaml × Feed) :=
  match fuel with
  | 0 => none
  | fuel + 1 =>
    match f.tokens with
    | .value :: _ => nodeOrEmpty fuel p f.skip
    | _ => some (empty, f)

/-- The entries of a block mapping up to its end. -/
def blockEntries (fuel : Nat) (done : List (Yaml × Yaml)) (f : Feed) : Option (Yaml × Feed) :=
  match fuel with
  | 0 => none
  | fuel + 1 =>
    match f.tokens with
    | .key :: _ => do
      let (key, f) ← nodeOrEmpty fuel .entry f.skip
      let (value, f) ← valueOf fuel .entry f
      blockEntries fuel ((key, value) :: done) f
    | .blockEnd :: _ => some (.map done.reverse, f.skip)
    | _ => none

/-- An item of a flow sequence; a key with its value is a mapping of its own. A mark that comes
right after the mark of a key is passed over. -/
def flowItem (fuel : Nat) (f : Feed) : Option (Yaml × Feed) :=
  match fuel with
  | 0 => none
  | fuel + 1 =>
    match f.tokens with
    | .key :: rest => do
      let (key, f) ← match rest with
        | .value :: _ | .comma :: _ | .flowSeqEnd :: _ => pure (empty, f.skip.skip)
        | _ => node fuel .flow f.skip
      let (value, f) ← valueOf fuel .flow f
      return (.map [(key, value)], f)
    | _ => node fuel .flow f

/-- The items of a flow sequence up to its end. -/
def flowItems (fuel : Nat) (done : List Yaml) (f : Feed) : Option (Yaml × Feed) :=
  match fuel with
  | 0 => none
  | fuel + 1 =>
    match f.tokens with
    | .flowSeqEnd :: _ => some (.seq done.reverse, f.skip)
    | _ => do
      let (y, f) ← flowItem fuel f
      match f.tokens with
      | .comma :: _ => flowItems fuel (y :: done) f.skip
      | .flowSeqEnd :: _ => some (.seq (y :: done).reverse, f.skip)
      | _ => none

/-- An entry of a flow mapping; a node that is no key has no value. -/
def flowEntry (fuel : Nat) (f : Feed) : Option ((Yaml × Yaml) × Feed) :=
  match fuel with
  | 0 => none
  | fuel + 1 =>
    match f.tokens with
    | .key :: _ => do
      let (key, f) ← nodeOrEmpty fuel .flow f.skip
      let (value, f) ← valueOf fuel .flow f
      return ((key, value), f)
    | _ => do
      let (key, f) ← node fuel .flow f
      return ((key, empty), f)

/-- The entries of a flow mapping up to its end. -/
def flowEntries (fuel : Nat) (done : List (Yaml × Yaml)) (f : Feed) : Option (Yaml × Feed) :=
  match fuel with
  | 0 => none
  | fuel + 1 =>
    match f.tokens with
    | .flowMapEnd :: _ => some (.map done.reverse, f.skip)
    | _ => do
      let (entry, f) ← flowEntry fuel f
      match f.tokens with
      | .comma :: _ => flowEntries fuel (entry :: done) f.skip
      | .flowMapEnd :: _ => some (.map (entry :: done).reverse, f.skip)
      | _ => none

end

/-- The handles that need no directive. -/
def commonHandles : List (String × String) := [("!", "!"), ("!!", coreTag "")]

/-- The handles that directives introduce and what follows the directives. A second version or a
second meaning of a handle is refused. -/
def directives (versioned : Bool) (handles : List (String × String)) :
    List Token → Option (List (String × String) × List Token)
  | .directive (.version major minor) :: rest =>
    if versioned || major ≠ 1 || minor ∉ [1, 2] then none else directives true handles rest
  | .directive (.namespaceTag handle start) :: rest =>
    if (handles.lookup handle).isSome then none
    else directives versioned ((handle, start) :: handles) rest
  | rest => some (handles, rest)

/-- A document without its head. Nothing but ends of documents may follow it. -/
def document? (handles : List (String × String)) (tokens : List Token) : Option Yaml := do
  let (y, f) ← node (5 * tokens.length + 5) .block ⟨tokens, handles ++ commonHandles, []⟩
  if f.tokens.all (· matches .documentEnd) then some y else none

/-- Reads a text of at most one document; a text without content reads as an empty node. -/
def parse? (text : String) : Option Yaml := do
  let tokens ← tokens? text
  if tokens.isEmpty then return empty
  let (handles, rest) ← directives false [] tokens
  match rest with
  | .documentStart :: rest =>
    if rest.all (· matches .documentEnd) then some empty else document? handles rest
  | rest => if tokens.head? matches some (.directive _) then none else document? [] rest

end TaskGraph.Yaml
