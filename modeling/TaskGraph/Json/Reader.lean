import TaskGraph.Json.Codec
import TaskGraph.Json.Skip

/-!
# Reading typed values from JSON text

A typed value is read with its shape at hand. Fields that the shape does not have are passed over,
and the first place that does not fit, in the order of the text, decides why reading fails.
-/

namespace TaskGraph.Json

/-- Why a text is not read: it is not JSON up to the place in question, or it is JSON of another
shape. -/
inductive Fault where
  | grammar
  | shape
  deriving DecidableEq, Repr

def grammatical : Option α → Except Fault α
  | some x => .ok x
  | none => .error .grammar

/-- Refuses a value of the wrong shape: a container at its bracket, a scalar once it is read. -/
def refuse : List Char → Except Fault α
  | '[' :: _ | '{' :: _ => .error .shape
  | s => do
    let _ ← grammatical (scalar s)
    .error .shape

/-- Goes one level down, if that is still allowed. -/
def deeper : Nat → Except Fault Nat
  | 0 => .error .grammar
  | depth + 1 => .ok depth

mutual

/-- One value and what follows it. Of the fields that the shape does not have only the names are
kept. `fuel` bounds the steps and `depth` the nesting. -/
def read (fuel depth : Nat) (shape : Shape) (s : List Char) : Except Fault (Json × List Char) :=
  match fuel with
  | 0 => .error .grammar
  | fuel + 1 =>
    match shape, skipBlank s with
    | .any, s => grammatical (value fuel depth s)
    | .text, '"' :: rest => grammatical (scalar ('"' :: rest))
    | .optional _, 'n' :: rest => grammatical (scalar ('n' :: rest))
    | .optional inner, s => read fuel depth inner s
    | .list item, '[' :: rest => do
      let depth ← deeper depth
      match skipBlank rest with
      | ']' :: rest => return (.arr [], rest)
      | _ => return (← readItems fuel depth item rest).map .arr id
    | .dict item, '{' :: rest => do
      let depth ← deeper depth
      match skipBlank rest with
      | '}' :: rest => return (.obj [], rest)
      | _ => return (← readEntries fuel depth item rest).map .obj id
    | .record fields, '{' :: rest => do
      let depth ← deeper depth
      match skipBlank rest with
      | '}' :: rest => return (.obj [], rest)
      | _ => return (← readFields fuel depth fields [] rest).map .obj id
    | .record fields, '[' :: rest => do
      let depth ← deeper depth
      match skipBlank rest with
      | ']' :: rest => return (.arr [], rest)
      | _ => return (← readColumns fuel depth fields rest).map .arr id
    | _, s => refuse s

/-- The items of a list up to the closing bracket. -/
def readItems (fuel depth : Nat) (item : Shape) (s : List Char) :
    Except Fault (List Json × List Char) :=
  match fuel with
  | 0 => .error .grammar
  | fuel + 1 => do
    let (j, rest) ← read fuel depth item s
    match skipBlank rest with
    | ',' :: rest => return (← readItems fuel depth item rest).map (j :: ·) id
    | ']' :: rest => return ([j], rest)
    | _ => throw .grammar

/-- The entries of a dictionary up to the closing brace. -/
def readEntries (fuel depth : Nat) (item : Shape) (s : List Char) :
    Except Fault (List (String × Json) × List Char) :=
  match fuel with
  | 0 => .error .grammar
  | fuel + 1 => do
    let (key, rest) ← grammatical (key s)
    let (j, rest) ← read fuel depth item (← grammatical (colon rest))
    match skipBlank rest with
    | ',' :: rest => return (← readEntries fuel depth item rest).map ((key, j) :: ·) id
    | '}' :: rest => return ([(key, j)], rest)
    | _ => throw .grammar

/-- The fields of a record up to the closing brace. A name that occurs once more is refused. -/
def readFields (fuel depth : Nat) (fields : List (String × Shape)) (seen : List String)
    (s : List Char) : Except Fault (List (String × Json) × List Char) :=
  match fuel with
  | 0 => .error .grammar
  | fuel + 1 => do
    let (key, rest) ← grammatical (key s)
    let (j, rest) ← match fields.lookup key with
      | some shape =>
        if seen.contains key then throw .shape
        else read fuel depth shape (← grammatical (colon rest))
      | none => (grammatical (colon rest >>= skipFrom fuel .value [])).map (Json.null, ·)
    match skipBlank rest with
    | ',' :: rest =>
      return (← readFields fuel depth fields (key :: seen) rest).map ((key, j) :: ·) id
    | '}' :: rest => return ([(key, j)], rest)
    | _ => throw .grammar

/-- The leading fields of a record that is written as an array. -/
def readColumns (fuel depth : Nat) (fields : List (String × Shape)) (s : List Char) :
    Except Fault (List Json × List Char) :=
  match fuel, fields with
  | 0, _ | _, [] => .error .grammar
  | fuel + 1, (_, shape) :: fields => do
    let (j, rest) ← read fuel depth shape s
    match skipBlank rest with
    | ',' :: rest => return (← readColumns fuel depth fields rest).map (j :: ·) id
    | ']' :: rest => return ([j], rest)
    | _ => throw .grammar

end

/-- The typed value at the start of a text, and what follows it. -/
def leading (α : Type) [JsonCodec α] (text : String) : Except Fault (α × List Char) := do
  let s := text.toList
  let (j, rest) ← read (4 * s.length + 8) maxDepth (JsonCodec.shape α) s
  match JsonCodec.decode? j with
  | some x => return (x, rest)
  | none => throw .shape

/-- Reads a whole text as a typed value. -/
def ofText? [JsonCodec α] (text : String) : Option α :=
  match leading α text with
  | .ok (x, rest) => if (skipBlank rest).isEmpty then some x else none
  | .error _ => none

end TaskGraph.Json
