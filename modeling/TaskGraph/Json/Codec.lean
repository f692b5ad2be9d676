import TaskGraph.Json.Basic

/-!
# Values in JSON form

How typed values are written as JSON and read back. A record is written as an object of its fields
in the order of their declaration; it is read from an object, whose other fields are ignored, or
from an array of the fields in that order. Either way missing fields take their defaults.
-/

namespace TaskGraph

/-- What is known of a value before its text is read. Of `any` value the whole text is read, and a
record of named fields may stand in an object or, in their order, in an array. -/
inductive Json.Shape where
  | any
  | text
  | optional (value : Shape)
  | list (item : Shape)
  | dict (item : Shape)
  | record (fields : List (String × Shape))
  deriving Inhabited

class JsonCodec (α : Type) where
  encode : α → Json
  decode? : Json → Option α
  shape : Json.Shape := .any

namespace Json

/-- The named fields of an object, or the leading ones of an array. A name that occurs twice and an
array that is too long are refused. -/
def record? (names : List String) : Json → Option (List (Option Json))
  | .obj fields =>
    if names.any fun name => 2 ≤ fields.countP (·.1 = name) then none
    else some (names.map fun name => fields.lookup name)
  | .arr items =>
    if items.length ≤ names.length then
      some (items.map some ++ List.replicate (names.length - items.length) none)
    else none
  | _ => none

/-- An object of the fields that are present. -/
def ofRecord (names : List String) (values : List (Option Json)) : Json :=
  .obj ((names.zip values).filterMap fun (name, value) => value.map (name, ·))

def Shape.ofRecord (names : List String) (shapes : List Shape) : Shape :=
  .record (names.zip shapes)

end Json

namespace JsonCodec

instance : JsonCodec Json where
  encode := id
  decode? j := some j.normalize

instance : JsonCodec String where
  encode := .str
  decode?
    | .str s => some s
    | _ => none
  shape := .text

instance : JsonCodec Bool where
  encode := .bool
  decode?
    | .bool b => some b
    | _ => none

/-- Floats may be written as integers. -/
instance : JsonCodec Float where
  encode := .float
  decode?
    | .num n => some n.toFloat
    | _ => none

instance [JsonCodec α] : JsonCodec (List α) where
  encode xs := .arr (xs.map encode)
  decode?
    | .arr items => items.mapM decode?
    | _ => none
  shape := .list (shape α)

instance [JsonCodec α] : JsonCodec (Dict α) where
  encode m := .obj (m.entries.map fun (key, x) => (key, encode x))
  decode?
    | .obj fields => do
      let entries ← fields.mapM fun (key, j) => return (key, ← decode? j)
      return SortedMap.ofList entries
    | _ => none
  shape := .dict (shape α)

/-- A field that has a default. -/
def field [JsonCodec α] (default : α) : Option Json → Option α
  | none => some default
  | some j => decode? j

/-- A field that may be absent; `null` counts as absent. -/
def nullable [JsonCodec α] : Option Json → Option (Option α)
  | none => some none
  | some j => if j.isNull then some none else (decode? j).map some

def present [JsonCodec α] (x : α) : Option Json := some (encode x)

def unlessNone [JsonCodec α] (x : Option α) : Option Json := x.map encode

/-- Writes a field only if `empty` does not hold of it. -/
def skipIf [JsonCodec α] (empty : α → Bool) (x : α) : Option Json :=
  if empty x then none else some (encode x)

def unlessNil [JsonCodec α] (xs : List α) : Option Json := skipIf List.isEmpty xs

def unlessEmpty [JsonCodec α] (m : Dict α) : Option Json := skipIf SortedMap.isEmpty m

def unlessBlank (s : String) : Option Json := skipIf String.isEmpty s

def unlessFalse (b : Bool) : Option Json := skipIf (fun b => !b) b

end JsonCodec

end TaskGraph
