import TaskGraph.Bounds
import TaskGraph.SortedMap

/-!
# JSON values

Numbers are of two kinds, integers and floats, and the kind is part of the value. The fields of an
object are kept in the order they were written; a value proper has them sorted, one for each key
(`Json.normalize`).
-/

namespace TaskGraph

inductive JsonNumber where
  | int (value : Int)
  | float (value : Float)
  deriving DecidableEq, Inhabited

inductive Json where
  | null
  | bool (value : Bool)
  | num (value : JsonNumber)
  | str (value : String)
  | arr (items : List Json)
  | obj (fields : List (String × Json))
  deriving Inhabited

namespace Json

mutual

def decEq : (a b : Json) → Decidable (a = b)
  | .null, .null => isTrue rfl
  | .bool a, .bool b => decidable_of_iff (a = b) (by simp)
  | .num a, .num b => decidable_of_iff (a = b) (by simp)
  | .str a, .str b => decidable_of_iff (a = b) (by simp)
  | .arr a, .arr b => have := decEqItems a b; decidable_of_iff (a = b) (by simp)
  | .obj a, .obj b => have := decEqFields a b; decidable_of_iff (a = b) (by simp)
  | .null, .bool _ | .null, .num _ | .null, .str _ | .null, .arr _ | .null, .obj _
  | .bool _, .null | .bool _, .num _ | .bool _, .str _ | .bool _, .arr _ | .bool _, .obj _
  | .num _, .null | .num _, .bool _ | .num _, .str _ | .num _, .arr _ | .num _, .obj _
  | .str _, .null | .str _, .bool _ | .str _, .num _ | .str _, .arr _ | .str _, .obj _
  | .arr _, .null | .arr _, .bool _ | .arr _, .num _ | .arr _, .str _ | .arr _, .obj _
  | .obj _, .null | .obj _, .bool _ | .obj _, .num _ | .obj _, .str _ | .obj _, .arr _ =>
    isFalse nofun

def decEqItems : (a b : List Json) → Decidable (a = b)
  | [], [] => isTrue rfl
  | [], _ :: _ | _ :: _, [] => isFalse nofun
  | x :: a, y :: b =>
    have := decEq x y
    have := decEqItems a b
    decidable_of_iff (x = y ∧ a = b) (by simp)

def decEqFields : (a b : List (String × Json)) → Decidable (a = b)
  | [], [] => isTrue rfl
  | [], _ :: _ | _ :: _, [] => isFalse nofun
  | (k, x) :: a, (l, y) :: b =>
    have := decEq x y
    have := decEqFields a b
    decidable_of_iff ((k = l ∧ x = y) ∧ a = b) (by simp)

end

instance : DecidableEq Json := decEq

def int (n : Int) : Json := .num (.int n)

def float (x : Float) : Json := .num (.float x)

inductive Kind where
  | null
  | bool
  | number
  | string
  | list
  | struct
  deriving DecidableEq, Repr

def Kind.name : Kind → String
  | .null => "null"
  | .bool => "bool"
  | .number => "number"
  | .string => "string"
  | .list => "list"
  | .struct => "struct"

def kind : Json → Kind
  | .null => .null
  | .bool _ => .bool
  | .num _ => .number
  | .str _ => .string
  | .arr _ => .list
  | .obj _ => .struct

def isNull : Json → Bool
  | .null => true
  | _ => false

/-- The first field of an object under a key. -/
def field? (key : String) : Json → Option Json
  | .obj fields => fields.lookup key
  | _ => none

def ofDict (fields : Dict Json) : Json := .obj fields.entries

mutual

/-- Sorts the fields of every object by key; of those under one key the last stays. -/
def normalize : Json → Json
  | .arr items => .arr (normalizeItems items)
  | .obj fields => ofDict (normalizeFields ∅ fields)
  | j => j

def normalizeItems : List Json → List Json
  | [] => []
  | j :: rest => normalize j :: normalizeItems rest

def normalizeFields (seen : Dict Json) : List (String × Json) → Dict Json
  | [] => seen
  | (key, j) :: rest => normalizeFields (seen.insert key (normalize j)) rest

end

end Json

namespace JsonNumber

/-- The nearest float. -/
def toFloat : JsonNumber → Float
  | .int n => Float.ofInt n
  | .float x => x

/-- The value of an integer that fits 64 signed bits. -/
def toInt64? : JsonNumber → Option Int
  | .int n => if fitsInt64 n then some n else none
  | .float _ => none

end JsonNumber

end TaskGraph
