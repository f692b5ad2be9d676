import TaskGraph.Json.Codec

/-!
# Types of parameters and artifacts
-/

namespace TaskGraph

open JsonCodec

inductive ParameterType where
  | unspecified
  | numberDouble
  | numberInteger
  | string
  | boolean
  | list
  | struct
  | taskFinalStatus
  deriving DecidableEq, Repr, Inhabited

namespace ParameterType

def all : List ParameterType :=
  [.unspecified, .numberDouble, .numberInteger, .string, .boolean, .list, .struct,
    .taskFinalStatus]

def name : ParameterType → String
  | .unspecified => "PARAMETER_TYPE_ENUM_UNSPECIFIED"
  | .numberDouble => "NUMBER_DOUBLE"
  | .numberInteger => "NUMBER_INTEGER"
  | .string => "STRING"
  | .boolean => "BOOLEAN"
  | .list => "LIST"
  | .struct => "STRUCT"
  | .taskFinalStatus => "TASK_FINAL_STATUS"

def ofName? (name : String) : Option ParameterType := all.find? (·.name = name)

end ParameterType

/-- The name of an enumeration's value, alone or as the key of a null field. -/
def Json.enumName? : Json → Option String
  | .str name => some name
  | .obj [(name, .null)] => some name
  | _ => none

instance : JsonCodec ParameterType where
  encode t := .str t.name
  decode? j := j.enumName?.bind ParameterType.ofName?

/-- What kind of artifact it is: a title, or a schema of its own. -/
structure ArtifactType where
  schemaTitle : Option String := none
  instanceSchema : Option String := none
  schemaVersion : Option String := none
  deriving DecidableEq, Inhabited

namespace ArtifactType

/-- The schema under which artifacts are stored. -/
def schema (t : ArtifactType) : String := (t.instanceSchema <|> t.schemaTitle).getD ""

def fields : List String := ["schemaTitle", "instanceSchema", "schemaVersion"]

instance : JsonCodec ArtifactType where
  encode t := .ofRecord fields
    [unlessNone t.schemaTitle, unlessNone t.instanceSchema, unlessNone t.schemaVersion]
  decode? j := do
    let [title, instanceSchema, version] ← j.record? fields | none
    return ⟨← nullable title, ← nullable instanceSchema, ← nullable version⟩
  shape := .ofRecord fields [.optional .text, .optional .text, .optional .text]

end ArtifactType

end TaskGraph
