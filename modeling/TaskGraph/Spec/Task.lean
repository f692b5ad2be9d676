import TaskGraph.Spec.Types

/-!
# Tasks

A task is a node of a graph: the component it runs, where its inputs come from, when it runs, and
whether it runs once for each item of a list.
-/

namespace TaskGraph

open JsonCodec

/-- An output of another task. -/
structure TaskOutput where
  task : String := ""
  key : String := ""
  deriving DecidableEq, Inhabited

inductive ParameterSource where
  | componentInput (name : String)
  | taskOutput (output : TaskOutput)
  | runtimeValue (constant : Option Json)
  | taskFinalStatus (task : String)
  deriving DecidableEq

/-- A source that is missing or not understood is no source; using it fails later. -/
structure InputParameterSpec where
  source : Option ParameterSource := none
  selector : String := ""
  deriving DecidableEq

inductive ArtifactSource where
  | componentInput (name : String)
  | taskOutput (output : TaskOutput)
  deriving DecidableEq

structure InputArtifactSpec where
  source : Option ArtifactSource := none
  deriving DecidableEq

structure TaskInputs where
  parameters : Dict InputParameterSpec := ∅
  artifacts : Dict InputArtifactSpec := ∅
  deriving DecidableEq

/-- The items of a fan-out: an input parameter, or a list in JSON text. -/
structure ParameterItems where
  inputParameter : Option String := none
  raw : Option String := none
  deriving DecidableEq

structure ParameterIterator where
  items : ParameterItems := {}
  itemInput : String := ""
  deriving DecidableEq

structure ArtifactIterator where
  itemsArtifact : String := ""
  itemInput : String := ""
  deriving DecidableEq

structure TaskSpec where
  name : String := ""
  inputs : TaskInputs := {}
  dependentTasks : List String := []
  enableCache : Bool := false
  component : String := ""
  condition : String := ""
  parameterIterator : Option ParameterIterator := none
  artifactIterator : Option ArtifactIterator := none
  deriving DecidableEq

/-- The codec of a record with a single field. -/
abbrev JsonCodec.wrapped [JsonCodec α] (name : String) (default : α) : JsonCodec α where
  encode x := .ofRecord [name] [present x]
  decode? j := do
    let [x] ← j.record? [name] | none
    field default x
  shape := .ofRecord [name] [shape α]

/-- Outputs of parameters and of artifacts differ in the name of their second field. -/
abbrev TaskOutput.codec (keyField : String) : JsonCodec TaskOutput :=
  let fields := ["producerTask", keyField]
  { encode := fun o => .ofRecord fields [present o.task, present o.key]
    decode? := fun j => do
      let [task, key] ← j.record? fields | none
      return ⟨← field "" task, ← field "" key⟩ }

namespace ParameterSource

abbrev outputCodec : JsonCodec TaskOutput := TaskOutput.codec "outputParameterKey"

def constantFields : List String := ["constant"]

abbrev statusCodec : JsonCodec String := JsonCodec.wrapped "producerTask" ""

def encode : ParameterSource → String × Json
  | .componentInput name => ("componentInputParameter", .str name)
  | .taskOutput output => ("taskOutputParameter", outputCodec.encode output)
  | .runtimeValue constant =>
    ("runtimeValue", .ofRecord constantFields [unlessNone constant])
  | .taskFinalStatus task => ("taskFinalStatus", statusCodec.encode task)

def isKey (key : String) : Bool :=
  key = "componentInputParameter" || key = "taskOutputParameter" || key = "runtimeValue" ||
    key = "taskFinalStatus"

def decode? : String × Json → Option ParameterSource
  | ("componentInputParameter", .str name) => some (.componentInput name)
  | ("taskOutputParameter", j) => (outputCodec.decode? j).map .taskOutput
  | ("runtimeValue", j) => do
    let [constant] ← j.record? constantFields | none
    return .runtimeValue (← nullable constant)
  | ("taskFinalStatus", j) => (statusCodec.decode? j).map .taskFinalStatus
  | _ => none

end ParameterSource

/-- The source is written among the fields of its input. Of several the first counts. -/
instance InputParameterSpec.codec : JsonCodec InputParameterSpec where
  encode p := .obj ((p.source.map ParameterSource.encode).toList ++
    (if p.selector.isEmpty then [] else [("parameterExpressionSelector", .str p.selector)]))
  decode?
    | .obj fields => do
      let [selector] ← (Json.obj fields).record? ["parameterExpressionSelector"] | none
      let source := (fields.find? fun f => ParameterSource.isKey f.1).bind ParameterSource.decode?
      return ⟨source, ← field "" selector⟩
    | _ => none

namespace ArtifactSource

abbrev outputCodec : JsonCodec TaskOutput := TaskOutput.codec "outputArtifactKey"

def encode : ArtifactSource → String × Json
  | .componentInput name => ("componentInputArtifact", .str name)
  | .taskOutput output => ("taskOutputArtifact", outputCodec.encode output)

def isKey (key : String) : Bool := key = "componentInputArtifact" || key = "taskOutputArtifact"

def decode? : String × Json → Option ArtifactSource
  | ("componentInputArtifact", .str name) => some (.componentInput name)
  | ("taskOutputArtifact", j) => (outputCodec.decode? j).map .taskOutput
  | _ => none

end ArtifactSource

instance InputArtifactSpec.codec : JsonCodec InputArtifactSpec where
  encode a := .obj (a.source.map ArtifactSource.encode).toList
  decode?
    | .obj fields =>
      some ⟨(fields.find? fun f => ArtifactSource.isKey f.1).bind ArtifactSource.decode?⟩
    | _ => none

instance TaskInputs.codec : JsonCodec TaskInputs :=
  let fields := ["parameters", "artifacts"]
  { encode := fun d => .ofRecord fields [unlessEmpty d.parameters, unlessEmpty d.artifacts]
    decode? := fun j => do
      let [parameters, artifacts] ← j.record? fields | none
      return ⟨← field ∅ parameters, ← field ∅ artifacts⟩
    shape := .ofRecord fields [shape (Dict InputParameterSpec), shape (Dict InputArtifactSpec)] }

instance ParameterItems.codec : JsonCodec ParameterItems :=
  let fields := ["inputParameter", "raw"]
  { encode := fun d => .ofRecord fields [unlessNone d.inputParameter, unlessNone d.raw]
    decode? := fun j => do
      let [inputParameter, raw] ← j.record? fields | none
      return ⟨← nullable inputParameter, ← nullable raw⟩
    shape := .ofRecord fields [.optional .text, .optional .text] }

instance ParameterIterator.codec : JsonCodec ParameterIterator :=
  let fields := ["items", "itemInput"]
  { encode := fun d => .ofRecord fields [present d.items, present d.itemInput]
    decode? := fun j => do
      let [items, itemInput] ← j.record? fields | none
      return ⟨← field {} items, ← field "" itemInput⟩
    shape := .ofRecord fields [shape ParameterItems, .text] }

namespace ArtifactIterator

abbrev itemsCodec : JsonCodec String := JsonCodec.wrapped "inputArtifact" ""

def fields : List String := ["items", "itemInput"]

instance : JsonCodec ArtifactIterator where
  encode d := .ofRecord fields [some (itemsCodec.encode d.itemsArtifact), present d.itemInput]
  decode? j := do
    let [artifact, itemInput] ← j.record? fields | none
    return ⟨← @field _ itemsCodec "" artifact, ← field "" itemInput⟩
  shape := .ofRecord fields [itemsCodec.shape, .text]

end ArtifactIterator

namespace TaskSpec

def fields : List String :=
  ["taskInfo", "inputs", "dependentTasks", "cachingOptions", "componentRef", "triggerPolicy",
    "parameterIterator", "artifactIterator"]

abbrev nameCodec : JsonCodec String := JsonCodec.wrapped "name" ""

abbrev cacheCodec : JsonCodec Bool := JsonCodec.wrapped "enableCache" false

abbrev conditionCodec : JsonCodec String := JsonCodec.wrapped "condition" ""

instance : JsonCodec TaskSpec where
  encode t := .ofRecord fields
    [some (nameCodec.encode t.name), present t.inputs, unlessNil t.dependentTasks,
      some (cacheCodec.encode t.enableCache), some (nameCodec.encode t.component),
      some (conditionCodec.encode t.condition), unlessNone t.parameterIterator,
      unlessNone t.artifactIterator]
  decode? j := do
    let [name, inputs, dependentTasks, cache, component, condition, parameterIterator,
      artifactIterator] ← j.record? fields | none
    return ⟨← @field _ nameCodec "" name, ← field {} inputs, ← field [] dependentTasks,
      ← @field _ cacheCodec false cache, ← @field _ nameCodec "" component,
      ← @field _ conditionCodec "" condition, ← nullable parameterIterator,
      ← nullable artifactIterator⟩
  shape := .ofRecord fields
    [nameCodec.shape, shape TaskInputs, shape (List String), cacheCodec.shape, nameCodec.shape,
      conditionCodec.shape, .optional (shape ParameterIterator),
      .optional (shape ArtifactIterator)]

end TaskSpec

end TaskGraph
