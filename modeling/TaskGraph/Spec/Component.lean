import TaskGraph.Spec.Task

/-!
# Components

A component is a contract, the parameters and artifacts it takes and gives, and for a sub-graph the
tasks in it and the sources of its outputs.
-/

namespace TaskGraph

open JsonCodec

structure InputParameterDefinition where
  type : ParameterType := .unspecified
  defaultValue : Option Json := none
  isOptional : Bool := false
  description : Option String := none
  deriving DecidableEq

structure InputArtifactDefinition where
  type : ArtifactType := {}
  isList : Bool := false
  isOptional : Bool := false
  deriving DecidableEq

structure ComponentInputs where
  parameters : Dict InputParameterDefinition := ∅
  artifacts : Dict InputArtifactDefinition := ∅
  deriving DecidableEq

structure OutputParameterDefinition where
  type : ParameterType := .unspecified
  deriving DecidableEq

structure OutputArtifactDefinition where
  type : ArtifactType := {}
  metadata : Option (Dict Json) := none
  deriving DecidableEq

structure ComponentOutputs where
  parameters : Dict OutputParameterDefinition := ∅
  artifacts : Dict OutputArtifactDefinition := ∅
  deriving DecidableEq

/-- An output of a task inside a graph. -/
structure OutputSelector where
  subtask : String := ""
  key : String := ""
  deriving DecidableEq, Inhabited

/-- Where an output parameter of a graph comes from: one task, or the first of several that ran. -/
inductive ParameterProducer where
  | direct (selector : OutputSelector)
  | oneOf (selectors : List OutputSelector)
  deriving DecidableEq

/-- Where an output artifact of a graph comes from. -/
structure ArtifactProducer where
  selectors : List OutputSelector := []
  deriving DecidableEq

structure DagOutputs where
  parameters : Dict ParameterProducer := ∅
  artifacts : Dict ArtifactProducer := ∅
  deriving DecidableEq

structure DagSpec where
  tasks : Dict TaskSpec := ∅
  outputs : DagOutputs := {}
  deriving DecidableEq

structure ComponentSpec where
  inputs : ComponentInputs := {}
  outputs : ComponentOutputs := {}
  executorLabel : Option String := none
  dag : Option DagSpec := none
  deriving DecidableEq

instance InputParameterDefinition.codec : JsonCodec InputParameterDefinition :=
  let fields := ["parameterType", "defaultValue", "isOptional", "description"]
  { encode := fun d => .ofRecord fields
      [present d.type, unlessNone d.defaultValue, unlessFalse d.isOptional,
        unlessNone d.description]
    decode? := fun j => do
      let [type, defaultValue, isOptional, description] ← j.record? fields | none
      return ⟨← field .unspecified type, ← nullable defaultValue, ← field false isOptional,
        ← nullable description⟩
    shape := .ofRecord fields [.any, .any, .any, .optional .text] }

instance InputArtifactDefinition.codec : JsonCodec InputArtifactDefinition :=
  let fields := ["artifactType", "isArtifactList", "isOptional"]
  { encode := fun d => .ofRecord fields
      [present d.type, unlessFalse d.isList, unlessFalse d.isOptional]
    decode? := fun j => do
      let [type, isList, isOptional] ← j.record? fields | none
      return ⟨← field {} type, ← field false isList, ← field false isOptional⟩
    shape := .ofRecord fields [shape ArtifactType, .any, .any] }

instance ComponentInputs.codec : JsonCodec ComponentInputs :=
  let fields := ["parameters", "artifacts"]
  { encode := fun d => .ofRecord fields [unlessEmpty d.parameters, unlessEmpty d.artifacts]
    decode? := fun j => do
      let [parameters, artifacts] ← j.record? fields | none
      return ⟨← field ∅ parameters, ← field ∅ artifacts⟩
    shape := .ofRecord fields
      [shape (Dict InputParameterDefinition), shape (Dict InputArtifactDefinition)] }

instance OutputParameterDefinition.codec : JsonCodec OutputParameterDefinition :=
  let fields := ["parameterType"]
  { encode := fun d => .ofRecord fields [present d.type]
    decode? := fun j => do
      let [type] ← j.record? fields | none
      return ⟨← field .unspecified type⟩
    shape := .ofRecord fields [.any] }

instance OutputArtifactDefinition.codec : JsonCodec OutputArtifactDefinition :=
  let fields := ["artifactType", "metadata"]
  { encode := fun d => .ofRecord fields [present d.type, unlessNone d.metadata]
    decode? := fun j => do
      let [type, metadata] ← j.record? fields | none
      return ⟨← field {} type, ← nullable metadata⟩
    shape := .ofRecord fields [shape ArtifactType, .optional (shape (Dict Json))] }

instance ComponentOutputs.codec : JsonCodec ComponentOutputs :=
  let fields := ["parameters", "artifacts"]
  { encode := fun d => .ofRecord fields [unlessEmpty d.parameters, unlessEmpty d.artifacts]
    decode? := fun j => do
      let [parameters, artifacts] ← j.record? fields | none
      return ⟨← field ∅ parameters, ← field ∅ artifacts⟩
    shape := .ofRecord fields
      [shape (Dict OutputParameterDefinition), shape (Dict OutputArtifactDefinition)] }

/-- Selectors of parameters and of artifacts differ in the name of their second field. -/
abbrev OutputSelector.codec (keyField : String) : JsonCodec OutputSelector :=
  let fields := ["producerSubtask", keyField]
  { encode := fun s => .ofRecord fields [present s.subtask, present s.key]
    decode? := fun j => do
      let [subtask, key] ← j.record? fields | none
      return ⟨← field "" subtask, ← field "" key⟩
    shape := .ofRecord fields [.text, .text] }

namespace ParameterProducer

abbrev selectorCodec : JsonCodec OutputSelector := OutputSelector.codec "outputParameterKey"

def listFields : List String := ["parameterSelectors"]

instance : JsonCodec ParameterProducer where
  encode
    | .direct selector => .obj [("valueFromParameter", selectorCodec.encode selector)]
    | .oneOf selectors =>
      have := selectorCodec
      .obj [("valueFromOneof", .ofRecord listFields [present selectors])]
  decode?
    | .obj [("valueFromParameter", j)] => (selectorCodec.decode? j).map .direct
    | .obj [("valueFromOneof", j)] => do
      have := selectorCodec
      let [selectors] ← j.record? listFields | none
      return .oneOf (← field [] selectors)
    | _ => none
  shape :=
    .record [("valueFromParameter", selectorCodec.shape),
      ("valueFromOneof", .ofRecord listFields [.list selectorCodec.shape])]

end ParameterProducer

instance ArtifactProducer.codec : JsonCodec ArtifactProducer :=
  have := OutputSelector.codec "outputArtifactKey"
  let fields := ["artifactSelectors"]
  { encode := fun p => .ofRecord fields [present p.selectors]
    decode? := fun j => do
      let [selectors] ← j.record? fields | none
      return ⟨← field [] selectors⟩
    shape := .ofRecord fields [shape (List OutputSelector)] }

instance DagOutputs.codec : JsonCodec DagOutputs :=
  let fields := ["parameters", "artifacts"]
  { encode := fun d => .ofRecord fields [unlessEmpty d.parameters, unlessEmpty d.artifacts]
    decode? := fun j => do
      let [parameters, artifacts] ← j.record? fields | none
      return ⟨← field ∅ parameters, ← field ∅ artifacts⟩
    shape := .ofRecord fields [shape (Dict ParameterProducer), shape (Dict ArtifactProducer)] }

instance DagSpec.codec : JsonCodec DagSpec :=
  let fields := ["tasks", "outputs"]
  { encode := fun d => .ofRecord fields [unlessEmpty d.tasks, present d.outputs]
    decode? := fun j => do
      let [tasks, outputs] ← j.record? fields | none
      return ⟨← field ∅ tasks, ← field {} outputs⟩
    shape := .ofRecord fields [shape (Dict TaskSpec), shape DagOutputs] }

instance ComponentSpec.codec : JsonCodec ComponentSpec :=
  let fields := ["inputDefinitions", "outputDefinitions", "executorLabel", "dag"]
  { encode := fun c => .ofRecord fields
      [present c.inputs, present c.outputs, unlessNone c.executorLabel, unlessNone c.dag]
    decode? := fun j => do
      let [inputs, outputs, executorLabel, dag] ← j.record? fields | none
      return ⟨← field {} inputs, ← field {} outputs, ← nullable executorLabel, ← nullable dag⟩
    shape := .ofRecord fields [shape ComponentInputs, shape ComponentOutputs, .optional .text,
      .optional (shape DagSpec)] }

end TaskGraph
