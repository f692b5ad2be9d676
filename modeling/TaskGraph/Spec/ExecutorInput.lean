import TaskGraph.Spec.Types

/-!
# Executor inputs

What a task is handed when it starts: the values of its inputs and the places for its outputs.
-/

namespace TaskGraph

open JsonCodec

structure RuntimeArtifact where
  name : String := ""
  type : ArtifactType := {}
  uri : String := ""
  metadata : Dict Json := ∅
  deriving DecidableEq, Inhabited

structure ArtifactList where
  artifacts : List RuntimeArtifact := []
  deriving DecidableEq, Inhabited

def ArtifactList.single (a : RuntimeArtifact) : ArtifactList := ⟨[a]⟩

def ArtifactList.first? (l : ArtifactList) : Option RuntimeArtifact := l.artifacts.head?

structure ExecutorInputs where
  parameters : Dict Json := ∅
  artifacts : Dict ArtifactList := ∅
  deriving DecidableEq, Inhabited

structure OutputParameter where
  outputFile : String := ""
  deriving DecidableEq, Inhabited

structure ExecutorOutputs where
  parameters : Dict OutputParameter := ∅
  artifacts : Dict ArtifactList := ∅
  outputFile : String := ""
  deriving DecidableEq, Inhabited

structure ExecutorInput where
  inputs : ExecutorInputs := {}
  outputs : Option ExecutorOutputs := none
  deriving DecidableEq, Inhabited

/-- Where a task writes the metadata of its outputs. -/
def outputMetadataFile : String := "/tmp/kfp/outputs/output_metadata.json"

instance RuntimeArtifact.codec : JsonCodec RuntimeArtifact :=
  let fields := ["name", "type", "uri", "metadata"]
  { encode := fun a => .ofRecord fields
      [unlessBlank a.name, present a.type, present a.uri, unlessEmpty a.metadata]
    decode? := fun j => do
      let [name, type, uri, metadata] ← j.record? fields | none
      return ⟨← field "" name, ← field {} type, ← field "" uri, ← field ∅ metadata⟩ }

instance ArtifactList.codec : JsonCodec ArtifactList :=
  let fields := ["artifacts"]
  { encode := fun l => .ofRecord fields [present l.artifacts]
    decode? := fun j => do
      let [artifacts] ← j.record? fields | none
      return ⟨← field [] artifacts⟩ }

instance ExecutorInputs.codec : JsonCodec ExecutorInputs :=
  let fields := ["parameterValues", "artifacts"]
  { encode := fun i => .ofRecord fields [present i.parameters, unlessEmpty i.artifacts]
    decode? := fun j => do
      let [parameters, artifacts] ← j.record? fields | none
      return ⟨← field ∅ parameters, ← field ∅ artifacts⟩ }

instance OutputParameter.codec : JsonCodec OutputParameter :=
  let fields := ["outputFile"]
  { encode := fun p => .ofRecord fields [present p.outputFile]
    decode? := fun j => do
      let [outputFile] ← j.record? fields | none
      return ⟨← field "" outputFile⟩ }

instance ExecutorOutputs.codec : JsonCodec ExecutorOutputs :=
  let fields := ["parameters", "artifacts", "outputFile"]
  { encode := fun o => .ofRecord fields
      [unlessEmpty o.parameters, unlessEmpty o.artifacts, present o.outputFile]
    decode? := fun j => do
      let [parameters, artifacts, outputFile] ← j.record? fields | none
      return ⟨← field ∅ parameters, ← field ∅ artifacts, ← field "" outputFile⟩ }

instance ExecutorInput.codec : JsonCodec ExecutorInput :=
  let fields := ["inputs", "outputs"]
  { encode := fun i => .ofRecord fields [present i.inputs, unlessNone i.outputs]
    decode? := fun j => do
      let [inputs, outputs] ← j.record? fields | none
      return ⟨← field {} inputs, ← nullable outputs⟩ }

end TaskGraph
