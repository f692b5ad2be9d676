import TaskGraph.Cache.Sha256
import TaskGraph.Options
import TaskGraph.Spec.ExecutorInput

/-!
# Fingerprints of tasks

A finished execution may stand in for a new one if both have the same command, image and inputs and
declare the same outputs. The places of the outputs do not count: they differ from run to run.
-/

namespace TaskGraph

open JsonCodec

/-- An input artifact, by the place it is kept at. -/
structure InputArtifactKey where
  name : String
  uri : String
  deriving DecidableEq

structure CacheKey where
  inputArtifacts : Dict (List InputArtifactKey)
  inputParameters : Dict Json
  outputArtifacts : Dict ArtifactType
  outputParameters : Dict ParameterType
  image : String
  command : List String
  deriving DecidableEq

namespace CacheKey

def of (o : Options) (input : ExecutorInput) : Result CacheKey :=
  match o.container with
  | none => .fail (.required "container spec")
  | some container => .ok {
      inputArtifacts := input.inputs.artifacts.map fun list =>
        list.artifacts.map fun a => ⟨a.name, a.uri⟩
      inputParameters := input.inputs.parameters
      outputArtifacts := match input.outputs with
        | some outputs =>
          outputs.artifacts.filterMap fun list => list.first?.map RuntimeArtifact.type
        | none => ∅
      outputParameters := match o.component with
        | some component => component.outputs.parameters.map OutputParameterDefinition.type
        | none => ∅
      image := container.image
      command := container.command ++ container.args }

def encodeArtifact (a : InputArtifactKey) : Json :=
  .ofRecord ["name", "uri"] [unlessBlank a.name, present a.uri]

def encode (k : CacheKey) : Json :=
  .obj [
    ("inputArtifacts", JsonCodec.encode (k.inputArtifacts.map fun as => as.map encodeArtifact)),
    ("inputParameterValues", JsonCodec.encode k.inputParameters),
    ("outputArtifactsSpec", JsonCodec.encode k.outputArtifacts),
    ("outputParametersSpec", JsonCodec.encode k.outputParameters),
    ("containerSpec", .obj [("image", .str k.image), ("cmdArgs", JsonCodec.encode k.command)])]

/-- The key as JSON text with all fields sorted. -/
def canonical (k : CacheKey) : String := k.encode.normalize.text

def fingerprint (k : CacheKey) : String := Sha256.hex k.canonical

end CacheKey

/-- The fingerprint of a container task. -/
def fingerprint (o : Options) (input : ExecutorInput) : Result String :=
  (return (← CacheKey.of o input).fingerprint : Result String).within .fingerprint

end TaskGraph
