import TaskGraph.Spec.Types
import TaskGraph.Text.Integer

/-!
# Containers and run configuration
-/

namespace TaskGraph

open JsonCodec

structure EnvVar where
  name : String := ""
  value : String := ""
  deriving DecidableEq

structure Accelerator where
  type : String := ""
  count : Int := 0
  resourceType : String := ""
  resourceCount : String := ""
  deriving DecidableEq

/-- What a container needs. Each amount has a legacy number and a text, which may hold a
placeholder. -/
structure ResourceSpec where
  cpuLimit : Float := 0
  memoryLimit : Float := 0
  cpuRequest : Float := 0
  memoryRequest : Float := 0
  accelerator : Option Accelerator := none
  cpuLimitText : String := ""
  memoryLimitText : String := ""
  cpuRequestText : String := ""
  memoryRequestText : String := ""
  deriving DecidableEq

structure ContainerSpec where
  image : String := ""
  command : List String := []
  args : List String := []
  env : List EnvVar := []
  resources : Option ResourceSpec := none
  deriving DecidableEq

structure RuntimeConfig where
  parameters : Dict Json := ∅
  outputDirectory : String := ""
  deriving DecidableEq

instance EnvVar.codec : JsonCodec EnvVar :=
  let fields := ["name", "value"]
  { encode := fun v => .ofRecord fields [present v.name, present v.value]
    decode? := fun j => do
      let [name, value] ← j.record? fields | none
      return ⟨← field "" name, ← field "" value⟩
    shape := .ofRecord fields [.text, .text] }

/-- Counts may be written as text; null and the empty text are zero. -/
abbrev countCodec : JsonCodec Int where
  encode := .int
  decode?
    | .null => some 0
    | .num n => n.toInt64?
    | .str text => if text.isEmpty then some 0 else (Text.readInt64 text).toOption
    | _ => none

instance Accelerator.codec : JsonCodec Accelerator :=
  let fields := ["type", "count", "resourceType", "resourceCount"]
  { encode := fun a => .ofRecord fields
      [present a.type, some (countCodec.encode a.count), present a.resourceType,
        present a.resourceCount]
    decode? := fun j => do
      let [type, count, resourceType, resourceCount] ← j.record? fields | none
      return ⟨← field "" type, ← @field _ countCodec 0 count, ← field "" resourceType,
        ← field "" resourceCount⟩
    shape := .ofRecord fields [.text, .any, .text, .text] }

instance ResourceSpec.codec : JsonCodec ResourceSpec :=
  let fields := ["cpuLimit", "memoryLimit", "cpuRequest", "memoryRequest", "accelerator",
    "resourceCpuLimit", "resourceMemoryLimit", "resourceCpuRequest", "resourceMemoryRequest"]
  { encode := fun r => .ofRecord fields
      [present r.cpuLimit, present r.memoryLimit, present r.cpuRequest, present r.memoryRequest,
        unlessNone r.accelerator, present r.cpuLimitText, present r.memoryLimitText,
        present r.cpuRequestText, present r.memoryRequestText]
    decode? := fun j => do
      let [cpuLimit, memoryLimit, cpuRequest, memoryRequest, accelerator, cpuLimitText,
        memoryLimitText, cpuRequestText, memoryRequestText] ← j.record? fields | none
      return ⟨← field 0 cpuLimit, ← field 0 memoryLimit, ← field 0 cpuRequest,
        ← field 0 memoryRequest, ← nullable accelerator, ← field "" cpuLimitText,
        ← field "" memoryLimitText, ← field "" cpuRequestText, ← field "" memoryRequestText⟩
    shape := .ofRecord fields
      [.any, .any, .any, .any, .optional (shape Accelerator), .text, .text, .text, .text] }

instance ContainerSpec.codec : JsonCodec ContainerSpec :=
  let fields := ["image", "command", "args", "env", "resources"]
  { encode := fun c => .ofRecord fields
      [present c.image, unlessNil c.command, unlessNil c.args, unlessNil c.env,
        unlessNone c.resources]
    decode? := fun j => do
      let [image, command, args, env, resources] ← j.record? fields | none
      return ⟨← field "" image, ← field [] command, ← field [] args, ← field [] env,
        ← nullable resources⟩
    shape := .ofRecord fields
      [.text, .list .text, .list .text, shape (List EnvVar), .optional (shape ResourceSpec)] }

instance RuntimeConfig.codec : JsonCodec RuntimeConfig :=
  let fields := ["parameterValues", "gcsOutputDirectory"]
  { encode := fun c => .ofRecord fields [present c.parameters, present c.outputDirectory]
    decode? := fun j => do
      let [parameters, outputDirectory] ← j.record? fields | none
      return ⟨← field ∅ parameters, ← field "" outputDirectory⟩
    shape := .ofRecord fields [shape (Dict Json), .text] }

end TaskGraph
