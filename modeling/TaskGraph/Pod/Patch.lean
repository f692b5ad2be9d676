import TaskGraph.Config.Driver
import TaskGraph.Pod.ModelCar
import TaskGraph.Pod.Quantity
import TaskGraph.Spec.Component

/-!
# The pod of a task

The main container of a task runs the launcher, which runs the user's command and reports on it.
-/

namespace TaskGraph

open JsonCodec

structure PatchRequest where
  container : ContainerSpec := {}
  component : ComponentSpec := {}
  executorInput : ExecutorInput := {}
  executionId : Int := 0
  parentExecutionId : Int := 0
  pipelineName : String := ""
  runId : String := ""
  logLevel : String := ""
  publishLogs : String := ""
  launcherPath : String := ""
  proxy : ProxyConfig := {}

namespace PatchRequest

/-- A variable that the cluster puts into the command. -/
def podVariable (name : String) : String := s!"$({name})"

def launcherCommand (r : PatchRequest) : List String :=
  [r.launcherPath,
    "--pipeline_name", r.pipelineName,
    "--parent_dag_id", Json.intText r.parentExecutionId,
    "--run_id", r.runId,
    "--execution_id", Json.intText r.executionId,
    "--executor_input", (encode r.executorInput).text,
    "--component_spec", (encode r.component).text,
    "--pod_name", podVariable "KFP_POD_NAME",
    "--pod_uid", podVariable "KFP_POD_UID",
    "--mlmd_server_address", podVariable "METADATA_GRPC_SERVICE_HOST",
    "--mlmd_server_port", podVariable "METADATA_GRPC_SERVICE_PORT",
    "--publish_logs", r.publishLogs] ++
    (if r.logLevel = "1" then [] else ["--log_level", r.logLevel]) ++ ["--"]

def env (r : PatchRequest) : List EnvVar :=
  r.container.env ++ r.proxy.envVars.map fun (name, value) => ⟨name, value⟩

end PatchRequest

namespace Accelerator

/-- A field with placeholders, if it is set, and else what is fixed. -/
def resolved (inputs : ExecutorInputs) (field fixed : String) : Result String :=
  if field.isEmpty then .ok fixed else Placeholder.resolve inputs field

/-- The name and the quantity of an accelerator, if both are known. -/
def quantity? (inputs : ExecutorInputs) (a : Accelerator) : Result (Option (String × String)) := do
  let name ← resolved inputs a.resourceType a.type
  let count ← resolved inputs a.resourceCount (if 0 < a.count then Json.intText a.count else "")
  if name.isEmpty || count.isEmpty then return none
  else return some (name, ← Quantity.parse count)

end Accelerator

namespace ResourceSpec

def requirements (inputs : ExecutorInputs) (r : ResourceSpec) : Result ResourceRequirements := do
  let memoryLimit ← Quantity.resource? inputs r.memoryLimitText r.memoryLimit "G"
  let memoryRequest ← Quantity.resource? inputs r.memoryRequestText r.memoryRequest "G"
  let cpuLimit ← Quantity.resource? inputs r.cpuLimitText r.cpuLimit ""
  let cpuRequest ← Quantity.resource? inputs r.cpuRequestText r.cpuRequest ""
  let accelerator ← match r.accelerator with
    | some a => a.quantity? inputs
    | none => pure none
  let amounts (memory cpu : Option String) : List (String × String) :=
    (memory.map ("memory", ·)).toList ++ (cpu.map ("cpu", ·)).toList
  return {
    limits := .ofList (amounts memoryLimit cpuLimit ++ accelerator.toList)
    requests := .ofList (amounts memoryRequest cpuRequest) }

end ResourceSpec

namespace PatchRequest

def mainContainer (r : PatchRequest) : Result PodContainer := do
  let resources ← match r.container.resources with
    | some spec => spec.requirements r.executorInput.inputs
    | none => pure {}
  let image ← Placeholder.resolve r.executorInput.inputs r.container.image
  return {
    name := "main"
    image
    command := r.launcherCommand
    args := r.container.command ++ r.container.args
    env := r.env
    resources }

/-- The pod that is merged over the compiled one. -/
def pod (r : PatchRequest) : Result PodSpec :=
  Result.within .podPatch do
    let main ← r.mainContainer
    return ModelCar.addImages r.env r.executorInput.inputs.artifacts { containers := [main] }

end PatchRequest

end TaskGraph
