import TaskGraph.Cache.Key
import TaskGraph.Invoke.Basic
import TaskGraph.Invoke.Outputs
import TaskGraph.Pod.Patch

/-!
# Containers

An invocation for a task that is a container ends in one of four ways: the task is not triggered, an
operation of the platform is carried out, an earlier execution stands in, or a pod is built.
-/

namespace TaskGraph

namespace CacheKey

/-- The execution that was recorded for a fingerprint. -/
def find (fingerprint pipelineName nspace : String) : Plan (Option Int) :=
  (Plan.perform (.cached ⟨fingerprint, CacheIndex.pipelineKey pipelineName, nspace⟩)).within
    .cacheLookup

/-- Records a finished execution under its fingerprint. -/
def record (o : Options) (executionId : Int) (fingerprint : String) : Plan Unit := do
  let entry ← CacheIndex.entryOf o executionId fingerprint
  (Plan.perform (.cacheEntry entry)).within .cacheRecord

end CacheKey

/-- An output artifact of an earlier execution, with the schema that is declared now. -/
def reusedArtifact (stored : Dict OutputArtifact) (name : String) (declared : RuntimeArtifact) :
    Result OutputArtifact :=
  match stored.get? name with
  | some artifact => .ok { artifact with schema := declared.type.schema }
  | none => Result.within .collectCached (.fail (.artifactNotCached name))

/-- The artifacts of an earlier execution in the place of those that were provisioned. -/
def reusedArtifacts (stored : Dict OutputArtifact) (input : ExecutorInput) :
    Result (List OutputArtifact) :=
  match input.outputs with
  | none => .ok []
  | some outputs =>
    let declared := outputs.artifacts.filterMap ArtifactList.first?
    declared.entries.mapM fun (name, artifact) => reusedArtifact stored name artifact

/-- Ends an execution with the outputs of an earlier one. -/
def reuseOutputs (record : ExecutionRecord) (input : ExecutorInput) (cachedId : Int) :
    Plan Unit := do
  let cached ← (Plan.perform (.execution cachedId)).within (.cachedExecution cachedId)
  let stored ← (Plan.perform (.outputArtifacts cachedId)).within (.cachedArtifacts cachedId)
  let artifacts ← reusedArtifacts stored input
  (Plan.perform (.publish record.id cached.outputParameters artifacts .cached)).within
    .publishCached

/-- What a container invocation knows once its inputs are resolved. -/
structure ContainerTask where
  options : Options
  task : TaskSpec
  component : ComponentSpec
  container : ContainerSpec
  scope : TaskScope
  input : ExecutorInput
  condition : Option Bool
  publishLogs : String

namespace ContainerTask

def willTrigger (t : ContainerTask) : Bool := t.condition ≠ some false

def execution (t : ContainerTask) (id : Int) : Execution where
  id := id
  executorInput := some t.input
  condition := t.condition

def config (t : ContainerTask) (fingerprint : String) (cachedId : Option Int) :
    ExecutionConfig where
  taskName := t.task.name
  type := containerType
  parent := t.scope.dag.id
  iterationIndex := t.options.recordedIteration
  notTriggered := !t.willTrigger
  cachedExecutionId := (cachedId.map Json.intText).getD ""
  fingerprint := fingerprint
  inputParameters := t.input.inputs.parameters
  inputArtifacts := t.input.inputs.artifacts

/-- Has the platform carry out the operation that an image stands for. -/
def runPlatformOperation (t : ContainerTask) : Plan Execution := do
  let record ← t.options.createExecution t.scope.pipeline (t.config "" none)
  if t.willTrigger then
    match ← (Plan.perform (.platform t.container.image t.options t.input)).attempt with
    | .ok outputs =>
      .perform (.publish record.id outputs [] .complete)
      return t.execution record.id
    | .error e =>
      -- the failure of the operation is the one to report
      let _ ← (Plan.perform (.publish record.id ∅ [] .failed)).attempt
      Plan.within (.platformOperation t.container.image) (.done (.error e))
  else return t.execution record.id

/-- The fingerprint and the execution that was recorded for it. Without caching there is neither;
a cache that cannot be reached is like an empty one. -/
def lookup (t : ContainerTask) : Plan (String × Option Int) := do
  if t.willTrigger && t.options.cachingEnabled then
    let fingerprint ← fingerprint t.options t.input
    match ← (CacheKey.find fingerprint t.options.pipelineName t.options.nspace).attempt with
    | .ok found => return (fingerprint, found)
    | .error _ => return (fingerprint, none)
  else return ("", none)

def patchRequest (t : ContainerTask) (config : DriverConfig) (id : Int) : PatchRequest where
  container := t.container
  component := t.component
  executorInput := t.input
  executionId := id
  parentExecutionId := t.options.dagExecutionId
  pipelineName := t.options.pipelineName
  runId := t.options.runId
  logLevel := t.options.logLevel
  publishLogs := t.publishLogs
  launcherPath := config.launcherPath
  proxy := if t.options.proxy = {} then config.proxy else t.options.proxy

/-- The pod of the task. -/
def pod (t : ContainerTask) (d : Driver) (id : Int) : Plan PodSpec := do
  let pod ← (t.patchRequest d.config id).pod
  if t.options.platformConfig.isSome then d.extension t.scope pod else return pod

/-- Stores the execution, then reuses an earlier one or builds the pod. -/
def launch (t : ContainerTask) (d : Driver) : Plan Execution := do
  let (fingerprint, cachedId) ← t.lookup
  let record ← t.options.createExecution t.scope.pipeline (t.config fingerprint cachedId)
  t.options.registerRun t.scope.pipeline t.task.name (some t.scope.dag.id) record.id
    (t.input.inputs.parameters.entries.map fun (key, value) => (key, value.plainText))
  if t.willTrigger then
    match cachedId with
    | some cachedId =>
      reuseOutputs record t.input cachedId
      return { t.execution record.id with cached := some true }
    | none =>
      let pod ← t.pod d record.id
      return { t.execution record.id with
        cached := some false
        podSpecPatch := (JsonCodec.encode pod).text }
  else return t.execution record.id

end ContainerTask

namespace Options

/-- The inputs with places for the outputs, which only a task that runs gets. -/
def provision (task : TaskSpec) (component : ComponentSpec) (pipeline : Pipeline)
    (publishLogs : String) (willTrigger : Bool) (inputs : ExecutorInputs) : Plan ExecutorInput := do
  if willTrigger then
    let salt ← .perform .salt
    let outputs := provisionOutputs pipeline.root task.name component.outputs salt publishLogs
    return ⟨inputs, some outputs⟩
  else return ⟨inputs, none⟩

def runContainer (o : Options) (d : Driver) : Plan Execution :=
  Plan.within (.container o.info) do
    o.validateContainer
    let some task := o.task | .fail (.required "task spec")
    let some component := o.component | .fail (.required "component spec")
    let some container := o.container | .fail (.required "container spec")
    let pipeline ← .perform (.pipeline o.pipelineQuery)
    let dag ← .perform (.dag o.dagExecutionId)
    let scope : TaskScope := ⟨dag, pipeline, o⟩
    let inputs ← scope.inputs
    let condition ← task.evaluateCondition inputs
    -- an operation of the platform has no launcher that could publish logs
    let isPlatform := d.config.isDummyImage container.image
    let publishLogs := if isPlatform then "false" else o.publishLogs
    let input ← provision task component pipeline publishLogs (condition ≠ some false) inputs
    let t : ContainerTask := ⟨o, task, component, container, scope, input, condition, publishLogs⟩
    if isPlatform then t.runPlatformOperation else t.launch d

end Options

end TaskGraph
