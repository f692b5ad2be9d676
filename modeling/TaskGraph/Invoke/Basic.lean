import TaskGraph.Pod.Extension

/-!
# Invocations

What an invocation gives back, and the steps that invocations share.
-/

namespace TaskGraph

structure Execution where
  /-- The id in the store; zero until the execution is stored. -/
  id : Int := 0
  executorInput : Option ExecutorInput := none
  /-- The number of iterations, if the task fans out. -/
  iterationCount : Option Nat := none
  /-- What the trigger condition gave, if there is one. -/
  condition : Option Bool := none
  /-- Whether an earlier execution stands in, for a container that is triggered. -/
  cached : Option Bool := none
  podSpecPatch : String := ""
  deriving DecidableEq

def Execution.willTrigger (e : Execution) : Bool := e.condition ≠ some false

/-- What stays the same for all invocations of one driver. -/
structure Driver where
  config : DriverConfig := {}
  extension : PodExtension := PodExtension.none

/-- The name under which runs are kept. -/
def runResource : String := "run-resource"

namespace Options

/-- The pipeline of a task; the root invocation has set it up before. -/
def pipelineQuery (o : Options) : PipelineQuery where
  name := o.pipelineName
  runId := o.runId

/-- The index that is recorded for an iteration. -/
def recordedIteration (o : Options) : Option Int := o.iteration?.map fun _ => o.iterationIndex

/-- Creates the execution, or takes the fixed one. -/
def createExecution (o : Options) (p : Pipeline) (config : ExecutionConfig) :
    Plan ExecutionRecord :=
  if o.devMode then .perform (.execution o.devExecutionId) else .perform (.create p config)

def logParameters (o : Options) (executionId : Int) : List (String × String) → Plan Unit
  | [] => return
  | (key, value) :: rest => do
    .perform (.logParameter o.ownRegistry ⟨o.experimentId, executionId, key, value⟩)
    o.logParameters executionId rest

/-- Registers the run of an execution and logs its parameters. -/
def registerRun (o : Options) (p : Pipeline) (runName : String) (parent : Option Int)
    (executionId : Int) (parameters : List (String × String)) : Plan Unit := do
  .perform <| .registerRun o.ownRegistry {
    runName
    pipelineName := o.pipelineName
    nspace := o.nspace
    runResource
    pipelineRoot := p.root
    session := p.session
    experimentId := o.experimentId
    parentExecutionId := parent
    executionId := some executionId }
  o.logParameters executionId parameters

end Options

namespace ExecutorInputs

/-- The inputs as conditions see them. -/
def toJson (i : ExecutorInputs) : Json :=
  Json.normalize <| .obj [
    ("parameter_values", JsonCodec.encode i.parameters),
    ("artifacts", JsonCodec.encode i.artifacts)]

end ExecutorInputs

namespace TaskSpec

/-- What the trigger condition gives on the inputs; none if the task has no condition. -/
def evaluateCondition (t : TaskSpec) (inputs : ExecutorInputs) : Result (Option Bool) :=
  if t.condition.isEmpty then .ok none
  else
    match Expr.condition inputs.toJson t.condition with
    | .ok holds => .ok (some holds)
    | .error e => .fail (.expression e)

end TaskSpec

end TaskGraph
