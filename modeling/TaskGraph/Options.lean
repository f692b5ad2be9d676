import TaskGraph.Config.Driver
import TaskGraph.Spec.Component
import TaskGraph.Spec.Container

/-!
# Options of an invocation

What one invocation of the driver is told, and the checks of it that each kind of invocation makes
first.
-/

namespace TaskGraph

inductive DriverType where
  | rootDag
  | dag
  | container
  deriving DecidableEq, Repr

namespace DriverType

def name : DriverType → String
  | .rootDag => "ROOT_DAG"
  | .dag => "DAG"
  | .container => "CONTAINER"

def ofName? : String → Option DriverType
  | "ROOT_DAG" => some .rootDag
  | "DAG" => some .dag
  | "CONTAINER" => some .container
  | _ => none

/-- The name in a summary of options. -/
def label : DriverType → String
  | .rootDag => "RootDag"
  | .dag => "Dag"
  | .container => "Container"

end DriverType

structure Options where
  pipelineName : String := ""
  runId : String := ""
  component : Option ComponentSpec := none
  /-- A negative index means that the invocation is no iteration. -/
  iterationIndex : Int := -1
  runtimeConfig : Option RuntimeConfig := none
  nspace : String := ""
  task : Option TaskSpec := none
  dagExecutionId : Int := 0
  container : Option ContainerSpec := none
  platformConfig : Option (Dict Json) := none
  runName : String := ""
  runDisplayName : String := ""
  logLevel : String := "1"
  publishLogs : String := "false"
  experimentId : String := ""
  /-- Whether the invocation works on a fixed execution and creates none. -/
  devMode : Bool := false
  devExecutionId : Int := 0
  driverType : Option DriverType := none
  cacheDisabled : Bool := false
  proxy : ProxyConfig := {}
  /-- Whether the invocation registers its run in a registry of its own. -/
  ownRegistry : Bool := false
  deriving DecidableEq

namespace Options

def taskName (o : Options) : String := (o.task.map TaskSpec.name).getD ""

def componentName (o : Options) : String := (o.task.map TaskSpec.component).getD ""

/-- The number of the iteration, if the invocation is one. -/
def iteration? (o : Options) : Option Nat :=
  match o.iterationIndex with
  | .ofNat n => some n
  | .negSucc _ => none

def cachingEnabled (o : Options) : Bool :=
  !o.cacheDisabled && (o.task.map TaskSpec.enableCache).getD false

/-- One line that tells the invocation apart in messages. -/
def info (o : Options) : String :=
  let part (absent : Bool) (text : String) : String := if absent then "" else text
  s!"pipelineName={o.pipelineName}, runID={o.runId}" ++
    part o.taskName.isEmpty s!", task={Text.quoted o.taskName}" ++
    part o.componentName.isEmpty s!", component={Text.quoted o.componentName}" ++
    part (o.dagExecutionId = 0) s!", dagExecutionID={Json.intText o.dagExecutionId}" ++
    part (o.iterationIndex < 0) s!", iterationIndex={Json.intText o.iterationIndex}" ++
    part o.runtimeConfig.isNone ", runtimeConfig" ++
    part o.component.isNone ", componentSpec" ++
    part o.platformConfig.isNone ", KubernetesExecutorConfig"

/-- A summary for logs. -/
def display (o : Options) : String :=
  let driverType := match o.driverType with
    | some t => s!"Some({t.label})"
    | none => "None"
  let fields := Text.join ", "
    [s!"pipeline_name: {Text.quoted o.pipelineName}", s!"run_id: {Text.quoted o.runId}",
      s!"namespace: {Text.quoted o.nspace}", s!"task: {Text.quoted o.taskName}",
      s!"dag_execution_id: {Json.intText o.dagExecutionId}",
      s!"iteration_index: {Json.intText o.iterationIndex}", s!"driver_type: {driverType}",
      s!"run_registration: {o.ownRegistry}"]
  s!"Options \x7b {fields}, .. \x7d"

/-- The first fault of a list of checks. -/
def check : List (Bool × Fault) → Result Unit
  | [] => .ok ()
  | (holds, fault) :: rest => if holds then check rest else .fail fault

def rootChecks (o : Options) : List (Bool × Fault) :=
  [(!o.pipelineName.isEmpty, .required "pipeline name"),
    (!o.runId.isEmpty, .required "KFP run ID"),
    (o.component.isSome, .required "component spec"),
    (o.runtimeConfig.isSome, .required "runtime config"),
    (!o.nspace.isEmpty, .required "namespace"),
    (o.taskName.isEmpty, .unnecessary "task spec"),
    (o.dagExecutionId = 0, .unnecessary "DAG execution ID"),
    (o.container.isNone, .unnecessary "container spec"),
    (o.iterationIndex < 0, .unnecessary "iteration index")]

def taskChecks (o : Options) : List (Bool × Fault) :=
  [(!o.pipelineName.isEmpty, .required "pipeline name"),
    (!o.runId.isEmpty, .required "KFP run ID"),
    (o.component.isSome, .required "component spec"),
    (!o.taskName.isEmpty, .required "task spec"),
    (o.runtimeConfig.isNone, .unnecessary "runtime config"),
    (o.dagExecutionId ≠ 0, .required "DAG execution ID")]

def validateRootDag (o : Options) : Result Unit :=
  (check o.rootChecks).within .rootDagArgs

def validateDag (o : Options) : Result Unit :=
  (check ((o.container.isNone, .unnecessary "container spec") :: o.taskChecks)).within .dagArgs

def validateContainer (o : Options) : Result Unit :=
  (check ((o.container.isSome, .required "container spec") :: o.taskChecks)).within .containerArgs

end Options

end TaskGraph
