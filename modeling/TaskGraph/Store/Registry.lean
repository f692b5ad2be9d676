import TaskGraph.Spec.Types

/-!
# The run registry

A log of the runs that were registered and of the parameters they were given.
-/

namespace TaskGraph

structure RunRequest where
  runName : String := ""
  pipelineName : String := ""
  nspace : String := ""
  runResource : String := ""
  pipelineRoot : String := ""
  session : String := ""
  experimentId : String := ""
  parentExecutionId : Option Int := none
  executionId : Option Int := none
  deriving DecidableEq

namespace RunRequest

def encode (r : RunRequest) : Json :=
  let orNull (id : Option Int) : Json := (id.map Json.int).getD .null
  .obj [("run_name", .str r.runName), ("pipeline_name", .str r.pipelineName),
    ("namespace", .str r.nspace), ("run_resource", .str r.runResource),
    ("pipeline_root", .str r.pipelineRoot), ("store_session_info", .str r.session),
    ("experiment_id", .str r.experimentId), ("parent_execution_id", orNull r.parentExecutionId),
    ("execution_id", orNull r.executionId)]

end RunRequest

structure LoggedParameter where
  experimentId : String
  executionId : Int
  key : String
  value : String
  deriving DecidableEq

structure RunRegistry where
  runs : List RunRequest := []
  parameters : List LoggedParameter := []
  deriving DecidableEq

namespace RunRegistry

def addRun (r : RunRegistry) (request : RunRequest) : RunRegistry :=
  { r with runs := r.runs ++ [request] }

def addParameter (r : RunRegistry) (p : LoggedParameter) : RunRegistry :=
  { r with parameters := r.parameters ++ [p] }

end RunRegistry

end TaskGraph
