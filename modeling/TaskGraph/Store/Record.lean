import TaskGraph.Error
import TaskGraph.Spec.ExecutorInput
import TaskGraph.Store.Producer

/-!
# Stored records

What the store keeps of a pipeline, of an execution and of an artifact that an execution made.
-/

namespace TaskGraph

inductive ExecutionState where
  | unknown
  | new
  | running
  | complete
  | failed
  | cached
  | canceled
  deriving DecidableEq, Repr, Inhabited

namespace ExecutionState

def all : List ExecutionState := [.unknown, .new, .running, .complete, .failed, .cached, .canceled]

def name : ExecutionState → String
  | .unknown => "UNKNOWN"
  | .new => "NEW"
  | .running => "RUNNING"
  | .complete => "COMPLETE"
  | .failed => "FAILED"
  | .cached => "CACHED"
  | .canceled => "CANCELED"

def ofName? (name : String) : Option ExecutionState := all.find? (·.name = name)

/-- Whether the outputs of the execution can be used. -/
def isSuccessful : ExecutionState → Bool
  | .complete | .cached => true
  | _ => false

instance : JsonCodec ExecutionState where
  encode s := .str s.name
  decode? j := j.enumName?.bind ofName?

end ExecutionState

/-- What identifies a pipeline run, and what it is set up with when it is new. -/
structure PipelineQuery where
  name : String := ""
  runId : String := ""
  nspace : String := ""
  root : String := ""
  session : String := ""
  deriving DecidableEq

structure Pipeline where
  contextId : Int := 0
  name : String := ""
  runId : String := ""
  nspace : String := ""
  root : String := ""
  session : String := ""
  deriving DecidableEq, Inhabited

def dagType : String := "system.DAGExecution"

def containerType : String := "system.ContainerExecution"

/-- What an execution is created from. -/
structure ExecutionConfig where
  taskName : String := ""
  displayName : String := ""
  type : String := ""
  parent : Int := 0
  iterationIndex : Option Int := none
  /-- The number of iterations, if the execution fans out. -/
  iterationCount : Option Nat := none
  notTriggered : Bool := false
  cachedExecutionId : String := ""
  fingerprint : String := ""
  inputParameters : Dict Json := ∅
  inputArtifacts : Dict ArtifactList := ∅
  parameterProducers : Option (Dict OutputProducer) := none
  artifactProducers : Option (Dict OutputProducer) := none
  deriving DecidableEq

structure ExecutionRecord where
  id : Int := 0
  runId : String := ""
  taskName : String := ""
  displayName : String := ""
  type : String := ""
  state : ExecutionState := .unknown
  parent : Int := 0
  iterationIndex : Option Int := none
  iterationCount : Option Nat := none
  notTriggered : Bool := false
  inputParameters : Dict Json := ∅
  outputParameters : Dict Json := ∅
  parameterProducers : Option (Dict OutputProducer) := none
  artifactProducers : Option (Dict OutputProducer) := none
  fingerprint : String := ""
  cachedExecutionId : String := ""
  deriving DecidableEq, Inhabited

namespace ExecutionRecord

def isDag (e : ExecutionRecord) : Bool := e.type = dagType

/-- Whether the execution fans out over items. -/
def isIterator (e : ExecutionRecord) : Bool := e.iterationCount.isSome

/-- The producers of the outputs of one side, if the execution is a graph that has any. -/
def producers (e : ExecutionRecord) : OutputSide → Option (Dict OutputProducer)
  | .parameter => e.parameterProducers
  | .artifact => e.artifactProducers

end ExecutionRecord

structure OutputArtifact where
  name : String := ""
  id : Int := 0
  uri : String := ""
  type : ArtifactType := {}
  metadata : Dict Json := ∅
  schema : String := ""
  deriving DecidableEq, Inhabited

namespace OutputArtifact

def ofRuntime (name : String) (a : RuntimeArtifact) : OutputArtifact where
  name := name
  uri := a.uri
  type := a.type
  metadata := a.metadata
  schema := a.type.schema

def toRuntime (a : OutputArtifact) : RuntimeArtifact where
  name := a.name
  type := a.type
  uri := a.uri
  metadata := a.metadata

end OutputArtifact

end TaskGraph
