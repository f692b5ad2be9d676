import TaskGraph.Store.Record

/-!
# The metadata store

Pipelines, executions and artifacts, each kind numbered from one. An execution belongs to the run of
its pipeline and to the graph it was created in; both are only numbers and texts, and nothing keeps
a record from naming a parent that does not exist.
-/

namespace TaskGraph

structure Store where
  lastExecution : Int := 0
  lastContext : Int := 0
  lastArtifact : Int := 0
  pipelines : List Pipeline := []
  executions : SortedMap Int ExecutionRecord := ∅
  inputArtifacts : SortedMap Int (Dict ArtifactList) := ∅
  outputArtifacts : SortedMap Int (Dict OutputArtifact) := ∅

namespace Store

def pipeline? (s : Store) (name runId : String) : Option Pipeline :=
  s.pipelines.find? fun p => p.name = name && p.runId = runId

/-- The pipeline of a run. It is set up by the first query for it; later queries change nothing. -/
def pipeline (s : Store) (q : PipelineQuery) : Pipeline × Store :=
  match s.pipeline? q.name q.runId with
  | some p => (p, s)
  | none =>
    let p : Pipeline := ⟨s.lastContext + 1, q.name, q.runId, q.nspace, q.root, q.session⟩
    (p, { s with lastContext := p.contextId, pipelines := s.pipelines ++ [p] })

def execution (s : Store) (id : Int) : Result ExecutionRecord :=
  match s.executions.get? id with
  | some e => .ok e
  | none => .fail (.executionNotFound id)

def dag (s : Store) (id : Int) : Result ExecutionRecord := do
  let e ← s.execution id
  if e.isDag then return e else .fail (.notDag id e.type)

/-- Task names are the keys of a graph; two tasks of one name are refused. -/
def addTask (tasks : Dict ExecutionRecord) (e : ExecutionRecord) : Result (Dict ExecutionRecord) :=
  match tasks.get? e.taskName with
  | some first => .fail (.duplicateTask e.taskName first.id e.id)
  | none => .ok (tasks.insert e.taskName e)

/-- The tasks of a run by name, either those of one graph or all. -/
def tasks (s : Store) (runId : String) (parent : Option Int) : Result (Dict ExecutionRecord) :=
  (s.executions.values.filter fun e =>
    e.runId = runId && !e.taskName.isEmpty && parent.all (· = e.parent)).foldlM addTask ∅

def inputArtifactsOf (s : Store) (id : Int) : Dict ArtifactList :=
  (s.inputArtifacts.get? id).getD ∅

def outputArtifactsOf (s : Store) (id : Int) : Dict OutputArtifact :=
  (s.outputArtifacts.get? id).getD ∅

/-- Adds a prepared record. Without an id it gets the next one; with one it takes the place of an
earlier record. -/
def insert (s : Store) (e : ExecutionRecord) : ExecutionRecord × Store :=
  let e := if e.id = 0 then { e with id := s.lastExecution + 1 } else e
  (e, { s with
    lastExecution := max s.lastExecution e.id
    executions := s.executions.insert e.id e })

/-- Creates a running execution in a pipeline's run. -/
def create (s : Store) (p : Pipeline) (c : ExecutionConfig) : ExecutionRecord × Store :=
  let e : ExecutionRecord := {
    id := s.lastExecution + 1
    runId := p.runId
    taskName := c.taskName
    displayName := c.displayName
    type := c.type
    state := .running
    parent := c.parent
    iterationIndex := c.iterationIndex
    iterationCount := c.iterationCount
    notTriggered := c.notTriggered
    inputParameters := c.inputParameters
    parameterProducers := c.parameterProducers
    artifactProducers := c.artifactProducers
    fingerprint := c.fingerprint
    cachedExecutionId := c.cachedExecutionId }
  (e, { s with
    lastExecution := e.id
    executions := s.executions.insert e.id e
    inputArtifacts :=
      if c.inputArtifacts.isEmpty then s.inputArtifacts
      else s.inputArtifacts.insert e.id c.inputArtifacts })

def setInputArtifacts (s : Store) (id : Int) (artifacts : Dict ArtifactList) : Store :=
  { s with inputArtifacts := s.inputArtifacts.insert id artifacts }

/-- Stores an output artifact under its name, with a fresh id. -/
def addOutputArtifact (s : Store) (id : Int) (a : OutputArtifact) : Store :=
  let a := { a with id := s.lastArtifact + 1 }
  { s with
    lastArtifact := a.id
    outputArtifacts := s.outputArtifacts.insert id ((s.outputArtifactsOf id).insert a.name a) }

/-- Ends an execution: sets its state and adds to its outputs. -/
def publish (s : Store) (id : Int) (parameters : Dict Json) (artifacts : List OutputArtifact)
    (state : ExecutionState) : Result Store := do
  let e ← s.execution id
  let e := { e with state, outputParameters := e.outputParameters.union parameters }
  let s := { s with executions := s.executions.insert id e }
  return artifacts.foldl (fun s a => s.addOutputArtifact id a) s

end Store

end TaskGraph
