import TaskGraph.Plan

/-!
# Outputs of other tasks

An input may be the output of another task of the same graph. If that task is a graph itself, the
output is traced through its producers down to the task that made it.
-/

namespace TaskGraph

/-- The tasks found so far by name, and the graphs they were found in. -/
structure Collected where
  tasks : Dict ExecutionRecord := ∅
  visited : List Int := []

/-- The graphs nested directly in a graph. Those that fan out are left out: their iterations cannot
be told apart by name. -/
def nestedDags : List ExecutionRecord → Plan (List ExecutionRecord)
  | [] => return []
  | task :: rest =>
    if task.isDag && !task.isIterator then do
      let dag ← .perform (.dag task.id)
      return dag :: (← nestedDags rest)
    else nestedDags rest

/-- Adds the tasks of a graph, then of the graphs in it, the last one first. A task found later
takes the place of an earlier one of the same name. -/
def collectTasks (runId : String) (start : Int) :
    (depth : Nat) → ExecutionRecord → Collected → Plan Collected
  | 0, _, _ => .fail (.nestingTooDeep start)
  | depth + 1, dag, found =>
    if found.visited.contains dag.id then .fail (.visitedTwice dag.id)
    else do
      let tasks ← .perform (.tasks runId (some dag.id))
      let nested ← nestedDags tasks.values
      let found : Collected := ⟨found.tasks.union tasks, dag.id :: found.visited⟩
      nested.reverse.foldlM (fun found dag => collectTasks runId start depth dag found) found

/-- Every task that can be reached from a graph, by name. -/
def reachableTasks (runId : String) (dag : ExecutionRecord) : Plan (Dict ExecutionRecord) := do
  let found ← collectTasks runId dag.id (maxDagDepth + 1) dag {}
  return found.tasks

namespace OutputProducer

/-- The output that a producer stands for: of several tasks the first that succeeded counts. -/
def select (tasks : Dict ExecutionRecord) : OutputProducer → Result OutputSelector
  | .direct selector => .ok selector
  | .oneOf selectors =>
    match selectors.find? fun s => (tasks.get? s.subtask).any (·.state.isSuccessful) with
    | some selector => .ok selector
    | none => .fail .noSuccessfulTask

end OutputProducer

/-- The task inside a graph that makes one of the graph's outputs, and the output's name there. -/
def producerOf (side : OutputSide) (tasks : Dict ExecutionRecord) (dag : ExecutionRecord)
    (key : String) : Result (ExecutionRecord × String) := do
  let some producers := dag.producers side | .fail (.noProducers side dag.taskName)
  let selector ← match producers.get? key with
    | some producer => producer.select tasks
    | none => .ok {}
  if selector.subtask.isEmpty then .fail .noSubtask
  else
    match tasks.get? selector.subtask with
    | some task => return (task, selector.key)
    | none => .fail (.unknownSubtask selector.subtask)

/-- Follows an output to the task that made it, through at most `fuel - 1` producers. -/
def descendToLeaf (side : OutputSide) (tasks : Dict ExecutionRecord) (start : String) :
    (fuel : Nat) → ExecutionRecord → String → Result (ExecutionRecord × String)
  | 0, _, _ => .fail (.chainTooLong start)
  | fuel + 1, task, key =>
    if task.isDag then do
      let (task, key) ← producerOf side tasks task key
      descendToLeaf side tasks start fuel task key
    else .ok (task, key)

/-- The task that made an output of a task in a graph, and the output's name there. -/
def producedBy (side : OutputSide) (runId : String) (dag : ExecutionRecord) (o : TaskOutput) :
    Plan (ExecutionRecord × String) := do
  if o.task.isEmpty then .fail (.emptyProducerTask side)
  else if o.key.isEmpty then .fail (.emptyOutputKey side)
  else
    let tasks ← reachableTasks runId dag
    match tasks.get? o.task with
    | none => .fail (.unknownProducer side o.task)
    | some producer =>
      descendToLeaf side tasks producer.taskName (maxDagDepth + 1) producer o.key

def producedParameter (runId : String) (dag : ExecutionRecord) (o : TaskOutput) : Plan Json := do
  let (leaf, key) ← producedBy .parameter runId dag o
  match leaf.outputParameters.get? key with
  | some value => return value
  | none => .fail (.noOutput .parameter key leaf.taskName)

def producedArtifact (runId : String) (dag : ExecutionRecord) (o : TaskOutput) :
    Plan ArtifactList := do
  let (leaf, key) ← producedBy .artifact runId dag o
  let outputs ← .perform (.outputArtifacts leaf.id)
  match outputs.get? key with
  | some artifact => return .single artifact.toRuntime
  | none => .fail (.noOutput .artifact o.key o.task)

end TaskGraph
