import TaskGraph.Proofs.History
import TaskGraph.Proofs.Invoke.Steps
import TaskGraph.Proofs.Result

/-! Invocations for graphs, up to the step in which the execution of the graph is stored. What it is
stored with is settled by then, so what holds of a stored graph is read off what was prepared. -/

namespace TaskGraph

variable {o : Options} {s : Services} {w w' : World}

/-- What a graph is stored with, and what is given back for it. -/
structure DagTask where
  pipeline : Pipeline
  config : ExecutionConfig
  execution : Execution

namespace Options

/-- All that is done for a graph before its execution is stored. -/
def prepareDag (o : Options) : Plan DagTask := do
  o.validateDag
  let some task := o.task | .fail (.required "task spec")
  let some component := o.component | .fail (.required "component spec")
  let pipeline ← .perform (.pipeline o.pipelineQuery)
  let dag ← .perform (.dag o.dagExecutionId)
  let inputs ← TaskScope.inputs ⟨dag, pipeline, o⟩
  let condition ← task.evaluateCondition inputs
  let execution : Execution := { executorInput := some { inputs }, condition }
  if task.artifactIterator.isSome then .fail .artifactIterator
  else
    let count ← o.iterationCount? task execution.willTrigger inputs.parameters
    return ⟨pipeline, {
      taskName := task.name
      type := dagType
      parent := dag.id
      iterationIndex := o.recordedIteration
      iterationCount := count
      notTriggered := !execution.willTrigger
      inputParameters := inputs.parameters
      inputArtifacts := inputs.artifacts
      parameterProducers := component.dag.map fun d => d.outputs.parameterProducers
      artifactProducers := component.dag.map fun d => d.outputs.artifactProducers },
      { execution with iterationCount := count }⟩

/-- Storing the execution is the last step. -/
theorem runDag_eq : o.runDag = Plan.within (.dag o.info) (do
    let t ← o.prepareDag
    let record ← o.createExecution t.pipeline t.config
    return { t.execution with id := record.id }) := by
  unfold runDag prepareDag
  congr 1
  rw [bind_assoc]
  congr 1
  funext _
  cases o.task with
  | none => rfl
  | some task =>
  cases o.component with
  | none => rfl
  | some component =>
  simp only [bind_assoc]
  refine congrArg (_ >>= ·) (funext fun pipeline => congrArg (_ >>= ·) (funext fun dag => ?_))
  refine congrArg (_ >>= ·) (funext fun inputs => congrArg (_ >>= ·) (funext fun condition => ?_))
  split
  · rfl
  · simp only [bind_assoc, pure_bind]

/-- The calls with which a graph is prepared. -/
theorem uses_prepareDag {allowed : Call → Prop} (asks : allowed (.pipeline o.pipelineQuery))
    (looks : ∀ c : Call, c.readsStore = true → allowed c) : o.prepareDag.Uses allowed := by
  refine (Plan.uses_lift _).bind fun _ => ?_
  cases o.task with
  | none => trivial
  | some task =>
  cases o.component with
  | none => trivial
  | some component =>
  refine (Plan.uses_perform asks).bind fun pipeline =>
    (Plan.uses_perform (looks (.dag _) rfl)).bind fun dag =>
    ((TaskScope.readsStore_inputs _).imp looks).bind fun inputs =>
    (Plan.uses_lift _).bind fun condition => ?_
  dsimp only
  split
  · trivial
  · exact (Plan.uses_lift _).bind fun count => Plan.uses_pure _

/-- The inputs of an invocation are resolved in the graph that it names. -/
def Resolves (o : Options) (s : Services) (w : World) (inputs : ExecutorInputs) : Prop :=
  ∃ scope : TaskScope, ∃ v v', scope.options = o ∧
    w.store.executions.get? o.dagExecutionId = some scope.dag ∧
    scope.inputs.run s v = (.ok inputs, v')

end Options

/-- A graph as an invocation prepares it: it is to be stored with the inputs that are resolved for
it, with whether it triggers on them, and with the number of its iterations. -/
structure DagTask.Prepared (t : DagTask) (o : Options) (s : Services) (w : World) (task : TaskSpec)
    (inputs : ExecutorInputs) : Prop where
  known : o.task = some task
  noArtifacts : task.artifactIterator = none
  resolves : o.Resolves s w inputs
  input : t.execution.executorInput = some { inputs }
  condition : task.evaluateCondition inputs = .ok t.execution.condition
  count : o.iterationCount? task t.execution.willTrigger inputs.parameters =
    .ok t.execution.iterationCount
  graph : t.config.type = dagType
  parameters : t.config.inputParameters = inputs.parameters
  triggers : t.config.notTriggered = !t.execution.willTrigger
  iterations : t.config.iterationCount = t.execution.iterationCount

namespace Options

theorem prepareDag_ok {t : DagTask} (h : o.prepareDag.run s w = (.ok t, w')) :
    ∃ task inputs, t.Prepared o s w task inputs := by
  unfold prepareDag at h
  cases known : o.task with
  | none => simp [known, Plan.run_bind_ok_iff, Result.fail] at h
  | some task =>
  cases described : o.component with
  | none => simp [known, described, Plan.run_bind_ok_iff, Result.fail] at h
  | some component =>
  simp only [known, described, Plan.run_bind_ok_iff] at h
  obtain ⟨_, u, valid, pipeline, v, queried, dag, v', found, inputs, v'', resolved, condition, u',
    evaluated, rest⟩ := h
  obtain rfl : w = u := congrArg Prod.snd valid
  obtain ⟨_, _, rfl⟩ := Plan.pipeline_answered queried
  obtain ⟨graph, rfl⟩ := Plan.dag_answered found
  have stored := (Store.dag_eq_ok_iff.1 graph).1
  rw [Store.pipeline_executions] at stored
  split at rest
  · simp [Result.fail] at rest
  rename_i noArtifacts
  obtain ⟨count, _, counted, done⟩ := Plan.run_bind_ok_iff.1 rest
  obtain ⟨⟩ := done
  exact ⟨task, inputs, known, by simpa using noArtifacts,
    ⟨⟨dag, pipeline, o⟩, _, _, rfl, stored, resolved⟩, rfl, congrArg Prod.fst evaluated,
    congrArg Prod.fst counted, rfl, rfl, rfl, rfl⟩

/-- An invocation for a graph that succeeds has stored the graph as it was prepared. -/
theorem runDag_creates {execution : Execution} (creates : o.devMode = false)
    (h : o.runDag.run s w = (.ok execution, w')) :
    ∃ t v, o.prepareDag.run s w = (.ok t, v) ∧
      execution = { t.execution with id := (v.store.create t.pipeline t.config).1.id } ∧
      w' = { v with store := (v.store.create t.pipeline t.config).2 } := by
  rw [runDag_eq, Plan.run_within_ok_iff] at h
  obtain ⟨t, v, prepared, rest⟩ := Plan.run_bind_ok_iff.1 h
  obtain ⟨record, u, created, done⟩ := Plan.run_bind_ok_iff.1 rest
  obtain ⟨rfl, rfl⟩ := createExecution_ok creates created
  obtain ⟨⟩ := done
  exact ⟨t, v, prepared, rfl, rfl⟩

end Options

end TaskGraph
