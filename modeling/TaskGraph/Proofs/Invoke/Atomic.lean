import TaskGraph.Proofs.Invoke.Failures
import TaskGraph.Proofs.Invoke.FanOut

/-! Invocations for graphs. The execution of a graph is stored in one step, and everything that can
fail comes before that step. So an invocation that fails leaves the records as they are, and one
that succeeds adds the execution of its graph. -/

namespace TaskGraph

variable {o : Options} {s : Services} {w v w' : World} {e : Error}

/-- Two worlds with the same records: executions, artifacts and their numbers, the cache, and the
registries. -/
structure World.Keeps (w w' : World) : Prop where
  executions : w'.store.executions = w.store.executions
  inputArtifacts : w'.store.inputArtifacts = w.store.inputArtifacts
  outputArtifacts : w'.store.outputArtifacts = w.store.outputArtifacts
  lastExecution : w'.store.lastExecution = w.store.lastExecution
  lastArtifact : w'.store.lastArtifact = w.store.lastArtifact
  cache : w'.cache = w.cache
  registry : w'.registry = w.registry
  ownRegistry : w'.ownRegistry = w.ownRegistry

theorem World.Untouched.keeps {q : PipelineQuery} (untouched : World.Untouched q w w') :
    w.Keeps w' := by
  have store : w'.store.executions = w.store.executions ∧
      w'.store.inputArtifacts = w.store.inputArtifacts ∧
      w'.store.outputArtifacts = w.store.outputArtifacts ∧
      w'.store.lastExecution = w.store.lastExecution ∧
      w'.store.lastArtifact = w.store.lastArtifact := by
    rcases untouched.store with same | same
    · rw [same]
      exact ⟨rfl, rfl, rfl, rfl, rfl⟩
    · rw [same]
      unfold Store.pipeline
      split <;> exact ⟨rfl, rfl, rfl, rfl, rfl⟩
  obtain ⟨executions, inputArtifacts, outputArtifacts, lastExecution, lastArtifact⟩ := store
  exact ⟨executions, inputArtifacts, outputArtifacts, lastExecution, lastArtifact, untouched.cache,
    untouched.registry, untouched.ownRegistry⟩

namespace Options

theorem prepares_prepareDag : o.prepareDag.Uses (Call.Prepares o.pipelineQuery) :=
  uses_prepareDag (.inl rfl) fun _ looks => .inr (.inr (Call.reads_of_readsStore looks))

theorem prepareDag_untouched {outcome : Result DagTask}
    (h : o.prepareDag.run s w = (outcome, w')) : World.Untouched o.pipelineQuery w w' := by
  have run := (prepares_prepareDag (o := o)).run_keeps (s := s)
    (P := World.Untouched o.pipelineQuery w)
    (fun c v prepares untouched => untouched.answer (s := s) prepares) (.refl _ w)
  rwa [h] at run

/-- Where a graph cannot be stored, there is no execution to stand in for it. -/
theorem createExecution_error (recording : s.Recording) {p : Pipeline} {c : ExecutionConfig}
    (h : (o.createExecution p c).run s w = (.error e, w')) : o.devMode = true ∧ w' = w := by
  cases fixed : o.devMode with
  | false =>
    rw [createExecution_run recording fixed] at h
    cases h
  | true =>
    simp only [createExecution, fixed, if_true] at h
    exact ⟨rfl, (Plan.reads_perform rfl).world_eq h⟩

/-- A graph that cannot be run leaves nothing but the pipeline of its run. -/
theorem runDag_error (recording : s.Recording) (h : o.runDag.run s w = (.error e, w')) :
    World.Untouched o.pipelineQuery w w' := by
  rw [runDag_eq] at h
  obtain ⟨cause, failed⟩ := Plan.run_within_error h
  rcases Plan.run_bind_error_iff.1 failed with unprepared | ⟨t, v, prepared, rest⟩
  · exact prepareDag_untouched unprepared
  rcases Plan.run_bind_error_iff.1 rest with missing | ⟨_, _, _, done⟩
  · obtain ⟨_, rfl⟩ := createExecution_error recording missing
    exact prepareDag_untouched prepared
  · cases done

/-- All that is done for a root graph before its pipeline is set up. -/
def prepareRoot (o : Options) : Plan (RuntimeConfig × PipelineQuery) := do
  o.validateRootDag
  let some runtime := o.runtimeConfig | .fail (.required "runtime config")
  let launcher ← .perform .launcher
  let query ← o.rootQuery runtime (launcher.getD {})
  return (runtime, query)

/-- The pipeline and the execution of a root graph. -/
def storeRoot (o : Options) (runtime : RuntimeConfig) (query : PipelineQuery) : Plan Execution := do
  let pipeline ← .perform (.pipeline query)
  let config : ExecutionConfig := {
    displayName := s!"run/{o.runId}"
    type := dagType
    inputParameters := runtime.parameters }
  let record ← o.createExecution pipeline config
  let runName := if o.runName.isEmpty then config.displayName else o.runName
  o.registerRun pipeline runName none record.id (runParameters runtime.parameters)
  return { id := record.id }

theorem runRootDag_eq : o.runRootDag = Plan.within (.rootDag o.info) (do
    let (runtime, query) ← o.prepareRoot
    o.storeRoot runtime query) := by
  unfold runRootDag prepareRoot
  congr 1
  rw [bind_assoc]
  congr 1
  funext _
  cases o.runtimeConfig with
  | none => rfl
  | some runtime =>
  simp only [bind_assoc, pure_bind]
  rfl

theorem reads_prepareRoot : o.prepareRoot.Reads := by
  refine (Plan.uses_lift _).bind fun _ => ?_
  cases o.runtimeConfig with
  | none => trivial
  | some runtime =>
  exact (Plan.reads_perform rfl).bind fun launcher => (Plan.uses_lift _).bind fun query =>
    Plan.uses_pure _

/-- A root graph that is prepared can be stored, unless a fixed execution has to stand in for it. -/
theorem storeRoot_error (recording : s.Recording) {runtime : RuntimeConfig} {query : PipelineQuery}
    (h : (o.storeRoot runtime query).run s w = (.error e, w')) :
    o.devMode = true ∧ World.Untouched query w w' := by
  rcases Plan.run_bind_error_iff.1 h with unanswered | ⟨pipeline, v, asked, rest⟩
  · have answers : s.fault? (.pipeline query) = none := recording.fault? (by simp) (by simp)
    simp only [Plan.perform, Plan.run, World.answer, answers, World.serve] at unanswered
    cases unanswered
  rcases Plan.run_bind_error_iff.1 rest with missing | ⟨record, u, stored, rest⟩
  · obtain ⟨fixed, rfl⟩ := createExecution_error recording missing
    obtain ⟨_, _, rfl⟩ := Plan.pipeline_answered asked
    exact ⟨fixed, .inr rfl, rfl, rfl, rfl⟩
  · rw [Plan.run_bind, registerRun_run recording] at rest
    cases rest

/-- A root graph that cannot be run leaves nothing, unless a fixed execution was to stand in for it:
then the pipeline of its run is left. -/
theorem runRootDag_error (recording : s.Recording) (h : o.runRootDag.run s w = (.error e, w')) :
    w' = w ∨ o.devMode = true ∧ ∃ q, World.Untouched q w w' := by
  rw [runRootDag_eq] at h
  obtain ⟨cause, failed⟩ := Plan.run_within_error h
  rcases Plan.run_bind_error_iff.1 failed with unprepared | ⟨⟨runtime, query⟩, v, prepared, rest⟩
  · exact .inl (reads_prepareRoot.world_eq unprepared)
  · obtain rfl := reads_prepareRoot.world_eq prepared
    obtain ⟨fixed, untouched⟩ := storeRoot_error recording rest
    exact .inr ⟨fixed, query, untouched⟩

/-- A task fans out exactly if it triggers, is no iteration and has an iterator. -/
theorem iterationCount?_isSome_iff {task : TaskSpec} {triggers : Bool} {parameters : Dict Json}
    {count : Option Nat} (h : o.iterationCount? task triggers parameters = .ok count) :
    count.isSome ↔ triggers = true ∧ o.iteration? = none ∧ task.parameterIterator.isSome := by
  unfold iterationCount? at h
  split at h
  · rename_i plain
    obtain ⟨⟩ := h
    simp [plain]
  · rename_i iterator loop
    split at h
    · rename_i fansOut
      obtain ⟨items, _, ⟨⟩⟩ := bind_eq_ok_iff.1 h
      simpa [loop] using fansOut
    · rename_i single
      obtain ⟨⟩ := h
      simpa [loop] using single

end Options

/-- An invocation for a graph that fails leaves the records as they are. At most the pipeline of the
run is left, and of a root graph only where a fixed execution was to stand in for it. One that
succeeds adds the execution of its graph, which has a number of iterations exactly if it fans out. -/
theorem graph_stored_or_nothing (o : Options) {s : Services} (recording : s.Recording) {w : World}
    (reachable : w.store.Reachable) :
    (∀ e w', o.runRootDag.run s w = (.error e, w') →
      w.Keeps w' ∧ (∃ q, World.Untouched q w w') ∧ (o.devMode = false → w' = w)) ∧
    (∀ e w', o.runDag.run s w = (.error e, w') →
      w.Keeps w' ∧ World.Untouched o.pipelineQuery w w') ∧
    ∀ execution w', o.devMode = false → o.runDag.run s w = (.ok execution, w') →
      ∃ task inputs record, o.task = some task ∧ execution.executorInput = some { inputs } ∧
        task.evaluateCondition inputs = .ok execution.condition ∧
        w.store.executions.get? execution.id = none ∧ record.id = execution.id ∧
        w'.store.executions = w.store.executions.insert execution.id record ∧
        record.notTriggered = !execution.willTrigger ∧
        (record.iterationCount.isSome ↔ execution.condition ≠ some false ∧ o.iteration? = none ∧
          task.parameterIterator.isSome) := by
  refine ⟨fun e w' h => ?_, fun e w' h => ?_, fun execution w' creates h => ?_⟩
  · rcases Options.runRootDag_error recording h with rfl | ⟨fixed, q, untouched⟩
    · exact ⟨(World.Untouched.refl {} w').keeps, ⟨{}, .refl {} w'⟩, fun _ => rfl⟩
    · refine ⟨untouched.keeps, ⟨q, untouched⟩, fun creates => ?_⟩
      rw [fixed] at creates
      cases creates
  · have untouched := Options.runDag_error recording h
    exact ⟨untouched.keeps, untouched⟩
  · obtain ⟨t, v, prepared, rfl, rfl⟩ := Options.runDag_creates creates h
    obtain ⟨task, inputs, ready⟩ := Options.prepareDag_ok prepared
    have kept := (Options.prepareDag_untouched prepared).keeps
    refine ⟨task, inputs, _, ready.known, ready.input, ready.condition, ?_, rfl, ?_,
      ready.triggers, ?_⟩
    · change w.store.executions.get? (v.store.lastExecution + 1) = none
      rw [kept.lastExecution]
      exact reachable.bounded.next_free
    · exact congrArg (fun executions => SortedMap.insert executions _ _) kept.executions
    · change t.config.iterationCount.isSome ↔ t.execution.condition ≠ some false ∧ _ ∧ _
      rw [ready.iterations, Options.iterationCount?_isSome_iff ready.count]
      exact and_congr_left fun _ => by simp [Execution.willTrigger]

/-- A loop over two items is stored, and in a graph that does not exist it is not. -/
theorem graph_stored_or_nothing_loop :
    (∃ execution w' record,
      (Loops.options Loops.overInput).runDag.run {} Loops.world = (.ok execution, w') ∧
      w'.store.executions = Loops.world.store.executions.insert execution.id record ∧
      record.iterationCount.isSome) ∧
    ∃ e w', ({ Loops.options Loops.overInput with dagExecutionId := 7 } : Options).runDag.run {}
      Loops.world = (.error e, w') ∧ Loops.world.Keeps w' := by
  have recording : Services.Recording {} := ⟨fun _ => rfl, rfl, rfl⟩
  have reachable : Loops.world.store.Reachable := Store.Reachable.empty.inserted [Loops.outer]
  constructor
  · obtain ⟨execution, w', run, triggers⟩ : ∃ execution w',
        (Loops.options Loops.overInput).runDag.run {} Loops.world = (.ok execution, w') ∧
        execution.condition ≠ some false := ⟨_, _, rfl, nofun⟩
    obtain ⟨task, inputs, record, ⟨⟩, _, _, _, _, executions, _, count⟩ :=
      (graph_stored_or_nothing _ recording reachable).2.2 execution w' rfl run
    exact ⟨execution, w', record, run, executions, count.2 ⟨triggers, rfl, rfl⟩⟩
  · obtain ⟨e, w', run⟩ : ∃ e w',
        ({ Loops.options Loops.overInput with dagExecutionId := 7 } : Options).runDag.run {}
          Loops.world = (.error e, w') := ⟨_, _, rfl⟩
    exact ⟨e, w', run, ((graph_stored_or_nothing _ recording reachable).2.1 e w' run).1⟩

end TaskGraph
