import TaskGraph.Proofs.Invoke.Container
import TaskGraph.Proofs.Json.Text

/-! The endings of a container invocation. Each invocation that succeeds leaves one new record, and
the record and what the invocation gives back tell of the same ending. -/

namespace TaskGraph

/-- A container invocation from its beginning to its end, with the task that it prepared and the
record that it left. -/
structure ContainerRun where
  driver : Driver
  services : Services
  before : World
  after : World
  execution : Execution
  task : ContainerTask
  record : ExecutionRecord

namespace ContainerRun

/-- Whether the image stands for an operation of the platform. -/
def isOperation (r : ContainerRun) : Bool := r.driver.config.isDummyImage r.task.container.image

/-- What holds of every run: it has stored one new record, under the id that it gives back and with
the inputs that it gives back, and has registered it unless it is an operation. -/
structure Recorded (r : ContainerRun) (o : Options) : Prop where
  options : r.task.options = o
  task : o.task = some r.task.task
  component : o.component = some r.task.component
  container : o.container = some r.task.container
  dag : r.before.store.executions.get? o.dagExecutionId = some r.task.scope.dag
  input : r.execution.executorInput = some r.task.input
  condition : r.execution.condition = r.task.condition
  evaluated : r.task.task.evaluateCondition r.task.input.inputs = .ok r.task.condition
  fresh : r.before.store.executions.get? r.execution.id = none
  stored : r.after.store.executions = r.before.store.executions.insert r.execution.id r.record
  id : r.record.id = r.execution.id
  type : r.record.type = containerType
  name : r.record.taskName = r.task.task.name
  parent : r.record.parent = r.task.scope.dag.id
  parameters : r.record.inputParameters = r.task.input.inputs.parameters
  artifacts : r.after.store.inputArtifactsOf r.execution.id = r.task.input.inputs.artifacts
  runs : (r.after.registryOf o.ownRegistry).runs = (r.before.registryOf o.ownRegistry).runs ++
    if r.isOperation then [] else
      [o.runRequest r.task.scope.pipeline r.task.task.name (some r.task.scope.dag.id)
        r.execution.id]

/-- The task was not triggered. -/
structure Skipped (r : ContainerRun) : Prop where
  condition : r.execution.condition = some false
  places : r.task.input.outputs = none
  cached : r.execution.cached = none
  patch : r.execution.podSpecPatch = ""
  state : r.record.state = .running
  notTriggered : r.record.notTriggered = true
  fingerprint : r.record.fingerprint = ""
  cachedExecutionId : r.record.cachedExecutionId = ""
  outputs : r.record.outputParameters = ∅
  artifacts : r.after.store.outputArtifactsOf r.execution.id = ∅

/-- The platform carried out the operation that the image stands for. -/
structure CarriedOut (r : ContainerRun) : Prop where
  operation : r.isOperation = true
  triggers : r.execution.willTrigger = true
  cached : r.execution.cached = none
  patch : r.execution.podSpecPatch = ""
  state : r.record.state = .complete
  notTriggered : r.record.notTriggered = false
  fingerprint : r.record.fingerprint = ""
  cachedExecutionId : r.record.cachedExecutionId = ""
  outputs : r.services.platform r.task.container.image r.task.options r.task.input =
    .ok r.record.outputParameters
  artifacts : r.after.store.outputArtifactsOf r.execution.id = ∅
  unregistered : r.after.registry = r.before.registry ∧ r.after.ownRegistry = r.before.ownRegistry

/-- An earlier execution stands in. -/
structure Reused (r : ContainerRun) : Prop where
  operation : r.isOperation = false
  triggers : r.execution.willTrigger = true
  cached : r.execution.cached = some true
  patch : r.execution.podSpecPatch = ""
  state : r.record.state = .cached
  notTriggered : r.record.notTriggered = false
  caching : r.task.options.cachingEnabled = true
  reachable : r.services.cacheFault = none
  fingerprint : ∃ key, CacheKey.of r.task.options r.task.input = .ok key ∧
    r.record.fingerprint = key.fingerprint
  found : ∃ x, r.before.cache.lookup? (r.task.address r.record.fingerprint) = some x ∧
    r.record.cachedExecutionId = Json.intText x

/-- A pod was built. -/
structure Launched (r : ContainerRun) : Prop where
  operation : r.isOperation = false
  triggers : r.execution.willTrigger = true
  cached : r.execution.cached = some false
  patch : ∃ pod, (r.task.pod r.driver r.execution.id).run r.services r.after = (.ok pod, r.after) ∧
    r.execution.podSpecPatch = (JsonCodec.encode pod).text
  patched : r.execution.podSpecPatch ≠ ""
  state : r.record.state = .running
  notTriggered : r.record.notTriggered = false
  cachedExecutionId : r.record.cachedExecutionId = ""
  outputs : r.record.outputParameters = ∅
  artifacts : r.after.store.outputArtifactsOf r.execution.id = ∅
  uncached : r.task.options.cachingEnabled = false → r.record.fingerprint = ""
  fingerprint : r.task.options.cachingEnabled = true →
    ∃ key, CacheKey.of r.task.options r.task.input = .ok key ∧
      r.record.fingerprint = key.fingerprint
  missing : r.task.options.cachingEnabled = true → r.services.cacheFault = none →
    r.before.cache.lookup? (r.task.address r.record.fingerprint) = none

end ContainerRun

/-- The ways in which a container invocation ends well. -/
inductive Ending where
  | skipped
  | carriedOut
  | reused
  | launched
  deriving DecidableEq, Repr

namespace Ending

def Holds (r : ContainerRun) : Ending → Prop
  | skipped => r.Skipped
  | carriedOut => r.CarriedOut
  | reused => r.Reused
  | launched => r.Launched

/-- The ending that an execution tells of. -/
def of (e : Execution) : Ending :=
  match e.cached with
  | none => if e.willTrigger then carriedOut else skipped
  | some true => reused
  | some false => launched

/-- No run has two endings. -/
theorem Holds.eq_of {r : ContainerRun} {ending : Ending} (holds : ending.Holds r) :
    ending = of r.execution := by
  cases ending with
  | skipped => simp [of, holds.cached, Execution.willTrigger, holds.condition]
  | carriedOut => simp [of, holds.cached, holds.triggers]
  | reused => simp [of, holds.cached]
  | launched => simp [of, holds.cached]

end Ending

variable {o : Options} {d : Driver} {s : Services} {w v w' : World} {t : ContainerTask}
  {e : Execution} {fingerprint : String} {found : Option Int}

/-- A run has recorded its task if it created one execution and then changed nothing of it but its
state and its outputs. -/
theorem ContainerRun.Recorded.of_created {r : ContainerRun} (ordered : r.before.store.Ordered)
    (prepared : r.task.Prepared o r.driver r.services r.before v)
    (id : r.execution.id = (r.task.created v fingerprint found).1.id)
    (input : r.execution.executorInput = some r.task.input)
    (condition : r.execution.condition = r.task.condition)
    (record : ∃ state outputs, r.record = r.task.ended v fingerprint found state outputs)
    (stored : r.after.store.executions = v.store.executions.insert r.execution.id r.record)
    (inputs : r.after.store.inputArtifactsOf r.execution.id =
      (r.task.created v fingerprint found).2.inputArtifactsOf r.execution.id)
    (runs : (r.after.registryOf o.ownRegistry).runs = (r.before.registryOf o.ownRegistry).runs ++
      if r.isOperation then [] else
        [o.runRequest r.task.scope.pipeline r.task.task.name (some r.task.scope.dag.id)
          r.execution.id]) : r.Recorded o := by
  obtain ⟨state, outputs, record⟩ := record
  have given := (prepared.ordered ordered).create_inputArtifactsOf r.task.scope.pipeline
    (r.task.config fingerprint found)
  exact {
    options := prepared.options
    task := prepared.task
    component := prepared.component
    container := prepared.container
    dag := prepared.dag
    input
    condition
    evaluated := prepared.condition
    fresh := id ▸ prepared.fresh ordered
    stored := prepared.executions ▸ stored
    id := by rw [record, id]; rfl
    type := by rw [record]; rfl
    name := by rw [record]; rfl
    parent := by rw [record]; rfl
    parameters := by rw [record]; rfl
    artifacts := by rw [inputs, id]; exact given
    runs }

namespace ContainerTask

theorem condition_of_skips (skips : t.willTrigger = false) : t.condition = some false := by
  simpa [willTrigger] using skips

/-- A task that does not trigger ends with its record. -/
theorem skipped_of_created (ordered : w.store.Ordered) (prepared : t.Prepared o d s w v)
    (skips : t.willTrigger = false) (store : w'.store = (t.created v "" none).2) :
    (ContainerRun.mk d s w w' (t.execution (t.created v "" none).1.id) t
      (t.ended v "" none .running ∅)).Skipped where
  condition := condition_of_skips skips
  places := by rw [prepared.outputs, skips]; rfl
  cached := rfl
  patch := rfl
  state := rfl
  notTriggered := congrArg not skips
  fingerprint := rfl
  cachedExecutionId := rfl
  outputs := rfl
  artifacts := by rw [store]; exact prepared.outputArtifactsOf ordered "" none

/-- A task for which an execution was found ends with the record that points to it. -/
theorem reused_of_created {x : Int} (prepared : t.Prepared o d s w v)
    (operation : d.config.isDummyImage t.container.image = false)
    (known : t.LookedUp s v fingerprint (some x)) (outputs : Dict Json) :
    (ContainerRun.mk d s w w' { t.execution (t.created v fingerprint (some x)).1.id with
        cached := some true } t (t.ended v fingerprint (some x) .cached outputs)).Reused := by
  obtain ⟨triggers, caching, reachable, holds⟩ := known.of_some rfl
  obtain ⟨key, of_task, same, _⟩ := known.of_caching triggers caching
  exact {
    operation
    triggers
    cached := rfl
    patch := rfl
    state := rfl
    notTriggered := congrArg not triggers
    caching
    reachable
    fingerprint := ⟨key, of_task, same⟩
    found := ⟨x, prepared.cache ▸ holds, rfl⟩ }

/-- A task for which none was found ends with a record that is running and with its pod. -/
theorem launched_of_created {pod : PodSpec} (ordered : w.store.Ordered)
    (prepared : t.Prepared o d s w v)
    (operation : d.config.isDummyImage t.container.image = false)
    (known : t.LookedUp s v fingerprint none) (triggers : t.willTrigger = true)
    (built : (t.pod d (t.created v fingerprint none).1.id).run s w' = (.ok pod, w'))
    (store : w'.store = (t.created v fingerprint none).2) :
    (ContainerRun.mk d s w w' { t.execution (t.created v fingerprint none).1.id with
        cached := some false
        podSpecPatch := (JsonCodec.encode pod).text } t
      (t.ended v fingerprint none .running ∅)).Launched where
  operation := operation
  triggers := triggers
  cached := rfl
  patch := ⟨pod, built, rfl⟩
  patched := Json.text_ne_empty _
  state := rfl
  notTriggered := congrArg not triggers
  cachedExecutionId := rfl
  outputs := rfl
  artifacts := by rw [store]; exact prepared.outputArtifactsOf ordered fingerprint none
  uncached := known.of_uncached
  fingerprint caching := by
    obtain ⟨key, of_task, same, _⟩ := known.of_caching triggers caching
    exact ⟨key, of_task, same⟩
  missing caching reachable := by
    obtain ⟨_, _, _, holds⟩ := known.of_caching triggers caching
    rw [reachable, prepared.cache] at holds
    exact holds.symm

theorem operation_ends (ordered : w.store.Ordered) (prepared : t.Prepared o d s w v)
    (creates : o.devMode = false) (operation : d.config.isDummyImage t.container.image = true)
    (h : t.runPlatformOperation.run s v = (.ok e, w')) :
    ∃ record, (ContainerRun.mk d s w w' e t record).Recorded o ∧
      ∃ ending : Ending, ending.Holds ⟨d, s, w, w', e, t, record⟩ := by
  have unregistered : v.registry = w.registry ∧ v.ownRegistry = w.ownRegistry := by
    rw [prepared.world]
    exact ⟨rfl, rfl⟩
  have runs : (v.registryOf o.ownRegistry).runs = (w.registryOf o.ownRegistry).runs ++
      if d.config.isDummyImage t.container.image then [] else
        [o.runRequest t.scope.pipeline t.task.name (some t.scope.dag.id) e.id] := by
    simp [prepared.registryOf, operation]
  obtain ⟨rfl, ⟨skips, rfl⟩ | ⟨triggers, outputs, store, operated, published, rfl⟩⟩ :=
    runPlatformOperation_ok (prepared.options ▸ creates) h
  · exact ⟨t.ended v "" none .running ∅,
      .of_created ordered prepared rfl rfl rfl ⟨_, _, rfl⟩ rfl rfl runs, .skipped,
      skipped_of_created ordered prepared skips rfl⟩
  · obtain rfl := publish_created published
    refine ⟨t.ended v "" none .complete outputs,
      .of_created ordered prepared rfl rfl rfl ⟨_, _, rfl⟩ rfl rfl runs, .carriedOut, ?_⟩
    exact {
      operation
      triggers
      cached := rfl
      patch := rfl
      state := rfl
      notTriggered := congrArg not triggers
      fingerprint := rfl
      cachedExecutionId := rfl
      outputs := operated
      artifacts := prepared.outputArtifactsOf ordered "" none
      unregistered }

theorem launch_ends (ordered : w.store.Ordered) (prepared : t.Prepared o d s w v)
    (creates : o.devMode = false) (looks : d.extension.Looks)
    (operation : d.config.isDummyImage t.container.image = false)
    (h : (t.launch d).run s v = (.ok e, w')) :
    ∃ record, (ContainerRun.mk d s w w' e t record).Recorded o ∧
      ∃ ending : Ending, ending.Holds ⟨d, s, w, w', e, t, record⟩ := by
  obtain ⟨fingerprint, found, u, record, known, rfl, store, cache, runs, goesOn⟩ :=
    launch_ok (prepared.options ▸ creates) looks h
  have runs : (u.registryOf o.ownRegistry).runs = (w.registryOf o.ownRegistry).runs ++
      if d.config.isDummyImage t.container.image then [] else
        [o.runRequest t.scope.pipeline t.task.name (some t.scope.dag.id)
          (t.created v fingerprint found).1.id] := by
    simpa [prepared.options, prepared.registryOf, operation] using runs
  cases goesOn with
  | skip _ skips =>
    cases known with
    | on triggers =>
      rw [skips] at triggers
      cases triggers
    | off _ =>
      refine ⟨t.ended v "" none .running ∅,
        .of_created ordered prepared rfl rfl rfl ⟨_, _, rfl⟩ ?_ ?_ runs, .skipped,
        skipped_of_created ordered prepared skips store⟩
      · exact congrArg Store.executions store
      · exact congrArg (Store.inputArtifactsOf · _) store
  | @reuse x w' triggers reused =>
    obtain ⟨earlier, artifacts, store', _, _, published, rfl⟩ := reuseOutputs_ok reused
    rw [store] at published
    obtain rfl := publish_created published
    refine ⟨t.ended v fingerprint (some x) .cached earlier.outputParameters,
      .of_created ordered prepared rfl rfl rfl ⟨_, _, rfl⟩ ?_ ?_ runs, .reused,
      reused_of_created prepared operation known earlier.outputParameters⟩
    · exact Store.foldl_addOutputArtifact_executions ..
    · exact Store.foldl_addOutputArtifact_inputArtifactsOf ..
  | @launch pod triggers built =>
    refine ⟨t.ended v fingerprint none .running ∅,
      .of_created ordered prepared rfl rfl rfl ⟨_, _, rfl⟩ ?_ ?_ runs, .launched,
      launched_of_created ordered prepared operation known triggers built store⟩
    · exact congrArg Store.executions store
    · exact congrArg (Store.inputArtifactsOf · _) store

end ContainerTask

/-- A container invocation that succeeds leaves one new record, which has the inputs that are given
back, and ends in exactly one way: the task is skipped, the operation of the platform is carried
out, an earlier execution is reused, or a pod is launched. -/
theorem container_ends_once (arises : w.store.Arises) (looks : d.extension.Looks)
    (creates : o.devMode = false) (h : (o.runContainer d).run s w = (.ok e, w')) :
    ∃ t record, (ContainerRun.mk d s w w' e t record).Recorded o ∧
      ∃! ending : Ending, ending.Holds ⟨d, s, w, w', e, t, record⟩ := by
  rw [Options.runContainer_eq, Plan.run_within_ok_iff] at h
  obtain ⟨t, v, prepares, ends⟩ := Plan.run_bind_ok_iff.1 h
  have prepared := Options.containerTask_ok prepares
  obtain ⟨record, recorded, ending, holds⟩ : ∃ record,
      (ContainerRun.mk d s w w' e t record).Recorded o ∧
      ∃ ending : Ending, ending.Holds ⟨d, s, w, w', e, t, record⟩ := by
    split at ends
    · rename_i operation
      exact t.operation_ends arises.ordered prepared creates operation ends
    · rename_i operation
      exact t.launch_ends arises.ordered prepared creates looks (by simpa using operation) ends
  exact ⟨t, record, recorded, ending, holds, fun other also => also.eq_of.trans holds.eq_of.symm⟩

/-- A task that ran before is not run again. -/
theorem container_ends_once_reused : ∃ e w' t record,
    ((Twice.train "second" 3).runContainer {}).run {} Twice.again = (.ok e, w') ∧
    Twice.again.store.Arises ∧ PodExtension.none.Looks ∧
    (Twice.train "second" 3).devMode = false ∧
    (ContainerRun.mk {} {} Twice.again w' e t record).Recorded (Twice.train "second" 3) ∧
    Ending.reused.Holds ⟨{}, {}, Twice.again, w', e, t, record⟩ := by
  obtain ⟨e, run, _, cached⟩ := Twice.ran_ok
  obtain ⟨t, record, recorded, ending, holds, _⟩ :=
    container_ends_once Twice.again_arises PodExtension.none_looks rfl run
  obtain rfl : ending = .reused := by
    rw [holds.eq_of]
    simp [Ending.of, cached]
  exact ⟨e, _, t, record, run, Twice.again_arises, PodExtension.none_looks, rfl, recorded, holds⟩

end TaskGraph
