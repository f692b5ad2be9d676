import TaskGraph.Proofs.History
import TaskGraph.Proofs.Invoke.Steps
import TaskGraph.Proofs.Resolve.Reads
import TaskGraph.Proofs.Result

/-! The steps of a container invocation. First the task is prepared, which leaves nothing behind
but the pipeline of its run. Then an execution is stored for it, and what follows depends on the
image, the condition and the cache. -/

namespace TaskGraph

variable {o : Options} {d : Driver} {s : Services} {w w' : World} {t : ContainerTask}
  {e : Execution}

namespace Options

/-- What an invocation does before it stores anything of its task. -/
def containerTask (o : Options) (d : Driver) : Plan ContainerTask := do
  o.validateContainer
  let some task := o.task | .fail (.required "task spec")
  let some component := o.component | .fail (.required "component spec")
  let some container := o.container | .fail (.required "container spec")
  let pipeline ← .perform (.pipeline o.pipelineQuery)
  let dag ← .perform (.dag o.dagExecutionId)
  let scope : TaskScope := ⟨dag, pipeline, o⟩
  let inputs ← scope.inputs
  let condition ← task.evaluateCondition inputs
  let publishLogs := if d.config.isDummyImage container.image then "false" else o.publishLogs
  let input ← provision task component pipeline publishLogs (condition ≠ some false) inputs
  return ⟨o, task, component, container, scope, input, condition, publishLogs⟩

theorem runContainer_eq : o.runContainer d = Plan.within (.container o.info) (do
    let t ← o.containerTask d
    if d.config.isDummyImage t.container.image then t.runPlatformOperation else t.launch d) := by
  unfold runContainer containerTask
  congr 1
  rw [bind_assoc]
  congr 1
  funext _
  cases o.task with
  | none => rfl
  | some task =>
  cases o.component with
  | none => rfl
  | some component =>
  cases o.container with
  | none => rfl
  | some container =>
  simp only [bind_assoc, pure_bind]

end Options

namespace ContainerTask

/-- The places for the outputs of a task. -/
def provisioned (t : ContainerTask) (salt : String) : ExecutorOutputs :=
  provisionOutputs t.scope.pipeline.root t.task.name t.component.outputs salt t.publishLogs

/-- A task as an invocation prepares it: its parts come from the options, its condition is evaluated
on its inputs, and only a task that triggers has places for outputs. -/
structure Prepared (t : ContainerTask) (o : Options) (d : Driver) (s : Services) (w w' : World) :
    Prop where
  options : t.options = o
  task : o.task = some t.task
  component : o.component = some t.component
  container : o.container = some t.container
  pipeline : t.scope.pipeline = (w.store.pipeline o.pipelineQuery).1
  dag : w.store.executions.get? o.dagExecutionId = some t.scope.dag
  condition : t.task.evaluateCondition t.input.inputs = .ok t.condition
  publishLogs :
    t.publishLogs = if d.config.isDummyImage t.container.image then "false" else o.publishLogs
  outputs : t.input.outputs = if t.willTrigger then some (t.provisioned (s.salt w.salts)) else none
  world : w' = { w with store := (w.store.pipeline o.pipelineQuery).2, salts := w'.salts }

end ContainerTask

theorem Options.provision_ok {task : TaskSpec} {component : ComponentSpec} {pipeline : Pipeline}
    {publishLogs : String} {triggers : Bool} {inputs : ExecutorInputs} {input : ExecutorInput}
    (h : (provision task component pipeline publishLogs triggers inputs).run s w =
      (.ok input, w')) :
    input.inputs = inputs ∧ (input.outputs = if triggers then some (provisionOutputs pipeline.root
      task.name component.outputs (s.salt w.salts) publishLogs) else none) ∧
      w' = { w with salts := w'.salts } := by
  unfold provision at h
  cases triggers with
  | false =>
    obtain ⟨⟩ := h
    exact ⟨rfl, rfl, rfl⟩
  | true =>
    obtain ⟨⟩ := h
    exact ⟨rfl, rfl, rfl⟩

/-- A prepared task has the inputs that were resolved in its scope. -/
theorem Options.containerTask_resolved (h : (o.containerTask d).run s w = (.ok t, w')) :
    t.Prepared o d s w w' ∧ t.scope.options = o ∧
      ∃ v v', t.scope.inputs.run s v = (.ok t.input.inputs, v') := by
  cases task : o.task with
  | none => simp [containerTask, task, Plan.run_bind_ok_iff, Result.fail] at h
  | some task' =>
  cases component : o.component with
  | none => simp [containerTask, task, component, Plan.run_bind_ok_iff, Result.fail] at h
  | some component' =>
  cases container : o.container with
  | none => simp [containerTask, task, component, container, Plan.run_bind_ok_iff, Result.fail] at h
  | some container' =>
  simp only [containerTask, task, component, container, Plan.run_bind_ok_iff] at h
  simp only [Plan.run_lift, Plan.run_pure, Prod.mk.injEq, Except.ok.injEq] at h
  obtain ⟨_, _, ⟨_, rfl⟩, pipeline, v, queried, dag, _, found, inputs, _, resolved, condition, _,
    ⟨evaluated, rfl⟩, input, _, provisioned, rfl, rfl⟩ := h
  have served := Plan.perform_ok queried
  simp only [World.serve, Prod.mk.injEq, Except.ok.injEq] at served
  obtain ⟨rfl, rfl⟩ := served
  obtain ⟨graph, rfl⟩ := Plan.dag_answered found
  obtain rfl := (TaskScope.readsStore_inputs _).reads.world_eq resolved
  obtain ⟨rfl, outputs, world⟩ := provision_ok provisioned
  have stored := (Store.dag_eq_ok_iff.1 graph).1
  rw [Store.pipeline_executions] at stored
  exact ⟨⟨rfl, task, component, container, rfl, stored, evaluated, rfl, outputs, world⟩, rfl, _, _,
    resolved⟩

theorem Options.containerTask_ok (h : (o.containerTask d).run s w = (.ok t, w')) :
    t.Prepared o d s w w' :=
  (containerTask_resolved h).1

theorem fingerprint_ok {input : ExecutorInput} {text : String}
    (h : fingerprint o input = .ok text) :
    ∃ key, CacheKey.of o input = .ok key ∧ text = key.fingerprint := by
  unfold fingerprint at h
  cases key : CacheKey.of o input with
  | error e => simp [key, bind, Except.bind] at h
  | ok key' =>
    rw [key] at h
    obtain ⟨⟩ := h
    exact ⟨key', rfl, rfl⟩

theorem CacheKey.find_run (text pipelineName nspace : String) (w : World) :
    (CacheKey.find text pipelineName nspace).run s w =
      match s.cacheFault with
      | none => (.ok (w.cache.lookup? ⟨text, CacheIndex.pipelineKey pipelineName, nspace⟩), w)
      | some fault => ((Result.fail fault).within .cacheLookup, w) := by
  rw [CacheKey.find, Plan.run_within]
  simp only [Plan.perform, Plan.run, World.answer, Services.fault?]
  cases s.cacheFault <;> rfl

namespace ContainerTask

/-- What the cache is asked for. -/
def address (t : ContainerTask) (fingerprint : String) : CacheAddress where
  fingerprint := fingerprint
  pipelineKey := CacheIndex.pipelineKey t.options.pipelineName
  nspace := t.options.nspace

/-- The fingerprint of a task and what the cache holds for it. A cache that fails holds nothing, and
without caching it is not asked. -/
inductive LookedUp (t : ContainerTask) (s : Services) (w : World) : String → Option Int → Prop where
  | off : (t.willTrigger && t.options.cachingEnabled) = false → LookedUp t s w "" none
  | on {key : CacheKey} : t.willTrigger → t.options.cachingEnabled →
      CacheKey.of t.options t.input = .ok key →
      LookedUp t s w key.fingerprint
        (if s.cacheFault.isNone then w.cache.lookup? (t.address key.fingerprint) else none)

theorem LookedUp.of_caching {fingerprint : String} {found : Option Int}
    (known : t.LookedUp s w fingerprint found) (triggers : t.willTrigger = true)
    (caching : t.options.cachingEnabled = true) :
    ∃ key, CacheKey.of t.options t.input = .ok key ∧ fingerprint = key.fingerprint ∧
      found = if s.cacheFault.isNone then w.cache.lookup? (t.address fingerprint) else none := by
  cases known with
  | off none => simp [triggers, caching] at none
  | on _ _ key => exact ⟨_, key, rfl, rfl⟩

theorem LookedUp.of_uncached {fingerprint : String} {found : Option Int}
    (known : t.LookedUp s w fingerprint found) (uncached : t.options.cachingEnabled = false) :
    fingerprint = "" := by
  cases known with
  | off _ => rfl
  | on _ caching _ => simp [uncached] at caching

/-- Only a cache that is asked and answers holds an execution. -/
theorem LookedUp.of_some {fingerprint : String} {found : Option Int} {x : Int}
    (known : t.LookedUp s w fingerprint found) (holds : found = some x) :
    t.willTrigger = true ∧ t.options.cachingEnabled = true ∧ s.cacheFault = none ∧
      w.cache.lookup? (t.address fingerprint) = some x := by
  cases known with
  | off _ => cases holds
  | on triggers caching _ =>
    split at holds
    · rename_i answers
      exact ⟨triggers, caching, Option.isNone_iff_eq_none.1 answers, holds⟩
    · cases holds

theorem reads_lookup (t : ContainerTask) : t.lookup.Reads := by
  unfold lookup
  split
  · refine (Plan.uses_lift _).bind fun fingerprint => ?_
    refine Plan.Uses.bind (Plan.Uses.attempt (Plan.Uses.within (Plan.reads_perform rfl) _))
      fun found => ?_
    cases found <;> trivial
  · trivial

theorem lookup_ok {fingerprint : String} {found : Option Int}
    (h : t.lookup.run s w = (.ok (fingerprint, found), w')) :
    w' = w ∧ t.LookedUp s w fingerprint found := by
  refine ⟨t.reads_lookup.world_eq h, ?_⟩
  unfold lookup at h
  split at h
  · rename_i on
    rw [Bool.and_eq_true] at on
    obtain ⟨text, v, hashed, asked⟩ := Plan.run_bind_ok_iff.1 h
    simp only [Plan.run_lift, Prod.mk.injEq] at hashed
    obtain ⟨hashed, rfl⟩ := hashed
    obtain ⟨key, of_task, rfl⟩ := fingerprint_ok hashed
    rw [Plan.run_bind, Plan.run_attempt, CacheKey.find_run] at asked
    have answer := LookedUp.on (s := s) (w := w) on.1 on.2 of_task
    cases fault : s.cacheFault with
    | none =>
      simp only [fault] at asked answer
      obtain ⟨⟩ := asked
      exact answer
    | some fault' =>
      simp only [fault] at asked answer
      obtain ⟨⟩ := asked
      exact answer
  · rename_i off
    obtain ⟨⟩ := h
    exact .off (by simpa using off)

/-- The store once an execution is created for a task, and the record of that execution. -/
def created (t : ContainerTask) (w : World) (fingerprint : String) (found : Option Int) :
    ExecutionRecord × Store :=
  w.store.create t.scope.pipeline (t.config fingerprint found)

/-- The record of an execution that was created for a task, with a later state and outputs. -/
def ended (t : ContainerTask) (w : World) (fingerprint : String) (found : Option Int)
    (state : ExecutionState) (outputs : Dict Json) : ExecutionRecord :=
  { (t.created w fingerprint found).1 with state, outputParameters := outputs }

variable {v : World} {fingerprint : String} {found : Option Int}

namespace Prepared

theorem store (prepared : t.Prepared o d s w v) : v.store = (w.store.pipeline o.pipelineQuery).2 := by
  rw [prepared.world]

theorem ordered (prepared : t.Prepared o d s w v) (ordered : w.store.Ordered) : v.store.Ordered :=
  prepared.store ▸ ordered.pipeline _

theorem executions (prepared : t.Prepared o d s w v) : v.store.executions = w.store.executions := by
  rw [prepared.store, Store.pipeline_executions]

theorem registryOf (prepared : t.Prepared o d s w v) (own : Bool) :
    v.registryOf own = w.registryOf own := by
  rw [prepared.world]
  rfl

theorem cache (prepared : t.Prepared o d s w v) : v.cache = w.cache := by
  rw [prepared.world]

/-- An execution that is created for the task is new and has no outputs yet. -/
theorem fresh (prepared : t.Prepared o d s w v) (ordered : w.store.Ordered) :
    w.store.executions.get? (t.created v fingerprint found).1.id = none := by
  rw [← prepared.executions]
  exact (prepared.ordered ordered).next_free

theorem outputArtifactsOf (prepared : t.Prepared o d s w v) (ordered : w.store.Ordered)
    (fingerprint : String) (found : Option Int) :
    v.store.outputArtifactsOf (t.created v fingerprint found).1.id = ∅ :=
  (prepared.ordered ordered).outputs _ (prepared.ordered ordered).next_free

end Prepared

/-- An execution that was just created ends with the outputs that are published for it. -/
theorem publish_created {outputs : Dict Json} {artifacts : List OutputArtifact}
    {state : ExecutionState} {store : Store}
    (h : (t.created v fingerprint found).2.publish (t.created v fingerprint found).1.id outputs
      artifacts state = .ok store) :
    store = artifacts.foldl
      (fun s a => s.addOutputArtifact (t.created v fingerprint found).1.id a)
      { (t.created v fingerprint found).2 with
        executions := v.store.executions.insert (t.created v fingerprint found).1.id
          (t.ended v fingerprint found state outputs) } := by
  obtain ⟨record, stored, rfl⟩ := Store.publish_ok h
  have own : (t.created v fingerprint found).2.executions = v.store.executions.insert
    (t.created v fingerprint found).1.id (t.created v fingerprint found).1 := rfl
  rw [own, SortedMap.get?_insert_self] at stored
  obtain rfl := Option.some.inj stored
  have empty : (t.created v fingerprint found).1.outputParameters = ∅ := rfl
  rw [own, SortedMap.insert_insert, empty, SortedMap.empty_union]
  rfl

/-- A task with the image of an operation is only recorded if it does not trigger; else the operation
ends its execution. -/
theorem runPlatformOperation_ok (creates : t.options.devMode = false)
    (h : t.runPlatformOperation.run s w = (.ok e, w')) :
    e = t.execution (t.created w "" none).1.id ∧
    ((t.willTrigger = false ∧ w' = { w with store := (t.created w "" none).2 }) ∨
      (t.willTrigger = true ∧ ∃ outputs store,
        s.platform t.container.image t.options t.input = .ok outputs ∧
        (t.created w "" none).2.publish e.id outputs [] .complete = .ok store ∧
        w' = { w with store })) := by
  obtain ⟨record, v, stored, rest⟩ := Plan.run_bind_ok_iff.1 h
  obtain ⟨rfl, rfl⟩ := Options.createExecution_ok creates stored
  split at rest
  · rename_i triggers
    rw [Plan.run_bind, Plan.run_attempt, Plan.platform_run] at rest
    cases operated : s.platform t.container.image t.options t.input with
    | ok outputs =>
      simp only [operated] at rest
      obtain ⟨⟨⟩, v, ended, done⟩ := Plan.run_bind_ok_iff.1 rest
      obtain ⟨⟩ := done
      obtain ⟨store, published, rfl⟩ := Plan.publish_answered ended
      exact ⟨rfl, .inr ⟨triggers, outputs, store, rfl, published, rfl⟩⟩
    | error fault =>
      simp only [operated] at rest
      obtain ⟨_, v, _, failed⟩ := Plan.run_bind_ok_iff.1 rest
      rw [Plan.run_within_ok_iff] at failed
      cases failed
  · rename_i skips
    obtain ⟨⟩ := rest
    exact ⟨rfl, .inl ⟨by simpa using skips, rfl⟩⟩

/-- A reused execution hands over its outputs, and they end the new one. -/
theorem reuseOutputs_ok {record : ExecutionRecord} {input : ExecutorInput} {x : Int}
    (h : (reuseOutputs record input x).run s w = (.ok (), w')) :
    ∃ earlier artifacts store, w.store.executions.get? x = some earlier ∧
      reusedArtifacts (w.store.outputArtifactsOf x) input = .ok artifacts ∧
      w.store.publish record.id earlier.outputParameters artifacts .cached = .ok store ∧
      w' = { w with store } := by
  obtain ⟨earlier, v, found, rest⟩ := Plan.run_bind_ok_iff.1 h
  obtain ⟨stored, rfl⟩ := Plan.execution_answered (Plan.run_within_ok_iff.1 found)
  obtain ⟨artifacts, v, listed, rest⟩ := Plan.run_bind_ok_iff.1 rest
  obtain ⟨rfl, rfl⟩ := Plan.outputArtifacts_answered (Plan.run_within_ok_iff.1 listed)
  obtain ⟨reused, v, collected, ended⟩ := Plan.run_bind_ok_iff.1 rest
  simp only [Plan.run_lift, Prod.mk.injEq] at collected
  obtain ⟨collected, rfl⟩ := collected
  obtain ⟨store, published, rfl⟩ := Plan.publish_answered (Plan.run_within_ok_iff.1 ended)
  exact ⟨earlier, reused, store, Store.execution_eq_ok_iff.1 stored, collected, published, rfl⟩

/-- An operation stores an execution, and then only that one is ended. -/
theorem runPlatformOperation_eq (t : ContainerTask) : ∃ rest : ExecutionRecord → Plan Execution,
    t.runPlatformOperation =
      t.options.createExecution t.scope.pipeline (t.config "" none) >>= rest ∧
    ∀ (record : ExecutionRecord) (allowed : Call → Prop),
      allowed (.platform t.container.image t.options t.input) →
      (∀ parameters state, allowed (.publish record.id parameters [] state)) →
      (rest record).Uses allowed := by
  refine ⟨_, rfl, fun record allowed operates ends => ?_⟩
  split
  · refine Plan.Uses.bind (Plan.Uses.attempt (Plan.uses_perform operates)) fun outcome => ?_
    cases outcome with
    | ok outputs => exact (Plan.uses_perform (ends ..)).bind fun _ => Plan.uses_pure _
    | error e =>
      exact Plan.Uses.bind (Plan.Uses.attempt (Plan.uses_perform (ends ..))) fun _ =>
        Plan.Uses.within (Plan.uses_done _) _
  · trivial

theorem uses_reuseOutputs {allowed : Call → Prop} {record : ExecutionRecord} {input : ExecutorInput}
    {x : Int} (looks : ∀ c : Call, c.readsStore = true → allowed c)
    (ends : ∀ parameters artifacts, allowed (.publish record.id parameters artifacts .cached)) :
    (reuseOutputs record input x).Uses allowed :=
  Plan.Uses.bind (Plan.Uses.within (Plan.uses_perform (looks (.execution _) rfl)) _) fun _ =>
    Plan.Uses.bind (Plan.Uses.within (Plan.uses_perform (looks (.outputArtifacts _) rfl)) _) fun _ =>
    (Plan.uses_lift _).bind fun _ => Plan.Uses.within (Plan.uses_perform (ends ..)) _

theorem uses_pod {allowed : Call → Prop}
    (extension : ∀ scope pod, (d.extension scope pod).Uses allowed) (t : ContainerTask) (id : Int) :
    (t.pod d id).Uses allowed := by
  refine (Plan.uses_lift _).bind fun pod => ?_
  split
  · exact extension _ _
  · trivial

theorem reads_pod (looks : d.extension.Looks) (t : ContainerTask) (id : Int) :
    (t.pod d id).Reads :=
  uses_pod looks t id

/-- The parameters of a task as they are logged. -/
def logged (t : ContainerTask) : List (String × String) :=
  t.input.inputs.parameters.entries.map fun (key, value) => (key, value.plainText)

/-- A launch asks the cache, stores an execution and registers its run. Then only that one is ended. -/
theorem launch_registers (d : Driver) (t : ContainerTask) :
    ∃ rest : String × Option Int → ExecutionRecord → Plan Execution,
    t.launch d = (t.lookup >>= fun known =>
      t.options.createExecution t.scope.pipeline (t.config known.1 known.2) >>= fun record =>
      t.options.registerRun t.scope.pipeline t.task.name (some t.scope.dag.id) record.id t.logged >>=
        fun _ => rest known record) ∧
    ∀ (known : String × Option Int) (record : ExecutionRecord) (allowed : Call → Prop),
      (∀ scope pod, (d.extension scope pod).Uses allowed) →
      (∀ c : Call, c.readsStore = true → allowed c) →
      (∀ parameters artifacts, allowed (.publish record.id parameters artifacts .cached)) →
      (rest known record).Uses allowed := by
  refine ⟨_, rfl, fun ⟨fingerprint, found⟩ record allowed extension looks ends => ?_⟩
  dsimp only
  split
  · cases found with
    | some x => exact (uses_reuseOutputs looks ends).bind fun _ => Plan.uses_pure _
    | none => exact (uses_pod extension t _).bind fun pod => Plan.uses_pure _
  · trivial

theorem launch_steps (d : Driver) (t : ContainerTask) :
    ∃ rest : String × Option Int → ExecutionRecord → Plan Execution,
    t.launch d = (t.lookup >>= fun known =>
      t.options.createExecution t.scope.pipeline (t.config known.1 known.2) >>= rest known) ∧
    ∀ (known : String × Option Int) (record : ExecutionRecord) (allowed : Call → Prop),
      (∀ scope pod, (d.extension scope pod).Uses allowed) →
      (∀ c : Call, c.readsStore = true → allowed c) → (∀ c, t.options.Registers c → allowed c) →
      (∀ parameters artifacts, allowed (.publish record.id parameters artifacts .cached)) →
      (rest known record).Uses allowed := by
  obtain ⟨rest, same, uses⟩ := t.launch_registers d
  refine ⟨_, same, fun known record allowed extension looks registers ends => ?_⟩
  refine (Options.uses_registerRun registers ..).bind fun _ => ?_
  exact uses known record allowed extension looks ends

theorem launch_eq (looks : d.extension.Looks) (t : ContainerTask) :
    ∃ rest : String × Option Int → ExecutionRecord → Plan Execution,
    t.launch d = (t.lookup >>= fun known =>
      t.options.createExecution t.scope.pipeline (t.config known.1 known.2) >>= rest known) ∧
    ∀ (known : String × Option Int) (record : ExecutionRecord) (allowed : Call → Prop),
      (∀ c : Call, c.reads = true → allowed c) → (∀ c, t.options.Registers c → allowed c) →
      (∀ parameters artifacts, allowed (.publish record.id parameters artifacts .cached)) →
      (rest known record).Uses allowed := by
  obtain ⟨rest, same, uses⟩ := t.launch_steps d
  refine ⟨rest, same, fun known record allowed reads registers ends => ?_⟩
  exact uses known record allowed (fun scope pod => (looks scope pod).imp reads)
    (fun c looks => reads c (Call.reads_of_readsStore looks)) registers ends

/-- How the invocation of a recorded task goes on, from what the cache holds for it. -/
inductive Continues (t : ContainerTask) (d : Driver) (s : Services) (record : ExecutionRecord)
    (w : World) : Option Int → Execution → World → Prop where
  | skip (found : Option Int) :
      t.willTrigger = false → Continues t d s record w found (t.execution record.id) w
  | reuse {x : Int} {w' : World} :
      t.willTrigger → (reuseOutputs record t.input x).run s w = (.ok (), w') →
      Continues t d s record w (some x) { t.execution record.id with cached := some true } w'
  | launch {pod : PodSpec} :
      t.willTrigger → (t.pod d record.id).run s w = (.ok pod, w) →
      Continues t d s record w none { t.execution record.id with
        cached := some false
        podSpecPatch := (JsonCodec.encode pod).text } w

/-- A task that is no operation is recorded with what the cache knows of it, and its run is
registered. Only then it goes on. -/
theorem launch_ok (creates : t.options.devMode = false) (looks : d.extension.Looks)
    (h : (t.launch d).run s w = (.ok e, w')) :
    ∃ fingerprint found v record, t.LookedUp s w fingerprint found ∧
      record = (t.created w fingerprint found).1 ∧ v.store = (t.created w fingerprint found).2 ∧
      v.cache = w.cache ∧ (v.registryOf t.options.ownRegistry).runs =
        (w.registryOf t.options.ownRegistry).runs ++ [t.options.runRequest t.scope.pipeline
          t.task.name (some t.scope.dag.id) record.id] ∧
      t.Continues d s record v found e w' := by
  obtain ⟨⟨fingerprint, found⟩, v, looked, rest⟩ := Plan.run_bind_ok_iff.1 h
  obtain ⟨rfl, known⟩ := lookup_ok looked
  obtain ⟨record, v, stored, rest⟩ := Plan.run_bind_ok_iff.1 rest
  obtain ⟨rfl, rfl⟩ := Options.createExecution_ok creates stored
  obtain ⟨⟨⟩, v, registered, rest⟩ := Plan.run_bind_ok_iff.1 rest
  obtain ⟨store, cache, runs⟩ := Options.registerRun_ok registered
  refine ⟨fingerprint, found, v, _, known, rfl, store, cache, runs, ?_⟩
  split at rest
  · rename_i triggers
    cases found with
    | some x =>
      obtain ⟨⟨⟩, v', reused, done⟩ := Plan.run_bind_ok_iff.1 rest
      obtain ⟨⟩ := done
      exact .reuse triggers reused
    | none =>
      obtain ⟨pod, v', built, done⟩ := Plan.run_bind_ok_iff.1 rest
      obtain rfl := (reads_pod looks t _).world_eq built
      obtain ⟨⟩ := done
      exact .launch triggers built
  · rename_i skips
    obtain ⟨⟩ := rest
    exact .skip found (by simpa using skips)

end ContainerTask

/-- A call with which a task is prepared: it asks for the pipeline, takes a salt or looks. -/
def Call.Prepares (q : PipelineQuery) (c : Call) : Prop :=
  c = .pipeline q ∨ c = .salt ∨ c.reads = true

namespace Options

/-- The calls with which a task is prepared. -/
theorem uses_containerTask {allowed : Call → Prop} (asks : allowed (.pipeline o.pipelineQuery))
    (salts : allowed .salt) (looks : ∀ c : Call, c.readsStore = true → allowed c) :
    (o.containerTask d).Uses allowed := by
  refine (Plan.uses_lift _).bind fun _ => ?_
  cases o.task with
  | none => trivial
  | some task =>
  cases o.component with
  | none => trivial
  | some component =>
  cases o.container with
  | none => trivial
  | some container =>
  refine (Plan.uses_perform asks).bind fun pipeline =>
    (Plan.uses_perform (looks (.dag _) rfl)).bind fun dag =>
    ((TaskScope.readsStore_inputs _).imp looks).bind fun inputs =>
    (Plan.uses_lift _).bind fun condition => Plan.Uses.bind ?_ fun input => Plan.uses_pure _
  unfold provision
  split
  · exact (Plan.uses_perform salts).bind fun salt => Plan.uses_pure _
  · trivial

theorem prepares_containerTask :
    (o.containerTask d).Uses (Call.Prepares o.pipelineQuery) :=
  uses_containerTask (.inl rfl) (.inr (.inl rfl)) fun _ looks =>
    .inr (.inr (Call.reads_of_readsStore looks))

end Options

/-- What an invocation gives back for a container is the input of the task that it has prepared. -/
theorem Options.runContainer_input {e : Execution} (h : (o.runContainer d).run s w = (.ok e, w')) :
    ∃ t v, (o.containerTask d).run s w = (.ok t, v) ∧ e.executorInput = some t.input := by
  rw [runContainer_eq, Plan.run_within_ok_iff] at h
  obtain ⟨t, v, prepares, ends⟩ := Plan.run_bind_ok_iff.1 h
  refine ⟨t, v, prepares, ?_⟩
  split at ends
  · obtain ⟨record, u, _, rest⟩ := Plan.run_bind_ok_iff.1 ends
    split at rest
    · obtain ⟨outcome, u, _, rest⟩ := Plan.run_bind_ok_iff.1 rest
      cases outcome with
      | ok outputs =>
        obtain ⟨_, _, _, done⟩ := Plan.run_bind_ok_iff.1 rest
        cases done
        rfl
      | error fault =>
        obtain ⟨_, _, _, failed⟩ := Plan.run_bind_ok_iff.1 rest
        rw [Plan.run_within_ok_iff] at failed
        cases failed
    · cases rest
      rfl
  · obtain ⟨⟨fingerprint, found⟩, u, _, rest⟩ := Plan.run_bind_ok_iff.1 ends
    obtain ⟨record, u, _, rest⟩ := Plan.run_bind_ok_iff.1 rest
    obtain ⟨_, u, _, rest⟩ := Plan.run_bind_ok_iff.1 rest
    split at rest
    · cases found with
      | some x =>
        obtain ⟨_, _, _, done⟩ := Plan.run_bind_ok_iff.1 rest
        cases done
        rfl
      | none =>
        obtain ⟨_, _, _, done⟩ := Plan.run_bind_ok_iff.1 rest
        cases done
        rfl
    · cases rest
      rfl

end TaskGraph
