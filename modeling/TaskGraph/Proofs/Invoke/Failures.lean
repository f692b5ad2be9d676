import TaskGraph.Proofs.Contexts
import TaskGraph.Proofs.Invoke.Creates
import TaskGraph.Proofs.Invoke.Reuse

/-! What a container invocation that fails leaves behind. As long as the task is only prepared,
nothing is left but the pipeline of its run. Once an execution is stored for it, the execution stays
if its outputs cannot be reused or its pod cannot be built. -/

namespace TaskGraph

/-- Services whose store, cache and registry answer every call. -/
structure Services.Reliable (s : Services) : Prop where
  store : ∀ operation, s.storeFault operation = none
  cache : s.cacheFault = none
  runs : s.runFault = none
  parameters : s.parameterFault = none

theorem Services.Reliable.recording {s : Services} (reliable : s.Reliable) : s.Recording :=
  ⟨reliable.store, reliable.runs, reliable.parameters⟩

namespace World

variable {s : Services} {w w' : World}

theorem answer_of_reliable (reliable : s.Reliable) (w : World) (c : Call) :
    w.answer s c = w.serve s c := by
  have answers : s.fault? c = none := by
    cases c with
    | registerRun own request => cases own <;> first | rfl | exact reliable.runs
    | logParameter own parameter => cases own <;> first | rfl | exact reliable.parameters
    | cached address => exact reliable.cache
    | cacheEntry entry => exact reliable.cache
    | _ => first | rfl | exact reliable.store _
  rw [answer, answers]

@[simp] theorem registryOf_not_updateRegistry (w : World) (own : Bool)
    (f : RunRegistry → RunRegistry) :
    (w.updateRegistry own f).registryOf (!own) = w.registryOf (!own) := by
  cases own <;> rfl

end World

variable {o : Options} {d : Driver} {s : Services} {w v w' : World} {t : ContainerTask}
  {fault : Error}

/-- A world in which nothing of an invocation is left, except perhaps the pipeline of its run. -/
structure World.Untouched (q : PipelineQuery) (w w' : World) : Prop where
  store : w'.store = w.store ∨ w'.store = (w.store.pipeline q).2
  cache : w'.cache = w.cache
  registry : w'.registry = w.registry
  ownRegistry : w'.ownRegistry = w.ownRegistry

namespace World.Untouched

variable {q : PipelineQuery}

theorem refl (q : PipelineQuery) (w : World) : Untouched q w w := ⟨.inl rfl, rfl, rfl, rfl⟩

theorem pipeline (untouched : Untouched q w v) (s : Services) :
    Untouched q w (v.answer s (.pipeline q)).2 := by
  unfold World.answer
  split
  · exact untouched
  · refine ⟨.inr ?_, untouched.cache, untouched.registry, untouched.ownRegistry⟩
    rcases untouched.store with same | same
    · exact congrArg (fun store => (Store.pipeline store q).2) same
    · have again := congrArg (fun store => (Store.pipeline store q).2) same
      exact again.trans (congrArg Prod.snd (w.store.pipeline_again q))

theorem executions (untouched : Untouched q w w') :
    w'.store.executions = w.store.executions := by
  rcases untouched.store with same | same
  · rw [same]
  · rw [same, Store.pipeline_executions]

end World.Untouched

theorem World.Untouched.answer {q : PipelineQuery} {c : Call} (prepares : c.Prepares q)
    (untouched : World.Untouched q w v) : World.Untouched q w (v.answer s c).2 := by
  rcases prepares with rfl | rfl | reads
  · exact untouched.pipeline s
  · unfold World.answer
    split
    · exact untouched
    · exact ⟨untouched.store, untouched.cache, untouched.registry, untouched.ownRegistry⟩
  · rwa [World.answer_of_reads reads]

theorem fingerprint_error {input : ExecutorInput} (h : fingerprint o input = .error fault) :
    o.container = none := by
  unfold fingerprint at h
  cases container : o.container with
  | none => rfl
  | some c =>
    simp only [CacheKey.of, container] at h
    cases h

theorem Store.publish_of_stored {store : Store} {id : Int} {e : ExecutionRecord}
    (stored : store.executions.get? id = some e) (parameters : Dict Json)
    (artifacts : List OutputArtifact) (state : ExecutionState) :
    ∃ store', store.publish id parameters artifacts state = .ok store' := by
  unfold publish
  rw [execution_eq_ok_iff.2 stored]
  exact ⟨_, rfl⟩

/-- Artifacts are reused unless one of those that are provisioned is missing. -/
theorem reusedArtifacts_error {stored : Dict OutputArtifact} {input : ExecutorInput}
    (h : reusedArtifacts stored input = .error fault) :
    ∃ name, (input.provisioned.get? name).isSome ∧ stored.get? name = none := by
  unfold reusedArtifacts at h
  unfold ExecutorInput.provisioned
  cases outputs : input.outputs with
  | none => simp [outputs] at h
  | some places =>
    simp only [outputs] at h
    obtain ⟨⟨name, declared⟩, listed, missing⟩ := mapM_error h
    refine ⟨name, ?_, ?_⟩
    · exact Option.isSome_iff_exists.2 ⟨declared, SortedMap.get?_eq_some_iff.2 listed⟩
    · unfold reusedArtifact at missing
      split at missing
      · cases missing
      · assumption

namespace ContainerTask

/-- Only a task without a container gets no fingerprint. -/
theorem lookup_error (h : t.lookup.run s w = (.error fault, w')) : t.options.container = none := by
  unfold lookup at h
  split at h
  · rcases Plan.run_bind_error_iff.1 h with hashed | ⟨text, v, _, asked⟩
    · exact fingerprint_error (congrArg Prod.fst hashed)
    · rw [Plan.run_bind, Plan.run_attempt] at asked
      dsimp only at asked
      split at asked <;> cases asked
  · cases h

/-- Why nothing comes of an execution that is stored for a task: what was found for it in the cache
lacks an output, or no pod can be built. -/
inductive Fails (t : ContainerTask) (d : Driver) (s : Services) (w : World) (id : Int) :
    Option Int → Prop where
  | execution {x : Int} : w.store.executions.get? x = none → Fails t d s w id (some x)
  | artifact {x : Int} {name : String} : (t.input.provisioned.get? name).isSome →
      (w.store.outputArtifactsOf x).get? name = none → Fails t d s w id (some x)
  | pod {fault : Error} : ((t.pod d id).run s w).1 = .error fault → Fails t d s w id none

/-- Outputs that cannot be reused are not published either. -/
theorem reuseOutputs_error (reliable : s.Reliable) {record : ExecutionRecord} {x : Int}
    (stored : w.store.executions.get? record.id = some record)
    (h : (reuseOutputs record t.input x).run s w = (.error fault, w')) :
    w' = w ∧ t.Fails d s w record.id (some x) := by
  rcases Plan.run_bind_error_iff.1 h with absent | ⟨earlier, v, known, rest⟩
  · obtain ⟨cause, absent⟩ := Plan.run_within_error absent
    simp only [Plan.perform, Plan.run, World.answer_of_reliable reliable, World.serve,
      Prod.mk.injEq] at absent
    refine ⟨absent.2.symm, .execution (Option.eq_none_iff_forall_ne_some.2 fun e stored => ?_)⟩
    rw [Store.execution_eq_ok_iff.2 stored] at absent
    cases absent.1
  obtain ⟨_, rfl⟩ := Plan.execution_answered (Plan.run_within_ok_iff.1 known)
  rcases Plan.run_bind_error_iff.1 rest with unlisted | ⟨artifacts, v, listed, rest⟩
  · obtain ⟨cause, unlisted⟩ := Plan.run_within_error unlisted
    simp only [Plan.perform, Plan.run, World.answer_of_reliable reliable, World.serve] at unlisted
    cases unlisted
  obtain ⟨rfl, rfl⟩ := Plan.outputArtifacts_answered (Plan.run_within_ok_iff.1 listed)
  rcases Plan.run_bind_error_iff.1 rest with missing | ⟨reused, v, collected, rest⟩
  · simp only [Plan.run_lift, Prod.mk.injEq] at missing
    obtain ⟨name, provisioned, absent⟩ := reusedArtifacts_error missing.1
    exact ⟨missing.2.symm, .artifact provisioned absent⟩
  · -- what is stored can be published
    simp only [Plan.run_lift, Prod.mk.injEq] at collected
    obtain ⟨_, rfl⟩ := collected
    obtain ⟨cause, refused⟩ := Plan.run_within_error rest
    obtain ⟨store, published⟩ :=
      Store.publish_of_stored stored earlier.outputParameters reused .cached
    simp only [Plan.perform, Plan.run, World.answer_of_reliable reliable, World.serve,
      published] at refused
    cases refused

/-- The world once an execution is created for a task and its run is registered. -/
def entered (t : ContainerTask) (w : World) (fingerprint : String) (found : Option Int) : World :=
  { w with store := (t.created w fingerprint found).2 }.updateRegistry t.options.ownRegistry
    (t.options.enter t.scope.pipeline t.task.name (some t.scope.dag.id)
      (t.created w fingerprint found).1.id t.logged)

theorem entered_store (t : ContainerTask) (w : World) (fingerprint : String) (found : Option Int) :
    (t.entered w fingerprint found).store = (t.created w fingerprint found).2 :=
  World.updateRegistry_store ..

/-- A launch that fails has stored and registered its task, and nothing after that. -/
theorem launch_error (reliable : s.Reliable) (looks : d.extension.Looks)
    (creates : t.options.devMode = false) (container : t.options.container.isSome)
    (h : (t.launch d).run s w = (.error fault, w')) :
    t.willTrigger = true ∧ ∃ fingerprint found, t.LookedUp s w fingerprint found ∧
      w' = t.entered w fingerprint found ∧
      t.Fails d s w' (t.created w fingerprint found).1.id found := by
  rcases Plan.run_bind_error_iff.1 h with unknown | ⟨⟨fingerprint, found⟩, v, looked, rest⟩
  · rw [lookup_error unknown] at container
    cases container
  obtain ⟨rfl, known⟩ := lookup_ok looked
  dsimp only at rest
  rw [Plan.run_bind, Options.createExecution_run reliable.recording creates] at rest
  dsimp only at rest
  rw [Plan.run_bind, Options.registerRun_run reliable.recording] at rest
  dsimp only at rest
  change Plan.run s _ (t.entered v fingerprint found) = _ at rest
  split at rest
  · rename_i triggers
    refine ⟨triggers, fingerprint, found, known, ?_⟩
    cases found with
    | some x =>
      rcases Plan.run_bind_error_iff.1 rest with failed | ⟨_, _, _, done⟩
      · have stored : (t.entered v fingerprint (some x)).store.executions.get?
            (t.created v fingerprint (some x)).1.id = some (t.created v fingerprint (some x)).1 := by
          rw [entered_store]
          exact SortedMap.get?_insert_self ..
        obtain ⟨rfl, fails⟩ := reuseOutputs_error (d := d) reliable stored failed
        exact ⟨rfl, fails⟩
      · cases done
    | none =>
      rcases Plan.run_bind_error_iff.1 rest with failed | ⟨_, _, _, done⟩
      · obtain rfl := (reads_pod looks t _).world_eq failed
        exact ⟨rfl, .pod (congrArg Prod.fst failed)⟩
      · cases done
  · cases rest

end ContainerTask

variable {fingerprint : String} {found : Option Int}

/-- An execution that was stored for a task in vain. It is as it was created, its run is registered,
and nothing else has changed. -/
structure Options.Abandons (o : Options) (d : Driver) (s : Services) (w w' : World)
    (t : ContainerTask) (fingerprint : String) (found : Option Int) : Prop where
  prepared : ∃ v, (o.containerTask d).run s w = (.ok t, v) ∧ t.Prepared o d s w v
  triggers : t.willTrigger = true
  known : t.LookedUp s w fingerprint found
  store : w'.store = ((w.store.pipeline o.pipelineQuery).2.create t.scope.pipeline
    (t.config fingerprint found)).2
  cache : w'.cache = w.cache
  registry : w'.registryOf o.ownRegistry = o.enter t.scope.pipeline t.task.name
    (some t.scope.dag.id) (w.store.lastExecution + 1) t.logged (w.registryOf o.ownRegistry)
  otherRegistry : w'.registryOf (!o.ownRegistry) = w.registryOf (!o.ownRegistry)
  fails : t.Fails d s w' (w.store.lastExecution + 1) found

/-- What is left of a container invocation that fails. A task that cannot be prepared leaves nothing;
one that can leaves its execution. -/
inductive Options.Leaves (o : Options) (d : Driver) (s : Services) (w w' : World) :
    Option Int → Prop where
  | nothing {fault : Error} : (o.containerTask d).run s w = (.error fault, w') →
      World.Untouched o.pipelineQuery w w' → Leaves o d s w w' none
  | execution {t : ContainerTask} {fingerprint : String} {found : Option Int} :
      o.Abandons d s w w' t fingerprint found →
      Leaves o d s w w' (some (w.store.lastExecution + 1))

theorem ContainerTask.Prepared.lookedUp (prepared : t.Prepared o d s w v)
    (known : t.LookedUp s v fingerprint found) : t.LookedUp s w fingerprint found := by
  cases known with
  | off none => exact .off none
  | on triggers caching key =>
    rw [prepared.cache]
    exact .on triggers caching key

theorem Options.containerTask_error (h : (o.containerTask d).run s w = (.error fault, w')) :
    World.Untouched o.pipelineQuery w w' := by
  have run := (prepares_containerTask (o := o) (d := d)).run_keeps (s := s)
    (P := World.Untouched o.pipelineQuery w)
    (fun c v prepares untouched => untouched.answer (s := s) prepares)
    (World.Untouched.refl o.pipelineQuery w)
  rwa [h] at run

theorem Options.Abandons.of_launch (reliable : s.Reliable) (looks : d.extension.Looks)
    (creates : o.devMode = false) (prepares : (o.containerTask d).run s w = (.ok t, v))
    (h : (t.launch d).run s v = (.error fault, w')) :
    ∃ fingerprint found, o.Abandons d s w w' t fingerprint found := by
  have prepared := containerTask_ok prepares
  have container : t.options.container.isSome := by
    rw [prepared.options, prepared.container]
    rfl
  obtain ⟨triggers, fingerprint, found, known, rfl, fails⟩ :=
    ContainerTask.launch_error reliable looks (prepared.options ▸ creates) container h
  have id : (t.created v fingerprint found).1.id = w.store.lastExecution + 1 := by
    change v.store.lastExecution + 1 = _
    rw [prepared.store, Store.pipeline_lastExecution]
  refine ⟨fingerprint, found, {
    prepared := ⟨v, prepares, prepared⟩
    triggers
    known := prepared.lookedUp known
    store := ?_
    cache := ?_
    registry := ?_
    otherRegistry := ?_
    fails := id ▸ fails }⟩
  · rw [ContainerTask.entered_store, ContainerTask.created, prepared.store]
  · rw [← prepared.cache]
    exact World.updateRegistry_cache ..
  · rw [ContainerTask.entered, prepared.options, World.registryOf_updateRegistry, id]
    exact congrArg _ (prepared.registryOf _)
  · rw [ContainerTask.entered, prepared.options, World.registryOf_not_updateRegistry]
    exact prepared.registryOf _

/-- The execution was made in the graph for a task of the name. -/
def Store.MadeFor (s : Store) (graph : Int) (name : String) (id : Int) : Prop :=
  ∃ e, s.executions.get? id = some e ∧ e.parent = graph ∧ e.taskName = name

instance (s : Store) (graph : Int) (name : String) (id : Int) :
    Decidable (s.MadeFor graph name id) :=
  decidable_of_iff
    ((s.executions.get? id).any fun e => e.parent = graph && e.taskName = name) <| by
      simp [Option.any_eq_true, Store.MadeFor]

theorem Store.madeFor_insert {a b : Store} {graph : Int} {name : String} {id : Int}
    {e : ExecutionRecord} (executions : b.executions = a.executions.insert id e)
    (fresh : a.executions.get? id = none) (parent : e.parent = graph) (named : e.taskName = name)
    (id' : Int) : b.MadeFor graph name id' ↔ a.MadeFor graph name id' ∨ id = id' := by
  unfold MadeFor
  rw [executions]
  simp only [SortedMap.get?_insert]
  split
  · rename_i same
    subst same
    simp [fresh, parent, named]
  · rename_i other
    simp [Ne.symm other]

/-- A container invocation that succeeds adds one execution, which is the one that it created for
its task, perhaps with an end. -/
theorem Options.runContainer_stored (looks : d.extension.Looks) (creates : o.devMode = false)
    {e : Execution} (h : (o.runContainer d).run s w = (.ok e, w')) :
    ∃ t v fingerprint found state outputs, (o.containerTask d).run s w = (.ok t, v) ∧
      t.Prepared o d s w v ∧ e.executorInput = some t.input ∧
      e.id = (t.created v fingerprint found).1.id ∧
      w'.store.executions = w.store.executions.insert e.id
        (t.ended v fingerprint found state outputs) := by
  rw [runContainer_eq, Plan.run_within_ok_iff] at h
  obtain ⟨t, v, prepares, ends⟩ := Plan.run_bind_ok_iff.1 h
  have prepared := containerTask_ok prepares
  rw [← prepared.executions]
  split at ends
  · obtain ⟨rfl, ⟨_, rfl⟩ | ⟨_, outputs, store, _, published, rfl⟩⟩ :=
      t.runPlatformOperation_ok (prepared.options ▸ creates) ends
    · exact ⟨t, v, "", none, .running, ∅, prepares, prepared, rfl, rfl, rfl⟩
    · obtain rfl := ContainerTask.publish_created published
      exact ⟨t, v, "", none, .complete, outputs, prepares, prepared, rfl, rfl, rfl⟩
  · obtain ⟨fingerprint, found, u, record, _, rfl, store, _, _, goesOn⟩ :=
      t.launch_ok (prepared.options ▸ creates) looks ends
    cases goesOn with
    | skip =>
      exact ⟨t, v, fingerprint, found, .running, ∅, prepares, prepared, rfl, rfl,
        congrArg Store.executions store⟩
    | @reuse x _ _ reused =>
      obtain ⟨earlier, artifacts, final, _, _, published, rfl⟩ :=
        ContainerTask.reuseOutputs_ok reused
      rw [store] at published
      obtain rfl := ContainerTask.publish_created published
      exact ⟨t, v, fingerprint, some x, .cached, earlier.outputParameters, prepares, prepared, rfl,
        rfl, Store.foldl_addOutputArtifact_executions ..⟩
    | launch =>
      exact ⟨t, v, fingerprint, none, .running, ∅, prepares, prepared, rfl, rfl,
        congrArg Store.executions store⟩

theorem ContainerTask.Prepared.parent (prepared : t.Prepared o d s w v) (keyed : w.store.Keyed) :
    t.scope.dag.id = o.dagExecutionId := keyed _ _ prepared.dag

theorem ContainerTask.Prepared.named (prepared : t.Prepared o d s w v) :
    t.task.name = o.taskName := by
  simp [Options.taskName, prepared.task]

/-- Whatever a container invocation that succeeds does, it adds one execution of its task. -/
theorem Options.runContainer_madeFor (reachable : w.store.Reachable) (looks : d.extension.Looks)
    (creates : o.devMode = false) {e : Execution}
    (h : (o.runContainer d).run s w = (.ok e, w')) (id : Int) :
    w'.store.MadeFor o.dagExecutionId o.taskName id ↔
      w.store.MadeFor o.dagExecutionId o.taskName id ∨ e.id = id := by
  obtain ⟨t, v, fingerprint, found, state, outputs, _, prepared, _, own, executions⟩ :=
    runContainer_stored looks creates h
  have fresh : w.store.executions.get? e.id = none := by
    have next : e.id = w.store.lastExecution + 1 := by
      rw [own, ContainerTask.created, prepared.store]
      exact congrArg (· + 1) (Store.pipeline_lastExecution _)
    rw [next]
    exact reachable.bounded.next_free
  exact Store.madeFor_insert executions fresh (prepared.parent reachable.keyed) prepared.named id

/-- Beside the executions of the task from before, there is only the one that is left. -/
theorem Options.Leaves.madeFor {left : Option Int} (leaves : o.Leaves d s w w' left)
    (reachable : w.store.Reachable) (id : Int) :
    w'.store.MadeFor o.dagExecutionId o.taskName id ↔
      w.store.MadeFor o.dagExecutionId o.taskName id ∨ left = some id := by
  cases leaves with
  | nothing _ untouched => simp [Store.MadeFor, untouched.executions]
  | @execution t fingerprint found abandons =>
    obtain ⟨v, _, prepared⟩ := abandons.prepared
    have executions : w'.store.executions = w.store.executions.insert (w.store.lastExecution + 1)
        (t.created w fingerprint found).1 := by
      rw [abandons.store]
      simp [Store.create, ContainerTask.created]
    rw [Option.some.injEq]
    exact Store.madeFor_insert executions reachable.bounded.next_free
      (prepared.parent reachable.keyed) prepared.named id

/-- A container invocation that fails leaves nothing but the pipeline of its run, unless an execution
was stored for its task already. That one stays, running and registered, if what was found for it in
the cache lacks an output or no pod can be built. When the invocation is repeated and succeeds, the
graph has the executions of the task from before, the one that was left and the new one. -/
theorem failed_container_leaves (reachable : w.store.Reachable) (reliable : s.Reliable)
    (looks : d.extension.Looks) (creates : o.devMode = false)
    (launches : ∀ container, o.container = some container →
      d.config.isDummyImage container.image = false)
    (fails : (o.runContainer d).run s w = (.error fault, w')) :
    ∃ left, o.Leaves d s w w' left ∧
      ∀ (again : Options) (d' : Driver) (s' : Services) (u u' : World) (e : Execution),
        d'.extension.Looks → again.devMode = false →
        again.dagExecutionId = o.dagExecutionId → again.taskName = o.taskName →
        u.store = w'.store → (again.runContainer d').run s' u = (.ok e, u') →
        ∀ id, u'.store.MadeFor o.dagExecutionId o.taskName id ↔
          w.store.MadeFor o.dagExecutionId o.taskName id ∨ left = some id ∨ e.id = id := by
  have leaves : ∃ left, o.Leaves d s w w' left := by
    rw [Options.runContainer_eq] at fails
    obtain ⟨cause, failed⟩ := Plan.run_within_error fails
    rcases Plan.run_bind_error_iff.1 failed with unprepared | ⟨t, v, prepares, failed⟩
    · exact ⟨none, .nothing unprepared (Options.containerTask_error unprepared)⟩
    · simp only [launches _ (Options.containerTask_ok prepares).container, Bool.false_eq_true,
        if_false] at failed
      obtain ⟨fingerprint, found, abandons⟩ :=
        Options.Abandons.of_launch reliable looks creates prepares failed
      exact ⟨_, .execution abandons⟩
  obtain ⟨left, leaves⟩ := leaves
  refine ⟨left, leaves, fun again d' s' u u' e looks' creates' graph name same succeeds id => ?_⟩
  have reachable' : u.store.Reachable := same ▸ Plan.reachable_of_run fails reachable
  have added := Options.runContainer_madeFor reachable' looks' creates' succeeds id
  rw [graph, name, same, leaves.madeFor reachable id] at added
  rw [added, or_assoc]

/-! A task that asks for an amount of memory that is none. -/

namespace Unfit

def train (resources : Option ResourceSpec) : Options :=
  { Twice.train "first" 1 with
    task := some { name := "train" }
    container := some { image := "python:3", resources } }

def unfit : Options := train (some { memoryLimitText := "lots" })

def failed : Result Execution × World := (unfit.runContainer {}).run {} Twice.begun

def retried : Result Execution × World := ((train none).runContainer {}).run {} failed.2

theorem begun_reachable : Twice.begun.store.Reachable :=
  (Options.runRootDag _).run_reachable (w := {}) .empty

theorem failed_run : ∃ fault, (unfit.runContainer {}).run {} Twice.begun = (.error fault, failed.2) ∧
    failed.2.registry.runs.length = Twice.begun.registry.runs.length + 1 := by
  have outcome : failed.1.toOption.isNone = true ∧
      failed.2.registry.runs.length = Twice.begun.registry.runs.length + 1 := by
    decide +kernel
  change ∃ fault, failed = _ ∧ _
  revert outcome
  generalize failed = run
  rcases run with ⟨fault | e, w'⟩
  · exact fun outcome => ⟨fault, rfl, outcome.2⟩
  · exact fun outcome => absurd outcome.1 (by simp [Except.toOption])

theorem retried_run : ∃ e, ((train none).runContainer {}).run {} failed.2 = (.ok e, retried.2) ∧
    e.id = 3 := by
  have outcome : retried.1.toOption.map Execution.id = some 3 := by decide +kernel
  obtain ⟨e, w', run, id⟩ := Plan.run_of_map outcome
  obtain rfl : retried.2 = w' := congrArg Prod.snd run
  exact ⟨e, run, id⟩

end Unfit

/-- The execution that is left has the name of the task, and so has the one of the next attempt. -/
theorem failed_container_leaves_unfit : ∃ e,
    Unfit.unfit.Leaves {} {} Twice.begun Unfit.failed.2 (some 2) ∧
    ((Unfit.train none).runContainer {}).run {} Unfit.failed.2 = (.ok e, Unfit.retried.2) ∧
    ∀ id, Unfit.retried.2.store.MadeFor 1 "train" id ↔
      Twice.begun.store.MadeFor 1 "train" id ∨ id = 2 ∨ id = 3 := by
  obtain ⟨fault, failed, _⟩ := Unfit.failed_run
  obtain ⟨e, retried, own⟩ := Unfit.retried_run
  have reliable : Services.Reliable {} := ⟨fun _ => rfl, rfl, rfl, rfl⟩
  obtain ⟨left, leaves, after⟩ := failed_container_leaves Unfit.begun_reachable reliable
    PodExtension.none_looks rfl (fun _ h => Option.some.inj h ▸ rfl) failed
  have names := after (Unfit.train none) {} {} _ _ e PodExtension.none_looks rfl rfl rfl rfl retried
  -- the second execution is neither from before nor the new one
  have second : Unfit.retried.2.store.MadeFor 1 "train" 2 := by decide +kernel
  have before : ¬ Twice.begun.store.MadeFor 1 "train" 2 := by decide +kernel
  obtain rfl : left = some 2 := by
    rcases (names 2).1 second with earlier | same | new
    · exact absurd earlier before
    · exact same
    · rw [own] at new
      cases new
  refine ⟨e, leaves, retried, fun id => (names id).trans ?_⟩
  rw [own, Option.some.injEq, eq_comm (a := 2), eq_comm (a := 3)]
  rfl

/-- The failure is left in the store and in the registry, and after the next attempt the graph has
two executions of one name. -/
theorem failed_container_twice : ∃ fault e,
    (Unfit.unfit.runContainer {}).run {} Twice.begun = (.error fault, Unfit.failed.2) ∧
    Unfit.failed.2.store.executions ≠ Twice.begun.store.executions ∧
    Unfit.failed.2.registry.runs ≠ Twice.begun.registry.runs ∧
    ((Unfit.train none).runContainer {}).run {} Unfit.failed.2 = (.ok e, Unfit.retried.2) ∧
    Unfit.retried.2.store.MadeFor 1 "train" 2 ∧ Unfit.retried.2.store.MadeFor 1 "train" 3 := by
  obtain ⟨fault, failed, runs⟩ := Unfit.failed_run
  obtain ⟨e, retried, _⟩ := Unfit.retried_run
  refine ⟨fault, e, failed, ?_, ?_, retried, by decide +kernel, by decide +kernel⟩
  · decide +kernel
  · intro same
    rw [same] at runs
    omega

end TaskGraph
