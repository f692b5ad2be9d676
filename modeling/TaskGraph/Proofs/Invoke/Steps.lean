import TaskGraph.Invoke.Dag
import TaskGraph.Invoke.Root
import TaskGraph.Proofs.Resolve.Reads

/-! The steps that invocations share: creating an execution and registering its run. -/

namespace TaskGraph

/-- Services whose store and registry answer every call. -/
structure Services.Recording (s : Services) : Prop where
  store : ∀ operation, s.storeFault operation = none
  runs : s.runFault = none
  parameters : s.parameterFault = none

theorem Services.Recording.fault? {s : Services} (recording : s.Recording) {c : Call}
    (asks : ∀ address, c ≠ .cached address) (records : ∀ entry, c ≠ .cacheEntry entry) :
    s.fault? c = none := by
  cases c with
  | cached address => exact absurd rfl (asks address)
  | cacheEntry entry => exact absurd rfl (records entry)
  | registerRun own request => cases own <;> first | rfl | exact recording.runs
  | logParameter own parameter => cases own <;> first | rfl | exact recording.parameters
  | _ => first | rfl | exact recording.store _

namespace World

variable (w : World) (own : Bool) (f : RunRegistry → RunRegistry)

/-- The registry in which an invocation registers its run. -/
def registryOf : RunRegistry := if own then w.ownRegistry else w.registry

@[simp] theorem registryOf_updateRegistry :
    (w.updateRegistry own f).registryOf own = f (w.registryOf own) := by
  cases own <;> rfl

@[simp] theorem updateRegistry_store : (w.updateRegistry own f).store = w.store := by
  cases own <;> rfl

@[simp] theorem updateRegistry_cache : (w.updateRegistry own f).cache = w.cache := by
  cases own <;> rfl

@[simp] theorem updateRegistry_id (w : World) (own : Bool) : w.updateRegistry own id = w := by
  cases own <;> rfl

theorem updateRegistry_updateRegistry (w : World) (own : Bool) (f g : RunRegistry → RunRegistry) :
    (w.updateRegistry own f).updateRegistry own g = w.updateRegistry own (g ∘ f) := by
  cases own <;> rfl

end World

namespace Options

variable {o : Options} {s : Services} {w w' : World}

theorem createExecution_ok {p : Pipeline} {c : ExecutionConfig} {e : ExecutionRecord}
    (creates : o.devMode = false) (h : (o.createExecution p c).run s w = (.ok e, w')) :
    e = (w.store.create p c).1 ∧ w' = { w with store := (w.store.create p c).2 } := by
  simp only [createExecution, creates, Bool.false_eq_true, if_false] at h
  exact Plan.create_answered h

theorem uses_createExecution {allowed : Call → Prop} {p : Pipeline} {c : ExecutionConfig}
    (fixed : allowed (.execution o.devExecutionId)) (creates : allowed (.create p c)) :
    (o.createExecution p c).Uses allowed := by
  unfold createExecution
  split
  · exact Plan.uses_perform fixed
  · exact Plan.uses_perform creates

/-- A call to the registry that an invocation uses. -/
def Registers (o : Options) : Call → Prop
  | .registerRun own _ | .logParameter own _ => own = o.ownRegistry
  | _ => False

/-- Registering leaves the store and the cache as they are. -/
theorem answer_registers {c : Call} (registers : o.Registers c) (w : World) :
    (w.answer s c).2.store = w.store ∧ (w.answer s c).2.cache = w.cache := by
  unfold World.answer
  split
  · exact ⟨rfl, rfl⟩
  · cases c <;> first | exact registers.elim | simp [World.serve]

theorem uses_logParameters {allowed : Call → Prop}
    (logs : ∀ p, allowed (.logParameter o.ownRegistry p)) (id : Int)
    (parameters : List (String × String)) : (o.logParameters id parameters).Uses allowed := by
  induction parameters with
  | nil => trivial
  | cons p rest ih => exact (Plan.uses_perform (logs _)).bind fun _ => ih

theorem registers_registerRun (p : Pipeline) (name : String) (parent : Option Int) (id : Int)
    (parameters : List (String × String)) :
    (o.registerRun p name parent id parameters).Uses o.Registers := by
  refine Plan.Uses.bind ?_ fun _ => uses_logParameters (fun _ => rfl) id parameters
  exact Plan.uses_perform rfl

theorem uses_registerRun {allowed : Call → Prop} (registers : ∀ c, o.Registers c → allowed c)
    (p : Pipeline) (name : String) (parent : Option Int) (id : Int)
    (parameters : List (String × String)) :
    (o.registerRun p name parent id parameters).Uses allowed :=
  (registers_registerRun p name parent id parameters).imp registers

/-- The calls of a root graph. Its execution has no fingerprint. -/
theorem uses_runRootDag {allowed : Call → Prop} (loads : allowed .launcher)
    (asks : ∀ query, allowed (.pipeline query)) (fixed : allowed (.execution o.devExecutionId))
    (creates : ∀ p config, config.fingerprint = "" → allowed (.create p config))
    (registers : ∀ c, o.Registers c → allowed c) : o.runRootDag.Uses allowed := by
  refine Plan.Uses.within ((Plan.uses_lift _).bind fun _ => ?_) _
  cases o.runtimeConfig with
  | none => trivial
  | some runtime =>
  exact (Plan.uses_perform loads).bind fun launcher => (Plan.uses_lift _).bind fun query =>
    (Plan.uses_perform (asks _)).bind fun pipeline =>
    (uses_createExecution fixed (creates _ _ rfl)).bind fun record =>
    (uses_registerRun registers ..).bind fun _ => Plan.uses_pure _

/-- The calls of a graph within a graph. -/
theorem uses_runDag {allowed : Call → Prop} (asks : allowed (.pipeline o.pipelineQuery))
    (looks : ∀ c : Call, c.readsStore = true → allowed c)
    (creates : ∀ p config, config.fingerprint = "" → allowed (.create p config)) :
    o.runDag.Uses allowed := by
  refine Plan.Uses.within ((Plan.uses_lift _).bind fun _ => ?_) _
  cases o.task with
  | none => trivial
  | some task =>
  cases o.component with
  | none => trivial
  | some component =>
  refine (Plan.uses_perform asks).bind fun pipeline =>
    (Plan.uses_perform (looks (.dag _) rfl)).bind fun dag =>
    ((TaskScope.readsStore_inputs _).imp looks).bind fun inputs =>
    (Plan.uses_lift _).bind fun condition => ?_
  dsimp only
  split
  · refine (Plan.uses_fail _).bind fun _ => (Plan.uses_lift _).bind fun count => ?_
    exact (uses_createExecution (looks _ rfl) (creates _ _ rfl)).bind fun record => Plan.uses_pure _
  · refine (Plan.uses_lift _).bind fun count => ?_
    exact (uses_createExecution (looks _ rfl) (creates _ _ rfl)).bind fun record => Plan.uses_pure _

theorem logParameters_runs (id : Int) (parameters : List (String × String)) (w : World) :
    (((o.logParameters id parameters).run s w).2.registryOf o.ownRegistry).runs =
      (w.registryOf o.ownRegistry).runs := by
  have logs : (o.logParameters id parameters).Uses fun c => ∃ p, c = .logParameter o.ownRegistry p :=
    uses_logParameters (fun p => ⟨p, rfl⟩) id parameters
  refine logs.run_keeps (P := fun v => (v.registryOf o.ownRegistry).runs = _) ?_ rfl
  rintro _ v ⟨p, rfl⟩ kept
  unfold World.answer
  split
  · exact kept
  · simpa [World.serve, RunRegistry.addParameter] using kept

/-- The run of an execution as it is registered. -/
def runRequest (o : Options) (p : Pipeline) (name : String) (parent : Option Int) (id : Int) :
    RunRequest where
  runName := name
  pipelineName := o.pipelineName
  nspace := o.nspace
  runResource := runResource
  pipelineRoot := p.root
  session := p.session
  experimentId := o.experimentId
  parentExecutionId := parent
  executionId := some id

/-- An execution that is registered has one more run in the registry. -/
theorem registerRun_ok {p : Pipeline} {name : String} {parent : Option Int} {id : Int}
    {parameters : List (String × String)}
    (h : (o.registerRun p name parent id parameters).run s w = (.ok (), w')) :
    w'.store = w.store ∧ w'.cache = w.cache ∧ (w'.registryOf o.ownRegistry).runs =
      (w.registryOf o.ownRegistry).runs ++ [o.runRequest p name parent id] := by
  have kept : w'.store = w.store ∧ w'.cache = w.cache := by
    have kept := Plan.Uses.run_keeps (P := fun v => v.store = w.store ∧ v.cache = w.cache)
      (o.registers_registerRun p name parent id parameters)
      (fun c v registers same => by rwa [(answer_registers registers v).1,
        (answer_registers registers v).2]) (w := w) (s := s) ⟨rfl, rfl⟩
    rwa [h] at kept
  obtain ⟨⟨⟩, v, registered, logged⟩ := Plan.run_bind_ok_iff.1 h
  have served := Plan.perform_ok registered
  simp only [World.serve, Prod.mk.injEq, true_and] at served
  have runs := o.logParameters_runs (s := s) id parameters v
  rw [logged, ← served, World.registryOf_updateRegistry] at runs
  exact ⟨kept.1, kept.2, runs⟩

/-- A registry with the run of an execution and the parameters that are logged for it. -/
def enter (o : Options) (p : Pipeline) (name : String) (parent : Option Int) (id : Int)
    (parameters : List (String × String)) (r : RunRegistry) : RunRegistry where
  runs := r.runs ++ [o.runRequest p name parent id]
  parameters := r.parameters ++ parameters.map fun (key, value) => ⟨o.experimentId, id, key, value⟩

theorem createExecution_run (recording : s.Recording) (creates : o.devMode = false) (p : Pipeline)
    (c : ExecutionConfig) (w : World) : (o.createExecution p c).run s w =
      (.ok (w.store.create p c).1, { w with store := (w.store.create p c).2 }) := by
  have answers : s.fault? (.create p c) = none := recording.fault? (by simp) (by simp)
  simp only [createExecution, creates, Bool.false_eq_true, if_false, Plan.perform, Plan.run,
    World.answer, answers]
  rfl

theorem logParameters_run (recording : s.Recording) (id : Int)
    (parameters : List (String × String)) (w : World) :
    (o.logParameters id parameters).run s w =
      (.ok (), w.updateRegistry o.ownRegistry fun r => { r with
        parameters := r.parameters ++
          parameters.map fun (key, value) => ⟨o.experimentId, id, key, value⟩ }) := by
  induction parameters generalizing w with
  | nil =>
    simp only [List.map_nil, List.append_nil]
    exact congrArg (Prod.mk _) (w.updateRegistry_id o.ownRegistry).symm
  | cons p rest ih =>
    have answers : s.fault? (.logParameter o.ownRegistry ⟨o.experimentId, id, p.1, p.2⟩) = none :=
      recording.fault? (by simp) (by simp)
    rw [logParameters, Plan.run_bind]
    simp only [Plan.perform, Plan.run, World.answer, answers, World.serve, ih,
      World.updateRegistry_updateRegistry]
    simp [Function.comp_def, RunRegistry.addParameter]

theorem registerRun_run (recording : s.Recording) (p : Pipeline) (name : String)
    (parent : Option Int) (id : Int) (parameters : List (String × String)) (w : World) :
    (o.registerRun p name parent id parameters).run s w =
      (.ok (), w.updateRegistry o.ownRegistry (o.enter p name parent id parameters)) := by
  have answers : s.fault? (.registerRun o.ownRegistry (o.runRequest p name parent id)) = none :=
    recording.fault? (by simp) (by simp)
  change (Plan.perform (.registerRun o.ownRegistry (o.runRequest p name parent id)) >>= fun _ =>
    o.logParameters id parameters).run s w = _
  rw [Plan.run_bind]
  simp only [Plan.perform, Plan.run, World.answer, answers, World.serve,
    logParameters_run recording, World.updateRegistry_updateRegistry]
  rfl

end Options

end TaskGraph
