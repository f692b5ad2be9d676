import TaskGraph.Proofs.Invoke.Failures
import TaskGraph.Proofs.Invoke.Roots

/-! The registry as a mirror of the store. An invocation stores one execution at most, and a root
graph or a container that is no operation of the platform registers its run right after that.
Whatever fails later, the run stays, so the registered runs go along with the executions. -/

namespace TaskGraph

variable {α β : Type} {s : Services} {w u v w' : World} {o : Options} {d : Driver}
  {e : ExecutionRecord} {r : RunRegistry} {c : Call}

namespace World

/-- Worlds with the same executions and the same registry. -/
structure SameRecords (w w' : World) : Prop where
  executions : w'.store.executions = w.store.executions
  last : w'.store.lastExecution = w.store.lastExecution
  registry : w'.registry = w.registry

theorem SameRecords.refl (w : World) : w.SameRecords w := ⟨rfl, rfl, rfl⟩

theorem SameRecords.trans (first : u.SameRecords v) (second : v.SameRecords w) :
    u.SameRecords w where
  executions := second.executions.trans first.executions
  last := second.last.trans first.last
  registry := second.registry.trans first.registry

/-- A world with one more execution than an earlier one. -/
structure Adds (w : World) (e : ExecutionRecord) (r : RunRegistry) (w' : World) : Prop where
  id : e.id = w.store.lastExecution + 1
  last : w'.store.lastExecution = e.id
  executions : w'.store.executions = w.store.executions.insert e.id e
  registry : w'.registry = r

theorem Adds.of_same (same : w.SameRecords v) (adds : v.Adds e r w') : w.Adds e r w' where
  id := same.last ▸ adds.id
  last := adds.last
  executions := same.executions ▸ adds.executions
  registry := adds.registry

end World

/-- A call that leaves the executions and the registries alone. -/
def Call.KeepsRecords : Call → Prop
  | .create .. | .publish .. | .registerRun .. | .logParameter .. => False
  | _ => True

/-- A call that ends one execution at most. -/
def Call.Ends (id : Int) (c : Call) : Prop :=
  c.KeepsRecords ∨ ∃ parameters artifacts state, c = .publish id parameters artifacts state

theorem Call.KeepsRecords.of_reads (reads : c.reads = true) : c.KeepsRecords := by
  cases c with
  | create | publish | registerRun | logParameter => cases reads
  | _ => trivial

theorem World.answer_sameRecords (keeps : c.KeepsRecords) (w : World) :
    w.SameRecords (w.answer s c).2 := by
  have same : w.SameRecords w := .refl w
  unfold World.answer
  split
  · exact same
  cases c with
  | pipeline q => exact ⟨w.store.pipeline_executions q, w.store.pipeline_lastExecution q, rfl⟩
  | create | publish | registerRun | logParameter => exact keeps.elim
  | _ => exact ⟨rfl, rfl, rfl⟩

/-- An execution that was added is ended in its place. -/
theorem World.Adds.answer (ends : c.Ends e.id) (adds : w.Adds e r v) :
    ∃ e', e.Becomes e' ∧ w.Adds e' r (v.answer s c).2 := by
  have unchanged : ∃ e', e.Becomes e' ∧ w.Adds e' r v := ⟨e, .refl e, adds⟩
  rcases ends with keeps | ⟨parameters, artifacts, state, rfl⟩
  · have same := World.answer_sameRecords (s := s) keeps v
    exact ⟨e, .refl e, adds.id, same.last.trans adds.last, same.executions.trans adds.executions,
      same.registry.trans adds.registry⟩
  · unfold World.answer
    split
    · exact unchanged
    simp only [World.serve]
    split
    · rename_i store published
      obtain ⟨stored, found, executions⟩ := Store.publish_executions published
      rw [adds.executions, SortedMap.get?_insert_self] at found
      obtain rfl := Option.some.inj found
      rw [adds.executions, SortedMap.insert_insert] at executions
      refine ⟨{ e with state, outputParameters := e.outputParameters.union parameters }, rfl,
        adds.id, ?_, executions, adds.registry⟩
      exact (Store.publish_lastExecution published).trans adds.last
    · exact unchanged

namespace Plan

theorem Uses.run_sameRecords {p : Plan α} (uses : p.Uses Call.KeepsRecords) (w : World) :
    w.SameRecords (p.run s w).2 :=
  uses.run_keeps (fun _ v keeps same => same.trans (World.answer_sameRecords keeps v)) (.refl w)

theorem Reads.keepsRecords {p : Plan α} (reads : p.Reads) : p.Uses Call.KeepsRecords :=
  reads.imp fun _ => Call.KeepsRecords.of_reads

theorem Uses.run_adds {p : Plan α} (uses : p.Uses (Call.Ends e.id)) (adds : w.Adds e r v) :
    ∃ e', e.Becomes e' ∧ w.Adds e' r (p.run s v).2 := by
  refine uses.run_keeps (P := fun v => ∃ e', e.Becomes e' ∧ w.Adds e' r v) ?_ ⟨e, .refl e, adds⟩
  rintro c v ends ⟨e', becomes, adds⟩
  have own : e'.id = e.id := by rw [becomes]
  obtain ⟨e'', again, adds⟩ := adds.answer (s := s) (own ▸ ends)
  exact ⟨e'', becomes.trans again, adds⟩

/-- A plan that changes the records once at most, with `Q` between the worlds before and after. -/
def AddsOnce (p : Plan α) (s : Services) (Q : World → World → Prop) (w : World) : Prop :=
  w.SameRecords (p.run s w).2 ∨ ∃ v, w.SameRecords v ∧ Q v (p.run s w).2

namespace AddsOnce

variable {p : Plan α} {f : α → Plan β} {Q : World → World → Prop}

theorem of_uses (uses : p.Uses Call.KeepsRecords) : p.AddsOnce s Q w :=
  .inl (uses.run_sameRecords w)

/-- Steps that change no records may come first. -/
theorem bind (first : p.Uses Call.KeepsRecords)
    (rest : ∀ x v, p.run s w = (.ok x, v) → (f x).AddsOnce s Q v) : (p >>= f).AddsOnce s Q w := by
  have same := first.run_sameRecords (s := s) w
  unfold AddsOnce
  rw [run_bind]
  rcases ran : p.run s w with ⟨_ | x, v⟩
  · rw [ran] at same
    exact .inl same
  · rw [ran] at same
    rcases rest x v ran with kept | ⟨u, later, added⟩
    · exact .inl (same.trans kept)
    · exact .inr ⟨u, same.trans later, added⟩

theorem within (adds : p.AddsOnce s Q w) (layer : Layer) : (p.within layer).AddsOnce s Q w := by
  unfold AddsOnce
  rw [run_within]
  exact adds

/-- From the creation of an execution on, the rest of the plan counts. -/
theorem create {rest : ExecutionRecord → Plan β} {pipeline : Pipeline} {config : ExecutionConfig}
    (recording : s.Recording) (creates : o.devMode = false)
    (adds : Q w ((rest (w.store.create pipeline config).1).run s
      { w with store := (w.store.create pipeline config).2 }).2) :
    (o.createExecution pipeline config >>= rest).AddsOnce s Q w := by
  refine .inr ⟨w, .refl w, ?_⟩
  rw [run_bind, Options.createExecution_run recording creates]
  exact adds

end AddsOnce

end Plan

namespace Invoked

variable {i : Invoked}

/-- Whether the executions that an invocation creates are registered. -/
def registers (i : Invoked) : Bool :=
  match i.kind with
  | .rootDag => true
  | .dag => false
  | .container => i.options.container.any fun c => !i.driver.config.isDummyImage c.image

/-- The graph that an invocation is for; a root graph is for none. -/
def parent? (i : Invoked) : Option Int :=
  match i.kind with
  | .rootDag => none
  | .dag | .container => some i.options.dagExecutionId

/-- The parameters that an invocation logs, from the inputs of its execution. -/
def logs (i : Invoked) (inputs : Dict Json) : List (String × String) :=
  match i.kind with
  | .rootDag => runParameters inputs
  | .dag => []
  | .container => inputs.entries.map fun (key, value) => (key, value.plainText)

/-- An invocation that creates executions and works on a store and on a registry that are shared and
answer every call. -/
structure Shared (i : Invoked) : Prop where
  creates : i.options.devMode = false
  registry : i.options.ownRegistry = false
  recording : i.services.Recording
  looks : i.kind = .container → i.driver.extension.Looks

/-- What an invocation makes of the registry when it stores an execution. -/
inductive Enters (i : Invoked) (e : ExecutionRecord) (r : RunRegistry) : RunRegistry → Prop where
  | registered (p : Pipeline) (name : String) : i.registers = true → e.parent = i.parent?.getD 0 →
      Enters i e r (i.options.enter p name i.parent? e.id (i.logs e.inputParameters) r)
  | unregistered : i.registers = false → Enters i e r r

/-- The one change of the records that an invocation makes. -/
def Records (i : Invoked) (w w' : World) : Prop :=
  ∃ e r, i.Enters e w.registry r ∧ w.Adds e r w'

/-- An execution may end after it was registered. -/
theorem Enters.becomes {e' : ExecutionRecord} (becomes : e.Becomes e') {r' : RunRegistry}
    (enters : i.Enters e r r') : i.Enters e' r r' := by
  rw [becomes]
  cases enters with
  | registered p name registers parent => exact .registered p name registers parent
  | unregistered none => exact .unregistered none

/-- What comes after an execution is stored and registered only ends it. -/
theorem Records.of_uses {p : Plan α} (uses : p.Uses (Call.Ends e.id))
    (enters : i.Enters e w.registry r) (adds : w.Adds e r v) : i.Records w (p.run s v).2 := by
  obtain ⟨e', becomes, adds⟩ := uses.run_adds (s := s) adds
  exact ⟨e', r, enters.becomes becomes, adds⟩

/-- An execution is created, its run is registered, and then it is only ended. -/
theorem registered_records {p : Pipeline} {config : ExecutionConfig} {name : String}
    {rest : ExecutionRecord → Plan α} (shared : i.Shared) (registers : i.registers = true)
    (parent : config.parent = i.parent?.getD 0)
    (uses : ∀ record, (rest record).Uses (Call.Ends record.id)) :
    (i.options.createExecution p config >>= fun record =>
      i.options.registerRun p name i.parent? record.id (i.logs config.inputParameters) >>= fun _ =>
        rest record).AddsOnce i.services i.Records w := by
  apply Plan.AddsOnce.create shared.recording shared.creates
  rw [Plan.run_bind, Options.registerRun_run shared.recording, shared.registry]
  have enters : i.Enters (w.store.create p config).1 w.registry
      (i.options.enter p name i.parent? (w.store.create p config).1.id
        (i.logs config.inputParameters) w.registry) := .registered p name registers parent
  exact Records.of_uses (uses _) enters ⟨rfl, rfl, rfl, rfl⟩

/-- An execution is created without a run, and then it is only ended. -/
theorem unregistered_records {p : Pipeline} {config : ExecutionConfig}
    {rest : ExecutionRecord → Plan α} (shared : i.Shared) (unregistered : i.registers = false)
    (uses : ∀ record, (rest record).Uses (Call.Ends record.id)) :
    (i.options.createExecution p config >>= rest).AddsOnce i.services i.Records w := by
  apply Plan.AddsOnce.create shared.recording shared.creates
  exact Records.of_uses (uses _) (.unregistered unregistered) ⟨rfl, rfl, rfl, rfl⟩

theorem rootDag_records (kind : i.kind = .rootDag) (shared : i.Shared) :
    i.options.runRootDag.AddsOnce i.services i.Records w := by
  refine (Plan.AddsOnce.bind (Plan.uses_lift _) fun _ _ _ => ?_).within _
  cases i.options.runtimeConfig with
  | none => exact .of_uses (Plan.uses_fail _)
  | some runtime =>
  refine .bind (Plan.uses_perform trivial) fun launcher _ _ => ?_
  refine .bind (Plan.uses_lift _) fun query _ _ => ?_
  refine .bind (Plan.uses_perform trivial) fun pipeline v _ => ?_
  have parent : i.parent? = none := by simp [parent?, kind]
  have logged : i.logs runtime.parameters = runParameters runtime.parameters := by simp [logs, kind]
  rw [← parent, ← logged]
  exact registered_records shared (by simp [registers, kind]) (by rw [parent]; rfl)
    fun _ => Plan.uses_pure _

theorem dag_records (kind : i.kind = .dag) (shared : i.Shared) :
    i.options.runDag.AddsOnce i.services i.Records w := by
  have unregistered : i.registers = false := by simp [registers, kind]
  refine (Plan.AddsOnce.bind (Plan.uses_lift _) fun _ _ _ => ?_).within _
  cases i.options.task with
  | none => exact .of_uses (Plan.uses_fail _)
  | some task =>
  cases i.options.component with
  | none => exact .of_uses (Plan.uses_fail _)
  | some component =>
  refine .bind (Plan.uses_perform trivial) fun pipeline _ _ => ?_
  refine .bind (Plan.uses_perform trivial) fun dag _ _ => ?_
  refine .bind (TaskScope.readsStore_inputs _).reads.keepsRecords fun inputs _ _ => ?_
  refine .bind (Plan.uses_lift _) fun condition _ _ => ?_
  dsimp only
  split
  · refine .bind (Plan.uses_fail _) fun _ _ _ => ?_
    refine .bind (Plan.uses_lift _) fun count _ _ => ?_
    exact unregistered_records shared unregistered fun _ => Plan.uses_pure _
  · refine .bind (Plan.uses_lift _) fun count _ _ => ?_
    exact unregistered_records shared unregistered fun _ => Plan.uses_pure _

variable {t : ContainerTask}

theorem platform_records (shared : i.Shared) (options : t.options = i.options)
    (unregistered : i.registers = false) :
    t.runPlatformOperation.AddsOnce i.services i.Records w := by
  obtain ⟨rest, same, uses⟩ := t.runPlatformOperation_eq
  rw [same, options]
  refine unregistered_records shared unregistered fun record => uses record _ ?_ ?_
  · exact .inl trivial
  · exact fun parameters state => .inr ⟨parameters, [], state, rfl⟩

theorem launch_records (shared : i.Shared) (kind : i.kind = .container)
    (options : t.options = i.options) (parent : t.scope.dag.id = i.options.dagExecutionId)
    (registered : i.registers = true) : (t.launch i.driver).AddsOnce i.services i.Records w := by
  have graph : some t.scope.dag.id = i.parent? := by simp [parent?, kind, parent]
  have logged : t.logged = i.logs t.input.inputs.parameters := by
    simp [logs, kind, ContainerTask.logged]
  obtain ⟨rest, same, uses⟩ := t.launch_registers i.driver
  rw [same, options, graph, logged]
  refine .bind t.reads_lookup.keepsRecords fun known v _ => ?_
  refine registered_records shared registered (by rw [← graph]; rfl) fun record => ?_
  have looking (c : Call) (reads : c.reads = true) : c.Ends record.id := .inl (.of_reads reads)
  apply uses
  · exact fun scope pod => (shared.looks kind scope pod).imp looking
  · exact fun c looks => looking c (Call.reads_of_readsStore looks)
  · exact fun parameters artifacts => .inr ⟨parameters, artifacts, .cached, rfl⟩

theorem container_records (kind : i.kind = .container) (shared : i.Shared)
    (keyed : w.store.Keyed) :
    (i.options.runContainer i.driver).AddsOnce i.services i.Records w := by
  rw [Options.runContainer_eq]
  refine (Plan.AddsOnce.bind ?_ fun t v prepares => ?_).within _
  · exact Options.uses_containerTask trivial trivial fun _ looks =>
      .of_reads (Call.reads_of_readsStore looks)
  have prepared := Options.containerTask_ok prepares
  split
  · rename_i dummy
    have unregistered : i.registers = false := by
      simp [registers, kind, prepared.container, dummy]
    exact platform_records shared prepared.options unregistered
  · rename_i image
    have registered : i.registers = true := by
      simpa [registers, kind, prepared.container] using image
    exact launch_records shared kind prepared.options (prepared.parent keyed) registered

/-- An invocation that fails or succeeds changes the records once, or not at all. -/
theorem run_records (shared : i.Shared) (keyed : w.store.Keyed) :
    w.SameRecords (i.run w).2 ∨ i.Records w (i.run w).2 := by
  have once : (i.driver.invocation i.options i.kind).AddsOnce i.services i.Records w := by
    cases kind : i.kind with
    | rootDag => exact rootDag_records kind shared
    | dag => exact dag_records kind shared
    | container => exact container_records kind shared keyed
  rcases once with same | ⟨v, same, e, r, enters, adds⟩
  · exact .inl same
  · refine .inr ⟨e, r, ?_, adds.of_same same⟩
    rwa [same.registry] at enters

end Invoked

/-- An execution that an invocation has created. -/
structure Creation where
  invocation : Invoked
  id : Int

/-- What an invocation creates: the executions that are stored after it and were not before. -/
def Invoked.creations (i : Invoked) (w : World) : List Creation :=
  ((i.run w).2.store.executions.keys.filter fun id => !w.store.executions.contains id).map
    fun id => ⟨i, id⟩

/-- The worlds that invocations lead to from an empty store and an empty registry, with what they have
created. In between, tasks may end, and what is neither store nor registry may change. -/
inductive RunHistory : List Creation → World → Prop where
  | start {w : World} : w.store = {} → w.registry = {} → RunHistory [] w
  | invoke {past : List Creation} {w : World} (i : Invoked) : i.Shared → RunHistory past w →
      RunHistory (past ++ i.creations w) (i.run w).2
  | publish {past : List Creation} {w : World} {id : Int} {parameters : Dict Json}
      {artifacts : List OutputArtifact} {state : ExecutionState} {store : Store} :
      RunHistory past w → w.store.publish id parameters artifacts state = .ok store →
      RunHistory past { w with store }
  | other {past : List Creation} {w w' : World} : RunHistory past w → w'.store = w.store →
      w'.registry = w.registry → RunHistory past w'

/-- The parameters that are logged for an execution. -/
def RunRegistry.loggedFor (r : RunRegistry) (id : Int) : List (String × String) :=
  (r.parameters.filter fun p => p.executionId = id).map fun p => (p.key, p.value)

/-- A registered run and the execution that it is for. -/
structure Creation.Mirrored (c : Creation) (w : World) (run : RunRequest) : Prop where
  execution : run.executionId = some c.id
  parent : run.parentExecutionId = c.invocation.parent?
  recorded : ∃ e, w.store.executions.get? c.id = some e ∧ e.parent = c.invocation.parent?.getD 0 ∧
    w.registry.loggedFor c.id = c.invocation.logs e.inputParameters

/-- The registry mirrors the store: there is one run for each execution that is to be registered, and
no parameter is logged for another one. -/
structure World.Mirrors (w : World) (past : List Creation) : Prop where
  keys : w.store.executions.keys = past.map Creation.id
  runs : List.Forall₂ (fun c run => c.Mirrored w run)
    (past.filter fun c => c.invocation.registers) w.registry.runs
  parameters : ∀ p ∈ w.registry.parameters, ∃ c ∈ past, c.invocation.registers = true ∧
    c.id = p.executionId

theorem RunRegistry.loggedFor_enter (p : Pipeline) (name : String) (parent : Option Int) (id : Int)
    (parameters : List (String × String)) (r : RunRegistry) (id' : Int) :
    (o.enter p name parent id parameters r).loggedFor id' =
      r.loggedFor id' ++ if id = id' then parameters else [] := by
  unfold loggedFor Options.enter
  rw [List.filter_append, List.map_append]
  congr 1
  by_cases same : id = id'
  · simp [same, List.filter_map, Function.comp_def]
  · simp [same, List.filter_map, Function.comp_def]

/-- Nothing is logged for other executions. -/
theorem Invoked.Enters.loggedFor_other {i : Invoked} {r' : RunRegistry} (enters : i.Enters e r r')
    {id : Int} (other : id ≠ e.id) : r'.loggedFor id = r.loggedFor id := by
  cases enters with
  | registered p name registers parent =>
    rw [RunRegistry.loggedFor_enter, if_neg (Ne.symm other), List.append_nil]
  | unregistered none => rfl

/-- A run stays mirrored while its execution keeps its graph and its inputs, and nothing more is
logged for it. -/
theorem Creation.Mirrored.keep {c : Creation} {run : RunRequest} (mirrored : c.Mirrored w run)
    (kept : ∀ e, w.store.executions.get? c.id = some e →
      ∃ e', w'.store.executions.get? c.id = some e' ∧ e.Becomes e')
    (logged : w'.registry.loggedFor c.id = w.registry.loggedFor c.id) : c.Mirrored w' run where
  execution := mirrored.execution
  parent := mirrored.parent
  recorded := by
    obtain ⟨e, stored, parent, logs⟩ := mirrored.recorded
    obtain ⟨e', stored', becomes⟩ := kept e stored
    refine ⟨e', stored', ?_, ?_⟩
    · rw [becomes]
      exact parent
    · rw [logged, logs, becomes]

/-- A new execution and its run leave the earlier ones as they are. -/
theorem Creation.Mirrored.keep_other {c : Creation} {run : RunRequest} {i : Invoked}
    (mirrored : c.Mirrored w run) (bounded : w.store.Bounded) (enters : i.Enters e w.registry r)
    (adds : w.Adds e r w') : c.Mirrored w' run := by
  obtain ⟨earlier, stored, _⟩ := mirrored.recorded
  have other : c.id ≠ e.id := by
    have below := bounded _ earlier stored
    have own := adds.id
    omega
  refine mirrored.keep (fun e' stored' => ⟨e', ?_, .refl e'⟩) ?_
  · rwa [adds.executions, SortedMap.get?_insert, if_neg other]
  · rw [adds.registry]
    exact enters.loggedFor_other other

namespace World.Mirrors

variable {past : List Creation} {i : Invoked}

theorem empty (store : w.store = {}) (registry : w.registry = {}) : w.Mirrors [] where
  keys := by rw [store]; rfl
  runs := by rw [registry]; exact .nil
  parameters := by rw [registry]; simp

theorem congr (mirrors : w.Mirrors past) (executions : w'.store.executions = w.store.executions)
    (registry : w'.registry = w.registry) : w'.Mirrors past where
  keys := by rw [executions, mirrors.keys]
  runs := by
    rw [registry]
    refine mirrors.runs.imp fun c run mirrored => mirrored.keep (fun e stored => ?_) ?_
    · exact ⟨e, executions ▸ stored, .refl e⟩
    · rw [registry]
  parameters := by rw [registry]; exact mirrors.parameters

/-- The end of a task changes nothing that is mirrored. -/
theorem publish (mirrors : w.Mirrors past) {id : Int} {parameters : Dict Json}
    {artifacts : List OutputArtifact} {state : ExecutionState} {store : Store}
    (published : w.store.publish id parameters artifacts state = .ok store) :
    World.Mirrors { w with store } past := by
  obtain ⟨e, stored, executions⟩ := Store.publish_executions published
  refine ⟨?_, ?_, mirrors.parameters⟩
  · rw [← mirrors.keys]
    change store.executions.keys = _
    rw [executions]
    exact SortedMap.keys_insert_of_found stored _
  · refine mirrors.runs.imp fun c run mirrored => mirrored.keep (fun e' stored' => ?_) rfl
    change ∃ e'', store.executions.get? c.id = some e'' ∧ _
    rw [executions, SortedMap.get?_insert]
    split
    · rename_i same
      rw [same, stored] at stored'
      obtain rfl := Option.some.inj stored'
      exact ⟨_, rfl, rfl⟩
    · exact ⟨e', stored', .refl e'⟩

/-- Nothing is logged yet for the next execution. -/
theorem unlogged (mirrors : w.Mirrors past) (bounded : w.store.Bounded) {id : Int}
    (next : id = w.store.lastExecution + 1) : w.registry.loggedFor id = [] := by
  rw [RunRegistry.loggedFor, List.map_eq_nil_iff, List.filter_eq_nil_iff]
  intro p logged
  obtain ⟨c, member, _, own⟩ := mirrors.parameters p logged
  have listed : c.id ∈ w.store.executions.keys := by
    rw [mirrors.keys]
    exact List.mem_map_of_mem member
  obtain ⟨e, stored⟩ := SortedMap.mem_keys_iff.1 listed
  have below := bounded _ e stored
  rw [decide_eq_true_eq]
  omega

theorem creations_of_same (same : w.SameRecords (i.run w).2) : i.creations w = [] := by
  rw [Invoked.creations, same.executions, List.map_eq_nil_iff, List.filter_eq_nil_iff]
  intro id listed
  obtain ⟨e, stored⟩ := SortedMap.mem_keys_iff.1 listed
  simp [SortedMap.contains, stored]

theorem above (bounded : w.store.Bounded) {id : Int} (next : id = w.store.lastExecution + 1) :
    ∀ known ∈ w.store.executions.keys, known < id := by
  intro known listed
  obtain ⟨e, stored⟩ := SortedMap.mem_keys_iff.1 listed
  have below := bounded _ e stored
  omega

theorem creations_of_adds (bounded : w.store.Bounded) (adds : w.Adds e r (i.run w).2) :
    i.creations w = [⟨i, e.id⟩] := by
  have fresh : w.store.executions.contains e.id = false := by
    rw [SortedMap.contains, adds.id, bounded.next_free]
    rfl
  have known : w.store.executions.keys.filter (fun id => !w.store.executions.contains id) = [] := by
    rw [List.filter_eq_nil_iff]
    intro id listed
    obtain ⟨e', stored⟩ := SortedMap.mem_keys_iff.1 listed
    simp [SortedMap.contains, stored]
  rw [Invoked.creations, adds.executions, SortedMap.keys_insert_above (above bounded adds.id),
    List.filter_append, known]
  simp [fresh]

/-- An invocation keeps the registry a mirror of the store. -/
theorem invoke (mirrors : w.Mirrors past) (shared : i.Shared) (reachable : w.store.Reachable) :
    (i.run w).2.Mirrors (past ++ i.creations w) := by
  have bounded := reachable.bounded
  rcases i.run_records shared reachable.keyed with same | ⟨e, r, enters, adds⟩
  · rw [creations_of_same same, List.append_nil]
    exact mirrors.congr same.executions same.registry
  rw [creations_of_adds bounded adds]
  have keys : (i.run w).2.store.executions.keys =
      (past ++ [Creation.mk i e.id]).map Creation.id := by
    rw [adds.executions, SortedMap.keys_insert_above (above bounded adds.id), mirrors.keys]
    simp
  have earlier := mirrors.runs.imp fun c run mirrored => mirrored.keep_other bounded enters adds
  have registry := adds.registry
  cases enters with
  | unregistered unregistered =>
    refine ⟨keys, ?_, ?_⟩
    · rw [registry]
      simpa [List.filter_append, unregistered] using earlier
    · rw [registry]
      intro p logged
      obtain ⟨c, member, registers, own⟩ := mirrors.parameters p logged
      exact ⟨c, List.mem_append_left _ member, registers, own⟩
  | registered p name registers parent =>
    have new : (Creation.mk i e.id).Mirrored (i.run w).2
        (i.options.runRequest p name i.parent? e.id) := by
      refine ⟨rfl, rfl, e, ?_, parent, ?_⟩
      · rw [adds.executions]
        exact SortedMap.get?_insert_self ..
      · rw [registry, RunRegistry.loggedFor_enter, if_pos rfl, mirrors.unlogged bounded adds.id]
        rfl
    refine ⟨keys, ?_, ?_⟩
    · rw [registry, List.filter_append]
      simp only [List.filter_cons, registers, if_true, List.filter_nil]
      exact List.rel_append earlier (.cons new .nil)
    · rw [registry]
      intro parameter logged
      rcases List.mem_append.1 logged with before | now
      · obtain ⟨c, member, registers, own⟩ := mirrors.parameters parameter before
        exact ⟨c, List.mem_append_left _ member, registers, own⟩
      · obtain ⟨entry, _, rfl⟩ := List.mem_map.1 now
        exact ⟨_, List.mem_append_right _ List.mem_cons_self, registers, rfl⟩

end World.Mirrors

namespace RunHistory

variable {past : List Creation}

theorem reachable (history : RunHistory past w) : w.store.Reachable := by
  induction history with
  | start store registry => exact store ▸ .empty
  | invoke i shared _ ih => exact Plan.run_reachable _ ih
  | publish _ published ih => exact .step ih (.publish published)
  | other _ store _ ih => exact store ▸ ih

theorem mirrors (history : RunHistory past w) : w.Mirrors past := by
  induction history with
  | start store registry => exact .empty store registry
  | invoke i shared before ih => exact ih.invoke shared before.reachable
  | publish _ published ih => exact ih.publish published
  | other _ store registry ih => exact ih.congr (congrArg Store.executions store) registry

end RunHistory

/-- The registry mirrors the store, whatever has failed. The stored executions are those that the
invocations have created, in this order. Of those that root graphs have created, and containers that
are no operations of the platform, each has one run, in the same order, under its number and the
number of its graph. Exactly its inputs are logged for it, and nothing is logged for others. -/
theorem runs_mirror_executions {past : List Creation} (history : RunHistory past w) :
    w.Mirrors past ∧ (past.map Creation.id).Pairwise (· < ·) ∧
      (w.registry.runs.map RunRequest.executionId).Nodup := by
  have mirrors := history.mirrors
  have ascending : (past.map Creation.id).Pairwise (· < ·) := by
    rw [← mirrors.keys]
    exact List.pairwise_map.2 w.store.executions.sorted
  refine ⟨mirrors, ascending, ?_⟩
  have numbers : w.registry.runs.map RunRequest.executionId =
      ((past.filter fun c => c.invocation.registers).map Creation.id).map some := by
    have runs := mirrors.runs
    generalize (past.filter fun c => c.invocation.registers) = created,
      w.registry.runs = registered at runs
    induction runs with
    | nil => rfl
    | cons mirrored _ ih => simp [mirrored.execution, ih]
  have distinct : ((past.filter fun c => c.invocation.registers).map Creation.id).Nodup := by
    have sublist := (List.filter_sublist (p := fun c => c.invocation.registers) (l := past)).map
      Creation.id
    exact (ascending.imp Int.ne_of_lt).sublist sublist
  rw [numbers]
  exact List.pairwise_map.2 (distinct.imp fun apart same => apart (Option.some.inj same))

/-! A root graph, an operation of the platform, and a task whose execution is stored in vain. -/

namespace Mirror

def root : Invoked where
  options := { Twice.root "first" with
    runtimeConfig := some {
      parameters := .ofList [("epochs", .int 3), ("pipelinechannel--query", .str "eiffel")] } }
  kind := .rootDag

def operation : Invoked where
  options := { Twice.train "first" 1 with container := some { image := "argostub/createpvc" } }
  kind := .container

def task : Invoked where
  options := { Unfit.unfit with
    task := some {
      name := "train"
      inputs := { parameters := .ofList [
        ("rate", { source := some (.runtimeValue (some (.int 1))) })] } } }
  kind := .container

def begun : World := (root.run {}).2

def operated : World := (operation.run begun).2

def ended : Result Execution × World := task.run operated

def past : List Creation :=
  root.creations {} ++ operation.creations begun ++ task.creations operated

theorem history : RunHistory past ended.2 := by
  have starts : RunHistory [] {} := .start rfl rfl
  have begins : RunHistory (root.creations {}) begun :=
    .invoke root ⟨rfl, rfl, ⟨fun _ => rfl, rfl, rfl⟩, fun _ => PodExtension.none_looks⟩ starts
  have operates : RunHistory (root.creations {} ++ operation.creations begun) operated :=
    .invoke operation ⟨rfl, rfl, ⟨fun _ => rfl, rfl, rfl⟩, fun _ => PodExtension.none_looks⟩ begins
  exact .invoke task ⟨rfl, rfl, ⟨fun _ => rfl, rfl, rfl⟩, fun _ => PodExtension.none_looks⟩ operates

end Mirror

/-- The execution that was stored in vain is registered, and that of the operation is not. -/
theorem runs_mirror_executions_vain :
    Mirror.ended.1.toOption.isNone ∧ Mirror.ended.2.Mirrors Mirror.past ∧
    Mirror.past.map Creation.id = [1, 2, 3] ∧
    Mirror.ended.2.registry.runs.map RunRequest.executionId = [some 1, some 3] ∧
    Mirror.ended.2.registry.loggedFor 1 = [("epochs", "3"), ("query", "eiffel")] ∧
    Mirror.ended.2.registry.loggedFor 3 = [("rate", "1")] := by
  obtain ⟨mirrors, _, _⟩ := runs_mirror_executions Mirror.history
  have outcome : Mirror.ended.1.toOption.isNone ∧ Mirror.past.map Creation.id = [1, 2, 3] ∧
      Mirror.ended.2.registry.runs.map RunRequest.executionId = [some 1, some 3] ∧
      Mirror.ended.2.registry.loggedFor 1 = [("epochs", "3"), ("query", "eiffel")] ∧
      Mirror.ended.2.registry.loggedFor 3 = [("rate", "1")] := by
    decide +kernel
  exact ⟨outcome.1, mirrors, outcome.2⟩

end TaskGraph
