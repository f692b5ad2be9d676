import TaskGraph.Proofs.Contexts
import TaskGraph.Proofs.Invoke.Creates
import TaskGraph.Proofs.Text

/-! The roots of runs. The pipeline of a run has the root that the first invocation to ask for it has
handed over, whatever becomes of that invocation: a root graph hands over the root that it has
chosen, and tasks hand over none. Later tasks find their places for outputs under it. -/

namespace TaskGraph

variable {α β : Type} {s : Services} {w w' : World} {o : Options} {d : Driver}
  {name runId : String}

/-- A pipeline as it was asked for when it was set up. -/
def Pipeline.query (p : Pipeline) : PipelineQuery := ⟨p.name, p.runId, p.nspace, p.root, p.session⟩

/-- The query with which the pipeline of a run was set up. -/
def Store.query? (s : Store) (name runId : String) : Option PipelineQuery :=
  (s.pipeline? name runId).map Pipeline.query

/-- A query, if it is for the pipeline of the run. -/
def PipelineQuery.for? (q : PipelineQuery) (name runId : String) : Option PipelineQuery :=
  if q.name = name ∧ q.runId = runId then some q else none

theorem PipelineQuery.for?_eq_some_iff {q q' : PipelineQuery} :
    q.for? name runId = some q' ↔ q = q' ∧ q.name = name ∧ q.runId = runId := by
  unfold for?
  split
  · simp_all
  · rename_i other
    simp only [reduceCtorEq, false_iff]
    exact fun same => other same.2

/-- Only a first query counts. -/
theorem Store.query?_pipeline (s : Store) (q : PipelineQuery) (name runId : String) :
    (s.pipeline q).2.query? name runId = (s.query? name runId).or (q.for? name runId) := by
  unfold query?
  rw [pipeline?_pipeline]
  cases known : s.pipeline? name runId with
  | some p => rfl
  | none =>
    unfold PipelineQuery.for?
    split
    · rename_i same
      rw [← same.1, ← same.2] at known
      rw [pipeline_of_absent known]
      rfl
    · rfl

theorem Store.query?_congr {s s' : Store} (same : s'.pipelines = s.pipelines) (name runId : String) :
    s'.query? name runId = s.query? name runId := by
  unfold query? pipeline?
  rw [same]

/-- A call that is for no pipeline. -/
def Call.Other (c : Call) : Prop := ∀ q, c ≠ .pipeline q

theorem Call.Other.of_reads {c : Call} (reads : c.reads = true) : c.Other := by
  rintro q rfl
  cases reads

theorem Store.Takes.keeps_pipelines {s s' : Store} {c : Call} {reply : Result c.Reply}
    (takes : s.Takes c reply s') (other : c.Other) : s'.pipelines = s.pipelines := by
  cases takes with
  | refused | other => rfl
  | pipeline q => exact absurd rfl (other q)
  | create p config => rfl
  | publish published => exact Store.publish_pipelines published

namespace Plan

/-- What a plan does to the pipelines: it asks for the one of `q?`, or for none. -/
def Asks (s : Services) (p : Plan α) (q? : Option PipelineQuery) : Prop :=
  ∀ w name runId, (p.run s w).2.store.query? name runId =
    (w.store.query? name runId).or (q?.bind (·.for? name runId))

theorem Uses.asks {p : Plan α} (uses : p.Uses Call.Other) : p.Asks s none := by
  intro w name runId
  have same := uses.run_keeps (s := s) (P := fun v => v.store.pipelines = w.store.pipelines)
    (fun c v other same => ((World.answer_takes s v c).keeps_pipelines other).trans same)
    (w := w) rfl
  rw [Store.query?_congr same]
  simp

theorem Asks.bind_other {p : Plan α} {f : α → Plan β} {q? : Option PipelineQuery}
    (asks : p.Asks s q?) (rest : ∀ x, (f x).Uses Call.Other) : (p >>= f).Asks s q? := by
  intro w name runId
  have first := asks w name runId
  rw [run_bind]
  rcases ran : p.run s w with ⟨_ | x, v⟩ <;> rw [ran] at first
  · exact first
  · refine ((rest x).asks (s := s) v name runId).trans ?_
    simpa using first

theorem Asks.within {p : Plan α} {q? : Option PipelineQuery} (asks : p.Asks s q?) (layer : Layer) :
    (p.within layer).Asks s q? := by
  intro w name runId
  rw [run_within]
  exact asks w name runId

/-- A plan asks for nothing once a check has failed. -/
theorem Asks.lift_bind {r : Result α} {f : α → Plan β} {q? : α → Option PipelineQuery}
    (asks : ∀ x, r = .ok x → (f x).Asks s (q? x)) :
    ((liftM r : Plan α) >>= f).Asks s (r.toOption.bind q?) := by
  intro w name runId
  rw [run_bind, run_lift]
  cases r with
  | error e => simp [Except.toOption]
  | ok x => exact asks x rfl w name runId

theorem Reads.other {p : Plan α} (reads : p.Reads) : p.Uses Call.Other :=
  reads.imp fun _ => Call.Other.of_reads

/-- What is asked of a store that answers. -/
theorem Asks.pipeline_bind {q : PipelineQuery} {f : Pipeline → Plan β}
    (rest : ∀ p, (f p).Uses Call.Other) :
    (Plan.perform (.pipeline q) >>= f).Asks s
      (if (s.storeFault .getPipeline).isNone then some q else none) := by
  intro w name runId
  rw [run_bind]
  simp only [perform, run, World.answer, Services.fault?, Call.operation?, Option.bind_some]
  cases s.storeFault .getPipeline with
  | some fault => simp [Result.fail]
  | none =>
    refine ((rest _).asks (s := s) _ name runId).trans ?_
    simpa [World.serve] using Store.query?_pipeline w.store q name runId

theorem Asks.launcher_bind {f : Option LauncherConfig → Plan β}
    {q? : Option LauncherConfig → Option PipelineQuery}
    (asks : ∀ config, s.launcher = .ok config → (f config).Asks s (q? config)) :
    (Plan.perform .launcher >>= f).Asks s (s.launcher.toOption.bind q?) :=
  Asks.lift_bind asks

end Plan

namespace Options

/-- The query that an invocation makes for the pipeline of its run. Its options have to be valid, and
a root graph has to know its root and how to open it. -/
def query? (o : Options) (s : Services) : DriverType → Option PipelineQuery
  | .rootDag => do
    let _ ← o.validateRootDag.toOption
    let runtime ← o.runtimeConfig
    let config ← s.launcher.toOption
    let query ← (o.rootQuery runtime (config.getD {})).toOption
    if (s.storeFault .getPipeline).isNone then some query else none
  | .dag => do
    let _ ← o.validateDag.toOption
    if (s.storeFault .getPipeline).isNone then some o.pipelineQuery else none
  | .container => do
    let _ ← o.validateContainer.toOption
    if (s.storeFault .getPipeline).isNone then some o.pipelineQuery else none

theorem query?_task {kind : DriverType} {q : PipelineQuery} (task : kind ≠ .rootDag)
    (asks : o.query? s kind = some q) : q = o.pipelineQuery := by
  cases kind with
  | rootDag => exact absurd rfl task
  | dag | container =>
    obtain ⟨_, _, asks⟩ := Option.bind_eq_some_iff.1 asks
    rw [Option.ite_none_right_eq_some] at asks
    exact (Option.some.inj asks.2).symm

/-- A root graph asks for the root that it is told, or the configured one, or the one that is built
in. -/
theorem query?_rootDag {q : PipelineQuery} (asks : o.query? s .rootDag = some q) :
    ∃ runtime config info, o.runtimeConfig = some runtime ∧ s.launcher = .ok config ∧
      q.root = (if runtime.outputDirectory = "" then
        ((config.getD {}).get? "defaultPipelineRoot").getD LauncherConfig.builtInRoot
        else runtime.outputDirectory) ∧
      (config.getD {}).session q.root = .ok info ∧ q.session = info.text := by
  obtain ⟨_, _, asks⟩ := Option.bind_eq_some_iff.1 asks
  obtain ⟨runtime, known, asks⟩ := Option.bind_eq_some_iff.1 asks
  obtain ⟨config, loaded, asks⟩ := Option.bind_eq_some_iff.1 asks
  obtain ⟨query, chosen, asks⟩ := Option.bind_eq_some_iff.1 asks
  rw [Option.ite_none_right_eq_some] at asks
  obtain rfl := Option.some.inj asks.2
  obtain ⟨info, opens, made⟩ := bind_eq_ok_iff.1 (toOption_eq_some_iff.1 chosen)
  obtain rfl := Result.pure_eq_ok_iff.1 made
  exact ⟨runtime, config, info, known, toOption_eq_some_iff.1 loaded, by
    simp [LauncherConfig.defaultRoot], opens, rfl⟩

theorem other_createExecution (p : Pipeline) (config : ExecutionConfig) :
    (o.createExecution p config).Uses Call.Other :=
  uses_createExecution (fun _ => by simp) fun _ => by simp

theorem Registers.other {c : Call} (registers : o.Registers c) : c.Other := by
  rintro q rfl
  exact registers

theorem other_registerRun (p : Pipeline) (name : String) (parent : Option Int) (id : Int)
    (parameters : List (String × String)) :
    (o.registerRun p name parent id parameters).Uses Call.Other :=
  uses_registerRun (fun _ => Registers.other) ..

theorem runRootDag_asks : o.runRootDag.Asks s (o.query? s .rootDag) := by
  refine (Plan.Asks.lift_bind fun _ _ => ?_).within _
  cases o.runtimeConfig with
  | none => exact (Plan.uses_fail _).asks
  | some runtime =>
    refine .launcher_bind fun config _ => .lift_bind fun query _ => .pipeline_bind fun pipeline => ?_
    exact (other_createExecution _ _).bind fun record => (other_registerRun ..).bind fun _ =>
      Plan.uses_pure _

theorem check_ok {checks : List (Bool × Fault)} (h : check checks = .ok ()) :
    ∀ c ∈ checks, c.1 = true := by
  induction checks with
  | nil => simp
  | cons c rest ih =>
    obtain ⟨holds, fault⟩ := c
    unfold check at h
    split at h
    · rename_i passes
      exact List.forall_mem_cons.2 ⟨passes, ih h⟩
    · cases h

theorem check_within_ok {checks : List (Bool × Fault)} {layer : Layer}
    (h : (check checks).within layer = .ok ()) : ∀ c ∈ checks, c.1 = true :=
  check_ok (Result.within_eq_ok_iff.1 h)

/-- A task that is named is there. -/
theorem task_of_checks (checks : ∀ c ∈ o.taskChecks, c.1 = true) :
    o.task.isSome ∧ o.component.isSome := by
  have component := checks (o.component.isSome, .required "component spec") (by simp [taskChecks])
  have named := checks (!o.taskName.isEmpty, .required "task spec") (by simp [taskChecks])
  refine ⟨?_, component⟩
  cases task : o.task with
  | some _ => rfl
  | none => simp [taskName, task] at named

theorem runDag_asks : o.runDag.Asks s (o.query? s .dag) := by
  refine (Plan.Asks.lift_bind fun _ valid => ?_).within _
  obtain ⟨named, described⟩ :=
    task_of_checks fun c member => check_within_ok valid c (List.mem_cons_of_mem _ member)
  obtain ⟨task, task_eq⟩ := Option.isSome_iff_exists.1 named
  obtain ⟨component, component_eq⟩ := Option.isSome_iff_exists.1 described
  simp only [task_eq, component_eq]
  refine .pipeline_bind fun pipeline => (Plan.uses_perform fun _ => by simp).bind fun dag => ?_
  refine (TaskScope.readsStore_inputs _).reads.other.bind fun inputs =>
    (Plan.uses_lift _).bind fun condition => ?_
  split
  · refine (Plan.uses_fail _).bind fun _ => ?_
    exact (Plan.uses_lift _).bind fun count => (other_createExecution _ _).bind fun record =>
      Plan.uses_pure _
  · exact (Plan.uses_lift _).bind fun count => (other_createExecution _ _).bind fun record =>
      Plan.uses_pure _

theorem containerTask_asks : (o.containerTask d).Asks s (o.query? s .container) := by
  refine Plan.Asks.lift_bind fun _ valid => ?_
  obtain ⟨container, container_eq⟩ :=
    Option.isSome_iff_exists.1 (check_within_ok valid (o.container.isSome, _) List.mem_cons_self)
  obtain ⟨named, described⟩ :=
    task_of_checks fun c member => check_within_ok valid c (List.mem_cons_of_mem _ member)
  obtain ⟨task, task_eq⟩ := Option.isSome_iff_exists.1 named
  obtain ⟨component, component_eq⟩ := Option.isSome_iff_exists.1 described
  simp only [task_eq, component_eq, container_eq]
  refine .pipeline_bind fun pipeline => (Plan.uses_perform fun _ => by simp).bind fun dag => ?_
  refine (TaskScope.readsStore_inputs _).reads.other.bind fun inputs =>
    (Plan.uses_lift _).bind fun condition => Plan.Uses.bind ?_ fun input => Plan.uses_pure _
  unfold provision
  split
  · exact (Plan.uses_perform fun _ => by simp).bind fun salt => Plan.uses_pure _
  · trivial

/-- A root graph that is set up has asked for its pipeline. -/
theorem query?_of_runRootDag {e : Execution} (h : o.runRootDag.run s w = (.ok e, w')) :
    ∃ q, o.query? s .rootDag = some q ∧ q.name = o.pipelineName ∧ q.runId = o.runId := by
  cases runtime : o.runtimeConfig with
  | none => simp [runRootDag, runtime, Plan.run_bind_ok_iff, Result.fail] at h
  | some runtime' =>
  simp only [runRootDag, runtime, Plan.run_within_ok_iff, Plan.run_bind_ok_iff, Plan.run_lift,
    Prod.mk.injEq] at h
  obtain ⟨_, _, ⟨valid, rfl⟩, config, _, loaded, query, _, ⟨chosen, rfl⟩, pipeline, _, queried,
    _⟩ := h
  obtain ⟨answers, _⟩ := Plan.pipeline_answered queried
  have launcher : s.launcher = .ok config := congrArg Prod.fst (Plan.perform_ok loaded)
  refine ⟨query, ?_, ?_⟩
  · simp [query?, valid, runtime, launcher, chosen, answers, Except.toOption]
  · obtain ⟨info, _, made⟩ := bind_eq_ok_iff.1 chosen
    obtain rfl := Result.pure_eq_ok_iff.1 made
    exact ⟨rfl, rfl⟩

end Options

namespace ContainerTask

variable {t : ContainerTask}

theorem other_runPlatformOperation : t.runPlatformOperation.Uses Call.Other := by
  obtain ⟨rest, same, uses⟩ := t.runPlatformOperation_eq
  rw [same]
  exact (Options.other_createExecution _ _).bind fun record =>
    uses record _ (fun _ => by simp) fun _ _ _ => by simp

theorem other_launch (looks : d.extension.Looks) : (t.launch d).Uses Call.Other := by
  obtain ⟨rest, same, uses⟩ := t.launch_eq looks
  rw [same]
  exact t.reads_lookup.other.bind fun known => (Options.other_createExecution _ _).bind fun record =>
    uses known record _ (fun _ => Call.Other.of_reads) (fun _ => Options.Registers.other)
      fun _ _ _ => by simp

end ContainerTask

theorem Options.runContainer_asks (looks : d.extension.Looks) :
    (o.runContainer d).Asks s (o.query? s .container) := by
  rw [runContainer_eq]
  refine (containerTask_asks.bind_other fun t => ?_).within _
  split
  · exact ContainerTask.other_runPlatformOperation
  · exact ContainerTask.other_launch looks

/-- A root without its query and without the slashes before it. -/
inductive IsBareRoot (root : String) : String → Prop where
  | intro (bare slashes query : List Char) : root.toList = bare ++ slashes ++ query →
      (∀ c ∈ slashes, c = '/') → '?' ∉ bare → bare.getLast? ≠ some '/' →
      query.head?.all (· = '?') → IsBareRoot root (String.ofList bare)

theorem outputUri_bare (root : String) (path : List String) :
    ∃ bare, IsBareRoot root bare ∧ outputUri root path = bare ++ "/" ++ Text.join "/" path := by
  obtain ⟨slashes, parts, only, last⟩ :=
    Text.dropEnd_spec (· = '/') (root.toList.takeWhile (· ≠ '?'))
  refine ⟨_, .intro _ slashes (root.toList.dropWhile (· ≠ '?')) ?_ ?_ ?_ ?_ ?_, rfl⟩
  · rw [← parts, List.takeWhile_append_dropWhile]
  · simpa using only
  · intro member
    have before : '?' ∈ root.toList.takeWhile (· ≠ '?') := parts ▸ List.mem_append_left _ member
    simpa using List.all_eq_true.1 List.all_takeWhile _ before
  · intro slash
    simpa using last _ slash
  · have stops := List.head?_dropWhile_not (· ≠ '?') root.toList
    cases query : (root.toList.dropWhile (· ≠ '?')).head? with
    | none => rfl
    | some c =>
      rw [query] at stops
      simpa using stops

/-- An invocation as part of a history, with the services around it. -/
structure Invoked where
  driver : Driver := {}
  services : Services := {}
  options : Options
  kind : DriverType

namespace Invoked

variable {i : Invoked}

def run (i : Invoked) (w : World) : Result Execution × World :=
  (i.driver.invocation i.options i.kind).run i.services w

/-- The query that an invocation makes for the pipeline of a run. -/
def query? (i : Invoked) (name runId : String) : Option PipelineQuery :=
  (i.options.query? i.services i.kind).bind (·.for? name runId)

/-- A pipeline keeps the query of the first invocation to ask for it. -/
theorem run_query? (i : Invoked) (looks : i.kind = .container → i.driver.extension.Looks)
    (w : World) (name runId : String) : (i.run w).2.store.query? name runId =
      (w.store.query? name runId).or (i.query? name runId) := by
  have asks : (i.driver.invocation i.options i.kind).Asks i.services
      (i.options.query? i.services i.kind) := by
    cases kind : i.kind with
    | rootDag => exact i.options.runRootDag_asks
    | dag => exact i.options.runDag_asks
    | container => exact i.options.runContainer_asks (looks kind)
  exact asks w name runId

/-- What an invocation hands over for the pipeline of its run. A root graph chooses the root that it
is told, or the configured one, or the one that is built in, with the session that opens it. Tasks
choose nothing. -/
def Chooses (i : Invoked) (root session : String) : Prop :=
  match i.kind with
  | .rootDag => ∃ runtime config info, i.options.runtimeConfig = some runtime ∧
      i.services.launcher = .ok config ∧
      root = (if runtime.outputDirectory = "" then
        ((config.getD {}).get? "defaultPipelineRoot").getD LauncherConfig.builtInRoot
        else runtime.outputDirectory) ∧
      (config.getD {}).session root = .ok info ∧ session = info.text
  | .dag | .container => root = "" ∧ session = ""

theorem chooses_of_query? {q : PipelineQuery} (asks : i.query? name runId = some q) :
    i.Chooses q.root q.session := by
  obtain ⟨q', own, same⟩ := Option.bind_eq_some_iff.1 asks
  obtain ⟨rfl, _, _⟩ := PipelineQuery.for?_eq_some_iff.1 same
  unfold Chooses
  split
  · rename_i kind
    exact Options.query?_rootDag (kind ▸ own)
  all_goals
    rename_i kind
    rw [kind] at own
    rw [Options.query?_task (by simp) own]
    exact ⟨rfl, rfl⟩

theorem query?_of_rootDag {e : Execution} (kind : i.kind = .rootDag)
    (succeeds : i.run w = (.ok e, w')) :
    ∃ q, i.query? i.options.pipelineName i.options.runId = some q := by
  rw [run, kind] at succeeds
  obtain ⟨q, asks, name, runId⟩ := Options.query?_of_runRootDag succeeds
  exact ⟨q, Option.bind_eq_some_iff.2 ⟨q, kind ▸ asks,
    PipelineQuery.for?_eq_some_iff.2 ⟨rfl, name, runId⟩⟩⟩

/-- The input that an invocation prepares for a container, whether or not it succeeds in the end. -/
def Prepares (i : Invoked) (w : World) (input : ExecutorInput) : Prop :=
  ∃ t v, (i.options.containerTask i.driver).run i.services w = (.ok t, v) ∧ t.input = input

/-- The places for outputs that an invocation prepares are under a root, and they are given back if
the invocation succeeds. -/
structure ProvidesUnder (i : Invoked) (w : World) (root : String) : Prop where
  givesBack : ∀ e w', i.run w = (.ok e, w') →
    ∃ input, e.executorInput = some input ∧ i.Prepares w input
  under : ∀ input outputs name list a, i.Prepares w input → input.outputs = some outputs →
    outputs.artifacts.get? name = some list → a ∈ list.artifacts →
    ∃ bare salt, IsBareRoot root bare ∧
      a.uri = bare ++ "/" ++ Text.join "/" [i.options.taskName, salt, name]

/-- A container finds its places for outputs under the root that the pipeline of its run has. -/
theorem providesUnder {p : Pipeline} (kind : i.kind = .container)
    (known : w.store.pipeline? i.options.pipelineName i.options.runId = some p) :
    i.ProvidesUnder w p.root where
  givesBack e w' run := by
    rw [Invoked.run, kind] at run
    obtain ⟨t, v, prepares, input⟩ := Options.runContainer_input run
    exact ⟨t.input, input, t, v, prepares, rfl⟩
  under := by
    rintro _ outputs name list a ⟨t, v, run, rfl⟩ provided listed member
    have prepared := Options.containerTask_ok run
    have own : t.scope.pipeline = p := by
      rw [prepared.pipeline, Store.pipeline_of_found known]
    have named : i.options.taskName = t.task.name := by
      simp [Options.taskName, prepared.task]
    rw [prepared.outputs, Option.ite_none_right_eq_some] at provided
    obtain rfl := Option.some.inj provided.2
    simp only [ContainerTask.provisioned, provisionOutputs, SortedMap.get?_mapWithKey,
      Option.map_eq_some_iff] at listed
    obtain ⟨definition, _, rfl⟩ := listed
    obtain rfl := List.mem_singleton.1 member
    obtain ⟨bare, isBare, uri⟩ := outputUri_bare p.root
      [t.task.name, i.services.salt w.salts, name]
    exact ⟨bare, i.services.salt w.salts, isBare, by rw [named, own, uri]⟩

/-- The first invocation of a history to ask for the pipeline of a run, and its query. -/
def IsFirst (past : List Invoked) (name runId : String) (first : Invoked) (q : PipelineQuery) :
    Prop :=
  ∃ earlier others, past = earlier ++ first :: others ∧
    (∀ i ∈ earlier, i.query? name runId = none) ∧ first.query? name runId = some q

end Invoked

/-- The worlds that invocations lead to, one after the other, whether they succeed or not. In between,
others may change everything but the pipelines. -/
inductive Leads (start : World) : List Invoked → World → Prop where
  | start : Leads start [] start
  | invoke {past : List Invoked} {w : World} (i : Invoked) :
      (i.kind = .container → i.driver.extension.Looks) →
      Leads start past w → Leads start (past ++ [i]) (i.run w).2
  | other {past : List Invoked} {w w' : World} : Leads start past w →
      w'.store.pipelines = w.store.pipelines → Leads start past w'

/-- The pipeline of a run is that of the first invocation to ask for it. -/
theorem Leads.query? {start : World} {past : List Invoked} (leads : Leads start past w)
    (name runId : String) : w.store.query? name runId =
      (start.store.query? name runId).or (past.findSome? (·.query? name runId)) := by
  induction leads with
  | start => simp
  | invoke i looks _ ih =>
    rw [i.run_query? looks, ih, List.findSome?_append, Option.or_assoc]
    simp
  | other _ same ih => rw [Store.query?_congr same, ih]

/-- Once a root graph is set up, the pipeline of its run has the root and the session that were handed
over by the first invocation to ask for it. These are what the root graph has chosen, unless an
earlier invocation of the run has asked. Whatever comes later, tasks of the run find their places for
outputs under that root. -/
theorem run_keeps_first_root {start w w' v : World} {past later : List Invoked} {i : Invoked}
    {e : Execution} (empty : start.store = {}) (before : Leads start past w)
    (kind : i.kind = .rootDag) (succeeds : i.run w = (.ok e, w')) (after : Leads w' later v) :
    ∃ p first, v.store.pipeline? i.options.pipelineName i.options.runId = some p ∧
      Invoked.IsFirst (past ++ [i]) i.options.pipelineName i.options.runId first p.query ∧
      first.Chooses p.root p.session ∧
      ((∀ j ∈ past, j.query? i.options.pipelineName i.options.runId = none) →
        i.Chooses p.root p.session) ∧
      ∀ j : Invoked, j.kind = .container → j.options.pipelineName = i.options.pipelineName →
        j.options.runId = i.options.runId → j.ProvidesUnder v p.root := by
  obtain ⟨q, own⟩ := Invoked.query?_of_rootDag kind succeeds
  -- the root graph has asked, so someone has
  have asked : w'.store.query? i.options.pipelineName i.options.runId =
      (past ++ [i]).findSome? (·.query? i.options.pipelineName i.options.runId) := by
    have run := i.run_query? (by simp [kind]) w i.options.pipelineName i.options.runId
    rw [succeeds, before.query?, empty] at run
    rw [run, List.findSome?_append]
    simp [Store.query?, Store.pipeline?]
  have found : ((past ++ [i]).findSome?
      (·.query? i.options.pipelineName i.options.runId)).isSome := by
    simp [List.findSome?_append, own]
  obtain ⟨first?, found⟩ := Option.isSome_iff_exists.1 found
  have kept := after.query? i.options.pipelineName i.options.runId
  rw [asked, found, Option.some_or] at kept
  obtain ⟨p, known, rfl⟩ := Option.map_eq_some_iff.1 kept
  obtain ⟨earlier, first, others, split, asks, silent⟩ := List.findSome?_eq_some_iff.1 found
  refine ⟨p, first, known, ⟨earlier, others, split, silent, asks⟩, Invoked.chooses_of_query? asks,
    fun none => ?_, fun j container name runId => ?_⟩
  · have nobody := List.findSome?_eq_none_iff.2 none
    rw [List.findSome?_append, nobody, Option.none_or] at found
    have asks : i.query? i.options.pipelineName i.options.runId = some p.query := by
      simpa using found
    exact Invoked.chooses_of_query? asks
  · exact Invoked.providesUnder container (by rw [name, runId, known])

/-! A root graph that is told its root, and a task of its run. -/

namespace Told

def graph : Invoked where
  options := { Twice.root "first" with
    runtimeConfig := some { outputDirectory := "gs://bucket/root/?region=eu" } }
  kind := .rootDag

def task : Invoked where
  options := Twice.train "first" 1
  kind := .container

def stranger : Invoked where
  options := Twice.train "second" 1
  kind := .container

def uri? (e : Execution) (name : String) : Option String := do
  let outputs ← (← e.executorInput).outputs
  let artifact ← (← outputs.artifacts.get? name).first?
  return artifact.uri

def rootOf (w : World) : Option String := (w.store.pipeline? "pipeline" "first").map Pipeline.root

/-- What is left when the graph was set up after another invocation. -/
def after (first : Invoked) : Result Execution × World := graph.run (first.run {}).2

theorem after_ok (first : Invoked) (id : (after first).1.toOption.map Execution.id = some 1) :
    ∃ e, graph.run (first.run {}).2 = (.ok e, (after first).2) := by
  obtain ⟨e, w', run, _⟩ := Plan.run_of_map (p := graph.options.runRootDag) id
  obtain rfl : (after first).2 = w' := congrArg Prod.snd run
  exact ⟨e, run⟩

end Told

/-- A task of another run that comes first changes nothing for the graph and its tasks. -/
theorem run_keeps_first_root_told : ∃ p first,
    (Told.after Told.stranger).2.store.pipeline? "pipeline" "first" = some p ∧
    Invoked.IsFirst [Told.stranger, Told.graph] "pipeline" "first" first p.query ∧
    Told.graph.Chooses p.root p.session ∧ p.root = "gs://bucket/root/?region=eu" ∧
    Told.task.ProvidesUnder (Told.after Told.stranger).2 p.root := by
  obtain ⟨e, succeeds⟩ := Told.after_ok Told.stranger (by decide +kernel)
  have before : Leads {} [Told.stranger] (Told.stranger.run {}).2 :=
    .invoke Told.stranger (fun _ => PodExtension.none_looks) .start
  obtain ⟨p, first, known, isFirst, _, chooses, provides⟩ :=
    run_keeps_first_root rfl before rfl succeeds .start
  have root : Told.rootOf (Told.after Told.stranger).2 = some "gs://bucket/root/?region=eu" := by
    decide +kernel
  refine ⟨p, first, known, isFirst, chooses ?_, ?_, provides Told.task rfl rfl rfl⟩
  · intro j member
    obtain rfl := List.mem_singleton.1 member
    decide +kernel
  · have known : (Told.after Told.stranger).2.store.pipeline? "pipeline" "first" = some p := known
    rw [Told.rootOf, known] at root
    exact Option.some.inj root

/-- A task that comes before the graph of its run and fails leaves the run without a root, and later
its outputs have no place under the root that the graph has chosen. -/
theorem failed_task_first_no_root : ∃ fault e p,
    (Told.task.run {}).1 = .error fault ∧
    Told.graph.run (Told.task.run {}).2 = (.ok e, (Told.after Told.task).2) ∧
    (Told.after Told.task).2.store.pipeline? "pipeline" "first" = some p ∧
    p.root = "" ∧ ¬ Told.graph.Chooses p.root p.session ∧
    (Told.task.run (Told.after Told.task).2).1.toOption.bind (Told.uri? · "model") =
      some "/train/0/model" := by
  have outcome : (Told.task.run {}).1.toOption.isNone = true ∧
      Told.rootOf (Told.after Told.task).2 = some "" ∧
      (Told.task.run (Told.after Told.task).2).1.toOption.bind (Told.uri? · "model") =
        some "/train/0/model" := by
    decide +kernel
  obtain ⟨fails, blank, uri⟩ := outcome
  obtain ⟨e, succeeds⟩ := Told.after_ok Told.task (by decide +kernel)
  obtain ⟨p, known, blank⟩ := Option.map_eq_some_iff.1 blank
  have failed : ∃ fault, (Told.task.run {}).1 = .error fault := by
    cases ran : (Told.task.run {}).1 with
    | error fault => exact ⟨fault, rfl⟩
    | ok e => simp [ran, Except.toOption] at fails
  obtain ⟨fault, failed⟩ := failed
  refine ⟨fault, e, p, failed, succeeds, known, blank, ?_, uri⟩
  rintro ⟨runtime, config, info, told, _, root, _⟩
  obtain rfl := Option.some.inj told
  rw [blank] at root
  simp at root

end TaskGraph
