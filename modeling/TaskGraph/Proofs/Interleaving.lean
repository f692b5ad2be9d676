import Mathlib.Logic.Function.Basic
import TaskGraph.Proofs.Contexts
import TaskGraph.Proofs.Invoke.Ownership

/-! Invocations side by side. They share one store, and each of their calls is answered at once; in
which order they are made is open. Whatever the order, each invocation changes only what it has
created itself, and all invocations of a run see the same pipeline. -/

namespace TaskGraph

namespace Store

variable {s s' : Store} {c : Call} {reply : Result c.Reply} {id : Int}

/-- An execution that is created gets the next number. -/
theorem Takes.made (takes : s.Takes c reply s') (made : c.made? reply = some id) :
    id = s.lastExecution + 1 ∧ s'.lastExecution = id := by
  cases takes with
  | refused | other => cases c <;> simp_all [Call.made?, Call.writes]
  | pipeline | publish => cases made
  | create p config =>
    obtain rfl := Option.some.inj made
    exact ⟨rfl, rfl⟩

theorem Takes.created {p : Pipeline} {config : ExecutionConfig} {e : ExecutionRecord}
    (takes : s.Takes (.create p config) (.ok e) s') :
    e = (s.create p config).1 ∧ s' = (s.create p config).2 := by
  cases takes with
  | other _ writes => cases writes
  | create => exact ⟨rfl, rfl⟩

theorem Takes.queried {q : PipelineQuery} {p : Pipeline}
    (takes : s.Takes (.pipeline q) (.ok p) s') :
    s'.pipeline? q.name q.runId = some p := by
  cases takes with
  | other _ writes => cases writes
  | pipeline => exact s.pipeline?_pipeline_self q

/-- Input artifacts are only stored with a new execution. -/
theorem Takes.keeps_inputs (takes : s.Takes c reply s') (other : c.made? reply ≠ some id) :
    s'.inputArtifactsOf id = s.inputArtifactsOf id := by
  cases takes with
  | refused | other => rfl
  | pipeline q => exact pipeline_inputArtifactsOf q id
  | create p config =>
    have other : id ≠ s.lastExecution + 1 := fun same => other (congrArg some same.symm)
    simp only [Store.create, inputArtifactsOf]
    split
    · rfl
    · rw [SortedMap.get?_insert, if_neg other]
  | publish published =>
    obtain ⟨e, _, rfl⟩ := publish_ok published
    exact foldl_addOutputArtifact_inputArtifactsOf ..

/-- A call that neither creates nor ends an execution leaves it and its artifacts as they are. -/
theorem Takes.keeps (takes : s.Takes c reply s') (other : c.made? reply ≠ some id)
    (running : ¬ c.Publishes id) : s'.executions.get? id = s.executions.get? id ∧
      s'.outputArtifactsOf id = s.outputArtifactsOf id := by
  cases takes with
  | refused | other => exact ⟨rfl, rfl⟩
  | pipeline q => simp
  | create p config =>
    have other : id ≠ s.lastExecution + 1 := fun same => other (congrArg some same.symm)
    exact ⟨(SortedMap.get?_insert ..).trans (if_neg other), rfl⟩
  | publish published =>
    obtain ⟨e, _, rfl⟩ := publish_ok published
    have other := Ne.symm running
    rw [foldl_addOutputArtifact_executions, addOutputArtifacts_other other]
    exact ⟨(SortedMap.get?_insert ..).trans (if_neg other), rfl⟩

end Store

/-- A call of one of several invocations, with its answer. -/
structure Event (ι : Type) where
  invocation : ι
  call : Call
  reply : Result call.Reply

/-- The number of the execution that was created, if one was. -/
def Event.made? {ι : Type} (event : Event ι) : Option Int := event.call.made? event.reply

/-- Invocations that share a store, each with what is left of its plan. -/
structure Pool (ι : Type) where
  store : Store
  plans : ι → Plan Execution

namespace Pool

variable {ι : Type} [DecidableEq ι] {a b c : Pool ι} {events : List (Event ι)} {event : Event ι}

/-- One invocation makes its next call, which is answered at once. The services other than the store
may have come to any state in the meantime. -/
inductive Step (a : Pool ι) : Event ι → Pool ι → Prop where
  | call {i : ι} {c : Call} {next : Result c.Reply → Plan Execution} (s : Services) (w : World) :
      a.plans i = .call c next → w.store = a.store →
      Step a ⟨i, c, (w.answer s c).1⟩
        ⟨(w.answer s c).2.store, Function.update a.plans i (next (w.answer s c).1)⟩

/-- Any number of calls, in any order that the plans admit. -/
inductive Run (a : Pool ι) : List (Event ι) → Pool ι → Prop where
  | start : Run a [] a
  | step {events : List (Event ι)} {event : Event ι} {b c : Pool ι} :
      Run a events b → Step b event c → Run a (events ++ [event]) c

end Pool

/-- The record holds what it was created from. -/
structure ExecutionRecord.PassedBy (e : ExecutionRecord) (p : Pipeline) (c : ExecutionConfig) :
    Prop where
  runId : e.runId = p.runId
  taskName : e.taskName = c.taskName
  displayName : e.displayName = c.displayName
  type : e.type = c.type
  parent : e.parent = c.parent
  iterationIndex : e.iterationIndex = c.iterationIndex
  iterationCount : e.iterationCount = c.iterationCount
  notTriggered : e.notTriggered = c.notTriggered
  inputParameters : e.inputParameters = c.inputParameters
  parameterProducers : e.parameterProducers = c.parameterProducers
  artifactProducers : e.artifactProducers = c.artifactProducers
  fingerprint : e.fingerprint = c.fingerprint
  cachedExecutionId : e.cachedExecutionId = c.cachedExecutionId

theorem ExecutionRecord.PassedBy.becomes {e e' : ExecutionRecord} {p : Pipeline}
    {c : ExecutionConfig} (passed : e.PassedBy p c) (becomes : e.Becomes e') : e'.PassedBy p c := by
  rw [becomes]
  exact { passed with }

/-- A new execution is stored with what it is created from. Input artifacts are only filed if there
are any. -/
theorem Store.create_passes (s : Store) (p : Pipeline) (c : ExecutionConfig) :
    ∃ e, (s.create p c).2.executions.get? (s.create p c).1.id = some e ∧ e.PassedBy p c ∧
      (s.create p c).2.inputArtifactsOf (s.create p c).1.id =
        if c.inputArtifacts.isEmpty then s.inputArtifactsOf (s.create p c).1.id
        else c.inputArtifacts := by
  refine ⟨_, SortedMap.get?_insert_self .., ⟨rfl, rfl, rfl, rfl, rfl, rfl, rfl, rfl, rfl, rfl,
    rfl, rfl, rfl⟩, ?_⟩
  simp only [Store.create, Store.inputArtifactsOf]
  split
  · rfl
  · rw [SortedMap.get?_insert_self]
    rfl

/-- A store after calls of several invocations. -/
structure Undisturbed {ι : Type} (start : Store) (events : List (Event ι)) (final : Store) :
    Prop where
  /-- Executions are numbered in the order in which they are created. -/
  ascending : (events.filterMap Event.made?).Pairwise (· < ·)
  /-- Their numbers were not given out before. -/
  fresh : ∀ id ∈ events.filterMap Event.made?,
    start.lastExecution < id ∧ start.executions.get? id = none
  /-- Each of them is there, with what its own invocation has passed. -/
  present : ∀ i p config e, ⟨i, .create p config, .ok e⟩ ∈ events →
    ∃ e', final.executions.get? e.id = some e' ∧ e'.PassedBy p config ∧
      final.inputArtifactsOf e.id = if config.inputArtifacts.isEmpty then
        start.inputArtifactsOf e.id else config.inputArtifacts
  /-- What is stored already stays as it is. -/
  records : ∀ id e, start.executions.get? id = some e → final.executions.get? id = some e
  artifacts : ∀ id, id ∉ events.filterMap Event.made? →
    final.inputArtifactsOf id = start.inputArtifactsOf id ∧
      final.outputArtifactsOf id = start.outputArtifactsOf id
  pipelines : ∀ name runId p, start.pipeline? name runId = some p →
    final.pipeline? name runId = some p
  /-- All invocations of a run see the pipeline that is kept for it. -/
  contexts : ∀ i q p, ⟨i, .pipeline q, .ok p⟩ ∈ events → final.pipeline? q.name q.runId = some p

namespace Undisturbed

variable {ι : Type} {start mid final : Store} {events : List (Event ι)} {event : Event ι}

theorem refl (s : Store) : Undisturbed s ([] : List (Event ι)) s where
  ascending := .nil
  fresh := by simp
  present := by simp
  records _ _ stored := stored
  artifacts _ _ := ⟨rfl, rfl⟩
  pipelines _ _ _ known := known
  contexts := by simp

theorem mem_made_append {id : Int} : id ∈ (events ++ [event]).filterMap Event.made? ↔
    id ∈ events.filterMap Event.made? ∨ event.made? = some id := by
  simp [List.filterMap_append]

/-- One more call disturbs nothing, if it ends only an execution that was created by the others. -/
theorem step (before : Undisturbed start events mid) (bounded : mid.Bounded)
    (later : start.lastExecution ≤ mid.lastExecution)
    (given : ∀ id ∈ events.filterMap Event.made?, id ≤ mid.lastExecution)
    (owns : ∀ id, event.call.Publishes id → id ∈ events.filterMap Event.made?)
    (takes : mid.Takes event.call event.reply final) :
    Undisturbed start (events ++ [event]) final := by
  have next {id : Int} (made : event.made? = some id) : id = mid.lastExecution + 1 :=
    (takes.made made).1
  have old {id : Int} (known : id ≤ mid.lastExecution) : event.made? ≠ some id := by
    intro made
    have new := next made
    omega
  have running {id : Int} {e : ExecutionRecord} (stored : start.executions.get? id = some e) :
      ¬ event.call.Publishes id := by
    intro ends
    rw [(before.fresh id (owns id ends)).2] at stored
    cases stored
  constructor
  case ascending =>
    rw [List.filterMap_append, List.pairwise_append]
    refine ⟨before.ascending, ?_, fun id member id' member' => ?_⟩
    · cases made : event.made? <;> simp [made]
    · have made : event.made? = some id' := by simpa using member'
      have below := given id member
      have new := next made
      omega
  case fresh =>
    intro id member
    rcases mem_made_append.1 member with earlier | made
    · exact before.fresh id earlier
    · obtain rfl := next made
      refine ⟨by omega, Option.eq_none_iff_forall_ne_some.2 fun e stored => ?_⟩
      have below := bounded _ e (before.records _ e stored)
      omega
  case present =>
    intro i p config e member
    rcases List.mem_append.1 member with earlier | new
    · obtain ⟨e', stored, passed, inputs⟩ := before.present i p config e earlier
      obtain ⟨e'', stored', becomes⟩ := (takes.extends bounded).keeps _ e' stored
      refine ⟨e'', stored', passed.becomes becomes, ?_⟩
      rw [takes.keeps_inputs (old (bounded _ _ stored)), inputs]
    · obtain rfl := List.mem_singleton.1 new
      obtain ⟨rfl, rfl⟩ := takes.created
      -- no other call has filed anything under the new number
      have others : (mid.create p config).1.id ∉ events.filterMap Event.made? := fun member =>
        absurd (given _ member) (Int.not_le.2 (Int.lt_succ _))
      rw [← (before.artifacts _ others).1]
      exact mid.create_passes p config
  case records =>
    intro id e stored
    have kept := before.records id e stored
    rwa [(takes.keeps (old (bounded id e kept)) (running stored)).1]
  case artifacts =>
    intro id others
    obtain ⟨earlier, other⟩ := not_or.1 (mt mem_made_append.2 others)
    have same := before.artifacts id earlier
    rw [takes.keeps_inputs other, (takes.keeps other (mt (owns id) earlier)).2]
    exact same
  case pipelines =>
    exact fun name runId p known => takes.pipeline?_eq_some (before.pipelines name runId p known)
  case contexts =>
    intro i q p member
    rcases List.mem_append.1 member with earlier | new
    · exact takes.pipeline?_eq_some (before.contexts i q p earlier)
    · obtain rfl := List.mem_singleton.1 new
      exact takes.queried

end Undisturbed

namespace Pool

variable {ι : Type} {a : Pool ι} {events : List (Event ι)} {event : Event ι}

/-- The executions that one invocation has created. -/
def MadeBy (events : List (Event ι)) (i : ι) (id : Int) : Prop :=
  ∃ event ∈ events, event.invocation = i ∧ event.made? = some id

theorem MadeBy.mem_made {i : ι} {id : Int} (made : MadeBy events i id) :
    id ∈ events.filterMap Event.made? := by
  obtain ⟨event, member, _, made⟩ := made
  exact List.mem_filterMap.2 ⟨event, member, made⟩

theorem MadeBy.append {i : ι} {id : Int} (made : MadeBy events i id) (event : Event ι) :
    MadeBy (events ++ [event]) i id := by
  obtain ⟨earlier, member, own, made⟩ := made
  exact ⟨earlier, List.mem_append_left _ member, own, made⟩

/-- Every plan of a pool is that of an invocation that creates its own execution. -/
def Invocations (a : Pool ι) : Prop :=
  ∀ i, ∃ (d : Driver) (o : Options) (kind : DriverType), o.devMode = false ∧
    (kind = .container → d.extension.Looks) ∧ a.plans i = d.invocation o kind

theorem Invocations.owns (invocations : a.Invocations) (i : ι) :
    (a.plans i).Owns fun _ => False := by
  obtain ⟨d, o, kind, creates, looks, plan⟩ := invocations i
  rw [plan]
  exact Driver.owns_invocation creates looks

variable [DecidableEq ι] {b c : Pool ι}

theorem Step.takes (step : b.Step event c) :
    b.store.Takes event.call event.reply c.store := by
  cases step with
  | call s w _ same => exact same ▸ w.answer_takes s _

/-- What holds after any number of calls: the plans own what their invocations have created, and all
numbers are below the next one. -/
structure Reached (a : Pool ι) (events : List (Event ι)) (b : Pool ι) : Prop where
  reachable : b.store.Reachable
  owns : ∀ i, (b.plans i).Owns (MadeBy events i)
  later : a.store.lastExecution ≤ b.store.lastExecution
  given : ∀ id ∈ events.filterMap Event.made?, id ≤ b.store.lastExecution
  undisturbed : Undisturbed a.store events b.store

/-- Only an execution of its own is ended by an invocation. -/
theorem Reached.publishes_own (reached : a.Reached events b) (step : b.Step event c) {id : Int}
    (ends : event.call.Publishes id) : MadeBy events event.invocation id := by
  cases step with
  | @call i _ _ s w plan _ =>
    have owns := reached.owns i
    rw [plan] at owns
    exact owns.1 id ends

/-- A plan owns what it has created, also after its next call. -/
theorem Reached.owns_step (reached : a.Reached events b) (step : b.Step event c) (i : ι) :
    (c.plans i).Owns (MadeBy (events ++ [event]) i) := by
  cases step with
  | @call j _ _ s w plan _ =>
    dsimp only
    by_cases same : i = j
    · subst same
      have owns := reached.owns i
      rw [plan] at owns
      rw [Function.update_self]
      refine (owns.2 _).mono fun id => ?_
      rintro (earlier | made)
      · exact earlier.append _
      · exact ⟨_, List.mem_append_right _ (List.mem_singleton.2 rfl), rfl, made⟩
    · rw [Function.update_of_ne same]
      exact (reached.owns i).mono fun id made => made.append _

theorem Reached.step (reached : a.Reached events b) (step : b.Step event c) :
    a.Reached (events ++ [event]) c := by
  have takes := step.takes
  have bounded := reached.reachable.bounded
  have goesOn := takes.extends bounded
  refine ⟨takes.reachable reached.reachable, reached.owns_step step,
    Int.le_trans reached.later goesOn.last, fun id member => ?_,
    reached.undisturbed.step bounded reached.later reached.given
      (fun id ends => (reached.publishes_own step ends).mem_made) takes⟩
  rcases Undisturbed.mem_made_append.1 member with earlier | made
  · exact Int.le_trans (reached.given id earlier) goesOn.last
  · exact Int.le_of_eq (takes.made made).2.symm

theorem Run.reached (run : a.Run events b) (reachable : a.store.Reachable)
    (owns : ∀ i, (a.plans i).Owns fun _ => False) : a.Reached events b := by
  induction run with
  | start =>
    exact ⟨reachable, fun i => (owns i).mono fun _ => False.elim, Int.le_refl _, by simp, .refl _⟩
  | step _ step ih => exact ih.step step

end Pool

/-- Invocations side by side do not disturb each other. Whatever the order of their calls, each
execution that is created has a number of its own and is there with all that its invocation has
passed, what was stored before stays as it is, and all invocations of a run see one pipeline. An
execution or its outputs change only when the invocation that has created it publishes an end. -/
theorem interleaved_undisturbed {ι : Type} [DecidableEq ι] {a b : Pool ι} {events : List (Event ι)}
    (reachable : a.store.Reachable) (invocations : a.Invocations) (run : a.Run events b) :
    Undisturbed a.store events b.store ∧
    ∀ event c, b.Step event c → ∀ id e, b.store.executions.get? id = some e →
      c.store.executions.get? id ≠ some e ∨
        c.store.outputArtifactsOf id ≠ b.store.outputArtifactsOf id →
      event.call.Publishes id ∧ Pool.MadeBy events event.invocation id := by
  have reached := run.reached reachable invocations.owns
  refine ⟨reached.undisturbed, fun event c step id e stored changed => ?_⟩
  have old : event.made? ≠ some id := fun made => by
    obtain rfl := (step.takes.made made).1
    rw [reached.reachable.bounded.next_free] at stored
    cases stored
  have ends : event.call.Publishes id := by
    by_contra running
    obtain ⟨same, outputs⟩ := step.takes.keeps old running
    rcases changed with changed | changed
    · exact changed (same.trans stored)
    · exact changed outputs
  exact ⟨ends, reached.publishes_own step ends⟩

/-! Two tasks of one graph, one of which is an operation of the platform, take turns. -/

namespace Turns

variable {ι : Type} [DecidableEq ι] {a : Pool ι}

/-- One invocation makes its next call, if it has one. -/
def turn (s : Services) (now : World × (ι → Plan Execution)) (i : ι) :
    World × (ι → Plan Execution) :=
  match now.2 i with
  | .done _ => now
  | .call c next =>
    ((now.1.answer s c).2, Function.update now.2 i (next (now.1.answer s c).1))

def pool (now : World × (ι → Plan Execution)) : Pool ι := ⟨now.1.store, now.2⟩

theorem run_turn (s : Services) (i : ι) {now : World × (ι → Plan Execution)}
    {events : List (Event ι)} (run : a.Run events (pool now)) :
    ∃ events, a.Run events (pool (turn s now i)) := by
  unfold turn
  split
  · exact ⟨events, run⟩
  · rename_i plan
    exact ⟨_, run.step (.call s now.1 plan rfl)⟩

theorem run_turns (s : Services) (order : List ι) {now : World × (ι → Plan Execution)}
    {events : List (Event ι)} (run : a.Run events (pool now)) :
    ∃ events, a.Run events (pool (order.foldl (turn s) now)) := by
  induction order generalizing now events with
  | nil => exact ⟨events, run⟩
  | cons i rest ih =>
    obtain ⟨events, run⟩ := run_turn s i run
    exact ih run

def task : Bool → Options
  | false => { Twice.train "first" 1 with task := some { name := "train" } }
  | true => { Twice.train "first" 1 with
      task := some { name := "volume" }
      container := some { image := "argostub/createpvc" } }

def start : World × (Bool → Plan Execution) := (Twice.begun, fun i => (task i).runContainer {})

def order : List Bool := (List.replicate 20 [false, true]).flatten

def ended : World × (Bool → Plan Execution) := order.foldl (turn {}) start

end Turns

/-- Each of the two tasks has its own execution, and only the operation has ended. -/
theorem interleaved_undisturbed_turns : ∃ events : List (Event Bool),
    Undisturbed Twice.begun.store events Turns.ended.1.store ∧
    Turns.ended.1.store.executions.entries.map (fun (id, e) => (id, e.taskName, e.state)) =
      [(1, "", .running), (2, "train", .running), (3, "volume", .complete)] := by
  have invocations : (Turns.pool Turns.start).Invocations := fun i =>
    ⟨{}, Turns.task i, .container, by cases i <;> rfl, fun _ => PodExtension.none_looks, rfl⟩
  have reachable : Twice.begun.store.Reachable :=
    (Options.runRootDag _).run_reachable (w := {}) .empty
  obtain ⟨events, run⟩ :=
    Turns.run_turns {} Turns.order (Pool.Run.start (a := Turns.pool Turns.start))
  exact ⟨events, (interleaved_undisturbed reachable invocations run).1, by decide +kernel⟩

end TaskGraph
