import TaskGraph.Proofs.SortedMap
import TaskGraph.Store.Basic

/-! The states of a metadata store. Whatever the order of its operations, a store
keeps every execution under the execution's own id, and the tasks of a graph are
the stored executions of the run that name the graph as their parent. -/

namespace TaskGraph.Store

/-- One operation on a store. -/
inductive Step : Store → Store → Prop where
  | pipeline (s : Store) (q : PipelineQuery) : Step s (s.pipeline q).2
  | insert (s : Store) (e : ExecutionRecord) : Step s (s.insert e).2
  | create (s : Store) (p : Pipeline) (c : ExecutionConfig) : Step s (s.create p c).2
  | publish {s s' : Store} {id : Int} : s.publish id parameters artifacts state = .ok s' → Step s s'
  | setInputArtifacts (s : Store) (id : Int) (artifacts : Dict ArtifactList) :
      Step s (s.setInputArtifacts id artifacts)
  | addOutputArtifact (s : Store) (id : Int) (a : OutputArtifact) :
      Step s (s.addOutputArtifact id a)

/-- The states that a store gets into from being empty. -/
inductive Reachable : Store → Prop where
  | empty : Reachable {}
  | step : Reachable s → Step s s' → Reachable s'

/-- Every execution is kept under its own id. -/
def Keyed (s : Store) : Prop := ∀ id e, s.executions.get? id = some e → e.id = id

@[simp] theorem addOutputArtifact_executions (s : Store) (id : Int) (a : OutputArtifact) :
    (s.addOutputArtifact id a).executions = s.executions := rfl

@[simp] theorem foldl_addOutputArtifact_executions (id : Int) (artifacts : List OutputArtifact)
    (s : Store) : (artifacts.foldl (fun s a => s.addOutputArtifact id a) s).executions =
      s.executions := by
  induction artifacts generalizing s with
  | nil => rfl
  | cons a rest ih => exact ih _

@[simp] theorem foldl_addOutputArtifact_inputArtifactsOf (id id' : Int)
    (artifacts : List OutputArtifact) (s : Store) :
    (artifacts.foldl (fun s a => s.addOutputArtifact id a) s).inputArtifactsOf id' =
      s.inputArtifactsOf id' := by
  induction artifacts generalizing s with
  | nil => rfl
  | cons a rest ih => exact ih _

theorem execution_eq_ok_iff {s : Store} {id : Int} {e : ExecutionRecord} :
    s.execution id = .ok e ↔ s.executions.get? id = some e := by
  unfold execution
  cases s.executions.get? id <;> simp [Result.fail]

/-- What publishing does: one execution gets its state and more outputs, then the artifacts are
added to it one by one. -/
theorem publish_ok {s s' : Store} {id : Int}
    (h : s.publish id parameters artifacts state = .ok s') :
    ∃ e, s.executions.get? id = some e ∧
      s' = artifacts.foldl (fun s a => s.addOutputArtifact id a) { s with
        executions := s.executions.insert id
          { e with state, outputParameters := e.outputParameters.union parameters } } := by
  unfold publish at h
  cases found : s.execution id with
  | error e => simp [found, bind, Except.bind] at h
  | ok e =>
    simp only [found, bind, Except.bind, pure, Except.pure, Except.ok.injEq] at h
    exact ⟨e, execution_eq_ok_iff.1 found, h.symm⟩

/-- Publishing changes the state and the outputs of one stored execution. -/
theorem publish_executions {s s' : Store} {id : Int}
    (h : s.publish id parameters artifacts state = .ok s') :
    ∃ e, s.executions.get? id = some e ∧ s'.executions = s.executions.insert id
      { e with state, outputParameters := e.outputParameters.union parameters } := by
  obtain ⟨e, stored, rfl⟩ := publish_ok h
  exact ⟨e, stored, foldl_addOutputArtifact_executions ..⟩

theorem Keyed.insert {s s' : Store} (keyed : s.Keyed) {id : Int} {e : ExecutionRecord}
    (own : e.id = id) (h : s'.executions = s.executions.insert id e) : s'.Keyed := by
  intro id' e' found
  rw [h, SortedMap.get?_insert] at found
  split at found
  · rename_i same
    rw [← Option.some.inj found, same, own]
  · exact keyed id' e' found

theorem Step.keyed {s s' : Store} (step : Step s s') (keyed : s.Keyed) : s'.Keyed := by
  cases step with
  | pipeline q =>
    unfold Store.pipeline
    split <;> exact keyed
  | insert e => exact keyed.insert rfl rfl
  | create p c => exact keyed.insert rfl rfl
  | publish h =>
    obtain ⟨e, found, executions⟩ := publish_executions h
    have own := keyed _ e found
    refine keyed.insert ?_ executions
    exact own
  | setInputArtifacts id artifacts => exact keyed
  | addOutputArtifact id a => exact keyed

theorem Reachable.keyed {s : Store} (reachable : s.Reachable) : s.Keyed := by
  induction reachable with
  | empty => intro id e found; simp at found
  | step _ step ih => exact step.keyed ih

theorem Reachable.inserted {s : Store} (reachable : s.Reachable) (es : List ExecutionRecord) :
    (es.foldl (fun s e => (s.insert e).2) s).Reachable := by
  induction es generalizing s with
  | nil => exact reachable
  | cons e rest ih => exact ih (.step reachable (.insert s e))

/-- A task of a graph: a stored execution of the run that has a name and was made in the graph. -/
structure HasTask (s : Store) (runId : String) (graph : Int) (e : ExecutionRecord) : Prop where
  stored : s.executions.get? e.id = some e
  run : e.runId = runId
  named : e.taskName ≠ ""
  parent : e.parent = graph

theorem addTask_eq_ok_iff {tasks tasks' : Dict ExecutionRecord} {e : ExecutionRecord} :
    addTask tasks e = .ok tasks' ↔
      tasks.get? e.taskName = none ∧ tasks' = tasks.insert e.taskName e := by
  unfold addTask
  cases tasks.get? e.taskName <;> simp [Result.fail, eq_comm]

/-- Where tasks are collected without a fault, each is found under its name. -/
theorem foldlM_addTask {es : List ExecutionRecord} {before after : Dict ExecutionRecord}
    (h : es.foldlM addTask before = .ok after) (name : String) (e : ExecutionRecord) :
    after.get? name = some e ↔ (e ∈ es ∧ e.taskName = name) ∨ before.get? name = some e := by
  induction es generalizing before with
  | nil =>
    cases h
    simp
  | cons first rest ih =>
    rw [List.foldlM_cons] at h
    cases added : addTask before first with
    | error e => simp [added, bind, Except.bind] at h
    | ok next =>
      obtain ⟨fresh, rfl⟩ := addTask_eq_ok_iff.1 added
      rw [ih (by simpa [added, bind, Except.bind] using h), SortedMap.get?_insert]
      split
      · rename_i same
        subst same
        simp only [Option.some.injEq, List.mem_cons, fresh, reduceCtorEq, or_false]
        constructor
        · rintro (⟨member, named⟩ | rfl)
          · exact ⟨.inr member, named⟩
          · exact ⟨.inl rfl, rfl⟩
        · rintro ⟨rfl | member, named⟩
          · exact .inr rfl
          · exact .inl ⟨member, named⟩
      · rename_i apart
        have other : e = first → e.taskName ≠ name := fun same => same ▸ Ne.symm apart
        grind

/-- The tasks of a graph are listed by name; no two of them share one. -/
theorem tasks_eq_ok {s : Store} (keyed : s.Keyed) {runId : String} {graph : Int}
    {tasks : Dict ExecutionRecord} (h : s.tasks runId (some graph) = .ok tasks)
    (name : String) (e : ExecutionRecord) :
    tasks.get? name = some e ↔ s.HasTask runId graph e ∧ e.taskName = name := by
  rw [foldlM_addTask h]
  simp only [List.mem_filter, SortedMap.mem_values_iff, SortedMap.get?_empty, reduceCtorEq,
    or_false, Option.all_some, Bool.and_eq_true, decide_eq_true_eq, Bool.not_eq_true']
  refine and_congr_left fun _ => ?_
  constructor
  · rintro ⟨⟨id, found⟩, ⟨run, named⟩, parent⟩
    have same := keyed id e found
    subst same
    exact ⟨found, run, by simpa using named, parent.symm⟩
  · rintro ⟨stored, run, named, parent⟩
    exact ⟨⟨_, stored⟩, ⟨run, by simpa using named⟩, parent.symm⟩

theorem dag_eq_ok_iff {s : Store} {id : Int} {e : ExecutionRecord} :
    s.dag id = .ok e ↔ s.executions.get? id = some e ∧ e.isDag := by
  unfold dag
  cases found : s.execution id with
  | error err =>
    simp only [bind, Except.bind, reduceCtorEq, false_iff, not_and]
    intro stored
    rw [execution_eq_ok_iff.2 stored] at found
    cases found
  | ok e' =>
    rw [execution_eq_ok_iff] at found
    simp only [bind, Except.bind, found, Option.some.injEq]
    split <;> simp_all [pure, Except.pure, Result.fail] <;> grind

end TaskGraph.Store
