import TaskGraph.Invoke.Execute
import TaskGraph.Proofs.Calls
import TaskGraph.Proofs.Store

/-! Histories of a store. Invocations, their ends and records that were prepared leave a
store in order: nothing is kept under a number that was not given out. -/

namespace TaskGraph

namespace Store

variable {s s' : Store}

@[simp] theorem pipeline_executions (q : PipelineQuery) :
    (s.pipeline q).2.executions = s.executions := by
  unfold Store.pipeline
  split <;> rfl

@[simp] theorem pipeline_lastExecution (q : PipelineQuery) :
    (s.pipeline q).2.lastExecution = s.lastExecution := by
  unfold Store.pipeline
  split <;> rfl

@[simp] theorem pipeline_inputArtifactsOf (q : PipelineQuery) (id : Int) :
    (s.pipeline q).2.inputArtifactsOf id = s.inputArtifactsOf id := by
  unfold Store.pipeline
  split <;> rfl

@[simp] theorem pipeline_outputArtifactsOf (q : PipelineQuery) (id : Int) :
    (s.pipeline q).2.outputArtifactsOf id = s.outputArtifactsOf id := by
  unfold Store.pipeline
  split <;> rfl

/-- No execution is kept under a number that was not given out. -/
def Bounded (s : Store) : Prop := ∀ id e, s.executions.get? id = some e → id ≤ s.lastExecution

/-- The next number is free. -/
theorem Bounded.next_free (bounded : s.Bounded) :
    s.executions.get? (s.lastExecution + 1) = none := by
  refine Option.eq_none_iff_forall_ne_some.2 fun e stored => ?_
  have below := bounded _ e stored
  omega

/-- Storing an execution under a number that is given out keeps the bound. -/
theorem Bounded.insert (bounded : s.Bounded) {id : Int} {e : ExecutionRecord}
    (executions : s'.executions = s.executions.insert id e) (given : id ≤ s'.lastExecution)
    (later : s.lastExecution ≤ s'.lastExecution) : s'.Bounded := by
  intro id' e' stored
  rw [executions, SortedMap.get?_insert] at stored
  split at stored
  · rename_i same
    exact same ▸ given
  · exact Int.le_trans (bounded id' e' stored) later

/-- A store in order: each execution is kept under its own number, no number is above the last one
that was given out, artifacts belong to stored executions, and an output artifact is kept under its
own name. -/
structure Ordered (s : Store) : Prop where
  keyed : s.Keyed
  bounded : ∀ id e, s.executions.get? id = some e → id ≤ s.lastExecution
  inputs : ∀ id, s.executions.get? id = none → s.inputArtifactsOf id = ∅
  outputs : ∀ id, s.executions.get? id = none → s.outputArtifactsOf id = ∅
  named : ∀ id name a, (s.outputArtifactsOf id).get? name = some a → a.name = name

theorem Ordered.next_free (ordered : s.Ordered) : s.executions.get? (s.lastExecution + 1) = none :=
  Bounded.next_free ordered.bounded

/-- Storing a record under a number that is given out keeps the order. -/
theorem Ordered.store_record (ordered : s.Ordered) {id : Int} {e : ExecutionRecord}
    (own : e.id = id) (given : id ≤ s'.lastExecution) (later : s.lastExecution ≤ s'.lastExecution)
    (executions : s'.executions = s.executions.insert id e)
    (inputs : ∀ id', id' ≠ id → s'.inputArtifactsOf id' = s.inputArtifactsOf id')
    (outputs : ∀ id', s'.outputArtifactsOf id' = s.outputArtifactsOf id') : s'.Ordered where
  keyed := ordered.keyed.insert own executions
  bounded := Bounded.insert ordered.bounded executions given later
  inputs id' absent := by
    rw [executions, SortedMap.get?_insert] at absent
    split at absent
    · cases absent
    · rename_i other
      rw [inputs id' other, ordered.inputs id' absent]
  outputs id' absent := by
    rw [executions, SortedMap.get?_insert] at absent
    split at absent
    · cases absent
    · rw [outputs, ordered.outputs id' absent]
  named id' name a found := ordered.named id' name a (outputs id' ▸ found)

theorem Ordered.empty : ({} : Store).Ordered where
  keyed := by intro id e found; simp at found
  bounded := by simp
  inputs _ _ := rfl
  outputs _ _ := rfl
  named id name a found := by simp [outputArtifactsOf] at found

theorem Ordered.pipeline (ordered : s.Ordered) (q : PipelineQuery) : (s.pipeline q).2.Ordered where
  keyed := by simpa [Keyed] using ordered.keyed
  bounded := by simpa using ordered.bounded
  inputs := by simpa using ordered.inputs
  outputs := by simpa using ordered.outputs
  named := by simpa using ordered.named

theorem Ordered.insert (ordered : s.Ordered) (e : ExecutionRecord) : (s.insert e).2.Ordered := by
  refine ordered.store_record rfl ?_ ?_ rfl (fun _ _ => rfl) fun _ => rfl
  · exact Int.le_max_right _ _
  · exact Int.le_max_left _ _

theorem Ordered.create (ordered : s.Ordered) (p : Pipeline) (c : ExecutionConfig) :
    (s.create p c).2.Ordered := by
  refine ordered.store_record rfl (Int.le_refl _) ?_ rfl (fun id other => ?_) fun _ => rfl
  · exact Int.le_of_lt (Int.lt_succ s.lastExecution)
  · simp only [Store.create, inputArtifactsOf]
    split
    · rfl
    · rw [SortedMap.get?_insert, if_neg other]

/-- A new execution has the input artifacts that it is created with. -/
theorem Ordered.create_inputArtifactsOf (ordered : s.Ordered) (p : Pipeline) (c : ExecutionConfig) :
    (s.create p c).2.inputArtifactsOf (s.create p c).1.id = c.inputArtifacts := by
  have before := ordered.inputs _ ordered.next_free
  simp only [Store.create, inputArtifactsOf] at before ⊢
  split
  · rename_i none
    rw [before]
    exact SortedMap.ext (List.isEmpty_iff.1 none).symm
  · rw [SortedMap.get?_insert_self]
    rfl

theorem Ordered.setInputArtifacts (ordered : s.Ordered) {id : Int} {e : ExecutionRecord}
    (stored : s.executions.get? id = some e) (artifacts : Dict ArtifactList) :
    (s.setInputArtifacts id artifacts).Ordered where
  keyed := ordered.keyed
  bounded := ordered.bounded
  inputs id' absent := by
    change s.executions.get? id' = none at absent
    have other : id' ≠ id := by
      rintro rfl
      rw [absent] at stored
      cases stored
    rw [inputArtifactsOf, Store.setInputArtifacts, SortedMap.get?_insert, if_neg other]
    exact ordered.inputs id' absent
  outputs := ordered.outputs
  named := ordered.named

theorem addOutputArtifact_outputArtifactsOf (id id' : Int) (a : OutputArtifact) :
    (s.addOutputArtifact id a).outputArtifactsOf id' =
      if id' = id then
        (s.outputArtifactsOf id).insert a.name { a with id := s.lastArtifact + 1 }
      else s.outputArtifactsOf id' := by
  rw [outputArtifactsOf, addOutputArtifact, SortedMap.get?_insert]
  split <;> rfl

theorem addOutputArtifacts_other {id id' : Int} (other : id' ≠ id)
    (artifacts : List OutputArtifact) (s : Store) :
    (artifacts.foldl (fun s a => s.addOutputArtifact id a) s).outputArtifactsOf id' =
      s.outputArtifactsOf id' := by
  induction artifacts generalizing s with
  | nil => rfl
  | cons a rest ih =>
    rw [List.foldl_cons, ih, addOutputArtifact_outputArtifactsOf, if_neg other]

/-- What is found among artifacts that were added is one of them, but for its number. -/
theorem addOutputArtifacts_found {id : Int} {artifacts : List OutputArtifact} {s : Store}
    {name : String} {a : OutputArtifact}
    (found : ((artifacts.foldl (fun s a => s.addOutputArtifact id a) s).outputArtifactsOf id).get?
      name = some a) :
    (∃ b ∈ artifacts, b.name = name ∧ a = { b with id := a.id }) ∨
      (s.outputArtifactsOf id).get? name = some a := by
  induction artifacts generalizing s with
  | nil => exact .inr found
  | cons b rest ih =>
    rcases ih found with ⟨c, member, named, same⟩ | earlier
    · exact .inl ⟨c, List.mem_cons_of_mem _ member, named, same⟩
    · rw [addOutputArtifact_outputArtifactsOf, if_pos rfl, SortedMap.get?_insert] at earlier
      split at earlier
      · rename_i named
        refine .inl ⟨b, List.mem_cons_self, named.symm, ?_⟩
        rw [← Option.some.inj earlier]
      · exact .inr earlier

/-- Each artifact that is added is found under its name, be it itself or a later one. -/
theorem addOutputArtifacts_isSome {id : Int} {artifacts : List OutputArtifact} {s : Store}
    {name : String} (added : (∃ b ∈ artifacts, b.name = name) ∨
      ((s.outputArtifactsOf id).get? name).isSome) :
    (((artifacts.foldl (fun s a => s.addOutputArtifact id a) s).outputArtifactsOf id).get?
      name).isSome := by
  induction artifacts generalizing s with
  | nil => simpa using added
  | cons b rest ih =>
    refine ih ?_
    rw [addOutputArtifact_outputArtifactsOf, if_pos rfl, SortedMap.get?_insert]
    by_cases named : name = b.name
    · exact .inr (by simp [named])
    · rw [if_neg named]
      refine added.imp_left ?_
      rintro ⟨c, member, rfl⟩
      rcases List.mem_cons.1 member with rfl | member
      · exact absurd rfl named
      · exact ⟨c, member, rfl⟩

theorem Ordered.addOutputArtifact (ordered : s.Ordered) {id : Int} {e : ExecutionRecord}
    (stored : s.executions.get? id = some e) (a : OutputArtifact) :
    (s.addOutputArtifact id a).Ordered where
  keyed := ordered.keyed
  bounded := ordered.bounded
  inputs := ordered.inputs
  outputs id' absent := by
    have other : id' ≠ id := by
      rintro rfl
      rw [addOutputArtifact_executions, stored] at absent
      cases absent
    rw [addOutputArtifact_outputArtifactsOf, if_neg other]
    exact ordered.outputs id' absent
  named id' name b found := by
    rw [addOutputArtifact_outputArtifactsOf] at found
    split at found
    · rw [SortedMap.get?_insert] at found
      split at found
      · rename_i same
        rw [← Option.some.inj found, same]
      · exact ordered.named id name b found
    · exact ordered.named id' name b found

theorem Ordered.addOutputArtifacts {id : Int} {e : ExecutionRecord} (artifacts : List OutputArtifact)
    {s : Store} (ordered : s.Ordered) (stored : s.executions.get? id = some e) :
    (artifacts.foldl (fun s a => s.addOutputArtifact id a) s).Ordered := by
  induction artifacts generalizing s with
  | nil => exact ordered
  | cons a rest ih => exact ih (ordered.addOutputArtifact stored a) stored

theorem Ordered.publish (ordered : s.Ordered) {id : Int} {parameters : Dict Json}
    {artifacts : List OutputArtifact} {state : ExecutionState}
    (h : s.publish id parameters artifacts state = .ok s') : s'.Ordered := by
  obtain ⟨e, stored, rfl⟩ := publish_ok h
  refine Ordered.addOutputArtifacts artifacts ?_ (SortedMap.get?_insert_self ..)
  refine ordered.store_record ?_ (ordered.bounded id e stored) (Int.le_refl _) rfl
    (fun _ _ => rfl) fun _ => rfl
  exact ordered.keyed id e stored

end Store

/-- A call leaves the store in order. -/
theorem World.answer_ordered (s : Services) (c : Call) (w : World) (ordered : w.store.Ordered) :
    (w.answer s c).2.store.Ordered := by
  unfold World.answer
  split
  · exact ordered
  cases c with
  | pipeline q => exact ordered.pipeline q
  | create p config => exact ordered.create p config
  | publish id parameters artifacts state =>
    simp only [World.serve]
    split
    · rename_i published
      exact ordered.publish published
    · exact ordered
  | registerRun own request => cases own <;> exact ordered
  | logParameter own parameter => cases own <;> exact ordered
  | _ => exact ordered

theorem Plan.run_ordered (s : Services) (p : Plan α) (w : World) (ordered : w.store.Ordered) :
    (p.run s w).2.store.Ordered :=
  p.uses_true.run_keeps (fun c w _ => World.answer_ordered s c w) ordered

/-- The invocation of one kind. -/
def Driver.invocation (d : Driver) (o : Options) : DriverType → Plan Execution
  | .rootDag => o.runRootDag
  | .dag => o.runDag
  | .container => o.runContainer d

/-- The stores that come about: empty at first, then changed by invocations, whether they succeed or
not, by the ends of executions that others publish, and by records that were prepared together with
their artifacts. -/
inductive Store.Arises : Store → Prop where
  | empty : Arises {}
  | invoke {w : World} (d : Driver) (s : Services) (o : Options) (kind : DriverType) :
      Arises w.store → Arises ((d.invocation o kind).run s w).2.store
  | publish {s s' : Store} {id : Int} {parameters : Dict Json} {artifacts : List OutputArtifact}
      {state : ExecutionState} :
      Arises s → s.publish id parameters artifacts state = .ok s' → Arises s'
  | insert {s : Store} (e : ExecutionRecord) : Arises s → Arises (s.insert e).2
  | inputArtifacts {s : Store} {id : Int} {e : ExecutionRecord} (artifacts : Dict ArtifactList) :
      Arises s → s.executions.get? id = some e → Arises (s.setInputArtifacts id artifacts)
  | outputArtifact {s : Store} {id : Int} {e : ExecutionRecord} (a : OutputArtifact) :
      Arises s → s.executions.get? id = some e → Arises (s.addOutputArtifact id a)

theorem Store.Arises.ordered {s : Store} (arises : s.Arises) : s.Ordered := by
  induction arises with
  | empty => exact .empty
  | invoke d s o kind _ ih => exact Plan.run_ordered s _ _ ih
  | publish _ published ih => exact ih.publish published
  | insert e _ ih => exact ih.insert e
  | inputArtifacts artifacts _ stored ih => exact ih.setInputArtifacts stored artifacts
  | outputArtifact a _ stored ih => exact ih.addOutputArtifact stored a

/-- The ends that others publish, whether they are accepted or not. -/
theorem Store.Arises.perform_publish {s : Services} {w : World} {id : Int} {parameters : Dict Json}
    {artifacts : List OutputArtifact} {state : ExecutionState} (arises : w.store.Arises) :
    ((Plan.perform (.publish id parameters artifacts state)).run s w).2.store.Arises := by
  simp only [Plan.perform, Plan.run, World.answer]
  split
  · exact arises
  · simp only [World.serve]
    split
    · rename_i published
      exact arises.publish published
    · exact arises

/-! A task that runs in one graph and then in another, where it is found in the cache. Its component
declares an artifact with the name of the logs. -/
namespace Twice

def root (runId : String) : Options where
  pipelineName := "pipeline"
  runId := runId
  nspace := "team"
  component := some {}
  runtimeConfig := some {}

def component : ComponentSpec where
  outputs := {
    parameters := .ofList [("loss", { type := .numberDouble })]
    artifacts := .ofList [("executor-logs", ⟨{ schemaTitle := some "system.HTML" }, none⟩),
      ("model", ⟨{ schemaTitle := some "system.Model" }, none⟩)] }

def train (runId : String) (graph : Int) : Options where
  pipelineName := "pipeline"
  runId := runId
  nspace := "team"
  component := some component
  container := some { image := "python:3" }
  task := some { name := "train", enableCache := true }
  dagExecutionId := graph
  publishLogs := "true"

def begun : World := ((root "first").runRootDag.run {} {}).2

def trained : World := (((train "first" 1).runContainer {}).run {} begun).2

def outputs : List OutputArtifact :=
  [{ name := "executor-logs", uri := "s3://logs", schema := "system.HTML" },
    { name := "model", uri := "s3://model", schema := "system.Artifact" }]

def finished : World :=
  ((Plan.perform (.publish 2 (.ofList [("loss", .int 1)]) outputs .complete)).run {} trained).2

def fingerprint : String :=
  ((finished.store.executions.get? 2).map ExecutionRecord.fingerprint).getD ""

def recorded : World := ((CacheKey.record (train "first" 1) 2 fingerprint).run {} finished).2

def again : World := ((root "second").runRootDag.run {} recorded).2

def ran : Result Execution × World := ((train "second" 3).runContainer {}).run {} again

theorem again_arises : again.store.Arises := by
  have begun_arises : begun.store.Arises := .invoke {} {} (root "first") .rootDag .empty
  have trained_arises : trained.store.Arises :=
    .invoke {} {} (train "first" 1) .container begun_arises
  have finished_arises : finished.store.Arises := trained_arises.perform_publish
  have recorded_arises : recorded.store.Arises := finished_arises
  exact .invoke {} {} (root "second") .rootDag recorded_arises

def graph (id : Int) : ExecutionRecord := (again.store.executions.get? id).getD {}

/-- The execution to which an output of the task is traced at last, and the output's name there. -/
def traced (side : OutputSide) (runId : String) (id : Int) (key : String) : Option (Int × String) :=
  ((producedBy side runId (graph id) ⟨"train", key⟩).run {} ran.2).1.toOption.map fun found =>
    (found.1.id, found.2)

theorem ran_reuses :
    (ran.1.toOption.map fun e => (e.id, e.cached)) = some (4, some true) ∧
    ((ran.2.store.executions.get? 4).map fun record => record.cachedExecutionId) = some "2" ∧
    ((ran.2.store.outputArtifactsOf 4).get? logsArtifact).map OutputArtifact.schema =
      some "system.Artifact" ∧
    traced .parameter "first" 1 "loss" = some (2, "loss") ∧
    traced .parameter "second" 3 "loss" = some (4, "loss") ∧
    traced .artifact "first" 1 "model" = some (2, "model") ∧
    traced .artifact "second" 3 "model" = some (4, "model") := by
  decide +kernel

theorem ran_ok : ∃ e, ((train "second" 3).runContainer {}).run {} again = (.ok e, ran.2) ∧
    e.id = 4 ∧ e.cached = some true := by
  obtain ⟨e, w', run, same⟩ := Plan.run_of_map ran_reuses.1
  obtain ⟨id, hit⟩ := Prod.mk.inj same
  obtain rfl : ran.2 = w' := congrArg Prod.snd run
  exact ⟨e, run, id, hit⟩

end Twice

end TaskGraph
