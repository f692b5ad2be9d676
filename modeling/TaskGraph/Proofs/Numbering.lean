import TaskGraph.Proofs.Contexts

/-! The numbers of a store. Executions, artifacts and pipelines are numbered apart, each kind in
ascending order. Whatever is done to a store, also under numbers that others chose, no number stands
for two records of a kind, and no operation touches a record that it is not for. -/

namespace TaskGraph

/-- Artifacts under their names, with the numbers that they get when they are added in turn. -/
def OutputArtifact.numbered (last : Int) : List OutputArtifact → List (String × OutputArtifact)
  | [] => []
  | a :: rest => (a.name, { a with id := last + 1 }) :: numbered (last + 1) rest

namespace Store

variable {s s' : Store}

/-- What can be done to a store. -/
inductive Change where
  | pipeline (q : PipelineQuery)
  | insert (e : ExecutionRecord)
  | create (p : Pipeline) (config : ExecutionConfig)
  | publish (id : Int) (parameters : Dict Json) (artifacts : List OutputArtifact)
      (state : ExecutionState)
  | setInputArtifacts (id : Int) (artifacts : Dict ArtifactList)
  | addOutputArtifact (id : Int) (a : OutputArtifact)

/-- The store after a change. One that is refused leaves it as it is. -/
def apply (s : Store) : Change → Store
  | .pipeline q => (s.pipeline q).2
  | .insert e => (s.insert e).2
  | .create p config => (s.create p config).2
  | .publish id parameters artifacts state =>
    match s.publish id parameters artifacts state with
    | .ok s' => s'
    | .error _ => s
  | .setInputArtifacts id artifacts => s.setInputArtifacts id artifacts
  | .addOutputArtifact id a => s.addOutputArtifact id a

/-- The store after some changes, one after the other. -/
def after (s : Store) (changes : List Change) : Store := changes.foldl apply s

/-- Every output artifact is kept under its own name, and its number was given out to it alone. -/
structure ArtifactsNumbered (s : Store) : Prop where
  named : ∀ id name a, (s.outputArtifactsOf id).get? name = some a → a.name = name
  bounded : ∀ id name a, (s.outputArtifactsOf id).get? name = some a → a.id ≤ s.lastArtifact
  distinct : ∀ id name a id' name' a', (s.outputArtifactsOf id).get? name = some a →
    (s.outputArtifactsOf id').get? name' = some a' → a.id = a'.id → id = id' ∧ name = name'

/-- The pipelines have ascending numbers that were given out, and there is one for each run. -/
structure ContextsNumbered (s : Store) : Prop where
  bounded : ∀ p ∈ s.pipelines, p.contextId ≤ s.lastContext
  ascending : s.pipelines.Pairwise fun p q => p.contextId < q.contextId
  runs : s.pipelines.Pairwise fun p q => ¬(p.name = q.name ∧ p.runId = q.runId)

/-- A store whose records have numbers of their own. -/
structure Numbered (s : Store) : Prop where
  keyed : s.Keyed
  bounded : s.Bounded
  artifacts : s.ArtifactsNumbered
  contexts : s.ContextsNumbered

/-- An execution is added to a store under a number above all others, and all that there was stays. -/
structure Adds (s s' : Store) (e : ExecutionRecord) : Prop where
  above : ∀ id old, s.executions.get? id = some old → id < e.id
  stored : s'.executions.get? e.id = some e
  keeps : ∀ id old, s.executions.get? id = some old → s'.executions.get? id = some old
  inputs : ∀ id, id ≠ e.id → s'.inputArtifactsOf id = s.inputArtifactsOf id
  rest : s' = { s with
    lastExecution := e.id, executions := s'.executions, inputArtifacts := s'.inputArtifacts }

/-- One execution is ended: it gets a state, more output parameters and more output artifacts. All
else stays. -/
structure Ends (s s' : Store) (e : ExecutionRecord) (parameters : Dict Json)
    (artifacts : List OutputArtifact) (state : ExecutionState) : Prop where
  record : ∃ e', s'.executions.get? e.id = some e' ∧ e.Becomes e' ∧ e'.state = state ∧
    ∀ key, e'.outputParameters.get? key = (parameters.get? key).or (e.outputParameters.get? key)
  outputs : s'.outputArtifactsOf e.id =
    (s.outputArtifactsOf e.id).insertAll (OutputArtifact.numbered s.lastArtifact artifacts)
  others : ∀ id, id ≠ e.id → s'.executions.get? id = s.executions.get? id ∧
    s'.outputArtifactsOf id = s.outputArtifactsOf id
  rest : s' = { s with
    executions := s'.executions, outputArtifacts := s'.outputArtifacts,
    lastArtifact := s'.lastArtifact }

theorem apply_eq_or_step (s : Store) (c : Change) : s.apply c = s ∨ Step s (s.apply c) := by
  cases c with
  | publish id parameters artifacts state =>
    simp only [apply]
    split
    · rename_i published
      exact .inr (.publish published)
    · exact .inl rfl
  | pipeline q => exact .inr (.pipeline s q)
  | insert e => exact .inr (.insert s e)
  | create p config => exact .inr (.create s p config)
  | setInputArtifacts id artifacts => exact .inr (.setInputArtifacts s id artifacts)
  | addOutputArtifact id a => exact .inr (.addOutputArtifact s id a)

/-- What holds of a store and is kept by every operation holds after any changes. -/
theorem after_keeps {motive : Store → Prop} (step : ∀ a b, Step a b → motive a → motive b)
    (changes : List Change) (start : motive s) : motive (s.after changes) := by
  induction changes generalizing s with
  | nil => exact start
  | cons c rest ih =>
    apply ih
    rcases apply_eq_or_step s c with same | stepped
    · rw [same]
      exact start
    · exact step _ _ stepped start

/-! Artifacts. -/

/-- An artifact that is found once one was added is that one, or it was there before. -/
theorem addOutputArtifact_get? {id id' : Int} {name : String} {a b : OutputArtifact}
    (found : ((s.addOutputArtifact id a).outputArtifactsOf id').get? name = some b) :
    (id' = id ∧ name = a.name ∧ b = { a with id := s.lastArtifact + 1 }) ∨
      (s.outputArtifactsOf id').get? name = some b := by
  rw [addOutputArtifact_outputArtifactsOf] at found
  by_cases here : id' = id
  · rw [if_pos here, SortedMap.get?_insert] at found
    by_cases named : name = a.name
    · rw [if_pos named] at found
      exact .inl ⟨here, named, (Option.some.inj found).symm⟩
    · rw [if_neg named] at found
      exact .inr (here ▸ found)
  · rw [if_neg here] at found
    exact .inr found

theorem ArtifactsNumbered.addOutputArtifact (numbered : s.ArtifactsNumbered) (id : Int)
    (a : OutputArtifact) : (s.addOutputArtifact id a).ArtifactsNumbered where
  named id' name b found := by
    rcases addOutputArtifact_get? found with ⟨-, rfl, rfl⟩ | earlier
    · rfl
    · exact numbered.named id' name b earlier
  bounded id' name b found := by
    change b.id ≤ s.lastArtifact + 1
    rcases addOutputArtifact_get? found with ⟨-, -, rfl⟩ | earlier
    · exact Int.le_refl _
    · have below := numbered.bounded id' name b earlier
      omega
  distinct id₁ name₁ b₁ id₂ name₂ b₂ found₁ found₂ same := by
    -- The new artifact has a number above all others, so it shares it with itself only.
    rcases addOutputArtifact_get? found₁ with ⟨rfl, rfl, rfl⟩ | earlier₁ <;>
      rcases addOutputArtifact_get? found₂ with ⟨rfl, rfl, rfl⟩ | earlier₂
    · exact ⟨rfl, rfl⟩
    · have below := numbered.bounded _ _ _ earlier₂
      simp only at same
      omega
    · have below := numbered.bounded _ _ _ earlier₁
      simp only at same
      omega
    · exact numbered.distinct _ _ _ _ _ _ earlier₁ earlier₂ same

theorem ArtifactsNumbered.addOutputArtifacts (numbered : s.ArtifactsNumbered) (id : Int)
    (artifacts : List OutputArtifact) :
    (artifacts.foldl (fun s a => s.addOutputArtifact id a) s).ArtifactsNumbered := by
  induction artifacts generalizing s with
  | nil => exact numbered
  | cons a rest ih => exact ih (numbered.addOutputArtifact id a)

theorem addOutputArtifacts_own (id : Int) (artifacts : List OutputArtifact) (s : Store) :
    (artifacts.foldl (fun s a => s.addOutputArtifact id a) s).outputArtifactsOf id =
      (s.outputArtifactsOf id).insertAll (OutputArtifact.numbered s.lastArtifact artifacts) := by
  induction artifacts generalizing s with
  | nil => rfl
  | cons a rest ih =>
    rw [List.foldl_cons, ih, addOutputArtifact_outputArtifactsOf, if_pos rfl]
    rfl

theorem addOutputArtifacts_rest (id : Int) (artifacts : List OutputArtifact) (s : Store) :
    artifacts.foldl (fun s a => s.addOutputArtifact id a) s =
      let s' := artifacts.foldl (fun s a => s.addOutputArtifact id a) s
      { s with outputArtifacts := s'.outputArtifacts, lastArtifact := s'.lastArtifact } := by
  induction artifacts generalizing s with
  | nil => rfl
  | cons a rest ih =>
    rw [List.foldl_cons, ih]
    rfl

theorem ArtifactsNumbered.of_same (numbered : s.ArtifactsNumbered)
    (outputs : ∀ id, s'.outputArtifactsOf id = s.outputArtifactsOf id)
    (last : s'.lastArtifact = s.lastArtifact) : s'.ArtifactsNumbered where
  named id name a found := numbered.named id name a (outputs id ▸ found)
  bounded id name a found := last ▸ numbered.bounded id name a (outputs id ▸ found)
  distinct id name a id' name' a' found found' :=
    numbered.distinct id name a id' name' a' (outputs id ▸ found) (outputs id' ▸ found')

theorem Step.artifactsNumbered (step : Step s s') (numbered : s.ArtifactsNumbered) :
    s'.ArtifactsNumbered := by
  cases step with
  | pipeline =>
    unfold Store.pipeline
    split <;> exact numbered.of_same (fun _ => rfl) rfl
  | insert => exact numbered.of_same (fun _ => rfl) rfl
  | create => exact numbered.of_same (fun _ => rfl) rfl
  | publish published =>
    obtain ⟨e, _, rfl⟩ := publish_ok published
    refine ArtifactsNumbered.addOutputArtifacts ?_ _ _
    exact numbered.of_same (fun _ => rfl) rfl
  | setInputArtifacts => exact numbered.of_same (fun _ => rfl) rfl
  | addOutputArtifact _ id a => exact numbered.addOutputArtifact id a

/-! Pipelines. -/

theorem pipeline?_eq_none_iff {name runId : String} :
    s.pipeline? name runId = none ↔ ∀ p ∈ s.pipelines, ¬(p.name = name ∧ p.runId = runId) := by
  simp [pipeline?, List.find?_eq_none]

theorem ContextsNumbered.pipeline (numbered : s.ContextsNumbered) (q : PipelineQuery) :
    (s.pipeline q).2.ContextsNumbered := by
  cases known : s.pipeline? q.name q.runId with
  | some p =>
    rw [pipeline_of_found known]
    exact numbered
  | none =>
    have absent := pipeline?_eq_none_iff.1 known
    rw [pipeline_of_absent known]
    constructor
    · intro p member
      rcases List.mem_append.1 member with earlier | new
      · exact Int.le_trans (numbered.bounded p earlier) (Int.le_of_lt (Int.lt_succ _))
      · obtain rfl := List.mem_singleton.1 new
        exact Int.le_refl _
    · refine List.pairwise_append.2 ⟨numbered.ascending, List.pairwise_singleton .., ?_⟩
      intro p earlier r new
      have below := numbered.bounded p earlier
      rw [List.mem_singleton.1 new]
      exact Int.lt_add_one_of_le below
    · refine List.pairwise_append.2 ⟨numbered.runs, List.pairwise_singleton .., ?_⟩
      intro p earlier r new
      rw [List.mem_singleton.1 new]
      exact absent p earlier

/-- The other operations leave the pipelines alone. -/
theorem Step.pipelines (step : Step s s') : (∃ q, s' = (s.pipeline q).2) ∨
    (s'.pipelines = s.pipelines ∧ s'.lastContext = s.lastContext) := by
  cases step with
  | pipeline _ q => exact .inl ⟨q, rfl⟩
  | publish published =>
    obtain ⟨e, _, rfl⟩ := publish_ok published
    right
    rw [addOutputArtifacts_rest]
    exact ⟨rfl, rfl⟩
  | insert | create | setInputArtifacts | addOutputArtifact => exact .inr ⟨rfl, rfl⟩

theorem Step.contextsNumbered (step : Step s s') (numbered : s.ContextsNumbered) :
    s'.ContextsNumbered := by
  rcases step.pipelines with ⟨q, rfl⟩ | ⟨pipelines, last⟩
  · exact numbered.pipeline q
  · constructor
    · rw [pipelines, last]
      exact numbered.bounded
    · rw [pipelines]
      exact numbered.ascending
    · rw [pipelines]
      exact numbered.runs

theorem Step.pipelines_grow (step : Step s s') : s.pipelines <+: s'.pipelines := by
  rcases step.pipelines with ⟨q, rfl⟩ | ⟨pipelines, -⟩
  · unfold Store.pipeline
    split
    · exact List.prefix_rfl
    · exact List.prefix_append ..
  · exact pipelines ▸ List.prefix_rfl

theorem after_pipelines_grow (s : Store) (changes : List Change) :
    s.pipelines <+: (s.after changes).pipelines := by
  refine after_keeps (motive := fun after => s.pipelines <+: after.pipelines) ?_ changes
    List.prefix_rfl
  intro a b step earlier
  exact earlier.trans step.pipelines_grow

/-- A query for a pipeline that was set up is answered with it, whatever was done since. -/
theorem after_pipeline_eq {q : PipelineQuery} {p : Pipeline}
    (known : s.pipeline? q.name q.runId = some p) (changes : List Change) :
    ((s.after changes).pipeline q).1 = p := by
  have still : (s.after changes).pipeline? q.name q.runId = some p :=
    (s.after_pipelines_grow changes).find?_eq_some known
  rw [pipeline_of_found still]

/-! Executions. -/

theorem Step.numbered (step : Step s s') (numbered : s.Numbered) : s'.Numbered where
  keyed := step.keyed numbered.keyed
  bounded := step.bounded numbered.bounded
  artifacts := step.artifactsNumbered numbered.artifacts
  contexts := step.contextsNumbered numbered.contexts

theorem Numbered.empty : ({} : Store).Numbered where
  keyed := Reachable.empty.keyed
  bounded := Reachable.empty.bounded
  artifacts := by
    constructor <;> intros <;> simp_all [outputArtifactsOf]
  contexts := by
    constructor <;> simp

theorem Numbered.create (numbered : s.Numbered) (p : Pipeline) (config : ExecutionConfig) :
    s.Adds (s.create p config).2 (s.create p config).1 where
  above id old stored := Int.lt_add_one_of_le (numbered.bounded id old stored)
  stored := SortedMap.get?_insert_self ..
  keeps id old stored := by
    have below := numbered.bounded id old stored
    have apart : id ≠ s.lastExecution + 1 := by omega
    simp only [Store.create]
    rw [SortedMap.get?_insert, if_neg apart, stored]
  inputs id other := by
    change id ≠ s.lastExecution + 1 at other
    simp only [inputArtifactsOf, Store.create]
    split
    · rfl
    · rw [SortedMap.get?_insert, if_neg other]
  rest := rfl

theorem publish_of_absent {id : Int} (absent : s.executions.get? id = none)
    (parameters : Dict Json) (artifacts : List OutputArtifact) (state : ExecutionState) :
    s.publish id parameters artifacts state = .fail (.executionNotFound id) := by
  simp only [publish, execution, absent]
  rfl

theorem Numbered.publish (numbered : s.Numbered) {id : Int} {e : ExecutionRecord}
    (stored : s.executions.get? id = some e) (parameters : Dict Json)
    (artifacts : List OutputArtifact) (state : ExecutionState) :
    ∃ s', s.publish id parameters artifacts state = .ok s' ∧
      s.Ends s' e parameters artifacts state := by
  obtain rfl := numbered.keyed id e stored
  let e' : ExecutionRecord :=
    { e with state, outputParameters := e.outputParameters.union parameters }
  let ended : Store := { s with executions := s.executions.insert e.id e' }
  have published : s.publish e.id parameters artifacts state =
      .ok (artifacts.foldl (fun s a => s.addOutputArtifact e.id a) ended) := by
    unfold Store.publish
    rw [execution_eq_ok_iff.2 stored]
    rfl
  refine ⟨_, published, ?_⟩
  constructor
  · refine ⟨e', ?_, rfl, rfl, fun key => SortedMap.get?_union ..⟩
    rw [foldl_addOutputArtifact_executions]
    exact SortedMap.get?_insert_self ..
  · exact addOutputArtifacts_own e.id artifacts ended
  · intro id other
    rw [foldl_addOutputArtifact_executions]
    refine ⟨?_, addOutputArtifacts_other other artifacts ended⟩
    simp only [ended]
    rw [SortedMap.get?_insert, if_neg other]
  · rw [addOutputArtifacts_rest]

/-- After any changes of an empty store its records have numbers of their own. An execution that is
created then has a number above all others and leaves every record as it is. One that is not there
cannot be ended, and the end of one that is there changes its state and its outputs alone. The
pipelines stay as they were set up. -/
theorem numbered_after (changes : List Change) :
    (after {} changes).Numbered ∧
    (∀ p config, (after {} changes).Adds ((after {} changes).create p config).2
      ((after {} changes).create p config).1) ∧
    (∀ id parameters artifacts state, (after {} changes).executions.get? id = none →
      (after {} changes).publish id parameters artifacts state = .fail (.executionNotFound id) ∧
      (after {} changes).apply (.publish id parameters artifacts state) = after {} changes) ∧
    (∀ id e parameters artifacts state, (after {} changes).executions.get? id = some e →
      ∃ s', (after {} changes).publish id parameters artifacts state = .ok s' ∧
        (after {} changes).Ends s' e parameters artifacts state) ∧
    ∀ later, (after {} changes).pipelines <+: ((after {} changes).after later).pipelines ∧
      ∀ q p, (after {} changes).pipeline? q.name q.runId = some p →
        (((after {} changes).after later).pipeline q).1 = p := by
  have numbered : (after {} changes).Numbered :=
    after_keeps (fun _ _ step => step.numbered) changes .empty
  refine ⟨numbered, numbered.create, ?_, ?_, ?_⟩
  · intro id parameters artifacts state absent
    have refused := publish_of_absent absent parameters artifacts state
    refine ⟨refused, ?_⟩
    simp only [apply, refused, Result.fail]
  · intro id e parameters artifacts state stored
    exact numbered.publish stored parameters artifacts state
  · intro later
    exact ⟨after_pipelines_grow _ later, fun q p known => after_pipeline_eq known later⟩

end Store

end TaskGraph
