import Mathlib.Tactic.ByContra
import TaskGraph.Proofs.Resolve.Chains
import TaskGraph.Proofs.Resolve.Reads

/-! Nulls that the graph hands to a task. Only such a null is reported as a resolved null, whatever
layers are put around it, and it is reported if no input before it fails. -/

namespace TaskGraph

variable {α β : Type} {s : Services} {w : World}

/-! ### Failures of other kinds -/

@[simp] theorem Error.kind_within (layer : Layer) (e : Error) : (e.within layer).kind = e.kind := rfl

/-- Layers do not change the kind of an error. -/
theorem Error.kind_layers (layers : List Layer) (e : Error) :
    (layers.foldr Error.within e).kind = e.kind := by
  induction layers with
  | nil => rfl
  | cons layer layers ih => exact ih

/-- A result that is no resolved null. -/
def Result.Ordinary (r : Result α) : Prop := ∀ e, r = .error e → e.kind ≠ .resolvedNull

/-- A plan that ends in no resolved null, unless a call is answered with one. -/
def Plan.Ordinary : Plan α → Prop
  | .done r => r.Ordinary
  | .call _ next => ∀ reply, Result.Ordinary reply → (next reply).Ordinary

/-- The store has no resolved nulls of its own to report. -/
def Services.Ordinary (s : Services) : Prop :=
  ∀ operation fault, s.storeFault operation = some fault → fault.kind ≠ .resolvedNull

namespace Result

theorem ordinary_ok (x : α) : Ordinary (.ok x) := nofun

theorem ordinary_fail {fault : Fault} (other : (fault.kind == .resolvedNull) = false) :
    Ordinary (fail fault : Result α) := by
  rintro e ⟨⟩
  exact ne_of_beq_false other

theorem Ordinary.within {r : Result α} (ordinary : r.Ordinary) (layer : Layer) :
    (r.within layer).Ordinary := by
  cases r with
  | ok x => exact ordinary_ok x
  | error e =>
    rintro _ ⟨⟩
    exact ordinary e rfl

theorem Ordinary.bind {r : Result α} {f : α → Result β} (first : r.Ordinary)
    (rest : ∀ x, (f x).Ordinary) : (r >>= f).Ordinary := by
  cases r with
  | ok x => exact rest x
  | error e =>
    rintro _ ⟨⟩
    exact first e rfl

theorem ordinary_foldlM {f : β → α → Result β} (each : ∀ y x, (f y x).Ordinary) (xs : List α)
    (start : β) : Ordinary (xs.foldlM f start) := by
  induction xs generalizing start with
  | nil => exact ordinary_ok start
  | cons x rest ih =>
    rw [List.foldlM_cons]
    exact (each start x).bind ih

end Result

namespace Plan

theorem ordinary_pure (x : α) : (pure x : Plan α).Ordinary := Result.ordinary_ok x

theorem ordinary_fail {fault : Fault} (other : (fault.kind == .resolvedNull) = false) :
    (Plan.fail fault : Plan α).Ordinary :=
  Result.ordinary_fail other

theorem ordinary_perform (c : Call) : (Plan.perform c).Ordinary := fun _ ordinary => ordinary

theorem Ordinary.within {p : Plan α} (ordinary : p.Ordinary) (layer : Layer) :
    (p.within layer).Ordinary := by
  induction p with
  | done r => exact Result.Ordinary.within ordinary layer
  | call c next ih => exact fun reply answered => ih reply (ordinary reply answered)

theorem Ordinary.bind {p : Plan α} {f : α → Plan β} (first : p.Ordinary)
    (rest : ∀ x, (f x).Ordinary) : (p >>= f).Ordinary := by
  change (p.bind f).Ordinary
  induction p with
  | done r =>
    cases r with
    | error e =>
      rintro _ ⟨⟩
      exact first e rfl
    | ok x => exact rest x
  | call c next ih => exact fun reply answered => ih reply (first reply answered)

theorem ordinary_foldlM {f : β → α → Plan β} (each : ∀ y x, (f y x).Ordinary) (xs : List α)
    (start : β) : (xs.foldlM f start).Ordinary := by
  induction xs generalizing start with
  | nil => exact ordinary_pure start
  | cons x rest ih =>
    rw [List.foldlM_cons]
    exact (each start x).bind ih

theorem ordinary_mapM {f : α → Plan β} (each : ∀ x, (f x).Ordinary) (xs : List α) :
    (xs.mapM f).Ordinary := by
  induction xs with
  | nil => exact ordinary_pure []
  | cons x rest ih =>
    rw [List.mapM_cons]
    exact (each x).bind fun _ => ih.bind fun _ => ordinary_pure _

end Plan

namespace Store

theorem execution_ordinary (store : Store) (id : Int) : (store.execution id).Ordinary := by
  unfold execution
  split
  · exact Result.ordinary_ok _
  · exact Result.ordinary_fail rfl

theorem dag_ordinary (store : Store) (id : Int) : (store.dag id).Ordinary := by
  refine (store.execution_ordinary id).bind fun e => ?_
  split
  · exact Result.ordinary_ok _
  · exact Result.ordinary_fail rfl

theorem tasks_ordinary (store : Store) (runId : String) (parent : Option Int) :
    (store.tasks runId parent).Ordinary := by
  refine Result.ordinary_foldlM (fun tasks e => ?_) _ _
  unfold addTask
  split
  · exact Result.ordinary_fail rfl
  · exact Result.ordinary_ok _

end Store

/-- The store answers no question with a resolved null. -/
theorem World.answer_ordinary (ordinary : s.Ordinary) (w : World) {c : Call}
    (looks : c.readsStore = true) : (w.answer s c).1.Ordinary := by
  unfold World.answer
  split
  · rename_i fault found
    refine Result.ordinary_fail (beq_false_of_ne ?_)
    cases c <;> simp [Call.readsStore] at looks
    all_goals exact ordinary _ fault found
  · cases c <;> simp [Call.readsStore] at looks
    · exact w.store.dag_ordinary _
    · exact w.store.tasks_ordinary _ _
    · exact Result.ordinary_ok _
    · exact Result.ordinary_ok _
    · exact w.store.execution_ordinary _

theorem Plan.Ordinary.run {p : Plan α} (plain : p.Ordinary) (looks : p.ReadsStore)
    (ordinary : s.Ordinary) (w : World) : (p.run s w).1.Ordinary := by
  induction p generalizing w with
  | done r => exact plain
  | call c next ih =>
    exact ih _ (plain _ (w.answer_ordinary ordinary looks.1)) (looks.2 _) _

/-! ### Outputs of other tasks -/

variable {runId : String} {start : Int}

theorem NoHop.kind_ne {side : OutputSide} {tasks : Dict ExecutionRecord} {graph : ExecutionRecord}
    {key : String} {fault : Fault} (h : NoHop side tasks graph key fault) :
    fault.kind ≠ .resolvedNull := by
  refine ne_of_beq_false ?_
  cases h with
  | noProducers => cases side <;> rfl
  | _ => rfl

theorem descendToLeaf_ordinary (side : OutputSide) (tasks : Dict ExecutionRecord) (first : String)
    (fuel : Nat) (task : ExecutionRecord) (key : String) :
    (descendToLeaf side tasks first fuel task key).Ordinary := by
  intro e failed
  obtain ⟨_, -, _, fault, -, stuck, rfl⟩ | ⟨-, rfl⟩ := descendToLeaf_error_iff.1 failed
  · exact stuck.noHop.kind_ne
  · exact ne_of_beq_false rfl

theorem nestedDags_ordinary (tasks : List ExecutionRecord) : (nestedDags tasks).Ordinary := by
  induction tasks with
  | nil => exact Plan.ordinary_pure []
  | cons task rest ih =>
    unfold nestedDags
    split
    · exact (Plan.ordinary_perform _).bind fun _ => ih.bind fun _ => Plan.ordinary_pure _
    · exact ih

theorem collectTasks_ordinary (depth : Nat) (dag : ExecutionRecord) (before : Collected) :
    (collectTasks runId start depth dag before).Ordinary := by
  induction depth generalizing dag before with
  | zero => exact Plan.ordinary_fail rfl
  | succ depth ih =>
    unfold collectTasks
    split
    · exact Plan.ordinary_fail rfl
    · exact (Plan.ordinary_perform _).bind fun tasks => (nestedDags_ordinary _).bind fun nested =>
        Plan.ordinary_foldlM (fun found dag => ih dag found) _ _

theorem producedBy_ordinary (side : OutputSide) (dag : ExecutionRecord) (o : TaskOutput) :
    (producedBy side runId dag o).Ordinary := by
  unfold producedBy
  split
  · exact Plan.ordinary_fail (by cases side <;> rfl)
  split
  · exact Plan.ordinary_fail (by cases side <;> rfl)
  refine ((collectTasks_ordinary _ _ _).bind fun _ => Plan.ordinary_pure _).bind fun tasks => ?_
  split
  · exact Plan.ordinary_fail rfl
  · exact descendToLeaf_ordinary _ _ _ _ _ _

theorem producedParameter_ordinary (dag : ExecutionRecord) (o : TaskOutput) :
    (producedParameter runId dag o).Ordinary := by
  refine (producedBy_ordinary _ _ _).bind fun ⟨leaf, key⟩ => ?_
  dsimp only
  split
  · exact Plan.ordinary_pure _
  · exact Plan.ordinary_fail rfl

theorem producedArtifact_ordinary (dag : ExecutionRecord) (o : TaskOutput) :
    (producedArtifact runId dag o).Ordinary := by
  refine (producedBy_ordinary _ _ _).bind fun ⟨leaf, key⟩ => ?_
  refine (Plan.ordinary_perform _).bind fun outputs => ?_
  split
  · exact Plan.ordinary_pure _
  · exact Plan.ordinary_fail rfl

/-! ### Inputs -/

theorem TaskScope.artifact_ordinary (scope : TaskScope) (dagArtifacts : Dict ArtifactList)
    (name : String) (spec : InputArtifactSpec) : (scope.artifact dagArtifacts name spec).Ordinary := by
  refine Plan.Ordinary.within ?_ _
  split
  · split
    · exact Plan.ordinary_fail rfl
    · split
      · exact Plan.ordinary_pure _
      · exact Plan.ordinary_fail rfl
  · exact producedArtifact_ordinary _ _
  · exact Plan.ordinary_fail rfl

theorem applySelectors_ordinary (task : TaskSpec) (parameters : Dict Json) :
    (applySelectors task parameters).Ordinary := by
  refine Result.ordinary_foldlM (fun ps ⟨name, spec⟩ => ?_) _ _
  dsimp only
  unfold applySelector
  split
  · exact Result.ordinary_ok _
  · refine Result.Ordinary.within ?_ _
    split
    · exact Result.ordinary_fail rfl
    · split
      · exact Result.ordinary_ok _
      · exact Result.ordinary_fail rfl

theorem checkValue_ordinary (name : String) (type : ParameterType) (value : Json) :
    (checkValue name type value).Ordinary := by
  unfold checkValue
  split
  · exact Result.ordinary_ok _
  split
  · exact Result.ordinary_fail rfl
  split
  · exact Result.ordinary_ok _
  · exact Result.ordinary_fail rfl

theorem checkParameters_ordinary (task : TaskSpec) (component : ComponentSpec) (iteration : Bool)
    (parameters : Dict Json) : (checkParameters task component iteration parameters).Ordinary := by
  refine Result.ordinary_foldlM (fun ps ⟨name, definition⟩ => ?_) _ _
  dsimp only
  split
  · exact Result.ordinary_ok _
  unfold checkParameter
  split
  · exact (checkValue_ordinary _ _ _).bind fun _ => Result.ordinary_ok _
  · split
    · exact Result.ordinary_ok _
    · exact Result.ordinary_fail rfl

/-- The graph has a null for an input that a task takes from it. -/
def InputParameterSpec.HandsNull (spec : InputParameterSpec) (dag : ExecutionRecord) : Prop :=
  ∃ outer, spec.source = some (.componentInput outer) ∧ outer ≠ "" ∧
    dag.inputParameters.get? outer = some .null

variable {scope : TaskScope} {task : TaskSpec} {component : ComponentSpec}

theorem TaskScope.parameter_of_handsNull {spec : InputParameterSpec}
    (hands : spec.HandsNull scope.dag) :
    ∃ outer, scope.parameter spec = Plan.fail (.resolvedNull outer) := by
  obtain ⟨outer, source, named, null⟩ := hands
  refine ⟨outer, ?_⟩
  unfold TaskScope.parameter
  simp [source, named, null]

theorem TaskScope.parameter_ordinary {spec : InputParameterSpec}
    (other : ¬ spec.HandsNull scope.dag) : (scope.parameter spec).Ordinary := by
  unfold TaskScope.parameter
  split
  · rename_i outer source
    split
    · refine Plan.Ordinary.within ?_ _
      exact Plan.ordinary_fail rfl
    · rename_i named
      split
      · refine Plan.Ordinary.within ?_ _
        exact Plan.ordinary_fail rfl
      · rename_i null
        exact absurd ⟨outer, source, by simpa using named, null⟩ other
      · exact Plan.ordinary_pure _
  · exact (producedParameter_ordinary _ _).within _
  · exact Plan.ordinary_pure _
  all_goals
    refine Plan.Ordinary.within ?_ _
    exact Plan.ordinary_fail rfl

/-! ### The first failure counts -/

/-- A run that ends in a resolved null. -/
def Plan.EndsNull (p : Plan α) (s : Services) (w : World) : Prop :=
  ∃ e, (p.run s w).1 = .error e ∧ e.kind = .resolvedNull

namespace Plan

theorem endsNull_within_iff {p : Plan α} {layer : Layer} :
    (p.within layer).EndsNull s w ↔ p.EndsNull s w := by
  unfold EndsNull
  rw [run_within]
  rcases p.run s w with ⟨e | x, v⟩ <;> simp

/-- What cannot end in a resolved null does not count. -/
theorem endsNull_bind_iff {p : Plan α} {f : α → Plan β} (ordinary : s.Ordinary)
    (looks : ∀ x, (f x).ReadsStore) (plain : ∀ x, (f x).Ordinary) :
    (p >>= f).EndsNull s w ↔ p.EndsNull s w := by
  unfold EndsNull
  rw [run_bind]
  rcases p.run s w with ⟨e | x, v⟩
  · simp
  · have other := (plain x).run (looks x) ordinary v
    constructor
    · rintro ⟨e, failed, null⟩
      exact absurd null (other e failed)
    · rintro ⟨e, failed, null⟩
      cases failed

/-- A list that is filtered by plans that only look fails as the first of them does that fails. -/
theorem filterMapM_error_iff {f : α → Plan (Option β)} {fails : α → Bool}
    (reads : ∀ x, (f x).Reads)
    (failing : ∀ x, fails x = true ↔ ∃ e, ((f x).run s w).1 = .error e) (xs : List α) (e : Error) :
    ((xs.filterMapM f).run s w).1 = .error e ↔
      ∃ x, xs.find? fails = some x ∧ ((f x).run s w).1 = .error e := by
  induction xs with
  | nil => simp
  | cons x rest ih =>
    have same := (reads x).run (s := s) w
    rw [List.filterMapM_cons, run_bind]
    rcases run : (f x).run s w with ⟨e' | y?, v⟩
    · have fail : fails x = true := (failing x).2 ⟨e', by rw [run]⟩
      simp [List.find?_cons_of_pos fail, run]
    · have pass : ¬ fails x = true := fun fail => by
        obtain ⟨e', failed⟩ := (failing x).1 fail
        rw [run] at failed
        cases failed
      obtain rfl : v = w := by rwa [run] at same
      rw [List.find?_cons_of_neg pass, ← ih]
      cases y? with
      | none => rfl
      | some y =>
        dsimp only
        rw [run_bind]
        rcases (rest.filterMapM f).run s v with ⟨e' | ys, u⟩
        · rfl
        · simp

end Plan

namespace TaskScope

/-- Whether an input keeps its task from getting its inputs: it cannot be resolved, and it is no
null that may be left out. -/
def blocks (scope : TaskScope) (component : ComponentSpec) (s : Services) (w : World)
    (entry : String × InputParameterSpec) : Bool :=
  match ((scope.parameter entry.2).run s w).1 with
  | .ok _ => false
  | .error e => !(e.kind = .resolvedNull && component.isOptional entry.1)

/-- The first input that blocks a task, in the order of their names. -/
def firstBlocked (scope : TaskScope) (task : TaskSpec) (component : ComponentSpec) (s : Services)
    (w : World) : Option (String × InputParameterSpec) :=
  task.inputs.parameters.entries.find? (scope.blocks component s w)

/-- An input with its name, or none if it may be left out. -/
def entryOrNone (scope : TaskScope) (component : ComponentSpec)
    (entry : String × InputParameterSpec) : Plan (Option (String × Json)) := do
  return (← scope.parameterOrNone component entry.1 entry.2).map (entry.1, ·)

theorem readsStore_entryOrNone (entry : String × InputParameterSpec) :
    (scope.entryOrNone component entry).ReadsStore :=
  (scope.readsStore_parameterOrNone component entry.1 entry.2).bind fun _ => Plan.uses_pure _

/-- An input that blocks the task fails as it does by itself, any other one does not fail. -/
theorem entryOrNone_error_iff {entry : String × InputParameterSpec} {e : Error} :
    ((scope.entryOrNone component entry).run s w).1 = .error e ↔
      scope.blocks component s w entry = true ∧
        ((scope.parameter entry.2).run s w).1 = .error e := by
  unfold entryOrNone parameterOrNone blocks
  rw [Plan.run_bind, Plan.run_bind, Plan.run_attempt]
  dsimp only
  rcases (scope.parameter entry.2).run s w with ⟨e' | value, v⟩
  · dsimp only
    cases left : decide (e'.kind = .resolvedNull) && component.isOptional entry.1 with
    | true => simp
    | false => simp [Plan.run]
  · simp

theorem blocks_iff {entry : String × InputParameterSpec} :
    scope.blocks component s w entry = true ↔
      ∃ e, ((scope.entryOrNone component entry).run s w).1 = .error e := by
  simp only [entryOrNone_error_iff, exists_and_left, iff_self_and]
  intro blocked
  unfold blocks at blocked
  split at blocked
  · cases blocked
  · rename_i e failed
    exact ⟨e, failed⟩

/-- The parameters of a task come first, and nothing after them ends in a resolved null. -/
theorem taskInputs_endsNull_iff (ordinary : s.Ordinary) (dagArtifacts : Dict ArtifactList) :
    (scope.taskInputs task component dagArtifacts).EndsNull s w ↔
      ∃ entry, scope.firstBlocked task component s w = some entry ∧
        (scope.parameter entry.2).EndsNull s w := by
  have parameters : (scope.taskInputs task component dagArtifacts).EndsNull s w ↔
      (task.inputs.parameters.entries.filterMapM (scope.entryOrNone component)).EndsNull s w := by
    refine Plan.endsNull_bind_iff ordinary (fun parameters => ?_) fun parameters => ?_
    · have each (entry : String × InputArtifactSpec) :=
        (scope.readsStore_artifact dagArtifacts entry.1 entry.2).bind fun list =>
          Plan.uses_pure (entry.1, list)
      exact (Plan.uses_mapM each _).bind fun _ => Plan.uses_pure _
    · have each (entry : String × InputArtifactSpec) :=
        (scope.artifact_ordinary dagArtifacts entry.1 entry.2).bind fun list =>
          Plan.ordinary_pure (entry.1, list)
      exact (Plan.ordinary_mapM each _).bind fun _ => Plan.ordinary_pure _
  rw [parameters]
  unfold Plan.EndsNull firstBlocked
  simp only [Plan.filterMapM_error_iff (fun entry => (readsStore_entryOrNone entry).reads)
    (fun _ => blocks_iff), entryOrNone_error_iff]
  constructor
  · rintro ⟨e, ⟨entry, first, _, failed⟩, null⟩
    exact ⟨entry, first, e, failed, null⟩
  · rintro ⟨entry, first, e, failed, null⟩
    exact ⟨e, ⟨entry, first, List.find?_some first, failed⟩, null⟩

/-- The artifacts of the graph are looked up before the inputs of a task, and selectors and checks
come after them. -/
theorem inputs_endsNull_iff (known : scope.options.task = some task)
    (described : scope.options.component = some component) (single : scope.options.iteration? = none)
    (ordinary : s.Ordinary) (answered : s.storeFault .getInputArtifacts = none) :
    scope.inputs.EndsNull s w ↔
      (scope.taskInputs task component (w.store.inputArtifactsOf scope.dag.id)).EndsNull s w := by
  unfold inputs
  simp only [known, described, single]
  rw [Plan.endsNull_within_iff]
  unfold Plan.EndsNull
  rw [Plan.run_bind, run_inputArtifacts answered]
  refine Plan.endsNull_bind_iff ordinary (fun inputs => ?_) fun inputs => ?_
  · exact (Plan.uses_lift _).bind fun _ => (Plan.uses_lift _).bind fun _ => Plan.uses_pure _
  · exact Plan.Ordinary.bind (applySelectors_ordinary task inputs.parameters) fun selected =>
      Plan.Ordinary.bind (checkParameters_ordinary task component false selected) fun _ =>
        Plan.ordinary_pure _

/-- Without the artifacts of the graph nothing is resolved. -/
theorem inputs_unanswered (known : scope.options.task = some task)
    (described : scope.options.component = some component) {fault : Fault}
    (failed : s.storeFault .getInputArtifacts = some fault) :
    (scope.inputs.run s w).1 = .error (Error.within .inputs fault) := by
  unfold inputs
  simp only [known, described]
  rw [Plan.run_within, Plan.run_bind]
  simp [Plan.perform, Plan.run, World.answer, Services.fault?, Call.operation?, failed, Result.fail]

end TaskScope

/-- A task is refused for a resolved null exactly if the first input that blocks it takes a null
from the graph and may not be left out. Nothing else that can go wrong is of that kind, and layers
do not change the kind. -/
theorem resolved_null_iff (scope : TaskScope) (task : TaskSpec) (component : ComponentSpec)
    (known : scope.options.task = some task) (described : scope.options.component = some component)
    (single : scope.options.iteration? = none) (s : Services) (ordinary : s.Ordinary) (w : World) :
    (s.storeFault .getInputArtifacts = none →
      ((∃ e, (scope.inputs.run s w).1 = .error e ∧ e.kind = .resolvedNull) ↔
        ∃ name spec, scope.firstBlocked task component s w = some (name, spec) ∧
          (∃ outer, spec.source = some (.componentInput outer) ∧ outer ≠ "" ∧
            scope.dag.inputParameters.get? outer = some .null) ∧
          component.isOptional name = false)) ∧
    (s.storeFault .getInputArtifacts ≠ none → (scope.inputs.run s w).1.Ordinary) ∧
    (∀ parameters, (applySelectors task parameters).Ordinary) ∧
    (∀ iteration parameters, (checkParameters task component iteration parameters).Ordinary) ∧
    (∀ dagArtifacts name spec, ((scope.artifact dagArtifacts name spec).run s w).1.Ordinary) ∧
    (∀ output, ((producedParameter scope.pipeline.runId scope.dag output).run s w).1.Ordinary) ∧
    ∀ (layers : List Layer) (e : Error), (layers.foldr Error.within e).kind = e.kind := by
  refine ⟨fun answered => ?_, fun unanswered => ?_, applySelectors_ordinary task,
    checkParameters_ordinary task component, fun dagArtifacts name spec => ?_, fun output => ?_,
    Error.kind_layers⟩
  · change scope.inputs.EndsNull s w ↔ _
    rw [TaskScope.inputs_endsNull_iff known described single ordinary answered,
      TaskScope.taskInputs_endsNull_iff ordinary]
    constructor
    · rintro ⟨⟨name, spec⟩, first, e, failed, null⟩
      refine ⟨name, spec, first, ?_, ?_⟩
      · by_contra other
        have plain := TaskScope.parameter_ordinary other
        exact plain.run (scope.readsStore_parameter spec) ordinary w e failed null
      · have blocked := List.find?_some first
        unfold TaskScope.blocks at blocked
        simpa [failed, null] using blocked
    · rintro ⟨name, spec, first, hands, required⟩
      obtain ⟨outer, parameter⟩ := TaskScope.parameter_of_handsNull hands
      exact ⟨(name, spec), first, (Fault.resolvedNull outer : Fault), by rw [parameter]; rfl, rfl⟩
  · obtain ⟨fault, failed⟩ := Option.ne_none_iff_exists'.1 unanswered
    rw [TaskScope.inputs_unanswered known described failed]
    rintro _ ⟨⟩
    exact ordinary _ fault failed
  · exact (scope.artifact_ordinary _ _ _).run (scope.readsStore_artifact _ _ _) ordinary w
  · exact (producedParameter_ordinary _ _).run (readsStore_producedParameter _ _) ordinary w

/-! A task with two nulls. -/

namespace TwoNulls

def takes : ComponentSpec where
  inputs := {
    parameters := .ofList [("decay", { type := .numberDouble, isOptional := true }),
      ("rate", { type := .numberDouble }), ("seed", { type := .numberInteger })] }

/-- The graph has no seed. -/
def train : TaskSpec where
  name := "train"
  inputs := {
    parameters := .ofList [("decay", { source := some (.componentInput "none") }),
      ("rate", { source := some (.componentInput "none") }),
      ("seed", { source := some (.componentInput "seed") })] }

def around : TaskScope where
  dag := { type := dagType, inputParameters := .ofList [("none", .null)] }
  pipeline := {}
  options := { task := some train, component := some takes }

end TwoNulls

/-- The decay may be left out, so the rate is reported, and not the seed. -/
theorem resolved_null_iff_rate :
    TwoNulls.around.firstBlocked TwoNulls.train TwoNulls.takes {} {} =
      some ("rate", { source := some (.componentInput "none") }) ∧
    ∃ e, (TwoNulls.around.inputs.run {} {}).1 = .error e ∧ e.kind = .resolvedNull := by
  have first : TwoNulls.around.firstBlocked TwoNulls.train TwoNulls.takes {} {} =
      some ("rate", { source := some (.componentInput "none") }) := rfl
  have null : TwoNulls.around.dag.inputParameters.get? "none" = some .null := by decide +kernel
  have required : TwoNulls.takes.isOptional "rate" = false := by decide +kernel
  have ordinary : Services.Ordinary {} := fun _ _ failed =>
    absurd failed (Option.some_ne_none _).symm
  have reported := (resolved_null_iff TwoNulls.around TwoNulls.train TwoNulls.takes rfl rfl rfl {}
    ordinary {}).1 rfl
  exact ⟨first, reported.2 ⟨_, _, first, ⟨"none", rfl, nofun, null⟩, required⟩⟩

end TaskGraph
