import TaskGraph.Pod.Extension
import TaskGraph.Proofs.Calls

/-! Resolving inputs only looks. Whatever is looked up on the way, the inputs of a task
are found or refused without a trace. -/

namespace TaskGraph

variable {runId : String} {start : Int}

theorem readsStore_nestedDags (tasks : List ExecutionRecord) : (nestedDags tasks).ReadsStore := by
  induction tasks with
  | nil => trivial
  | cons task rest ih =>
    unfold nestedDags
    split
    · exact (Plan.readsStore_perform rfl).bind fun _ => ih.bind fun _ => Plan.uses_pure _
    · exact ih

theorem readsStore_collectTasks (depth : Nat) (dag : ExecutionRecord) (before : Collected) :
    (collectTasks runId start depth dag before).ReadsStore := by
  induction depth generalizing dag before with
  | zero => trivial
  | succ depth ih =>
    unfold collectTasks
    split
    · trivial
    · exact (Plan.readsStore_perform rfl).bind fun tasks => (readsStore_nestedDags _).bind fun nested =>
        Plan.uses_foldlM (fun found dag => ih dag found) _ _

theorem readsStore_reachableTasks (dag : ExecutionRecord) : (reachableTasks runId dag).ReadsStore :=
  (readsStore_collectTasks _ _ _).bind fun _ => Plan.uses_pure _

theorem readsStore_producedBy (side : OutputSide) (dag : ExecutionRecord) (o : TaskOutput) :
    (producedBy side runId dag o).ReadsStore := by
  unfold producedBy
  split
  · trivial
  split
  · trivial
  refine (readsStore_reachableTasks dag).bind fun tasks => ?_
  cases tasks.get? o.task <;> trivial

theorem readsStore_producedParameter (dag : ExecutionRecord) (o : TaskOutput) :
    (producedParameter runId dag o).ReadsStore := by
  refine (readsStore_producedBy _ _ _).bind fun ⟨leaf, key⟩ => ?_
  dsimp only
  cases leaf.outputParameters.get? key <;> trivial

theorem readsStore_producedArtifact (dag : ExecutionRecord) (o : TaskOutput) :
    (producedArtifact runId dag o).ReadsStore := by
  refine (readsStore_producedBy _ _ _).bind fun ⟨leaf, key⟩ => ?_
  refine (Plan.readsStore_perform rfl).bind fun outputs => ?_
  cases outputs.get? key <;> trivial

theorem run_inputArtifacts {s : Services} (answered : s.storeFault .getInputArtifacts = none)
    (id : Int) (w : World) : (Plan.perform (.inputArtifacts id)).run s w =
      (.ok (w.store.inputArtifactsOf id), w) := by
  simp [Plan.perform, Plan.run, World.answer, Services.fault?, Call.operation?, answered,
    World.serve]

namespace TaskScope

variable (scope : TaskScope)

theorem readsStore_parameter (spec : InputParameterSpec) : (scope.parameter spec).ReadsStore := by
  unfold parameter
  split
  · split
    · trivial
    · split <;> trivial
  · exact (readsStore_producedParameter _ _).within _
  all_goals trivial

theorem readsStore_textsParameter (spec : InputParameterSpec) : (scope.textsParameter spec).ReadsStore := by
  refine ((scope.readsStore_parameter spec).within _).bind fun value => ?_
  cases JsonCodec.decode? (α := Dict String) value <;> trivial

theorem readsStore_artifact (dagArtifacts : Dict ArtifactList) (name : String)
    (spec : InputArtifactSpec) : (scope.artifact dagArtifacts name spec).ReadsStore := by
  refine Plan.Uses.within ?_ _
  split
  · split
    · trivial
    · split <;> trivial
  · exact readsStore_producedArtifact _ _
  · trivial

theorem readsStore_parameterOrNone (component : ComponentSpec) (name : String)
    (spec : InputParameterSpec) : (scope.parameterOrNone component name spec).ReadsStore := by
  refine (scope.readsStore_parameter spec).attempt.bind fun outcome => ?_
  cases outcome with
  | ok value => trivial
  | error e =>
    dsimp only
    split <;> trivial

theorem readsStore_taskInputs (task : TaskSpec) (component : ComponentSpec)
    (dagArtifacts : Dict ArtifactList) : (scope.taskInputs task component dagArtifacts).ReadsStore := by
  refine (Plan.uses_filterMapM (fun entry => ?_) _).bind fun parameters =>
    (Plan.uses_mapM (fun entry => ?_) _).bind fun artifacts => Plan.uses_pure _
  · exact (scope.readsStore_parameterOrNone component entry.1 entry.2).bind fun _ => Plan.uses_pure _
  · exact (scope.readsStore_artifact dagArtifacts entry.1 entry.2).bind fun _ => Plan.uses_pure _

theorem readsStore_inputs : scope.inputs.ReadsStore := by
  refine Plan.Uses.within ?_ _
  cases scope.options.task with
  | none => trivial
  | some task =>
  cases scope.options.component with
  | none => trivial
  | some component =>
  refine (Plan.readsStore_perform rfl).bind fun dagArtifacts => ?_
  have checked (inputs : ExecutorInputs) (iteration : Bool) : Plan.ReadsStore (do
      let parameters ← applySelectors task inputs.parameters
      let parameters ← checkParameters task component iteration parameters
      return { inputs with parameters }) :=
    (Plan.uses_lift _).bind fun _ => (Plan.uses_lift _).bind fun _ => Plan.uses_pure _
  dsimp only
  cases scope.options.iteration? with
  | some index => exact (Plan.uses_lift _).bind fun inputs => checked inputs true
  | none => exact (scope.readsStore_taskInputs task component dagArtifacts).bind fun inputs =>
      checked inputs false

end TaskScope

/-- An extension that looks at the services but changes nothing of theirs. -/
def PodExtension.Looks (extension : PodExtension) : Prop := ∀ scope pod, (extension scope pod).Reads

theorem PodExtension.none_looks : PodExtension.none.Looks := fun _ _ => Plan.uses_pure _

theorem NodeSelector.extension_readsStore (scope : TaskScope) (pod : PodSpec) :
    (extension scope pod).ReadsStore := by
  unfold extension
  split
  · trivial
  split
  · trivial
  rename_i selector _
  refine Plan.Uses.bind ?_ fun labels => Plan.uses_pure _
  unfold resolve
  split
  · exact scope.readsStore_textsParameter _
  · trivial

/-- The extension for node selectors is one that only looks. -/
theorem NodeSelector.extension_looks : PodExtension.Looks NodeSelector.extension :=
  fun scope pod => (extension_readsStore scope pod).reads

end TaskGraph
