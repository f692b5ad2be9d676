import TaskGraph.Proofs.Resolve.Typing

/-! Inputs that are left unset. Where the graph has a null for an input that may be left out, the
task gets no entry for it. It is then as if the task did not declare the input, provided that no
selector is declared for it: a selector finds no value and fails. -/

namespace TaskGraph

/-- The graph has a null for this input of a task, and the component can do without the input. -/
def InputParameterSpec.isUnset (spec : InputParameterSpec) (dag : ExecutionRecord)
    (component : ComponentSpec) (name : String) : Bool :=
  match spec.source with
  | some (.componentInput outer) =>
    !outer.isEmpty && (dag.inputParameters.get? outer).any Json.isNull && component.isOptional name
  | _ => false

/-- The task without the inputs that are unset. -/
def TaskSpec.withoutUnset (task : TaskSpec) (dag : ExecutionRecord) (component : ComponentSpec) :
    TaskSpec :=
  { task with
    inputs := { task.inputs with
      parameters := task.inputs.parameters.filter fun name spec => !spec.isUnset dag component name } }

/-- The scope of an invocation whose task does not declare the inputs that are unset. -/
def TaskScope.withoutUnset (scope : TaskScope) (task : TaskSpec) (component : ComponentSpec) :
    TaskScope :=
  { scope with options := { scope.options with
      task := some (task.withoutUnset scope.dag component) } }

/-- The two tasks are handed the same inputs, with no entry for an input that is unset, or both
fail. -/
inductive SameInputs (task : TaskSpec) (dag : ExecutionRecord) (component : ComponentSpec) :
    Result ExecutorInputs → Result ExecutorInputs → Prop
  | handed {inputs : ExecutorInputs}
      (leftOut : ∀ name spec, task.inputs.parameters.get? name = some spec →
        spec.isUnset dag component name = true → inputs.parameters.get? name = none) :
      SameInputs task dag component (.ok inputs) (.ok inputs)
  | failed (e e' : Error) : SameInputs task dag component (.error e) (.error e')

/-- No selector is declared for an input that is unset. -/
def TaskSpec.SelectsNoUnset (task : TaskSpec) (dag : ExecutionRecord) (component : ComponentSpec) :
    Prop :=
  ∀ name spec, task.inputs.parameters.get? name = some spec →
    spec.isUnset dag component name = true → spec.selector = ""

instance (task : TaskSpec) (dag : ExecutionRecord) (component : ComponentSpec) :
    Decidable (task.SelectsNoUnset dag component) :=
  decidable_of_iff (∀ entry ∈ task.inputs.parameters.entries,
    entry.2.isUnset dag component entry.1 = true → entry.2.selector = "") <| by
      simp [TaskSpec.SelectsNoUnset, SortedMap.get?_eq_some_iff]

variable {scope : TaskScope} {task : TaskSpec} {component : ComponentSpec} {name : String}
  {spec : InputParameterSpec} {s : Services} {w w' : World}

theorem InputParameterSpec.isUnset_iff {dag : ExecutionRecord} :
    spec.isUnset dag component name = true ↔
      ∃ outer, spec.source = some (.componentInput outer) ∧ outer ≠ "" ∧
        dag.inputParameters.get? outer = some .null ∧ component.isOptional name = true := by
  have null (value? : Option Json) : value?.any Json.isNull = true ↔ value? = some .null := by
    rcases value? with _ | value
    · simp
    · cases value <;> simp [Json.isNull]
  unfold InputParameterSpec.isUnset
  split <;> simp_all [and_assoc]

/-- An input that is unset resolves to no value, without a call. -/
theorem TaskScope.parameterOrNone_unset (unset : spec.isUnset scope.dag component name = true) :
    scope.parameterOrNone component name spec = pure none := by
  obtain ⟨outer, source, named, null, optional⟩ := InputParameterSpec.isUnset_iff.1 unset
  have parameter : scope.parameter spec = Plan.fail (.resolvedNull outer) := by
    unfold TaskScope.parameter
    simp [source, named, null]
  unfold TaskScope.parameterOrNone
  rw [parameter]
  change (if _ then _ else _ : Plan (Option Json)) = _
  exact if_pos (by simp [optional, Error.kind, Fault.kind])

/-- What gives nothing may be dropped from a list before it is filtered. -/
theorem Plan.filterMapM_filter {α β : Type} {f : α → Plan (Option β)} {keep : α → Bool}
    {xs : List α} (drops : ∀ x ∈ xs, keep x = false → f x = pure none) :
    (xs.filter keep).filterMapM f = xs.filterMapM f := by
  induction xs with
  | nil => rfl
  | cons x rest ih =>
    obtain ⟨first, drops⟩ := List.forall_mem_cons.1 drops
    cases kept : keep x with
    | true => rw [List.filter_cons_of_pos kept, List.filterMapM_cons, List.filterMapM_cons, ih drops]
    | false =>
      rw [List.filter_cons_of_neg (by simp [kept]), List.filterMapM_cons, first kept, ih drops]
      rfl

/-- Steps that change nothing may be dropped from a fold. -/
theorem foldlM_filter {α β ε : Type} {f : β → α → Except ε β} {keep : α → Bool} {xs : List α}
    (skips : ∀ x ∈ xs, keep x = false → ∀ b, f b x = .ok b) (b : β) :
    (xs.filter keep).foldlM f b = xs.foldlM f b := by
  induction xs generalizing b with
  | nil => rfl
  | cons x rest ih =>
    obtain ⟨first, skips⟩ := List.forall_mem_cons.1 skips
    cases kept : keep x with
    | true =>
      rw [List.filter_cons_of_pos kept, List.foldlM_cons, List.foldlM_cons]
      exact congrArg _ (funext fun c => ih skips c)
    | false =>
      rw [List.filter_cons_of_neg (by simp [kept]), List.foldlM_cons, first kept, ok_bind, ih skips]

namespace TaskScope

/-- Of the task, the resolution of a parameter sees the name only. -/
theorem withoutUnset_parameter (known : scope.options.task = some task) (spec : InputParameterSpec) :
    (scope.withoutUnset task component).parameter spec = scope.parameter spec := by
  have name : (scope.withoutUnset task component).options.taskName = scope.options.taskName := by
    simp [Options.taskName, known, withoutUnset, TaskSpec.withoutUnset]
  have constant (j : Json) :
      Placeholder.resolveConstant (scope.withoutUnset task component).options j =
        Placeholder.resolveConstant scope.options j := by
    cases j with
    | str text =>
      unfold Placeholder.resolveConstant Placeholder.attribute?
      rw [name]
      rfl
    | _ => rfl
  unfold parameter
  simp only [constant]
  rfl

theorem withoutUnset_taskInputs (known : scope.options.task = some task)
    (dagArtifacts : Dict ArtifactList) :
    (scope.withoutUnset task component).taskInputs (task.withoutUnset scope.dag component) component
        dagArtifacts = scope.taskInputs task component dagArtifacts := by
  have each : (scope.withoutUnset task component).parameterOrNone component =
      scope.parameterOrNone component := by
    funext name spec
    unfold parameterOrNone
    rw [withoutUnset_parameter known]
  unfold taskInputs
  rw [each]
  refine congrArg (· >>= _) (Plan.filterMapM_filter fun ⟨name, spec⟩ _ dropped => ?_)
  dsimp only
  rw [parameterOrNone_unset (by simpa using dropped)]
  rfl

end TaskScope

theorem applySelectors_withoutUnset {dag : ExecutionRecord}
    (plain : task.SelectsNoUnset dag component) (parameters : Dict Json) :
    applySelectors (task.withoutUnset dag component) parameters = applySelectors task parameters := by
  refine foldlM_filter (fun ⟨name, spec⟩ member dropped ps => ?_) parameters
  have none : spec.selector = "" :=
    plain name spec (SortedMap.get?_eq_some_iff.2 member) (by simpa using dropped)
  simp [applySelector, none]

/-- Without selectors for them, the unset inputs may be dropped: the invocation makes the same calls
and has the same outcome. -/
theorem TaskScope.inputs_withoutUnset (known : scope.options.task = some task)
    (described : scope.options.component = some component) (single : scope.options.iteration? = none)
    (plain : task.SelectsNoUnset scope.dag component) :
    (scope.withoutUnset task component).inputs = scope.inputs := by
  have known' : (scope.withoutUnset task component).options.task =
    some (task.withoutUnset scope.dag component) := rfl
  have described' : (scope.withoutUnset task component).options.component = some component := described
  have single' : (scope.withoutUnset task component).options.iteration? = none := single
  unfold TaskScope.inputs
  simp only [known, described, single, known', described', single', withoutUnset_taskInputs known,
    applySelectors_withoutUnset plain]
  rfl

/-! What becomes of an unset input. -/

/-- An input that is unset gets no entry. -/
theorem TaskScope.taskInputs_unset {dagArtifacts : Dict ArtifactList} {inputs : ExecutorInputs}
    (declared : task.inputs.parameters.get? name = some spec)
    (unset : spec.isUnset scope.dag component name = true)
    (h : (scope.taskInputs task component dagArtifacts).run s w = (.ok inputs, w')) :
    inputs.parameters.get? name = none := by
  obtain ⟨found, resolved, entry⟩ := taskInputs_resolved declared h
  rw [parameterOrNone_unset unset] at resolved
  obtain ⟨⟩ := resolved
  exact entry

theorem applySelector_ok {before after : Dict Json} (h : applySelector before name spec = .ok after) :
    (before.get? name = none → spec.selector = "" ∧ after.get? name = none) ∧
      ∀ other, other ≠ name → after.get? other = before.get? other := by
  unfold applySelector at h
  split at h
  · rename_i plain
    obtain ⟨⟩ := h
    exact ⟨fun absent => ⟨by simpa using plain, absent⟩, fun _ _ => rfl⟩
  · split at h
    · cases h
    · rename_i value found
      split at h
      · obtain ⟨⟩ := h
        refine ⟨fun absent => ?_, fun other apart => ?_⟩
        · rw [found] at absent
          cases absent
        · rw [SortedMap.get?_insert, if_neg apart]
      · cases h

/-- An input without an entry has no selector, and gets no entry. -/
theorem applySelectors_absent {before after : Dict Json}
    (declared : task.inputs.parameters.get? name = some spec) (absent : before.get? name = none)
    (h : applySelectors task before = .ok after) :
    spec.selector = "" ∧ after.get? name = none :=
  (foldlM_each_key (R := fun _ spec x y => x = none → spec.selector = "" ∧ y = none)
    (fun _ _ _ _ => applySelector_ok) task.inputs.parameters.distinct h).1 name spec
      (SortedMap.get?_eq_some_iff.1 declared) absent

theorem OnlyTexts.absent {before after : Dict Json} (texts : OnlyTexts component before after)
    (absent : before.get? name = none) : after.get? name = none := by
  rcases texts name with same | ⟨_, _, _, _, found, _⟩
  · rw [same, absent]
  · rw [absent] at found
    cases found

/-- Where a task is handed its inputs, an unset one has no selector and no entry. -/
theorem TaskScope.inputs_unset {inputs : ExecutorInputs} (known : scope.options.task = some task)
    (described : scope.options.component = some component) (single : scope.options.iteration? = none)
    (declared : task.inputs.parameters.get? name = some spec)
    (unset : spec.isUnset scope.dag component name = true)
    (h : scope.inputs.run s w = (.ok inputs, w')) :
    spec.selector = "" ∧ inputs.parameters.get? name = none := by
  obtain ⟨dagArtifacts, taken, selected, v, own, _, applied, passes, _⟩ := inputs_ok known described h
  obtain ⟨v', resolved⟩ := own single
  obtain ⟨plain, absent⟩ :=
    applySelectors_absent declared (taskInputs_unset declared unset resolved) applied
  exact ⟨plain, (onlyTexts_of_checkParameters passes).absent absent⟩

/-- A task is as if it did not declare its unset inputs exactly if no selector is declared for one of
them, or the other inputs cannot be resolved either. A selector of an unset input is a failure. -/
theorem unset_inputs_dropped_iff (scope : TaskScope) (task : TaskSpec) (component : ComponentSpec)
    (known : scope.options.task = some task) (described : scope.options.component = some component)
    (single : scope.options.iteration? = none) :
    (task.SelectsNoUnset scope.dag component →
      (scope.withoutUnset task component).inputs = scope.inputs) ∧
    ∀ s w,
      (¬ task.SelectsNoUnset scope.dag component → ∃ e, (scope.inputs.run s w).1 = .error e) ∧
      (SameInputs task scope.dag component (scope.inputs.run s w).1
          ((scope.withoutUnset task component).inputs.run s w).1 ↔
        task.SelectsNoUnset scope.dag component ∨
        ∃ e, ((scope.withoutUnset task component).inputs.run s w).1 = .error e) := by
  have same := TaskScope.inputs_withoutUnset known described single
  refine ⟨same, fun s w => ?_⟩
  have fails (selects : ¬ task.SelectsNoUnset scope.dag component) :
      ∃ e, (scope.inputs.run s w).1 = .error e := by
    rcases run : scope.inputs.run s w with ⟨e | inputs, w'⟩
    · exact ⟨e, rfl⟩
    · exact absurd (fun name spec declared unset =>
        (TaskScope.inputs_unset known described single declared unset run).1) selects
  refine ⟨fails, ?_⟩
  by_cases plain : task.SelectsNoUnset scope.dag component
  · rw [same plain]
    refine iff_of_true ?_ (.inl plain)
    rcases run : scope.inputs.run s w with ⟨e | inputs, w'⟩
    · exact .failed e e
    · exact .handed fun name spec declared unset =>
        (TaskScope.inputs_unset known described single declared unset run).2
  · obtain ⟨e, failed⟩ := fails plain
    rw [failed]
    generalize ((scope.withoutUnset _ _).inputs.run s w).1 = outcome
    constructor
    · rintro ⟨⟩
      exact .inr ⟨_, rfl⟩
    · rintro (plain' | ⟨e', rfl⟩)
      · exact absurd plain' plain
      · exact .failed e e'

/-! A task whose rate is unset. -/

namespace LeftOut

def takes : ComponentSpec where
  inputs := {
    parameters := .ofList [("layers", { type := .list }),
      ("rate", { type := .numberDouble, isOptional := true }), ("run", { type := .string })] }

/-- The layers are read from a text, the rate comes from the graph and the run is a constant. -/
def train (rateSelector : String) : TaskSpec where
  name := "train"
  inputs := {
    parameters := .ofList [
      ("layers", { source := some (.componentInput "shape"), selector := "parseJson(string_value)" }),
      ("rate", { source := some (.componentInput "lr"), selector := rateSelector }),
      ("run", { source := some (.runtimeValue (some (.str "first"))) })] }

/-- The graph has no rate. -/
def around (rateSelector : String) : TaskScope where
  dag := {
    type := dagType
    inputParameters := .ofList [("lr", .null), ("shape", .str "[8]")] }
  pipeline := {}
  options := { task := some (train rateSelector), component := some takes }

/-- The scope of the task that does not declare the rate. -/
def without (rateSelector : String) : TaskScope :=
  (around rateSelector).withoutUnset (train rateSelector) takes

def handed : ExecutorInputs where
  parameters := .ofList [("layers", .arr [.int 8]), ("run", .str "first")]

theorem train_selectsNoUnset : (train "").SelectsNoUnset (around "").dag takes := by decide

end LeftOut

/-- The rate is left out, as if it were not declared; the selector of the layers is applied. -/
theorem unset_inputs_dropped_rate :
    ((LeftOut.around "").inputs.run {} {}).1 = .ok LeftOut.handed ∧
    (LeftOut.without "").inputs = (LeftOut.around "").inputs ∧
    SameInputs (LeftOut.train "") (LeftOut.around "").dag LeftOut.takes (.ok LeftOut.handed)
      ((LeftOut.without "").inputs.run {} {}).1 := by
  have run : ((LeftOut.around "").inputs.run {} {}).1 = .ok LeftOut.handed := by decide +kernel
  obtain ⟨same, outcomes⟩ := unset_inputs_dropped_iff (LeftOut.around "") (LeftOut.train "")
    LeftOut.takes rfl rfl rfl
  have outcome := (outcomes {} {}).2.2 (.inl LeftOut.train_selectsNoUnset)
  rw [run] at outcome
  exact ⟨run, same LeftOut.train_selectsNoUnset, outcome⟩

/-- With a selector for the rate the task fails, and without the rate it does not. -/
theorem unset_input_with_selector_fails :
    ((LeftOut.around "parseJson(string_value)").inputs.run {} {}).1 =
      .error ⟨[.inputs, .selector "rate" "parseJson(string_value)"], .selectorWithoutValue⟩ ∧
    ((LeftOut.without "parseJson(string_value)").inputs.run {} {}).1 = .ok LeftOut.handed ∧
    ¬ SameInputs (LeftOut.train "parseJson(string_value)")
      (LeftOut.around "parseJson(string_value)").dag LeftOut.takes
      ((LeftOut.around "parseJson(string_value)").inputs.run {} {}).1
      ((LeftOut.without "parseJson(string_value)").inputs.run {} {}).1 := by
  have fails : ((LeftOut.around "parseJson(string_value)").inputs.run {} {}).1 =
      .error ⟨[.inputs, .selector "rate" "parseJson(string_value)"], .selectorWithoutValue⟩ := by
    decide +kernel
  have succeeds : ((LeftOut.without "parseJson(string_value)").inputs.run {} {}).1 =
      .ok LeftOut.handed := by decide +kernel
  refine ⟨fails, succeeds, ?_⟩
  rw [fails, succeeds]
  nofun

end TaskGraph
