import TaskGraph.Proofs.Plan
import TaskGraph.Proofs.Resolve.Reads
import TaskGraph.Proofs.Result
import TaskGraph.Proofs.SortedMap

/-! Parameters that a task takes from its graph. Selectors and checks of other parameters do not
touch them, and the check of such a parameter leaves it as it is or takes its text. -/

namespace TaskGraph

variable {s : Services} {w w' : World}

/-- Where each step of a fold keeps a property, the fold does. -/
theorem foldlM_keeps {ε α β : Type} {P : β → Prop} {f : β → α → Except ε β} {xs : List α} {b b' : β}
    (keeps : ∀ c x c', x ∈ xs → P c → f c x = .ok c' → P c') (start : P b)
    (h : xs.foldlM f b = .ok b') : P b' := by
  induction xs generalizing b with
  | nil =>
    obtain ⟨⟩ := h
    exact start
  | cons x rest ih =>
    rw [List.foldlM_cons] at h
    obtain ⟨c, first, h⟩ := bind_eq_ok_iff.1 h
    exact ih (fun c x c' member => keeps c x c' (List.mem_cons_of_mem _ member))
      (keeps b x c List.mem_cons_self start first) h

/-- Where a list is filtered without a trace, the results are those of its members. -/
theorem Plan.filterMapM_ok {α β : Type} {f : α → Plan (Option β)} (reads : ∀ x, (f x).Reads)
    {xs : List α} {ys : List β} (h : (xs.filterMapM f).run s w = (.ok ys, w')) :
    (∀ x ∈ xs, ∃ y?, (f x).run s w = (.ok y?, w) ∧ ∀ y, y? = some y → y ∈ ys) ∧
      ∀ y ∈ ys, ∃ x ∈ xs, (f x).run s w = (.ok (some y), w) := by
  induction xs generalizing ys w' with
  | nil =>
    rw [List.filterMapM_nil] at h
    obtain ⟨⟩ := h
    simp
  | cons x rest ih =>
    rw [List.filterMapM_cons] at h
    obtain ⟨y?, v, first, h⟩ := Plan.run_bind_ok_iff.1 h
    obtain rfl := (reads x).world_eq first
    cases y? with
    | none =>
      obtain ⟨forth, back⟩ := ih h
      refine ⟨List.forall_mem_cons.2 ⟨⟨none, first, by simp⟩, forth⟩, fun y member => ?_⟩
      obtain ⟨x', member, run⟩ := back y member
      exact ⟨x', List.mem_cons_of_mem _ member, run⟩
    | some y =>
      obtain ⟨others, u, run, done⟩ := Plan.run_bind_ok_iff.1 h
      obtain ⟨⟩ := done
      obtain ⟨forth, back⟩ := ih run
      refine ⟨List.forall_mem_cons.2 ⟨⟨some y, first, by simp⟩, fun x member => ?_⟩,
        List.forall_mem_cons.2 ⟨⟨x, List.mem_cons_self, first⟩, fun y' member => ?_⟩⟩
      · obtain ⟨y?, run, found⟩ := forth x member
        exact ⟨y?, run, fun y same => List.mem_cons_of_mem _ (found y same)⟩
      · obtain ⟨x', member, run⟩ := back y' member
        exact ⟨x', List.mem_cons_of_mem _ member, run⟩

/-- A value that was handed on: it is the same, or its text if it may be taken as text. -/
def Json.HandedOn (value : Json) (text : Prop) (handed : Json) : Prop :=
  handed = value ∨ (text ∧ handed = .str value.plainText)

namespace Json.HandedOn

variable {value middle handed : Json} {text text' : Prop}

theorem refl (value : Json) (text : Prop) : value.HandedOn text value := .inl rfl

/-- The text of a text is the text itself, so a value is changed only once. -/
theorem trans (first : value.HandedOn text middle) (second : middle.HandedOn text' handed) :
    value.HandedOn (text ∨ text') handed := by
  rcases first with rfl | ⟨taken, rfl⟩
  · exact second.imp_right fun ⟨taken, same⟩ => ⟨.inr taken, same⟩
  · rcases second with rfl | ⟨_, rfl⟩
    · exact .inr ⟨.inl taken, rfl⟩
    · exact .inr ⟨.inl taken, rfl⟩

theorem mono (handedOn : value.HandedOn text handed) (more : text → text') :
    value.HandedOn text' handed :=
  handedOn.imp_right fun ⟨taken, same⟩ => ⟨more taken, same⟩

theorem ne_null (handedOn : value.HandedOn text handed) (present : value ≠ .null) :
    handed ≠ .null := by
  rcases handedOn with rfl | ⟨_, rfl⟩
  · exact present
  · exact Json.noConfusion

end Json.HandedOn

namespace TaskScope

variable {scope : TaskScope} {component : ComponentSpec} {task : TaskSpec}
  {spec : InputParameterSpec} {name outer inner : String} {value : Json}

/-- An input of the graph that is not null is found, if anything is. -/
theorem parameterOrNone_componentInput (source : spec.source = some (.componentInput outer))
    (stored : scope.dag.inputParameters.get? outer = some value) (present : value ≠ .null)
    {found : Option Json}
    (h : (scope.parameterOrNone component name spec).run s w = (.ok found, w')) :
    found = some value := by
  have parameter : scope.parameter spec = (Plan.fail .emptyComponentInput).within (.parameter spec) ∨
      scope.parameter spec = pure value := by
    unfold TaskScope.parameter
    simp only [source, stored]
    split
    · exact .inl rfl
    · exact .inr rfl
  rw [parameterOrNone, Plan.run_bind, Plan.run_attempt] at h
  rcases parameter with empty | same
  · -- a name that is empty is no null
    rw [empty] at h
    cases h
  · rw [same] at h
    obtain ⟨⟩ := h
    rfl

/-- A task that is no iteration is handed what each of its inputs resolves to. -/
theorem taskInputs_resolved {dagArtifacts : Dict ArtifactList} {inputs : ExecutorInputs}
    (declared : task.inputs.parameters.get? name = some spec)
    (h : (scope.taskInputs task component dagArtifacts).run s w = (.ok inputs, w')) :
    ∃ found, (scope.parameterOrNone component name spec).run s w = (.ok found, w) ∧
      inputs.parameters.get? name = found := by
  unfold taskInputs at h
  obtain ⟨entries, v, filtered, rest⟩ := Plan.run_bind_ok_iff.1 h
  obtain ⟨artifacts, u, _, done⟩ := Plan.run_bind_ok_iff.1 rest
  obtain ⟨⟩ := done
  obtain ⟨forth, back⟩ := Plan.filterMapM_ok (α := String × InputParameterSpec)
    (fun entry => (scope.readsStore_parameterOrNone component entry.1 entry.2).reads.bind fun _ =>
      Plan.uses_pure _) filtered
  obtain ⟨y?, run, entered⟩ := forth (name, spec) (SortedMap.get?_eq_some_iff.1 declared)
  obtain ⟨found, u, resolved, done⟩ := Plan.run_bind_ok_iff.1 run
  obtain ⟨⟩ := done
  refine ⟨found, resolved, ?_⟩
  have own (value : Json) (member : (name, value) ∈ entries) : found = some value := by
    obtain ⟨⟨name', spec'⟩, listed, run⟩ := back _ member
    obtain ⟨found', u, resolved', done⟩ := Plan.run_bind_ok_iff.1 run
    obtain ⟨same, rfl⟩ := Prod.mk.inj done
    obtain ⟨_, rfl, rfl, rfl⟩ : ∃ x, found' = some x ∧ name' = name ∧ x = value := by
      simpa [pure, Except.pure] using same
    obtain rfl : spec' = spec := by
      rw [SortedMap.get?_eq_some_iff.2 listed] at declared
      exact Option.some.inj declared
    rw [resolved] at resolved'
    exact Except.ok.inj (congrArg Prod.fst resolved')
  cases found with
  | none =>
    rw [SortedMap.get?_ofList, List.lookup_eq_none_iff]
    rintro ⟨name', value⟩ member
    refine bne_iff_ne.2 ?_
    rintro rfl
    cases own value (List.mem_reverse.1 member)
  | some value =>
    exact SortedMap.get?_ofList_of_unique (entered _ rfl)
      fun other member => (Option.some.inj (own other member)).symm

/-- A task that is no iteration finds an input of its graph among its own. -/
theorem taskInputs_get? {dagArtifacts : Dict ArtifactList} {inputs : ExecutorInputs}
    (declared : task.inputs.parameters.get? inner = some spec)
    (source : spec.source = some (.componentInput outer))
    (stored : scope.dag.inputParameters.get? outer = some value) (present : value ≠ .null)
    (h : (scope.taskInputs task component dagArtifacts).run s w = (.ok inputs, w')) :
    inputs.parameters.get? inner = some value := by
  obtain ⟨found, resolved, entry⟩ := taskInputs_resolved declared h
  rw [entry]
  exact parameterOrNone_componentInput source stored present resolved

end TaskScope

/-- The selectors of other parameters leave a parameter as it is. -/
theorem applySelectors_get? {task : TaskSpec} {spec : InputParameterSpec} {name : String}
    {value : Json} {before after : Dict Json}
    (declared : task.inputs.parameters.get? name = some spec) (plain : spec.selector = "")
    (found : before.get? name = some value) (h : applySelectors task before = .ok after) :
    after.get? name = some value := by
  refine foldlM_keeps (P := fun ps => SortedMap.get? ps name = some value) ?_ found h
  rintro ps ⟨name', spec'⟩ ps' member found applied
  change applySelector ps name' spec' = .ok ps' at applied
  unfold applySelector at applied
  split at applied
  · obtain ⟨⟩ := applied
    exact found
  · rename_i selects
    -- the parameter itself has no selector
    have other : name ≠ name' := by
      rintro rfl
      rw [SortedMap.get?_eq_some_iff.2 member] at declared
      rw [Option.some.inj declared, plain] at selects
      exact selects rfl
    split at applied
    · cases applied
    · split at applied
      · obtain ⟨⟩ := applied
        rwa [SortedMap.get?_insert, if_neg other]
      · cases applied

/-- Whether a component takes an input as text. -/
def ComponentSpec.TakesText (c : ComponentSpec) (name : String) : Prop :=
  ∃ definition, c.inputs.parameters.get? name = some definition ∧ definition.type = .string

theorem checkValue_handedOn {name : String} {type : ParameterType} {value value' : Json}
    (h : checkValue name type value = .ok value') : value.HandedOn (type = .string) value' := by
  unfold checkValue at h
  split at h
  · rename_i text
    obtain ⟨⟩ := h
    exact .inr ⟨text, rfl⟩
  · split at h
    · cases h
    · split at h
      · obtain ⟨⟩ := h
        exact .inl rfl
      · cases h

/-- The check of the parameters hands each of them on. -/
theorem checkParameters_handedOn {task : TaskSpec} {component : ComponentSpec} {iteration : Bool}
    {name : String} {value : Json} {before after : Dict Json}
    (found : before.get? name = some value)
    (h : checkParameters task component iteration before = .ok after) :
    ∃ handed, after.get? name = some handed ∧
      value.HandedOn (component.TakesText name) handed := by
  refine foldlM_keeps (P := fun ps => ∃ handed, SortedMap.get? ps name = some handed ∧
    value.HandedOn (component.TakesText name) handed) ?_ ⟨value, found, .refl _ _⟩ h
  rintro ps ⟨name', definition⟩ ps' member ⟨middle, found, handedOn⟩ checked
  dsimp only at checked
  split at checked
  · obtain ⟨⟩ := checked
    exact ⟨middle, found, handedOn⟩
  unfold checkParameter at checked
  split at checked
  · rename_i value' found'
    obtain ⟨handed, passes, done⟩ := bind_eq_ok_iff.1 checked
    obtain ⟨⟩ := done
    rw [SortedMap.get?_insert]
    split
    · rename_i same
      subst same
      rw [found] at found'
      obtain rfl := Option.some.inj found'
      have text : definition.type = .string → component.TakesText name :=
        fun text => ⟨definition, SortedMap.get?_eq_some_iff.2 member, text⟩
      exact ⟨handed, rfl, (handedOn.trans (checkValue_handedOn passes)).mono (Or.rec id text)⟩
    · exact ⟨middle, found, handedOn⟩
  · split at checked
    · obtain ⟨⟩ := checked
      exact ⟨middle, found, handedOn⟩
    · cases checked

namespace Options

/-- The task of an invocation takes an input from the graph that it is in, as it is. -/
def TakesInput (o : Options) (outer inner : String) : Prop :=
  ∃ task spec, o.task = some task ∧ task.inputs.parameters.get? inner = some spec ∧
    spec.source = some (.componentInput outer) ∧ spec.selector = ""

/-- The component of an invocation takes an input as text. -/
def TakesText (o : Options) (name : String) : Prop :=
  ∃ component, o.component = some component ∧ component.TakesText name

end Options

/-- What a task is handed was taken from around it or from its iteration, then selected from, then
checked. -/
theorem TaskScope.inputs_ok {scope : TaskScope} {task : TaskSpec} {component : ComponentSpec}
    {inputs : ExecutorInputs} (known : scope.options.task = some task)
    (described : scope.options.component = some component)
    (h : scope.inputs.run s w = (.ok inputs, w')) :
    ∃ dagArtifacts taken selected v,
      (scope.options.iteration? = none →
        ∃ v', (scope.taskInputs task component dagArtifacts).run s v = (.ok taken, v')) ∧
      (∀ index, scope.options.iteration? = some index →
        iterationInputs scope.dag task index dagArtifacts = .ok taken) ∧
      applySelectors task taken.parameters = .ok selected ∧
      checkParameters task component scope.options.iteration?.isSome selected =
        .ok inputs.parameters ∧
      inputs.artifacts = taken.artifacts := by
  unfold TaskScope.inputs at h
  simp only [known, described, Plan.run_within_ok_iff] at h
  obtain ⟨dagArtifacts, v, _, h⟩ := Plan.run_bind_ok_iff.1 h
  -- an iteration and another task differ only in what they take
  cases iteration : scope.options.iteration?
  all_goals
    rw [iteration] at h
    obtain ⟨taken, u, resolved, h⟩ := Plan.run_bind_ok_iff.1 h
    obtain ⟨selected, _, applied, h⟩ := Plan.run_bind_ok_iff.1 h
    obtain ⟨checked, _, passes, done⟩ := Plan.run_bind_ok_iff.1 h
    obtain ⟨⟩ := done
    refine ⟨dagArtifacts, taken, selected, v, fun single => ?_, fun index same => ?_,
      congrArg Prod.fst applied, congrArg Prod.fst passes, rfl⟩
  · exact ⟨u, resolved⟩
  · cases same
  · cases single
  · obtain rfl := Option.some.inj same
    exact congrArg Prod.fst resolved

/-- What a task takes from its graph is handed on to it. -/
theorem TaskScope.inputs_handedOn {scope : TaskScope} {outer inner : String} {value : Json}
    {inputs : ExecutorInputs} (single : scope.options.iteration? = none)
    (takes : scope.options.TakesInput outer inner)
    (stored : scope.dag.inputParameters.get? outer = some value) (present : value ≠ .null)
    (h : scope.inputs.run s w = (.ok inputs, w')) :
    ∃ handed, inputs.parameters.get? inner = some handed ∧
      value.HandedOn (scope.options.TakesText inner) handed := by
  obtain ⟨task, spec, known, declared, source, plain⟩ := takes
  cases described : scope.options.component with
  | none =>
    unfold TaskScope.inputs at h
    simp [known, described, Result.fail] at h
  | some component =>
  obtain ⟨dagArtifacts, taken, selected, v, own, _, applied, passes, _⟩ :=
    TaskScope.inputs_ok known described h
  obtain ⟨v', resolved⟩ := own single
  have found := taskInputs_get? declared source stored present resolved
  have found := applySelectors_get? declared plain found applied
  obtain ⟨handed, found, handedOn⟩ := checkParameters_handedOn found passes
  exact ⟨handed, found, handedOn.mono fun text => ⟨component, described, text⟩⟩

end TaskGraph
