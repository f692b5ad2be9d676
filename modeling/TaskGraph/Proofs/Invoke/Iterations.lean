import TaskGraph.Proofs.Invoke.Atomic
import TaskGraph.Proofs.Invoke.PassThrough
import TaskGraph.Proofs.Resolve.Unset

/-! Selectors on the way to an iteration. A fan-out is stored with what the selectors of its task
made of its inputs. An iteration takes its inputs from there, and the selectors are applied to them
once more. -/

namespace TaskGraph

/-- What a parameter makes of a value: without a selector the value stays as it is. -/
def InputParameterSpec.select (spec : InputParameterSpec) (value : Json) : Except Expr.Error Json :=
  if spec.selector.isEmpty then .ok value else Expr.select value spec.selector

/-- What a task makes of a value that it gets under a name. -/
def TaskSpec.select (task : TaskSpec) (name : String) (value : Json) : Except Expr.Error Json :=
  match task.inputs.parameters.get? name with
  | some spec => spec.select value
  | none => .ok value

variable {task : TaskSpec} {component : ComponentSpec} {it : ParameterIterator}
  {scope : TaskScope} {o : Options} {s : Services} {w w' : World} {execution : Execution}
  {before after : Dict Json} {name source : String} {spec : InputParameterSpec}

/-! ### Selectors -/

theorem TaskSpec.select_of_declared (declared : task.inputs.parameters.get? name = some spec)
    (value : Json) : task.select name value = spec.select value := by
  rw [TaskSpec.select, declared]

/-- What the selector of a parameter leaves of what was found under its name. -/
def InputParameterSpec.Selects (spec : InputParameterSpec) : Option Json → Option Json → Prop
  | some value, found => ∃ selected, spec.select value = .ok selected ∧ found = some selected
  | none, found => spec.selector = "" ∧ found = none

theorem applySelector_selects (h : applySelector before name spec = .ok after) :
    spec.Selects (before.get? name) (after.get? name) ∧
      ∀ other, other ≠ name → after.get? other = before.get? other := by
  refine ⟨?_, (applySelector_ok h).2⟩
  unfold applySelector at h
  split at h
  · rename_i plain
    obtain ⟨⟩ := h
    cases found : before.get? name with
    | none => exact ⟨by simpa using plain, rfl⟩
    | some value => exact ⟨value, if_pos plain, rfl⟩
  · rename_i selects
    split at h
    · cases h
    · rename_i value found
      split at h
      · rename_i selected done
        obtain ⟨⟩ := h
        rw [found]
        exact ⟨selected, (if_neg selects).trans done, SortedMap.get?_insert_self ..⟩
      · cases h

theorem applySelector_total {left? : Option Json}
    (selects : spec.Selects (before.get? name) left?) :
    ∃ after, applySelector before name spec = .ok after := by
  unfold applySelector
  split
  · exact ⟨before, rfl⟩
  · rename_i chosen
    cases found : before.get? name with
    | none =>
      rw [found] at selects
      exact absurd selects.1 (by simpa using chosen)
    | some value =>
      rw [found] at selects
      obtain ⟨selected, done, _⟩ := selects
      rw [InputParameterSpec.select, if_neg chosen] at done
      simp [done]

/-- Each parameter is selected from by itself. -/
theorem applySelectors_selects (h : applySelectors task before = .ok after) (name : String) :
    (∀ value, before.get? name = some value → ∃ selected,
      task.select name value = .ok selected ∧ after.get? name = some selected) ∧
    (before.get? name = none → after.get? name = none) := by
  obtain ⟨own, others⟩ := foldlM_each_key (R := fun _ => InputParameterSpec.Selects)
    (fun _ _ _ _ => applySelector_selects) task.inputs.parameters.distinct h
  cases declared : task.inputs.parameters.get? name with
  | some spec =>
    have selects := own name spec (SortedMap.get?_eq_some_iff.1 declared)
    constructor
    · intro value found
      rw [found] at selects
      obtain ⟨selected, done, left⟩ := selects
      exact ⟨selected, (TaskSpec.select_of_declared declared value).trans done, left⟩
    · intro absent
      rw [absent] at selects
      exact selects.2
  | none =>
    have same : after.get? name = before.get? name := others name fun entry member equal => by
      have listed : task.inputs.parameters.get? entry.1 = some entry.2 :=
        SortedMap.get?_eq_some_iff.2 member
      rw [← equal, declared] at listed
      cases listed
    rw [same]
    exact ⟨fun value found => ⟨value, by simp [TaskSpec.select, declared], found⟩, id⟩

/-- Selectors can be applied if each of them finds a value that it can be evaluated on. -/
theorem exists_applySelectors_iff : (∃ after, applySelectors task before = .ok after) ↔
    (∀ name spec, task.inputs.parameters.get? name = some spec → spec.selector ≠ "" →
      ∃ value, before.get? name = some value) ∧
    ∀ name value, before.get? name = some value →
      ∃ selected, task.select name value = .ok selected := by
  constructor
  · rintro ⟨after, applied⟩
    refine ⟨fun name spec declared selects => ?_, fun name value found => ?_⟩
    · refine Option.ne_none_iff_exists'.1 fun absent => ?_
      exact selects (applySelectors_absent declared absent applied).1
    · obtain ⟨selected, done, _⟩ := (applySelectors_selects applied name).1 value found
      exact ⟨selected, done⟩
  · rintro ⟨present, evaluates⟩
    refine foldlM_each_key_total (A := fun _ spec found => ∃ left?, spec.Selects found left?)
      ?_ task.inputs.parameters.distinct ?_
    · rintro m name spec ⟨left?, selects⟩
      obtain ⟨after, applied⟩ := applySelector_total selects
      exact ⟨after, applied, (applySelector_ok applied).2⟩
    · intro name spec member
      have declared := SortedMap.get?_eq_some_iff.2 member
      cases found : before.get? name with
      | none =>
        refine ⟨none, Classical.byContradiction fun selects => ?_, rfl⟩
        obtain ⟨value, there⟩ := present name spec declared selects
        rw [found] at there
        cases there
      | some value =>
        obtain ⟨selected, done⟩ := evaluates name value found
        rw [TaskSpec.select_of_declared declared] at done
        exact ⟨some selected, selected, done, rfl⟩

/-! ### The fan-out -/

/-- A component that declares no inputs has nothing to check. -/
theorem checkParameters_bare (bare : component.inputs.parameters = ∅) (iteration : Bool)
    (parameters : Dict Json) :
    checkParameters task component iteration parameters = .ok parameters := by
  unfold checkParameters
  rw [bare]
  rfl

/-- A component that declares no inputs lets no input be left out. -/
theorem TaskScope.inputs_present {inputs : ExecutorInputs} (known : scope.options.task = some task)
    (described : scope.options.component = some component)
    (bare : component.inputs.parameters = ∅) (single : scope.options.iteration? = none)
    (declared : task.inputs.parameters.get? name = some spec)
    (h : scope.inputs.run s w = (.ok inputs, w')) :
    ∃ value, inputs.parameters.get? name = some value := by
  obtain ⟨dagArtifacts, taken, selected, v, own, _, applied, passes, _⟩ :=
    inputs_ok known described h
  obtain ⟨v', resolved⟩ := own single
  obtain ⟨found, ran, entry⟩ := taskInputs_resolved declared resolved
  have required : component.isOptional name = false := by
    rw [ComponentSpec.isOptional, bare]
    rfl
  obtain ⟨value, rfl⟩ : ∃ value, found = some value := by
    unfold parameterOrNone at ran
    rw [Plan.run_bind, Plan.run_attempt] at ran
    generalize (scope.parameter spec).run s v = outcome at ran
    rcases outcome with ⟨e | value, u⟩
    · simp [required, Plan.run] at ran
    · obtain ⟨⟩ := ran
      exact ⟨value, rfl⟩
  obtain ⟨left, _, there⟩ := (applySelectors_selects applied name).1 value entry
  rw [checkParameters_bare bare] at passes
  obtain ⟨⟩ := passes
  exact ⟨left, there⟩

/-- What is stored for a fan-out over an input of its task. -/
structure FanOut (task : TaskSpec) (it : ParameterIterator) (parent : ExecutionRecord)
    (items : List Json) : Prop where
  noArtifacts : task.artifactIterator = none
  count : parent.iterationCount = some items.length
  reads : it.Reads parent.inputParameters items
  present : ∀ name spec, task.inputs.parameters.get? name = some spec →
    ∃ value, parent.inputParameters.get? name = some value

theorem Options.runDag_fanOut (creates : o.devMode = false) (known : o.task = some task)
    (described : o.component = some component) (bare : component.inputs.parameters = ∅)
    (loop : task.parameterIterator = some it) (unwritten : it.Unwritten) (named : it.source ≠ "")
    {n : Nat} (h : o.runDag.run s w = (.ok execution, w'))
    (counted : execution.iterationCount = some n) :
    ∃ parent items, w'.store.dag execution.id = .ok parent ∧ items.length = n ∧
      FanOut task it parent items := by
  obtain ⟨parent, items, inputs, stored, count, listed, rfl, noArtifacts, single, resolves,
    parameters⟩ := runDag_counts h creates known loop counted
  obtain ⟨scope, u, u', rfl, _, resolved⟩ := resolves
  refine ⟨parent, items, stored, rfl, noArtifacts, count, ?_, fun name spec declared => ?_⟩
  · exact ⟨named, (ParameterIterator.itemsFrom_eq_ok_iff unwritten).1 listed⟩
  · rw [parameters]
    exact TaskScope.inputs_present known described bare single declared resolved

/-! ### The iterations -/

variable {parent : ExecutionRecord} {items : List Json} {i n : Nat}

/-- What an iteration gets under each name before selectors are applied. -/
def ParameterIterator.handed (it : ParameterIterator) (parameters : Dict Json) (item : Json) :
    Dict Json :=
  (parameters.erase it.source).insert it.itemInput item

theorem ParameterIterator.handed_get? {parameters : Dict Json} {item : Json} :
    (it.handed parameters item).get? name =
      if name = it.itemInput then some item
      else if name = it.source then none else parameters.get? name := by
  rw [handed, SortedMap.get?_insert, SortedMap.get?_erase]

/-- The scope of one iteration of a task in the stored graph, for a component without inputs. -/
structure TaskScope.Iteration (scope : TaskScope) (parent : ExecutionRecord) (task : TaskSpec)
    (i : Nat) : Prop where
  graph : scope.dag.inputParameters = parent.inputParameters
  task : scope.options.task = some task
  component : ∃ component, scope.options.component = some component ∧
    component.inputs.parameters = ∅
  index : scope.options.iteration? = some i

/-- An iteration is handed what the selectors make of the stored inputs and its item. -/
theorem TaskScope.Iteration.inputs_eq_ok_iff (iteration : scope.Iteration parent task i)
    (fanOut : FanOut task it parent items) (loop : task.parameterIterator = some it)
    (inside : i < items.length) (answered : s.storeFault .getInputArtifacts = none)
    {inputs : ExecutorInputs} :
    (scope.inputs.run s w).1 = .ok inputs ↔
      applySelectors task (it.handed parent.inputParameters items[i]) = .ok inputs.parameters ∧
        inputs.artifacts = w.store.inputArtifactsOf scope.dag.id := by
  obtain ⟨component, described, bare⟩ := iteration.component
  have taken : iterationInputs scope.dag task i (w.store.inputArtifactsOf scope.dag.id) =
      .ok ⟨it.handed parent.inputParameters items[i], w.store.inputArtifactsOf scope.dag.id⟩ := by
    rw [← iteration.graph]
    exact (iterationInputs_eq_ok_iff loop fanOut.noArtifacts).2
      ⟨items, items[i], iteration.graph ▸ fanOut.reads, List.getElem?_eq_getElem inside, rfl⟩
  unfold TaskScope.inputs
  simp only [iteration.task, described, iteration.index, checkParameters_bare bare]
  rw [Plan.run_within, Plan.run_bind, run_inputArtifacts answered]
  dsimp only
  rw [Plan.run_bind, Plan.run_lift, taken]
  dsimp only
  rw [Plan.run_bind, Plan.run_lift]
  cases applySelectors task (it.handed parent.inputParameters items[i]) with
  | error e => simp
  | ok selected =>
    rw [Except.ok.injEq]
    constructor
    · rintro ⟨⟩
      exact ⟨rfl, rfl⟩
    · rintro ⟨rfl, same⟩
      rw [← same]
      rfl

/-- The selectors of an iteration can be applied if each can be evaluated on what is stored, and the
one of the item on the item. Only the list has no value any more. -/
theorem FanOut.exists_applySelectors_iff (fanOut : FanOut task it parent items)
    (plain : ∀ spec, it.source ≠ it.itemInput →
      task.inputs.parameters.get? it.source = some spec → spec.selector = "") {item : Json} :
    (∃ after, applySelectors task (it.handed parent.inputParameters item) = .ok after) ↔
      (∀ name value, name ≠ it.source → name ≠ it.itemInput →
        parent.inputParameters.get? name = some value →
        ∃ selected, task.select name value = .ok selected) ∧
      ∃ selected, task.select it.itemInput item = .ok selected := by
  rw [TaskGraph.exists_applySelectors_iff]
  simp only [ParameterIterator.handed_get?]
  constructor
  · rintro ⟨_, evaluates⟩
    refine ⟨fun name value apart apart' found => evaluates name value ?_,
      evaluates it.itemInput item (if_pos rfl)⟩
    rw [if_neg apart', if_neg apart, found]
  · rintro ⟨evaluates, own⟩
    refine ⟨fun name spec declared selects => ?_, fun name value found => ?_⟩
    · split
      · exact ⟨item, rfl⟩
      · rename_i apart
        split
        · rename_i same
          subst same
          exact absurd (plain spec apart declared) selects
        · exact fanOut.present name spec declared
    · split at found
      · rename_i same
        obtain rfl := Option.some.inj found
        exact same ▸ own
      · rename_i apart'
        split at found
        · cases found
        · rename_i apart
          exact evaluates name value apart apart' found

/-- Selectors are applied to what a fan-out has stored and to the item that an iteration takes from
the stored list. The iteration is handed its inputs exactly if they can all be evaluated, and what
it is handed under a name is what the selector makes of the item or of the stored value. -/
theorem iteration_selects_again (creates : o.devMode = false) (known : o.task = some task)
    (described : o.component = some component) (bare : component.inputs.parameters = ∅)
    (loop : task.parameterIterator = some it) (listed : it.items.inputParameter = some source)
    (named : source ≠ "") (unwritten : it.Unwritten)
    (plain : ∀ spec, source ≠ it.itemInput → task.inputs.parameters.get? source = some spec →
      spec.selector = "")
    (h : o.runDag.run s w = (.ok execution, w')) (counted : execution.iterationCount = some n) :
    ∃ (parent : ExecutionRecord) (items : List Json), w'.store.dag execution.id = .ok parent ∧
      parent.iterationCount = some n ∧ it.Reads parent.inputParameters items ∧
      items.length = n ∧
      ∀ i (inside : i < items.length) (scope : TaskScope) (s : Services) (w : World),
        scope.Iteration parent task i → s.storeFault .getInputArtifacts = none →
        ((∃ inputs, (scope.inputs.run s w).1 = .ok inputs) ↔
          (∀ name value, name ≠ source → name ≠ it.itemInput →
            parent.inputParameters.get? name = some value →
            ∃ selected, task.select name value = .ok selected) ∧
          ∃ selected, task.select it.itemInput items[i] = .ok selected) ∧
        ∀ inputs, (scope.inputs.run s w).1 = .ok inputs →
          (∃ selected, task.select it.itemInput items[i] = .ok selected ∧
            inputs.parameters.get? it.itemInput = some selected) ∧
          ∀ name, name ≠ source → name ≠ it.itemInput →
            (parent.inputParameters.get? name = none → inputs.parameters.get? name = none) ∧
            ∀ value, parent.inputParameters.get? name = some value →
              ∃ selected, task.select name value = .ok selected ∧
                inputs.parameters.get? name = some selected := by
  obtain rfl : it.source = source := by
    simp [ParameterIterator.source, ParameterIterator.itemsInput?, listed, Option.filter, named]
  obtain ⟨parent, items, stored, length, fanOut⟩ :=
    Options.runDag_fanOut creates known described bare loop unwritten named h counted
  refine ⟨parent, items, stored, length ▸ fanOut.count, fanOut.reads, length, ?_⟩
  intro i inside scope s w iteration answered
  have handed {inputs : ExecutorInputs} : (scope.inputs.run s w).1 = .ok inputs ↔
      applySelectors task (it.handed parent.inputParameters items[i]) = .ok inputs.parameters ∧
        inputs.artifacts = w.store.inputArtifactsOf scope.dag.id :=
    iteration.inputs_eq_ok_iff fanOut loop inside answered
  constructor
  · rw [← fanOut.exists_applySelectors_iff plain]
    constructor
    · rintro ⟨inputs, resolved⟩
      exact ⟨inputs.parameters, (handed.1 resolved).1⟩
    · rintro ⟨selected, applied⟩
      exact ⟨⟨selected, w.store.inputArtifactsOf scope.dag.id⟩, handed.2 ⟨applied, rfl⟩⟩
  · intro inputs resolved
    have selects := applySelectors_selects (handed.1 resolved).1
    simp only [ParameterIterator.handed_get?] at selects
    constructor
    · exact (selects it.itemInput).1 items[i] (if_pos rfl)
    · intro name apart apart'
      obtain ⟨evaluates, absent⟩ := selects name
      rw [if_neg apart', if_neg apart] at evaluates absent
      exact ⟨absent, evaluates⟩

/-! A loop with a rate beside its list. -/

namespace Rated

/-- The rate comes from an input of the graph, through a selector. -/
def each (outer selector : String) : TaskSpec where
  name := "each"
  inputs := {
    parameters := .ofList [("list", { source := some (.componentInput "list") }),
      ("rate", { source := some (.componentInput outer), selector })] }
  parameterIterator := some Loops.input

def doubled : TaskSpec := each "rate" "number_value * 2"

def parsed : TaskSpec := each "text" "parseJson(string_value)"

/-- A graph with a list and two rates, and one without inputs. -/
def world : World where
  store := [{ Loops.outer with
      inputParameters := .ofList [("list", .str "[1,2]"), ("rate", .int 2), ("text", .str "2")] },
    { id := 2, runId := "run", type := dagType }].foldl (fun store e => (store.insert e).2) {}

/-- The invocation for a loop, on the fixed execution if there is one. -/
def options (task : TaskSpec) (fixed : Option Int) : Options :=
  { Loops.options task with devMode := fixed.isSome, devExecutionId := fixed.getD 0 }

def loop (task : TaskSpec) (fixed : Option Int) : Result Execution × World :=
  (options task fixed).runDag.run {} world

/-- The first iteration in a stored graph. -/
def first (task : TaskSpec) (parent : ExecutionRecord) : TaskScope where
  dag := parent
  pipeline := {}
  options := { Loops.options task with iterationIndex := 0 }

/-- What the first iteration in a stored graph is handed as its rate, or none if it fails. -/
def firstRate (task : TaskSpec) (fixed : Option Int) (parent : ExecutionRecord) :
    Option (Option Json) :=
  ((first task parent).inputs.run {} (loop task fixed).2).1.toOption.map (·.parameters.get? "rate")

/-- The loop is invoked and goes over two items. A rate is stored with it, or none, and the first
iteration is handed a rate, or fails. -/
def Goes (task : TaskSpec) (fixed : Option Int) (rate : Option Json)
    (handed : Option (Option Json)) : Prop :=
  ∃ execution parent, (loop task fixed).1 = .ok execution ∧ execution.iterationCount = some 2 ∧
    (loop task fixed).2.store.dag execution.id = .ok parent ∧
    parent.inputParameters.get? "rate" = rate ∧ firstRate task fixed parent = handed

instance (task : TaskSpec) (fixed : Option Int) (rate : Option Json)
    (handed : Option (Option Json)) : Decidable (Goes task fixed rate handed) :=
  decidable_of_iff (∃ execution ∈ (loop task fixed).1.toOption, execution.iterationCount = some 2 ∧
    ∃ parent ∈ ((loop task fixed).2.store.dag execution.id).toOption,
      parent.inputParameters.get? "rate" = rate ∧ firstRate task fixed parent = handed) <| by
    simp [Goes, toOption_eq_some_iff]

theorem doubled_goes : Goes doubled none (some (.int 4)) (some (some (.int 8))) := by
  decide +kernel

end Rated

/-- The first iteration gets the first item of the stored list, and the stored rate is doubled once
more for it. -/
theorem iteration_selects_again_doubled : ∃ parent items inputs selected,
    Loops.input.Reads parent.inputParameters items ∧ items.length = 2 ∧
    parent.inputParameters.get? "rate" = some (.int 4) ∧
    ((Rated.first Rated.doubled parent).inputs.run {} (Rated.loop Rated.doubled none).2).1 =
      .ok inputs ∧
    inputs.parameters.get? "item" = items[0]? ∧
    Rated.doubled.select "rate" (.int 4) = .ok selected ∧
    inputs.parameters.get? "rate" = some selected := by
  obtain ⟨execution, parent, ran, counted, stored, found, handed⟩ := Rated.doubled_goes
  have run : (Rated.options Rated.doubled none).runDag.run {} Rated.world =
      (.ok execution, (Rated.loop Rated.doubled none).2) := Prod.ext ran rfl
  obtain ⟨inputs, resolved, -⟩ := Option.map_eq_some_iff.1 handed
  have plain (spec : InputParameterSpec) (_ : "list" ≠ "item")
      (declared : Rated.doubled.inputs.parameters.get? "list" = some spec) : spec.selector = "" :=
    Option.some.inj declared ▸ rfl
  have loop : Rated.doubled.parameterIterator = some Loops.input := rfl
  obtain ⟨parent', items, stored', _, reads, length, goesOn⟩ :=
    iteration_selects_again rfl rfl rfl rfl loop rfl (by decide) rfl plain run counted
  obtain rfl : parent' = parent := Except.ok.inj (stored'.symm.trans stored)
  have iteration : (Rated.first Rated.doubled parent').Iteration parent' Rated.doubled 0 :=
    ⟨rfl, rfl, ⟨{}, rfl, rfl⟩, rfl⟩
  have inside : 0 < items.length := by omega
  obtain ⟨⟨item, unselected, own⟩, others⟩ := (goesOn 0 inside _ {} _ iteration rfl).2 inputs
    (toOption_eq_some_iff.1 resolved)
  obtain rfl : items[0] = item := Except.ok.inj unselected
  obtain ⟨selected, again, there⟩ := (others "rate" (by decide) (by decide)).2 _ found
  exact ⟨parent', items, inputs, selected, reads, length, found,
    toOption_eq_some_iff.1 resolved, own.trans (List.getElem?_eq_getElem inside).symm, again,
    there⟩

/-- A rate that is doubled for the loop is doubled again for an iteration, and one that is read from
a text cannot be read again. A fixed execution that stands in for the loop lacks its list. -/
theorem iteration_differs_from_stored :
    Rated.Goes Rated.doubled none (some (.int 4)) (some (some (.int 8))) ∧
    Rated.Goes Rated.parsed none (some (.int 2)) none ∧
    Rated.Goes Rated.doubled (some 2) none none := by
  decide +kernel

end TaskGraph
