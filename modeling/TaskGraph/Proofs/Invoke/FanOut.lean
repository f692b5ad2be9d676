import TaskGraph.Proofs.Invoke.Graphs

/-! Fan-outs and their iterations. A fan-out counts the items of one list and an iteration
takes its item from another, which it reads from the stored execution of the fan-out. The
two lists are the same if the items are those of an input; a list that is written in the
iterator itself is counted, but no iteration reads it. -/

namespace TaskGraph

namespace Store

variable {s : Store} {p : Pipeline} {c : ExecutionConfig}

/-- A graph that was just created is found under its id. -/
theorem create_dag (graph : c.type = dagType) :
    (s.create p c).2.dag (s.create p c).1.id = .ok (s.create p c).1 := by
  refine dag_eq_ok_iff.2 ⟨SortedMap.get?_insert_self .., ?_⟩
  simp [create, ExecutionRecord.isDag, graph]

end Store

namespace Options

variable {o : Options} {task : TaskSpec} {it : ParameterIterator} {n : Nat}

/-- Only an invocation that is no iteration counts items. -/
theorem iterationCount?_eq_some {triggers : Bool} {parameters : Dict Json}
    (loop : task.parameterIterator = some it)
    (h : o.iterationCount? task triggers parameters = .ok (some n)) :
    o.iteration? = none ∧ ∃ items, it.itemsFrom parameters = .ok items ∧ items.length = n := by
  simp only [iterationCount?, loop] at h
  split at h
  · rename_i fansOut
    obtain ⟨-, single⟩ : triggers = true ∧ o.iteration? = none := by simpa using fansOut
    obtain ⟨items, listed, length⟩ := bind_eq_ok_iff.1 h
    exact ⟨single, items, listed, by simpa using length⟩
  · simp at h

/-- A fan-out is stored with the inputs that were resolved for it, and its items are counted on
them. -/
theorem runDag_counts {s : Services} {w w' : World} {execution : Execution}
    (h : o.runDag.run s w = (.ok execution, w')) (creates : o.devMode = false)
    (known : o.task = some task) (loop : task.parameterIterator = some it)
    (counted : execution.iterationCount = some n) :
    ∃ parent items inputs, w'.store.dag execution.id = .ok parent ∧
      parent.iterationCount = some n ∧ it.itemsFrom parent.inputParameters = .ok items ∧
      items.length = n ∧ task.artifactIterator = none ∧ o.iteration? = none ∧
      o.Resolves s w inputs ∧ parent.inputParameters = inputs.parameters := by
  obtain ⟨t, v, prepared, rfl, rfl⟩ := runDag_creates creates h
  obtain ⟨task', inputs, ready⟩ := prepareDag_ok prepared
  obtain rfl : task = task' := Option.some.inj (known.symm.trans ready.known)
  have counts : t.execution.iterationCount = some n := counted
  have count := ready.count
  rw [counts, ← ready.parameters] at count
  obtain ⟨single, items, listed, length⟩ := iterationCount?_eq_some loop count
  exact ⟨(v.store.create t.pipeline t.config).1, items, inputs, Store.create_dag ready.graph,
    ready.iterations.trans counts, listed, length, ready.noArtifacts, single, ready.resolves,
    ready.parameters⟩

end Options

namespace ParameterIterator

/-- The input that holds the items. -/
def source (it : ParameterIterator) : String := it.itemsInput?.getD it.itemInput

/-- An iterator whose list is not written in the iterator itself. -/
def Unwritten (it : ParameterIterator) : Prop := it.items.raw.all (·.isEmpty)

/-- The list from which an iteration takes its item. -/
def Reads (it : ParameterIterator) (parameters : Dict Json) (items : List Json) : Prop :=
  it.source ≠ "" ∧
    ∃ value, parameters.get? it.source = some value ∧ value.iterationItems = .ok items

variable {it : ParameterIterator} {parameters : Dict Json} {items other : List Json}

/-- A missing list is as good as a null, which has no items. -/
theorem reads_iff : it.Reads parameters items ↔
    it.source ≠ "" ∧ ((parameters.get? it.source).getD .null).iterationItems = .ok items := by
  unfold Reads
  cases parameters.get? it.source <;> simp [Json.iterationItems]

theorem Reads.unique (h : it.Reads parameters items) (h' : it.Reads parameters other) :
    items = other := by
  obtain ⟨_, value, found, listed⟩ := h
  obtain ⟨_, value', found', listed'⟩ := h'
  rw [found] at found'
  obtain rfl := Option.some.inj found'
  rw [listed] at listed'
  exact Except.ok.inj listed'

/-- Unless the list is written in the iterator, the fan-out counts what iterations read. -/
theorem itemsFrom_eq_ok_iff (unwritten : it.Unwritten) :
    it.itemsFrom parameters = .ok items ↔
      ∃ value, parameters.get? it.source = some value ∧ value.iterationItems = .ok items := by
  have none : (it.items.raw.filter fun raw => !raw.isEmpty) = none := by
    unfold Unwritten at unwritten
    cases raw : it.items.raw <;> simp_all
  simp only [itemsFrom, none, source]
  cases parameters.get? (it.itemsInput?.getD it.itemInput) <;> simp

end ParameterIterator

variable {parent : ExecutionRecord} {task : TaskSpec} {it : ParameterIterator}
  {items : List Json} {artifacts : Dict ArtifactList} {inputs : ExecutorInputs}

theorem iterationInputs_eq_ok_iff (loop : task.parameterIterator = some it)
    (noArtifacts : task.artifactIterator = none) {i : Nat} :
    iterationInputs parent task i artifacts = .ok inputs ↔
      ∃ items item, it.Reads parent.inputParameters items ∧ items[i]? = some item ∧
        inputs = ⟨(parent.inputParameters.erase it.source).insert it.itemInput item,
          artifacts⟩ := by
  simp only [iterationInputs, loop, noArtifacts, Option.isSome_none, Bool.false_eq_true, if_false]
  change (if it.source.isEmpty then _ else _) = _ ↔ _
  by_cases named : it.source = ""
  · simp [named, ParameterIterator.Reads]
  simp only [String.isEmpty_iff, named, if_false, bind_eq_ok_iff, ParameterIterator.reads_iff]
  change (∃ items, ((parent.inputParameters.get? it.source).getD .null).iterationItems =
    .ok items ∧ _) ↔ _
  refine exists_congr fun items => ?_
  cases items[i]? with
  | none => simp
  | some item =>
    simp only [Result.pure_eq_ok_iff, Option.some.injEq, ne_eq, named, not_false_eq_true, true_and]
    constructor
    · rintro ⟨listed, rfl⟩
      exact ⟨item, listed, rfl, rfl⟩
    · rintro ⟨_, listed, rfl, rfl⟩
      exact ⟨listed, rfl⟩

/-- The iterations of a task find the items one by one, and no further item. -/
structure Iterates (parent : ExecutionRecord) (task : TaskSpec) (it : ParameterIterator)
    (items : List Json) : Prop where
  inside : ∀ i (h : i < items.length) artifacts,
    ∃ inputs, iterationInputs parent task i artifacts = .ok inputs ∧
      inputs.parameters.get? it.itemInput = some items[i]
  outside : ∀ i, items.length ≤ i → ∀ artifacts,
    ∃ e, iterationInputs parent task i artifacts = .error e

theorem Iterates.of_reads (loop : task.parameterIterator = some it)
    (noArtifacts : task.artifactIterator = none) (reads : it.Reads parent.inputParameters items) :
    Iterates parent task it items := by
  constructor
  · intro i inside artifacts
    refine ⟨_, (iterationInputs_eq_ok_iff loop noArtifacts).2
      ⟨items, items[i], reads, List.getElem?_eq_getElem inside, rfl⟩, ?_⟩
    exact SortedMap.get?_insert_self ..
  · intro i outside artifacts
    cases taken : iterationInputs parent task i artifacts with
    | error e => exact ⟨e, rfl⟩
    | ok inputs =>
      obtain ⟨others, item, reads', there, _⟩ :=
        (iterationInputs_eq_ok_iff loop noArtifacts).1 taken
      rw [reads'.unique reads, List.getElem?_eq_none outside] at there
      cases there

theorem Iterates.length_le {other : List Json} (left : Iterates parent task it items)
    (right : Iterates parent task it other) : other.length ≤ items.length := by
  refine Nat.le_of_not_lt fun longer => ?_
  obtain ⟨inputs, taken, _⟩ := right.inside items.length (by omega) ∅
  obtain ⟨e, failed⟩ := left.outside items.length (by omega) ∅
  rw [taken] at failed
  cases failed

theorem Iterates.unique {other : List Json} (left : Iterates parent task it items)
    (right : Iterates parent task it other) : items = other := by
  refine List.ext_getElem (Nat.le_antisymm (right.length_le left) (left.length_le right)) ?_
  intro i inside inside'
  obtain ⟨inputs, taken, item⟩ := left.inside i inside ∅
  obtain ⟨inputs', taken', item'⟩ := right.inside i inside' ∅
  rw [taken] at taken'
  obtain rfl := Except.ok.inj taken'
  rw [item] at item'
  exact Option.some.inj item'

/-- Iterations find the items that they read. Where they read no list at all, they find the items of
the empty list, none. -/
theorem iterates_iff (loop : task.parameterIterator = some it)
    (noArtifacts : task.artifactIterator = none) :
    Iterates parent task it items ↔ it.Reads parent.inputParameters items ∨
      (items = [] ∧ ¬ ∃ other, it.Reads parent.inputParameters other) := by
  constructor
  · intro iterates
    by_cases readable : ∃ other, it.Reads parent.inputParameters other
    · obtain ⟨other, reads⟩ := readable
      have same : items = other := iterates.unique (.of_reads loop noArtifacts reads)
      exact .inl (same ▸ reads)
    · refine .inr ⟨?_, readable⟩
      refine List.eq_nil_iff_length_eq_zero.2 (Nat.eq_zero_of_not_pos fun some => ?_)
      obtain ⟨inputs, taken, _⟩ := iterates.inside 0 some ∅
      obtain ⟨others, _, reads, _⟩ := (iterationInputs_eq_ok_iff loop noArtifacts).1 taken
      exact readable ⟨others, reads⟩
  · rintro (reads | ⟨rfl, unreadable⟩)
    · exact .of_reads loop noArtifacts reads
    · refine ⟨fun i inside => absurd inside (Nat.not_lt_zero i), fun i _ artifacts => ?_⟩
      cases taken : iterationInputs parent task i artifacts with
      | error e => exact ⟨e, rfl⟩
      | ok inputs =>
        obtain ⟨others, _, reads, _⟩ := (iterationInputs_eq_ok_iff loop noArtifacts).1 taken
        exact absurd ⟨others, reads⟩ unreadable

variable {o : Options} {s : Services} {w w' : World} {execution : Execution} {n : Nat}

/-- A fan-out is stored with the number of its items. Its iterations find these items exactly if
they read the list that was counted, which they do unless the list is written in the iterator or the
iterator names no input. -/
theorem fan_out_iterates_iff (h : o.runDag.run s w = (.ok execution, w'))
    (creates : o.devMode = false) (of_task : o.task = some task)
    (loop : task.parameterIterator = some it) (counted : execution.iterationCount = some n) :
    ∃ parent items, w'.store.dag execution.id = .ok parent ∧ parent.iterationCount = some n ∧
      it.itemsFrom parent.inputParameters = .ok items ∧ items.length = n ∧
      (it.Unwritten → it.source ≠ "" → Iterates parent task it items) ∧
      (Iterates parent task it items ↔ it.Reads parent.inputParameters items ∨
        (items = [] ∧ ¬ ∃ other, it.Reads parent.inputParameters other)) := by
  obtain ⟨parent, items, inputs, stored, count, listed, length, noArtifacts, -⟩ :=
    Options.runDag_counts h creates of_task loop counted
  refine ⟨parent, items, stored, count, listed, length, ?_, iterates_iff loop noArtifacts⟩
  intro unwritten named
  exact .of_reads loop noArtifacts
    ⟨named, (ParameterIterator.itemsFrom_eq_ok_iff unwritten).1 listed⟩

namespace Loops

def input : ParameterIterator where
  items := { inputParameter := some "list" }
  itemInput := "item"

def overInput : TaskSpec where
  name := "each"
  inputs := { parameters := .ofList [("list", { source := some (.componentInput "list") })] }
  parameterIterator := some input

def overWritten : TaskSpec where
  name := "each"
  parameterIterator := some { items := { raw := some "[1,2]" }, itemInput := "item" }

def options (task : TaskSpec) : Options where
  pipelineName := "pipeline"
  runId := "run"
  component := some {}
  task := some task
  dagExecutionId := 1

/-- A graph that is handed a list in JSON text. -/
def outer : ExecutionRecord where
  id := 1
  runId := "run"
  type := dagType
  inputParameters := .ofList [("list", .str "[1,2]")]

def world : World where
  store := (Store.insert {} outer).2

/-- A store with one graph, which has no inputs. -/
def bareWorld : World where
  store := (Store.insert {} { outer with inputParameters := ∅ }).2

end Loops

/-- A list in JSON text is counted and iterated alike. -/
theorem fan_out_iterates_text : ∃ execution w' parent items,
    (Loops.options Loops.overInput).runDag.run {} Loops.world = (.ok execution, w') ∧
    execution.iterationCount = some 2 ∧ w'.store.dag execution.id = .ok parent ∧
    items.length = 2 ∧ Iterates parent Loops.overInput Loops.input items := by
  obtain ⟨execution, w', run, counted⟩ : ∃ execution w',
      (Loops.options Loops.overInput).runDag.run {} Loops.world = (.ok execution, w') ∧
      execution.iterationCount = some 2 := ⟨_, _, rfl, rfl⟩
  obtain ⟨parent, items, stored, _, _, length, iterates, _⟩ :=
    fan_out_iterates_iff run rfl rfl rfl counted
  exact ⟨execution, w', parent, items, run, counted, stored, length,
    iterates rfl (by decide)⟩

/-- Under a graph without inputs, two items are counted in the list of the iterator, and each
iteration fails. -/
theorem written_list_not_iterated : ∃ execution w' parent,
    (Loops.options Loops.overWritten).runDag.run {} Loops.bareWorld = (.ok execution, w') ∧
    execution.iterationCount = some 2 ∧ w'.store.dag execution.id = .ok parent ∧
    ∀ i artifacts, ∃ e, iterationInputs parent Loops.overWritten i artifacts = .error e :=
  ⟨_, _, _, rfl, rfl, rfl, fun _ _ => ⟨_, rfl⟩⟩

end TaskGraph
