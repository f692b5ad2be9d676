import TaskGraph.Proofs.Growth
import TaskGraph.Proofs.Invoke.Container
import TaskGraph.Proofs.Invoke.Graphs
import TaskGraph.Proofs.Resolve.Parameters

/-! Parameters through nested graphs. A value that each graph hands on to the next reaches the task
at the end. On the way it may only be taken as text, and this happens at most once. -/

namespace TaskGraph

variable {s : Services} {w w' : World} {o : Options} {d : Driver} {e : Execution}

namespace Options

theorem createExecution_stored {p : Pipeline} {c : ExecutionConfig} {record : ExecutionRecord}
    (creates : o.devMode = false) (h : (o.createExecution p c).run s w = (.ok record, w')) :
    w'.store.executions.get? record.id = some record ∧
      record.inputParameters = c.inputParameters := by
  obtain ⟨rfl, rfl⟩ := createExecution_ok creates h
  exact ⟨SortedMap.get?_insert_self .., rfl⟩

/-- A root graph that is set up is stored with the parameters of its run. -/
theorem runRootDag_stored (creates : o.devMode = false)
    (h : o.runRootDag.run s w = (.ok e, w')) :
    ∃ runtime record, o.runtimeConfig = some runtime ∧
      w'.store.executions.get? e.id = some record ∧
      record.inputParameters = runtime.parameters := by
  cases runtime : o.runtimeConfig with
  | none => simp [runRootDag, runtime, Plan.run_bind_ok_iff, Result.fail] at h
  | some runtime' =>
  simp only [runRootDag, runtime, Plan.run_within_ok_iff, Plan.run_bind_ok_iff] at h
  obtain ⟨_, _, _, config, _, _, query, _, _, pipeline, v, _, record, v', created, _, u, registered,
    done⟩ := h
  obtain ⟨stored, parameters⟩ := createExecution_stored creates created
  obtain ⟨⟩ := done
  exact ⟨runtime', record, rfl, (registerRun_ok registered).1 ▸ stored, parameters⟩

/-- A graph within a graph is stored with the inputs that were resolved for it. -/
theorem runDag_stored (creates : o.devMode = false) (h : o.runDag.run s w = (.ok e, w')) :
    ∃ inputs record, o.Resolves s w inputs ∧ w'.store.executions.get? e.id = some record ∧
      record.inputParameters = inputs.parameters := by
  obtain ⟨t, v, prepared, rfl, rfl⟩ := runDag_creates creates h
  obtain ⟨task, inputs, ready⟩ := prepareDag_ok prepared
  exact ⟨inputs, _, ready.resolves, SortedMap.get?_insert_self .., ready.parameters⟩

theorem containerTask_resolves {t : ContainerTask} (h : (o.containerTask d).run s w = (.ok t, w')) :
    o.Resolves s w t.input.inputs := by
  obtain ⟨prepared, options, v, v', resolved⟩ := containerTask_resolved h
  exact ⟨t.scope, v, v', options, prepared.dag, resolved⟩

variable {record : ExecutionRecord} {outer inner : String} {value : Json} {inputs : ExecutorInputs}

/-- An input of the graph is handed on to what is resolved in it. -/
theorem Resolves.handedOn (resolves : o.Resolves s w inputs) (single : o.iteration? = none)
    (takes : o.TakesInput outer inner)
    (graph : w.store.executions.get? o.dagExecutionId = some record)
    (stored : record.inputParameters.get? outer = some value) (present : value ≠ .null) :
    ∃ handed, inputs.parameters.get? inner = some handed ∧
      value.HandedOn (o.TakesText inner) handed := by
  obtain ⟨scope, v, v', rfl, graph', resolved⟩ := resolves
  rw [graph] at graph'
  obtain rfl := Option.some.inj graph'
  exact scope.inputs_handedOn single takes stored present resolved

end Options

/-- A value on its way through nested graphs. It is a parameter of the root graph, and each graph
takes it from the one around it. The execution `id` is the innermost graph so far, where the input
`name` holds the value; the links are the invocations on the way, with the names of their inputs. In
between, any other plans may run. -/
inductive PassesTo (start : World) (value : Json) :
    World → Int → String → List (Options × String) → Prop where
  | root {s : Services} {o : Options} {runtime : RuntimeConfig} {name : String} {w : World}
      {e : Execution} : o.devMode = false → o.runtimeConfig = some runtime →
      runtime.parameters.get? name = some value → o.runRootDag.run s start = (.ok e, w) →
      PassesTo start value w e.id name []
  | graph {s : Services} {o : Options} {outer inner : String} {links : List (Options × String)}
      {w w' : World} {e : Execution} : PassesTo start value w o.dagExecutionId outer links →
      o.devMode = false → o.iteration? = none → o.TakesInput outer inner →
      o.runDag.run s w = (.ok e, w') → PassesTo start value w' e.id inner (links ++ [(o, inner)])
  | meanwhile {α : Type} {s : Services} {w : World} {id : Int} {name : String}
      {links : List (Options × String)} (p : Plan α) : PassesTo start value w id name links →
      PassesTo start value (p.run s w).2 id name links

/-- Whether an invocation on the way takes the value as text. -/
def TakenAsText (links : List (Options × String)) : Prop :=
  ∃ link ∈ links, link.1.TakesText link.2

theorem takenAsText_append {links : List (Options × String)} {name : String} :
    TakenAsText (links ++ [(o, name)]) ↔ TakenAsText links ∨ o.TakesText name := by
  simp [TakenAsText, or_and_right, exists_or]

/-- The innermost graph is stored with the value, as it was handed on so far. -/
theorem PassesTo.stored {start : World} {value : Json} {id : Int} {name : String}
    {links : List (Options × String)} (passes : PassesTo start value w id name links)
    (reachable : start.store.Reachable) (present : value ≠ .null) :
    w.store.Reachable ∧ ∃ record handed, w.store.executions.get? id = some record ∧
      record.inputParameters.get? name = some handed ∧
      value.HandedOn (TakenAsText links) handed := by
  induction passes with
  | root creates runtime given run =>
    obtain ⟨runtime', record, known, stored, parameters⟩ := Options.runRootDag_stored creates run
    rw [runtime] at known
    obtain rfl := Option.some.inj known
    exact ⟨Plan.reachable_of_run run reachable, record, value, stored, parameters ▸ given,
      .refl _ _⟩
  | graph _ creates single takes run ih =>
    obtain ⟨reachable, outer, middle, graph, held, handedOn⟩ := ih
    obtain ⟨inputs, record, resolves, stored, parameters⟩ := Options.runDag_stored creates run
    obtain ⟨handed, found, handedOn'⟩ :=
      resolves.handedOn single takes graph held (handedOn.ne_null present)
    refine ⟨Plan.reachable_of_run run reachable, record, handed, stored, parameters ▸ found, ?_⟩
    exact (handedOn.trans handedOn').mono takenAsText_append.2
  | meanwhile p _ ih =>
    obtain ⟨reachable, record, handed, stored, held, handedOn⟩ := ih
    obtain ⟨record', stored', becomes⟩ := (p.run_extends reachable).keeps _ record stored
    refine ⟨p.run_reachable reachable, record', handed, stored', ?_, handedOn⟩
    rw [becomes]
    exact held

/-- A parameter of the root graph that passes through any number of nested graphs reaches the
container at the end as it is, or as its text. It is itself unless a component on the way, or that of
the container, takes it as text. -/
theorem parameter_passes_through {start : World} {value : Json} {outer inner : String}
    {links : List (Options × String)} (reachable : start.store.Reachable) (present : value ≠ .null)
    (passes : PassesTo start value w o.dagExecutionId outer links)
    (single : o.iteration? = none) (takes : o.TakesInput outer inner)
    (run : (o.runContainer d).run s w = (.ok e, w')) :
    ∃ input handed, e.executorInput = some input ∧
      input.inputs.parameters.get? inner = some handed ∧
      (handed = value ∨ handed = .str value.plainText) ∧
      (¬ TakenAsText (links ++ [(o, inner)]) → handed = value) := by
  obtain ⟨_, record, middle, graph, held, handedOn⟩ := passes.stored reachable present
  obtain ⟨t, v, prepares, input⟩ := Options.runContainer_input run
  obtain ⟨handed, found, handedOn'⟩ := (Options.containerTask_resolves prepares).handedOn single
    takes graph held (handedOn.ne_null present)
  have whole := (handedOn.trans handedOn').mono takenAsText_append.2
  exact ⟨t.input, handed, input, found, whole.imp_right And.right,
    fun never => whole.resolve_right fun taken => never taken.1⟩

/-! A number that passes through two graphs, the second of which takes it as text. -/

namespace Nested

def takes (type : ParameterType) (outer inner : String) (graph : Int) : Options where
  pipelineName := "pipeline"
  runId := "run"
  nspace := "team"
  component := some
    { inputs := { parameters := .ofList [(inner, { type })] } }
  task := some {
    name := s!"takes-{inner}"
    inputs := { parameters := .ofList [(inner, { source := some (.componentInput outer) })] } }
  dagExecutionId := graph

def root : Options where
  pipelineName := "pipeline"
  runId := "run"
  nspace := "team"
  component := some {}
  runtimeConfig := some { parameters := .ofList [("rate", .int 5)] }

def first : Options := takes .numberInteger "rate" "x" 1

def second : Options := takes .string "x" "y" 2

def last : Options := { takes .string "y" "z" 3 with container := some { image := "python:3" } }

def one : World := (root.runRootDag.run {} {}).2

def two : World := (first.runDag.run {} one).2

def three : World := (second.runDag.run {} two).2

def ended : Result Execution × World := (last.runContainer {}).run {} three

theorem run_ok (p : Plan Execution) (w : World) (id : Int)
    (h : (p.run {} w).1.toOption.map Execution.id = some id) :
    ∃ e, p.run {} w = (.ok e, (p.run {} w).2) ∧ e.id = id := by
  obtain ⟨e, w', run, same⟩ := Plan.run_of_map h
  exact ⟨e, by rw [run], same⟩

theorem takes_input (type : ParameterType) (outer inner : String) (graph : Int) :
    (takes type outer inner graph).TakesInput outer inner := by
  refine ⟨_, { source := some (.componentInput outer) }, rfl, ?_, rfl, rfl⟩
  rw [SortedMap.get?_ofList]
  simp

theorem passes : PassesTo {} (.int 5) three 3 "y" [(first, "x"), (second, "y")] := by
  obtain ⟨e, run, id⟩ := run_ok root.runRootDag {} 1 (by decide +kernel)
  obtain ⟨e', run', id'⟩ := run_ok first.runDag one 2 (by decide +kernel)
  obtain ⟨e'', run'', id''⟩ := run_ok second.runDag two 3 (by decide +kernel)
  have outermost : PassesTo {} (.int 5) one 1 "rate" [] :=
    id ▸ .root rfl rfl (by decide +kernel) run
  have inner : PassesTo {} (.int 5) two 2 "x" [(first, "x")] :=
    id' ▸ .graph outermost rfl rfl (takes_input ..) run'
  exact id'' ▸ .graph inner rfl rfl (takes_input ..) run''

end Nested

/-- The number arrives as text. -/
theorem parameter_passes_through_text : ∃ e input handed,
    (Nested.last.runContainer {}).run {} Nested.three = (.ok e, Nested.ended.2) ∧
    e.executorInput = some input ∧ input.inputs.parameters.get? "z" = some handed ∧
    (handed = .int 5 ∨ handed = .str "5") ∧
    (¬ TakenAsText [(Nested.first, "x"), (Nested.second, "y"), (Nested.last, "z")] →
      handed = .int 5) := by
  obtain ⟨e, run, _⟩ :=
    Nested.run_ok (Nested.last.runContainer {}) Nested.three 4 (by decide +kernel)
  have takes : Nested.last.TakesInput "y" "z" := Nested.takes_input .string "y" "z" 3
  obtain ⟨input, handed, given, found, either, same⟩ :=
    parameter_passes_through .empty (by decide) Nested.passes rfl takes run
  exact ⟨e, input, handed, run, given, found, either, same⟩

end TaskGraph
