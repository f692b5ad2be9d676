import TaskGraph.Proofs.Resolve.Descent
import TaskGraph.Proofs.Resolve.Visits

/-! What names mean while an output is traced. All graphs below the current one share
one map of names, so a task is found in its own graph exactly if no graph that is
visited later has a task of that name. -/

namespace TaskGraph

variable {services : Services} {w w' : World} {runId : String} {dag : ExecutionRecord}
  {side : OutputSide} {o : TaskOutput}

/-- The way a traced output was found, and when its start and its hops stay in scope. -/
structure Traced (s : Store) (runId : String) (side : OutputSide) (top : Int) (o : TaskOutput)
    (start : ExecutionRecord) (hops : List ProducerHop) (leaf : ExecutionRecord) (key : String) :
    Prop where
  /-- Every name is looked up among all tasks below the current graph. -/
  trail : ∃ tasks : Dict ExecutionRecord,
    (∀ name task, tasks.get? name = some task ↔ s.StandsFor runId top name task) ∧
    tasks.get? o.task = some start ∧ Trail side tasks start o.key hops leaf key
  /-- A task of the current graph is the start if the name occurs nowhere further inside. -/
  start_direct : ∀ child, s.HasTask runId top child → child.taskName = o.task →
    (start = child ↔ ∀ g, s.Enters runId top g → ¬ s.Occurs runId g.id o.task)
  /-- A hop stays inside its graph if the graph has such a task and no graph visited later does. -/
  hop_direct : ∀ h ∈ hops, s.HasTask runId h.graph.id h.task ↔
    ∃ path child, s.LastVisited runId top path h.graph.id child ∧
      child.taskName = h.selector.subtask

/-- A task of a graph itself is not found inside it as well. -/
theorem Traversed.standsFor_eq_iff {s : Store} {top : Int} {before after : Collected}
    (traversed : Traversed s runId top before after) {task child : ExecutionRecord}
    (h : s.StandsFor runId top child.taskName task) (member : s.HasTask runId top child) :
    task = child ↔ ∀ g, s.Enters runId top g → ¬ s.Occurs runId g.id child.taskName := by
  rcases h.origin with ⟨direct, named, alone⟩ | ⟨g, enters, stands, _⟩
  · exact ⟨fun _ => alone, fun _ => traversed.distinct task child direct member named⟩
  · constructor
    · rintro rfl
      obtain ⟨path, graph, latest, _⟩ := stands
      have same : graph = top := by rw [← latest.member.parent, member.parent]
      exact absurd (same ▸ latest.nested) (traversed.acyclic g path enters)
    · exact fun alone => absurd stands.occurs (alone g enters)

theorem producedBy_run (keyed : w.store.Keyed) {leaf : ExecutionRecord} {key : String}
    (h : (producedBy side runId dag o).run services w = (.ok (leaf, key), w')) :
    w' = w ∧ ∃ start hops, Traced w.store runId side dag.id o start hops leaf key := by
  unfold producedBy at h
  split at h
  · simp [Result.fail] at h
  split at h
  · simp [Result.fail] at h
  obtain ⟨tasks, v, collected, body⟩ := Plan.run_bind_ok_iff.1 h
  obtain ⟨rfl, all, rfl, traversed⟩ := reachableTasks_run keyed collected
  have looked (name : String) (task : ExecutionRecord) :
      all.tasks.get? name = some task ↔ v.store.StandsFor runId dag.id name task := by
    simpa using traversed.covers name task
  cases found : all.tasks.get? o.task with
  | none => simp [found, Result.fail] at body
  | some start =>
    simp only [found, Plan.run_lift, Prod.mk.injEq] at body
    obtain ⟨hops, trail, _⟩ := descendToLeaf_eq_ok_iff.1 body.1
    refine ⟨body.2.symm, start, hops, ⟨⟨all.tasks, looked, found, trail⟩, ?_, ?_⟩⟩
    · intro child member named
      have stands := (looked _ _).1 found
      rw [← named] at stands ⊢
      exact traversed.standsFor_eq_iff stands member
    · intro h member
      have target := (trail.declared member).found
      constructor
      · intro inside
        obtain ⟨path, graph, latest, named⟩ := (looked _ _).1 target
        have same : graph = h.graph.id := by rw [← latest.member.parent, inside.parent]
        exact ⟨path, h.task, same ▸ latest, named⟩
      · rintro ⟨path, child, latest, named⟩
        rw [(looked _ child).2 ⟨path, _, latest, named⟩, Option.some.injEq] at target
        exact target ▸ latest.member

theorem Traced.leaf_stored {s : Store} {top : Int} {start leaf : ExecutionRecord}
    {hops : List ProducerHop} {key : String} (traced : Traced s runId side top o start hops leaf key) :
    s.executions.get? leaf.id = some leaf := by
  obtain ⟨tasks, looked, found, trail⟩ := traced.trail
  obtain ⟨name, known⟩ := trail.leaf_found ⟨_, found⟩
  obtain ⟨_, _, latest, _⟩ := (looked name leaf).1 known
  exact latest.member.stored

/-- Whenever an output of another task resolves, it was traced from the task that the producer's
name stands for. -/
theorem resolved_output_traced (reachable : w.store.Reachable) :
    (∀ value w', (producedParameter runId dag o).run services w = (.ok value, w') →
      ∃ start hops leaf key, Traced w.store runId .parameter dag.id o start hops leaf key ∧
        leaf.outputParameters.get? key = some value) ∧
    (∀ artifacts w', (producedArtifact runId dag o).run services w = (.ok artifacts, w') →
      ∃ start hops leaf key artifact,
        Traced w.store runId .artifact dag.id o start hops leaf key ∧
        (w.store.outputArtifactsOf leaf.id).get? key = some artifact ∧
        artifacts = .single artifact.toRuntime) := by
  constructor
  · intro value w' h
    obtain ⟨⟨leaf, key⟩, v, produced, body⟩ := Plan.run_bind_ok_iff.1 h
    obtain ⟨rfl, start, hops, traced⟩ := producedBy_run reachable.keyed produced
    refine ⟨start, hops, leaf, key, traced, ?_⟩
    cases found : leaf.outputParameters.get? key with
    | none => simp [found, Result.fail] at body
    | some output =>
      simp only [found, Plan.run_pure, Prod.mk.injEq, Except.ok.injEq] at body
      rw [body.1]
  · intro artifacts w' h
    obtain ⟨⟨leaf, key⟩, v, produced, body⟩ := Plan.run_bind_ok_iff.1 h
    obtain ⟨rfl, start, hops, traced⟩ := producedBy_run reachable.keyed produced
    obtain ⟨outputs, v', answered, ending⟩ := Plan.run_bind_ok_iff.1 body
    obtain ⟨rfl, rfl⟩ := Plan.outputArtifacts_answered answered
    cases found : (v'.store.outputArtifactsOf leaf.id).get? key with
    | none => simp [found, Result.fail] at ending
    | some artifact =>
      simp only [found, Plan.run_pure, Prod.mk.injEq, Except.ok.injEq] at ending
      exact ⟨start, hops, leaf, key, artifact, traced, found, ending.1.symm⟩

namespace SharedNames

def task (id : Int) (name : String) (parent : Int) (output : String) : ExecutionRecord where
  id := id
  runId := "run"
  taskName := name
  type := containerType
  state := .complete
  parent := parent
  outputParameters := .ofList [("k", .str output)]

/-- A graph whose output comes from its task `a`. -/
def graph (id : Int) (name : String) (parent : Int) : ExecutionRecord where
  id := id
  runId := "run"
  taskName := name
  type := dagType
  parent := parent
  parameterProducers := some (.ofList [("out", .direct ⟨"a", "k"⟩)])

def top : ExecutionRecord := graph 1 "run/run" 0

def outside : ExecutionRecord := task 2 "a" 1 "outside"

def y : ExecutionRecord := graph 4 "y" 1

def insideY : ExecutionRecord := task 6 "a" 4 "inside y"

/-- The graph `top` and the graphs `x` and `y` in it each have a task `a`. -/
def records : List ExecutionRecord :=
  [top, outside, graph 3 "x" 1, y, task 5 "a" 3 "inside x", insideY]

def world : World where
  store := records.foldl (fun s e => (s.insert e).2) {}

theorem store_reachable : world.store.Reachable := Store.Reachable.empty.inserted records

theorem mem_records {g : Int} {e : ExecutionRecord} (h : world.store.HasTask "run" g e) :
    e ∈ records := by
  have values : world.store.executions.values = records := rfl
  rw [← values]
  exact SortedMap.mem_values_iff.2 ⟨_, h.stored⟩

end SharedNames

/-- The output of `y` is traced to the task of that name in `x`, the graph visited last. -/
theorem resolved_output_traced_shared : SharedNames.world.store.Reachable ∧
    (producedParameter "run" SharedNames.top ⟨"y", "out"⟩).run {} SharedNames.world =
      (.ok (.str "inside x"), SharedNames.world) ∧
    ∃ start hops leaf key,
      Traced SharedNames.world.store "run" .parameter SharedNames.top.id ⟨"y", "out"⟩ start hops
        leaf key ∧ leaf.outputParameters.get? key = some (.str "inside x") := by
  have run : (producedParameter "run" SharedNames.top ⟨"y", "out"⟩).run {} SharedNames.world =
    (.ok (.str "inside x"), SharedNames.world) := rfl
  exact ⟨SharedNames.store_reachable, run,
    (resolved_output_traced SharedNames.store_reachable).1 _ _ run⟩

/-- The executions below a graph. -/
inductive Store.Below (s : Store) (runId : String) (top : Int) : ExecutionRecord → Prop where
  | child {e : ExecutionRecord} : s.HasTask runId top e → Below s runId top e
  | deeper {e e' : ExecutionRecord} :
      Below s runId top e → s.HasTask runId e.id e' → Below s runId top e'

/-- The executions below a graph form a tree, in which tasks side by side have different names. As
an execution has one parent only, they form a tree unless the graph is below itself. -/
structure Store.Treelike (s : Store) (runId : String) (top : Int) : Prop where
  acyclic : ∀ e, s.Below runId top e → e.id ≠ top
  distinct : ∀ g a b, s.HasTask runId g a → s.HasTask runId g b → a.taskName = b.taskName → a = b

/-- Every name on the way is that of a task of the graph it is used in. -/
structure InScope (s : Store) (runId : String) (top : Int) (o : TaskOutput)
    (start : ExecutionRecord) (hops : List ProducerHop) : Prop where
  start : ∀ child, s.HasTask runId top child → child.taskName = o.task → start = child
  hops : ∀ h ∈ hops, s.HasTask runId h.graph.id h.task ∧ h.task.taskName = h.selector.subtask

namespace SharedNames

theorem world_treelike : world.store.Treelike "run" top.id := by
  have parents : ∀ r ∈ records, r.id = top.id → r.parent = 0 := by decide
  have ids : ∀ r ∈ records, r.id ≠ 0 := by decide
  have names : ∀ a ∈ records, ∀ b ∈ records, a.parent = b.parent → a.taskName = b.taskName →
    a = b := by decide +kernel
  have stored (e : ExecutionRecord) (below : world.store.Below "run" top.id e) : e ∈ records := by
    cases below with
    | child member => exact mem_records member
    | deeper _ member => exact mem_records member
  constructor
  · intro e below same
    have root := parents e (stored e below) same
    cases below with
    | child member =>
      have one : e.parent = top.id := member.parent
      rw [root] at one
      exact absurd one (by decide)
    | deeper below member =>
      have inner := stored _ below
      exact ids _ inner (member.parent.symm.trans root)
  · intro g a b left right same
    exact names a (mem_records left) b (mem_records right)
      (left.parent.trans right.parent.symm) same

end SharedNames

/-- Tasks of one name are mixed up, although the executions form a tree: a name of the current graph
leads into `x`, and so does the output of `y`. -/
theorem shared_names_out_of_scope : SharedNames.world.store.Reachable ∧
    SharedNames.world.store.Treelike "run" SharedNames.top.id ∧
    ((producedParameter "run" SharedNames.top ⟨"a", "k"⟩).run {} SharedNames.world).1 =
      .ok (.str "inside x") ∧
    (¬ ∃ tasks start hops leaf key,
      InScope SharedNames.world.store "run" SharedNames.top.id ⟨"a", "k"⟩ start hops ∧
      Trail .parameter tasks start "k" hops leaf key ∧
      leaf.outputParameters.get? key = some (.str "inside x")) ∧
    ((producedParameter "run" SharedNames.top ⟨"y", "out"⟩).run {} SharedNames.world).1 =
      .ok (.str "inside x") ∧
    (¬ ∃ tasks start hops leaf key,
      InScope SharedNames.world.store "run" SharedNames.top.id ⟨"y", "out"⟩ start hops ∧
      Trail .parameter tasks start "out" hops leaf key ∧
      leaf.outputParameters.get? key = some (.str "inside x")) := by
  refine ⟨SharedNames.store_reachable, SharedNames.world_treelike, rfl, ?_, rfl, ?_⟩
  · rintro ⟨tasks, start, hops, leaf, key, scope, trail, value⟩
    have direct : start = SharedNames.outside :=
      scope.start _ ⟨rfl, rfl, by decide, rfl⟩ rfl
    subst direct
    rcases trail.inversion with ⟨_, _, rfl, rfl⟩ | ⟨h, rest, _, same, _, declared, _⟩
    · exact absurd value (by decide)
    · exact absurd (same ▸ declared.isDag) (by decide)
  · rintro ⟨tasks, start, hops, leaf, key, scope, trail, value⟩
    have direct : start = SharedNames.y := scope.start _ ⟨rfl, rfl, by decide, rfl⟩ rfl
    subst direct
    rcases trail.inversion with ⟨notDag, _⟩ | ⟨h, rest, rfl, same, output, declared, trail⟩
    · exact absurd notDag (by decide)
    obtain ⟨producers, producer, stored, entry, selected⟩ := declared.producer
    have chosen : h.selector = ⟨"a", "k"⟩ := by
      rw [same] at stored
      obtain rfl := Option.some.inj stored
      rw [output] at entry
      obtain rfl := Option.some.inj entry
      exact (Except.ok.inj selected).symm
    obtain ⟨member, named⟩ := scope.hops h List.mem_cons_self
    rw [same] at member
    rw [chosen] at named trail
    have own : h.task = SharedNames.insideY :=
      SharedNames.world_treelike.distinct _ _ _ member ⟨rfl, rfl, by decide, rfl⟩ named
    rw [own] at trail
    rcases trail.inversion with ⟨_, _, rfl, rfl⟩ | ⟨_, _, _, same', _, declared', _⟩
    · exact absurd value (by decide)
    · exact absurd (same' ▸ declared'.isDag) (by decide)

end TaskGraph
