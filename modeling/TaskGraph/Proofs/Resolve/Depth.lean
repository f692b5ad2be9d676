import TaskGraph.Proofs.Resolve.Chains
import TaskGraph.Proofs.Resolve.Collect

/-! How deep an output is made. Where every graph declares tasks of its own as producers,
each hop goes one graph deeper, so a chain of producers is no longer than graphs may be
nested. -/

namespace TaskGraph

/-- All selectors of a producer, whichever of them counts. -/
def OutputProducer.selectors : OutputProducer → List OutputSelector
  | .direct selector => [selector]
  | .oneOf selectors => selectors

theorem OutputProducer.Picks.mem {tasks : Dict ExecutionRecord} {producer : OutputProducer}
    {selector : OutputSelector} (picks : producer.Picks tasks selector) :
    selector ∈ producer.selectors := by
  cases picks <;> simp [selectors]

namespace Store

variable {s : Store} {runId : String} {top : Int}

/-- No two executions below a graph share a name. -/
def NamesApart (s : Store) (runId : String) (top : Int) : Prop :=
  ∀ m n a b, s.ReachedAt runId top m a → s.ReachedAt runId top n b → a.taskName = b.taskName →
    a = b

/-- No graph of this name fans out. -/
def FansNot (s : Store) (runId : String) (top : Int) (name : String) : Prop :=
  ∀ depth e, s.ReachedAt runId top depth e → e.taskName = name → e.isDag = true →
    e.isIterator = false

/-- A selector leads into the graph that declares it, to no fan-out. The task that it names need not
exist. -/
structure LeadsInside (s : Store) (runId : String) (top : Int) (graph : ExecutionRecord)
    (selector : OutputSelector) : Prop where
  inside : s.Occurs runId top selector.subtask →
    ∃ child, s.HasTask runId graph.id child ∧ child.taskName = selector.subtask
  single : s.FansNot runId top selector.subtask

/-- All that the graphs below `top` declare as producers are tasks of their own. -/
def ProducesInside (s : Store) (runId : String) (top : Int) : Prop :=
  ∀ depth graph, s.EnteredAt runId top depth graph → ∀ side key producer,
    graph.Declares side key producer → ∀ selector ∈ producer.selectors,
      s.LeadsInside runId top graph selector

/-- A task below `top` that a chain of producers may pass. -/
structure ProducerAt (s : Store) (runId : String) (top : Int) (depth : Nat) (e : ExecutionRecord) :
    Prop where
  reached : s.ReachedAt runId top depth e
  single : e.isDag = true → e.isIterator = false

theorem ReachedAt.pos {depth : Nat} {e : ExecutionRecord} (h : s.ReachedAt runId top depth e) :
    0 < depth := by
  cases h <;> exact Nat.succ_pos _

/-- Tasks lie at most one level below the graphs that are entered. -/
theorem ReachedAt.le {depth : Nat} {e : ExecutionRecord} (collectable : s.Collectable runId top)
    (h : s.ReachedAt runId top depth e) : depth ≤ maxDagDepth + 1 := by
  cases h with
  | child => exact Nat.succ_le_succ (Nat.zero_le _)
  | deeper reached isDag single _ =>
    exact Nat.succ_le_succ (collectable.shallow _ _ ⟨reached, isDag, single⟩)

end Store

variable {s : Store} {runId : String} {top : Int} {side : OutputSide}
  {tasks : Dict ExecutionRecord} {place next last : ExecutionRecord × String} {depth : Nat}

/-- The tasks that names are looked up among: each is below `top` and has the name. -/
def Store.Holds (s : Store) (runId : String) (top : Int) (tasks : Dict ExecutionRecord) : Prop :=
  ∀ name e, tasks.get? name = some e → e.taskName = name ∧ ∃ depth, s.ReachedAt runId top depth e

/-- A hop goes from a graph to one of its own tasks. -/
theorem Hop.deeper (apart : s.NamesApart runId top) (inside : s.ProducesInside runId top)
    (holds : s.Holds runId top tasks) (start : s.ProducerAt runId top depth place.1)
    (h : Hop side tasks place next) : s.ProducerAt runId top (depth + 1) next.1 := by
  cases h with
  | @mk graph task key producer selector isDag declares picks named found =>
    have single := start.single isDag
    obtain ⟨sameName, depth', reached⟩ := holds _ _ found
    have leads := inside _ _ ⟨start.reached, isDag, single⟩ _ _ _ declares _ picks.mem
    obtain ⟨child, member, childName⟩ :=
      leads.inside (Store.occurs_iff_reachedAt.2 ⟨depth', task, reached, sameName⟩)
    have below : s.ReachedAt runId top (depth + 1) child := .deeper start.reached isDag single member
    obtain rfl := apart _ _ _ _ below reached (childName.trans sameName.symm)
    exact ⟨below, leads.single _ _ below childName⟩

theorem HopsTo.deeper {n : Nat} (apart : s.NamesApart runId top)
    (inside : s.ProducesInside runId top) (holds : s.Holds runId top tasks)
    (start : s.ProducerAt runId top depth place.1) (h : HopsTo side tasks n place last) :
    s.ProducerAt runId top (depth + n) last.1 := by
  induction h generalizing depth with
  | here => exact start
  | hop first _ ih =>
    have whole := ih (first.deeper apart inside holds start)
    rwa [Nat.add_right_comm] at whole

/-- A chain of producers below a graph is not longer than the graphs are nested. -/
theorem HopsTo.le_maxDagDepth {n : Nat} (collectable : s.Collectable runId top)
    (apart : s.NamesApart runId top) (inside : s.ProducesInside runId top)
    (holds : s.Holds runId top tasks) (start : s.ProducerAt runId top depth place.1)
    (h : HopsTo side tasks n place last) : n ≤ maxDagDepth := by
  have shallow := (h.deeper apart inside holds start).reached.le collectable
  have below := start.reached.pos
  omega

variable {services : Services} {w w' v : World} {dag : ExecutionRecord} {o : TaskOutput} {e : Error}

theorem holds_of_reachableTasks (keyed : w.store.Keyed)
    (collected : (reachableTasks runId dag).run services w = (.ok tasks, w')) :
    w.store.Holds runId dag.id tasks := by
  intro name e found
  obtain ⟨_, all, rfl, traversed⟩ := reachableTasks_run keyed collected
  rcases (traversed.covers name e).1 found with ⟨path, graph, last, named⟩ | ⟨_, old⟩
  · exact ⟨named, _, last.nested.reachedAt last.member⟩
  · simp at old

theorem NoHop.ne_chainTooLong {graph : ExecutionRecord} {key start : String} {fault : Fault}
    (h : NoHop side tasks graph key fault) : fault ≠ .chainTooLong start := by
  cases h <;> simp

/-- Where chains are not longer than the limit, an output of another task is found or refused for
another reason. -/
theorem producedBy_error (collected : (reachableTasks runId dag).run services w = (.ok tasks, w'))
    (short : ∀ producer, tasks.get? o.task = some producer → ∀ last,
      ¬ HopsTo side tasks (maxDagDepth + 1) (producer, o.key) last)
    (h : (producedBy side runId dag o).run services w = (.error e, v)) (start : String) :
    e.fault ≠ .chainTooLong start := by
  unfold producedBy at h
  split at h
  · cases h
    simp
  split at h
  · cases h
    simp
  rw [Plan.run_bind, collected] at h
  cases found : tasks.get? o.task with
  | none =>
    simp only [found, Plan.run_fail] at h
    cases h
    simp
  | some producer =>
    simp only [found, Plan.run_lift] at h
    rcases descendToLeaf_error_iff.1 (Prod.mk.inj h).1 with
      ⟨_, _, _, fault, _, stuck, rfl⟩ | ⟨⟨last, long⟩, _⟩
    · exact stuck.noHop.ne_chainTooLong
    · exact absurd long (short producer found last)

theorem run_outputArtifacts (available : services.Available) (id : Int) :
    (Plan.perform (.outputArtifacts id)).run services w = (.ok (w.store.outputArtifactsOf id), w) := by
  simp [Plan.perform, Plan.run, World.answer, Services.fault?, Call.operation?,
    available .getOutputArtifacts, World.serve]

/-- The limit on chains of producers is not met below a graph whose tasks can be collected, if each
graph there declares tasks of its own, no name is given twice and no fan-out is asked for. -/
theorem chain_stays_within_depth (reachable : w.store.Reachable) (available : services.Available)
    (collected : (reachableTasks runId dag).run services w = (.ok tasks, w'))
    (apart : w.store.NamesApart runId dag.id) (inside : w.store.ProducesInside runId dag.id)
    (o : TaskOutput) (single : w.store.FansNot runId dag.id o.task) (start : String) :
    (∀ e v, (producedParameter runId dag o).run services w = (.error e, v) →
      e.fault ≠ .chainTooLong start) ∧
    (∀ e v, (producedArtifact runId dag o).run services w = (.error e, v) →
      e.fault ≠ .chainTooLong start) := by
  have keyed := reachable.keyed
  have collectable := collectable_of_reachableTasks available keyed collected
  have holds := holds_of_reachableTasks keyed collected
  have short (side : OutputSide) (producer : ExecutionRecord)
      (found : tasks.get? o.task = some producer) (last : ExecutionRecord × String) :
      ¬ HopsTo side tasks (maxDagDepth + 1) (producer, o.key) last := by
    intro long
    obtain ⟨named, depth, reached⟩ := holds _ _ found
    have start : w.store.ProducerAt runId dag.id depth producer :=
      ⟨reached, single depth producer reached named⟩
    exact Nat.not_succ_le_self _ (long.le_maxDagDepth collectable apart inside holds start)
  constructor
  · intro e v h
    rcases Plan.run_bind_error_iff.1 h with failed | ⟨⟨leaf, key⟩, u, _, body⟩
    · exact producedBy_error collected (short .parameter) failed start
    · dsimp only at body
      cases found : leaf.outputParameters.get? key with
      | none =>
        simp only [found, Plan.run_fail] at body
        cases body
        simp
      | some value => simp [found] at body
  · intro e v h
    rcases Plan.run_bind_error_iff.1 h with failed | ⟨⟨leaf, key⟩, u, _, body⟩
    · exact producedBy_error collected (short .artifact) failed start
    · rw [Plan.run_bind, run_outputArtifacts available] at body
      dsimp only at body
      cases found : (u.store.outputArtifactsOf leaf.id).get? key with
      | none =>
        simp only [found, Plan.run_fail] at body
        cases body
        simp
      | some artifact => simp [found] at body

namespace Nest

def task (id : Int) (name : String) (parent : Int) (state : ExecutionState) : ExecutionRecord where
  id := id
  runId := "run"
  taskName := name
  type := containerType
  state := state
  parent := parent
  outputParameters := .ofList [("value", .str name)]

def graph (id : Int) (name : String) (parent : Int) (iterations : Option Nat)
    (producers : List (String × OutputProducer)) : ExecutionRecord where
  id := id
  runId := "run"
  taskName := name
  type := dagType
  parent := parent
  iterationCount := iterations
  parameterProducers := some (.ofList producers)

def root : ExecutionRecord := graph 1 "" 0 none []

/-- A graph in a graph, and beside them a fan-out that declares itself as its producer. -/
def records : List ExecutionRecord :=
  [root,
    graph 2 "outer" 1 none [("score", .direct ⟨"inner", "best"⟩), ("lost", .direct ⟨"gone", "value"⟩)],
    graph 3 "inner" 2 none [("best", .oneOf [⟨"skipped", "value"⟩, ⟨"a", "value"⟩, ⟨"b", "value"⟩])],
    task 4 "a" 3 .failed, task 5 "b" 3 .cached,
    graph 6 "loop" 1 (some 2) [("score", .direct ⟨"loop", "score"⟩)]]

def world : World where
  store := records.foldl (fun s e => (s.insert e).2) {}

theorem mem_records {depth : Nat} {e : ExecutionRecord}
    (h : world.store.ReachedAt "run" root.id depth e) : e ∈ records := by
  have values : world.store.executions.values = records := rfl
  obtain ⟨_, _, _, member, _⟩ := h.nested
  rw [← values]
  exact SortedMap.mem_values_iff.2 ⟨_, member.stored⟩

theorem world_namesApart : world.store.NamesApart "run" root.id := by
  have names : ∀ a ∈ records, ∀ b ∈ records, a.taskName = b.taskName → a = b := by decide +kernel
  intro m n a b left right same
  exact names a (mem_records left) b (mem_records right) same

theorem world_producesInside : world.store.ProducesInside "run" root.id := by
  have inside : ∀ g ∈ records, g.isIterator = false →
      ∀ side ∈ [OutputSide.parameter, .artifact], ∀ producers ∈ (g.producers side).toList,
      ∀ entry ∈ producers.entries, ∀ selector ∈ entry.2.selectors, ∀ e ∈ records,
        e.taskName = selector.subtask → e.parent = g.id ∧ e.isIterator = false := by
    decide +kernel
  intro depth g entered side key producer declares selector member
  obtain ⟨producers, stored, entry⟩ := declares
  have own (e : ExecutionRecord) (known : e ∈ records) (named : e.taskName = selector.subtask) :=
    inside g (mem_records entered.reached) entered.single side (by cases side <;> simp)
      producers (by simp [stored]) (key, producer) (SortedMap.get?_eq_some_iff.1 entry) selector
      member e known named
  constructor
  · rintro ⟨path, graph, e, nested, found, named⟩
    have reached := nested.reachedAt found
    exact ⟨e, ⟨found.stored, found.run, found.named, (own e (mem_records reached) named).1⟩, named⟩
  · intro depth e reached named _
    exact (own e (mem_records reached) named).2

theorem world_fansNot : world.store.FansNot "run" root.id "outer" := by
  have single : ∀ e ∈ records, e.taskName = "outer" → e.isIterator = false := by decide +kernel
  intro depth e reached named _
  exact single e (mem_records reached) named

end Nest

/-- An output of `outer` is traced through both graphs, or refused as it names no task. -/
theorem chain_stays_within_depth_nested :
    Nest.world.store.Reachable ∧ ({} : Services).Available ∧
    Nest.world.store.NamesApart "run" Nest.root.id ∧
    Nest.world.store.ProducesInside "run" Nest.root.id ∧
    Nest.world.store.FansNot "run" Nest.root.id "outer" ∧
    (∃ tasks, (reachableTasks "run" Nest.root).run {} Nest.world = (.ok tasks, Nest.world)) ∧
    ((producedParameter "run" Nest.root ⟨"outer", "score"⟩).run {} Nest.world).1 =
      .ok (.str "b") ∧
    ∃ e, (producedParameter "run" Nest.root ⟨"outer", "lost"⟩).run {} Nest.world =
        (.error e, Nest.world) ∧ ∀ start, e.fault ≠ .chainTooLong start := by
  have reachable : Nest.world.store.Reachable := Store.Reachable.empty.inserted _
  have available : ({} : Services).Available := fun _ => rfl
  obtain ⟨tasks, collected⟩ : ∃ tasks, (reachableTasks "run" Nest.root).run {} Nest.world =
    (.ok tasks, Nest.world) := ⟨_, rfl⟩
  refine ⟨reachable, available, Nest.world_namesApart, Nest.world_producesInside,
    Nest.world_fansNot, ⟨tasks, collected⟩, rfl, _, rfl, fun start => ?_⟩
  exact (chain_stays_within_depth reachable available collected Nest.world_namesApart
    Nest.world_producesInside ⟨"outer", "lost"⟩ Nest.world_fansNot start).1 _ _ rfl

end TaskGraph
