import TaskGraph.Proofs.Resolve.Reach
import TaskGraph.Proofs.Resolve.Reads

/-! The traversal of the graphs below a graph. It ends on whatever the store holds, for
it makes no call twice; it succeeds exactly on graphs that can be collected, and then has
found every task below under its name. -/

namespace TaskGraph

/-- A store that is there for every call. -/
def Services.Available (s : Services) : Prop := ∀ operation, s.storeFault operation = none

variable {services : Services} {w w' : World} {runId : String} {start : Int}

theorem run_dag (available : services.Available) (id : Int) :
    (Plan.perform (.dag id)).run services w = (w.store.dag id, w) := by
  simp [Plan.perform, Plan.run, World.answer, Services.fault?, Call.operation?, available .getDag,
    World.serve]

theorem run_tasks (available : services.Available) (runId : String) (parent : Option Int) :
    (Plan.perform (.tasks runId parent)).run services w = (w.store.tasks runId parent, w) := by
  simp [Plan.perform, Plan.run, World.answer, Services.fault?, Call.operation?,
    available .getTasks, World.serve]

theorem run_nestedDags (available : services.Available) {tasks : List ExecutionRecord}
    (stored : ∀ e ∈ tasks, w.store.executions.get? e.id = some e) :
    (nestedDags tasks).run services w = (.ok (tasks.filter fun e => e.isDag && !e.isIterator), w) := by
  induction tasks with
  | nil => rfl
  | cons task rest ih =>
    obtain ⟨storedTask, storedRest⟩ := List.forall_mem_cons.1 stored
    unfold nestedDags
    split
    · rename_i entered
      have isDag : task.isDag = true := (Bool.and_eq_true_iff.1 entered).1
      rw [List.filter_cons, if_pos entered, Plan.run_bind, run_dag available,
        Store.dag_eq_ok_iff.2 ⟨storedTask, isDag⟩]
      simp only [Plan.run_bind, ih storedRest, Plan.run_pure]
    · rename_i passed
      rw [List.filter_cons, if_neg passed]
      exact ih storedRest

/-- One graph of a traversal: its tasks are listed, then the graphs among them are entered. -/
theorem run_collectTasks (available : services.Available) (keyed : w.store.Keyed) {depth : Nat}
    {dag : ExecutionRecord} {before : Collected} {tasks : Dict ExecutionRecord}
    (unvisited : dag.id ∉ before.visited) (listed : w.store.tasks runId (some dag.id) = .ok tasks) :
    (collectTasks runId start (depth + 1) dag before).run services w =
      ((toEnter tasks).foldlM (fun found dag => collectTasks runId start depth dag found)
        ⟨before.tasks.union tasks, dag.id :: before.visited⟩).run services w := by
  rw [collectTasks, if_neg (by simpa using unvisited), Plan.run_bind, run_tasks available, listed]
  simp only [Plan.run_bind, run_nestedDags available (stored_of_listed keyed listed)]
  rfl

/-- A traversal that succeeds with a graph was new to it and could list its tasks. -/
theorem collectTasks_ok {depth : Nat} {dag : ExecutionRecord} {before after : Collected}
    (h : (collectTasks runId start (depth + 1) dag before).run services w = (.ok after, w')) :
    dag.id ∉ before.visited ∧ ∃ tasks, w.store.tasks runId (some dag.id) = .ok tasks := by
  unfold collectTasks at h
  split at h
  · simp [Result.fail] at h
  · rename_i unvisited
    obtain ⟨tasks, v, answered, _⟩ := Plan.run_bind_ok_iff.1 h
    exact ⟨by simpa using unvisited, tasks, (Plan.tasks_answered answered).1⟩

/-- A graph that a traversal gets through: nothing below it lies too deep, was met before or is
met twice, and no two tasks side by side share a name. -/
structure Passable (s : Store) (runId : String) (graph : Int) (depth : Nat) (visited : List Int) :
    Prop where
  shallow : ∀ path g, s.Nested runId graph path g → path.length < depth
  distinct : ∀ path g, s.Nested runId graph path g → s.DistinctNames runId g
  fresh : ∀ path g, s.Nested runId graph path g → g ∉ visited
  single : ∀ p q g, s.Nested runId graph p g → s.Nested runId graph q g → p = q

/-- What a traversal has met once it got through some graphs. -/
structure Met (s : Store) (runId : String) (graphs : List ExecutionRecord)
    (before after : Collected) : Prop where
  visited : ∀ g, g ∈ after.visited ↔
    g ∈ before.visited ∨ ∃ dag ∈ graphs, ∃ path, s.Nested runId dag.id path g
  names : ∀ name, (after.tasks.get? name).isSome ↔
    (before.tasks.get? name).isSome ∨ ∃ dag ∈ graphs, s.Occurs runId dag.id name

theorem Met.cons {s : Store} {dag : ExecutionRecord} {rest : List ExecutionRecord}
    {before middle after : Collected} (first : Met s runId [dag] before middle)
    (others : Met s runId rest middle after) : Met s runId (dag :: rest) before after where
  visited g := by
    rw [others.visited, first.visited]
    simp [or_assoc]
  names name := by
    rw [others.names, first.names]
    simp [or_assoc]

theorem collectAll_passes {depth : Nat} (before : Collected)
    (one : ∀ dag before, Passable w.store runId dag.id depth before.visited →
      ∃ after, (collectTasks runId start depth dag before).run services w = (.ok after, w) ∧
        Met w.store runId [dag] before after)
    {graphs : List ExecutionRecord}
    (passable : ∀ dag ∈ graphs, Passable w.store runId dag.id depth before.visited)
    (apart : graphs.Pairwise fun a b => ∀ p q g, w.store.Nested runId a.id p g →
      ¬ w.store.Nested runId b.id q g) :
    ∃ after, (graphs.foldlM (fun found dag => collectTasks runId start depth dag found) before).run
      services w = (.ok after, w) ∧ Met w.store runId graphs before after := by
  induction graphs generalizing before with
  | nil => exact ⟨before, rfl, ⟨by simp, by simp⟩⟩
  | cons dag rest ih =>
    obtain ⟨first, passable⟩ := List.forall_mem_cons.1 passable
    obtain ⟨here, apart⟩ := List.pairwise_cons.1 apart
    obtain ⟨middle, run, met⟩ := one dag before first
    have still : ∀ d ∈ rest, Passable w.store runId d.id depth middle.visited := by
      intro d member
      refine { passable d member with fresh := fun path g nested old => ?_ }
      rcases (met.visited g).1 old with old | ⟨_, same, path', nested'⟩
      · exact (passable d member).fresh path g nested old
      · rw [List.mem_singleton.1 same] at nested'
        exact here d member _ _ g nested' nested
    obtain ⟨after, others, met'⟩ := ih middle still apart
    refine ⟨after, ?_, met.cons met'⟩
    rw [List.foldlM_cons, Plan.run_bind, run]
    exact others

theorem collectTasks_passes (available : services.Available) (keyed : w.store.Keyed) {depth : Nat}
    {dag : ExecutionRecord} {before : Collected}
    (passable : Passable w.store runId dag.id depth before.visited) :
    ∃ after, (collectTasks runId start depth dag before).run services w = (.ok after, w) ∧
      Met w.store runId [dag] before after := by
  induction depth generalizing dag before with
  | zero => exact absurd (passable.shallow [] _ (.here _)) (Nat.not_lt_zero _)
  | succ depth ih =>
    obtain ⟨tasks, listed⟩ := (Store.exists_tasks_iff keyed).2 (passable.distinct [] _ (.here _))
    have entered {g : ExecutionRecord} := mem_toEnter_iff keyed listed (g := g)
    have way {g : ExecutionRecord} (member : g ∈ toEnter tasks) {path : List String} {graph : Int}
        (nested : w.store.Nested runId g.id path graph) :
        w.store.Nested runId dag.id (g.taskName :: path) graph :=
      have enters := entered.1 member
      .inside enters.member enters.isDag enters.single nested
    have inner : ∀ g ∈ toEnter tasks,
        Passable w.store runId g.id depth (dag.id :: before.visited) := by
      intro g member
      refine ⟨fun path graph nested => ?_, fun path graph nested => ?_,
        fun path graph nested old => ?_, fun p q graph left right => ?_⟩
      · simpa using passable.shallow _ _ (way member nested)
      · exact passable.distinct _ _ (way member nested)
      · rcases List.mem_cons.1 old with rfl | old
        · exact absurd (passable.single _ _ _ (way member nested) (.here _)) (List.cons_ne_nil _ _)
        · exact passable.fresh _ _ (way member nested) old
      · exact (List.cons.inj (passable.single _ _ _ (way member left) (way member right))).2
    have apart : (toEnter tasks).Pairwise fun a b => ∀ p q g, w.store.Nested runId a.id p g →
        ¬ w.store.Nested runId b.id q g := by
      refine (toEnter_descending keyed listed).imp_of_mem ?_
      intro a b left right less p q g nested nested'
      have same := passable.single _ _ _ (way left nested) (way right nested')
      rw [(List.cons.inj same).1] at less
      exact Std.lt_irrefl less
    obtain ⟨after, run, met⟩ := collectAll_passes
      ⟨before.tasks.union tasks, dag.id :: before.visited⟩ (fun _ _ => ih) inner apart
    refine ⟨after, ?_, ⟨fun g => ?_, fun name => ?_⟩⟩
    · rw [run_collectTasks available keyed (passable.fresh [] _ (.here _)) listed]
      exact run
    · rw [met.visited, List.mem_cons]
      constructor
      · rintro ((rfl | old) | ⟨d, member, path, nested⟩)
        · exact .inr ⟨dag, List.mem_singleton_self dag, [], .here _⟩
        · exact .inl old
        · exact .inr ⟨dag, List.mem_singleton_self dag, _, way member nested⟩
      · rintro (old | ⟨_, member, path, nested⟩)
        · exact .inl (.inr old)
        · obtain rfl := List.mem_singleton.1 member
          cases nested with
          | here => exact .inl (.inl rfl)
          | inside member isDag single nested =>
            exact .inr ⟨_, entered.2 ⟨member, isDag, single⟩, _, nested⟩
    · have listed' : (tasks.get? name).isSome ↔
          ∃ e, w.store.HasTask runId dag.id e ∧ e.taskName = name := by
        simp only [Option.isSome_iff_exists, Store.tasks_eq_ok keyed listed]
      rw [met.names, SortedMap.get?_union, Option.isSome_or, Bool.or_eq_true, listed']
      simp only [List.mem_singleton, exists_eq_left, entered]
      rw [Store.occurs_iff, or_assoc, or_left_comm]

/-- Every graph that is entered in a traversal which succeeds is got through. -/
theorem collectAll_each {depth : Nat} {graphs : List ExecutionRecord} {before after : Collected}
    (h : (graphs.foldlM (fun found dag => collectTasks runId start depth dag found) before).run
      services w = (.ok after, w')) {dag : ExecutionRecord} (member : dag ∈ graphs) :
    ∃ found found' v, (collectTasks runId start depth dag found).run services w =
      (.ok found', v) := by
  induction graphs generalizing before with
  | nil => simp at member
  | cons first rest ih =>
    rw [List.foldlM_cons] at h
    obtain ⟨middle, v, here, others⟩ := Plan.run_bind_ok_iff.1 h
    obtain rfl := (readsStore_collectTasks _ _ _).reads.world_eq here
    rcases List.mem_cons.1 member with rfl | member
    · exact ⟨before, middle, v, here⟩
    · exact ih others member

theorem collectTasks_shape (available : services.Available) (keyed : w.store.Keyed) {depth : Nat}
    {dag : ExecutionRecord} {before after : Collected}
    (h : (collectTasks runId start depth dag before).run services w = (.ok after, w')) :
    ∀ path g, w.store.Nested runId dag.id path g →
      path.length < depth ∧ w.store.DistinctNames runId g := by
  induction depth generalizing dag before after w' with
  | zero => simp [collectTasks, Result.fail] at h
  | succ depth ih =>
    obtain ⟨unvisited, tasks, listed⟩ := collectTasks_ok h
    rw [run_collectTasks available keyed unvisited listed] at h
    intro path g nested
    cases nested with
    | here => exact ⟨Nat.succ_pos depth, (Store.exists_tasks_iff keyed).1 ⟨tasks, listed⟩⟩
    | inside member isDag single nested =>
      have enters := (mem_toEnter_iff keyed listed).2 ⟨member, isDag, single⟩
      obtain ⟨found, found', v, here⟩ := collectAll_each h enters
      obtain ⟨short, distinct⟩ := ih here _ g nested
      exact ⟨Nat.succ_lt_succ short, distinct⟩

theorem collectable_of_reachableTasks (available : services.Available) (keyed : w.store.Keyed)
    {dag : ExecutionRecord} {tasks : Dict ExecutionRecord}
    (h : (reachableTasks runId dag).run services w = (.ok tasks, w')) :
    w.store.Collectable runId dag.id := by
  obtain ⟨found, v, collected, _⟩ := Plan.run_bind_ok_iff.1 h
  have shape := collectTasks_shape available keyed collected
  have traversed := (collectTasks_run keyed collected).2
  refine Store.collectable_iff.2 ⟨fun path nested => ?_, fun path g nested => ?_,
    fun path g nested => (shape path g nested).2⟩
  · cases nested with
    | here => rfl
    | inside member isDag single nested =>
      exact absurd nested (traversed.acyclic _ _ ⟨member, isDag, single⟩)
  · exact Nat.le_of_lt_succ (shape path g nested).1

theorem reachableTasks_of_collectable (available : services.Available) (keyed : w.store.Keyed)
    {dag : ExecutionRecord} (collectable : w.store.Collectable runId dag.id) :
    ∃ tasks, (reachableTasks runId dag).run services w = (.ok tasks, w) ∧
      ∀ name, (tasks.get? name).isSome ↔ w.store.Occurs runId dag.id name := by
  obtain ⟨acyclic, shallow, distinct⟩ := Store.collectable_iff.1 collectable
  have passable : Passable w.store runId dag.id (maxDagDepth + 1) ({} : Collected).visited :=
    ⟨fun path g nested => Nat.lt_succ_of_le (shallow path g nested), distinct,
      fun _ _ _ => List.not_mem_nil, fun _ _ _ left right => left.unique acyclic right⟩
  obtain ⟨after, run, met⟩ := collectTasks_passes available keyed passable
  refine ⟨after.tasks, Plan.run_bind_ok_iff.2 ⟨after, w, run, rfl⟩, fun name => ?_⟩
  rw [met.names]
  simp

end TaskGraph
