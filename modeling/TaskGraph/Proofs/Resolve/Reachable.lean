import Mathlib.Data.List.Perm.Subperm
import TaskGraph.Proofs.Resolve.Collect

/-! The tasks that can be reached from a graph. They are looked for with a bounded number
of calls, whatever the store holds, and found exactly if they can be collected. -/

namespace TaskGraph

variable {services : Services} {w w' : World} {runId : String} {start : Int}

/-- The graph that a call of a traversal is about: the one that is listed, or the one of the task
that is looked up. -/
def Call.graph? (s : Store) : Call → Option Int
  | .tasks _ parent => parent
  | .dag id => (s.executions.get? id).map ExecutionRecord.parent
  | _ => none

/-- The calls about stored executions that a traversal can make. -/
def possibleCalls (s : Store) (runId : String) : List Call :=
  s.executions.keys.map (fun id => .tasks runId (some id)) ++ s.executions.keys.map .dag

theorem length_possibleCalls (s : Store) :
    (possibleCalls s runId).length = 2 * s.executions.size := by
  simp [possibleCalls, SortedMap.keys, SortedMap.size]
  omega

theorem mem_possibleCalls {s : Store} {id : Int} {e : ExecutionRecord}
    (stored : s.executions.get? id = some e) :
    .tasks runId (some id) ∈ possibleCalls s runId ∧ .dag id ∈ possibleCalls s runId := by
  have key : id ∈ s.executions.keys :=
    List.mem_map.2 ⟨(id, e), SortedMap.get?_eq_some_iff.1 stored, rfl⟩
  exact ⟨List.mem_append_left _ (List.mem_map.2 ⟨id, key, rfl⟩),
    List.mem_append_right _ (List.mem_map.2 ⟨id, key, rfl⟩)⟩

/-- A part of a traversal: each call is one of those allowed, is made once and is about a graph that
was not visited before and is visited now. -/
structure Explores (s : Store) (allowed : List Call) (before : Collected) (calls : List Call)
    (result : Result Collected) : Prop where
  known : calls ⊆ allowed
  once : calls.Nodup
  fresh : ∀ c ∈ calls, ∃ g, c.graph? s = some g ∧ g ∉ before.visited
  grows : ∀ after, result = .ok after → before.visited ⊆ after.visited
  marks : ∀ after, result = .ok after → ∀ c ∈ calls, ∃ g, c.graph? s = some g ∧ g ∈ after.visited

namespace Explores

variable {s : Store} {allowed : List Call} {before middle : Collected} {calls calls' : List Call}
  {result : Result Collected}

theorem nothing (h : ∀ after, result = .ok after → before.visited ⊆ after.visited) :
    Explores s allowed before [] result :=
  ⟨List.nil_subset _, .nil, by simp, h, by simp⟩

theorem mono {allowed' : List Call} (h : Explores s allowed before calls result)
    (wider : allowed ⊆ allowed') : Explores s allowed' before calls result :=
  { h with known := List.Subset.trans h.known wider }

theorem append (first : Explores s allowed before calls (.ok middle))
    (rest : Explores s allowed middle calls' result) :
    Explores s allowed before (calls ++ calls') result where
  known := List.append_subset.2 ⟨first.known, rest.known⟩
  once := by
    refine List.nodup_append.2 ⟨first.once, rest.once, fun c left c' right same => ?_⟩
    subst same
    obtain ⟨g, about, visited⟩ := first.marks middle rfl c left
    obtain ⟨g', about', fresh⟩ := rest.fresh c right
    rw [about] at about'
    exact fresh (Option.some.inj about' ▸ visited)
  fresh c member := by
    rcases List.mem_append.1 member with member | member
    · exact first.fresh c member
    · obtain ⟨g, about, fresh⟩ := rest.fresh c member
      exact ⟨g, about, fun old => fresh (first.grows middle rfl old)⟩
  grows after h := List.Subset.trans (first.grows middle rfl) (rest.grows after h)
  marks after h c member := by
    rcases List.mem_append.1 member with member | member
    · obtain ⟨g, about, visited⟩ := first.marks middle rfl c member
      exact ⟨g, about, rest.grows after h visited⟩
    · exact rest.marks after h c member

end Explores

/-- The graphs among some tasks are looked up one by one, until one is missing. -/
theorem calls_nestedDags (services : Services) (w : World) (tasks : List ExecutionRecord) :
    ((nestedDags tasks).calls services w).Sublist
      ((tasks.filter fun e => e.isDag && !e.isIterator).map fun e => .dag e.id) := by
  induction tasks with
  | nil => exact .refl _
  | cons task rest ih =>
    unfold nestedDags
    split
    · rename_i entered
      rw [List.filter_cons, if_pos entered, List.map_cons, Plan.calls_bind,
        Plan.calls_perform]
      refine .cons_cons _ ?_
      rcases answered : (Plan.perform (.dag task.id)).run services w with ⟨_ | dag, v⟩
      · exact List.nil_sublist _
      · obtain rfl := (Plan.reads_perform rfl).world_eq answered
        simp only [Plan.calls_bind]
        rcases (nestedDags rest).run services v with ⟨_ | others, v'⟩ <;>
          simpa using ih
    · rename_i passed
      rw [List.filter_cons, if_neg passed]
      exact ih

/-- The graphs that are looked up are tasks of the graph that was listed, each another one. -/
theorem lookups_distinct (services : Services) (keyed : w.store.Keyed) {graph : Int} {tasks : Dict ExecutionRecord}
    (listed : w.store.tasks runId (some graph) = .ok tasks) :
    ((nestedDags tasks.values).calls services w).Nodup ∧
      ∀ c ∈ (nestedDags tasks.values).calls services w,
        ∃ e, w.store.HasTask runId graph e ∧ c = .dag e.id := by
  have lookups := calls_nestedDags services w tasks.values
  have enters {e : ExecutionRecord} (inside : e ∈ tasks.values.filter fun e =>
      e.isDag && !e.isIterator) : w.store.HasTask runId graph e :=
    ((mem_toEnter_iff keyed listed).1 (List.mem_reverse.2 inside)).member
  constructor
  · refine lookups.nodup (List.pairwise_map.2 ?_)
    refine (List.pairwise_reverse.1 (toEnter_descending keyed listed)).imp_of_mem ?_
    intro a b left right less same
    have stored := (enters left).stored
    rw [Call.dag.inj same, (enters right).stored, Option.some.injEq] at stored
    rw [stored] at less
    exact Std.lt_irrefl less
  · intro c member
    obtain ⟨e, inside, rfl⟩ := List.mem_map.1 (lookups.subset member)
    exact ⟨e, enters inside, rfl⟩

/-- Listing a graph and looking up the graphs in it. -/
theorem explores_graph {dag : ExecutionRecord} {before : Collected}
    (unvisited : dag.id ∉ before.visited) {calls : List Call} (once : calls.Nodup)
    (lookups : ∀ c ∈ calls, ∃ e, w.store.HasTask runId dag.id e ∧ c = .dag e.id)
    (result : Result Collected)
    (visits : ∀ after, result = .ok after → after.visited = dag.id :: before.visited) :
    Explores w.store (.tasks runId (some dag.id) :: possibleCalls w.store runId) before
      (.tasks runId (some dag.id) :: calls) result := by
  have about : ∀ c ∈ Call.tasks runId (some dag.id) :: calls, c.graph? w.store = some dag.id := by
    refine List.forall_mem_cons.2 ⟨rfl, fun c member => ?_⟩
    obtain ⟨e, ofGraph, rfl⟩ := lookups c member
    rw [Call.graph?, ofGraph.stored, Option.map_some, ofGraph.parent]
  refine ⟨?_, ?_, fun c member => ⟨dag.id, about c member, unvisited⟩, fun after h => ?_,
    fun after h c member => ⟨dag.id, about c member, ?_⟩⟩
  · refine List.cons_subset.2 ⟨List.mem_cons_self, fun c member => List.mem_cons_of_mem _ ?_⟩
    obtain ⟨e, ofGraph, rfl⟩ := lookups c member
    exact (mem_possibleCalls ofGraph.stored).2
  · refine List.nodup_cons.2 ⟨fun member => ?_, once⟩
    obtain ⟨e, _, same⟩ := lookups _ member
    cases same
  · rw [visits after h]
    exact List.subset_cons_self _ _
  · rw [visits after h]
    exact List.mem_cons_self

theorem collectAll_explores {depth : Nat}
    (one : ∀ dag before, w.store.executions.get? dag.id = some dag →
      Explores w.store (possibleCalls w.store runId) before
        ((collectTasks runId start depth dag before).calls services w)
        ((collectTasks runId start depth dag before).run services w).1)
    {graphs : List ExecutionRecord}
    (stored : ∀ dag ∈ graphs, w.store.executions.get? dag.id = some dag) (before : Collected) :
    Explores w.store (possibleCalls w.store runId) before
      ((graphs.foldlM (fun found dag => collectTasks runId start depth dag found) before).calls
        services w)
      ((graphs.foldlM (fun found dag => collectTasks runId start depth dag found) before).run
        services w).1 := by
  induction graphs generalizing before with
  | nil =>
    refine .nothing fun after h => ?_
    cases h
    exact List.Subset.refl _
  | cons dag rest ih =>
    obtain ⟨here, others⟩ := List.forall_mem_cons.1 stored
    have first := one dag before here
    rw [List.foldlM_cons, Plan.calls_bind, Plan.run_bind]
    rcases run : (collectTasks runId start depth dag before).run services w with ⟨_ | middle, v⟩
    · rw [run] at first
      simpa using first
    · obtain rfl := (readsStore_collectTasks _ _ _).reads.world_eq run
      rw [run] at first
      exact first.append (ih others middle)

/-- Whatever the store holds, a traversal makes no call twice. -/
theorem collectTasks_explores (services : Services) (keyed : w.store.Keyed) (runId : String)
    (start : Int) (depth : Nat) (dag : ExecutionRecord) (before : Collected) :
    Explores w.store (.tasks runId (some dag.id) :: possibleCalls w.store runId) before
      ((collectTasks runId start depth dag before).calls services w)
      ((collectTasks runId start depth dag before).run services w).1 := by
  induction depth generalizing dag before with
  | zero => exact .nothing (by simp [collectTasks, Result.fail])
  | succ depth ih =>
    unfold collectTasks
    split
    · exact .nothing (by simp [Result.fail])
    rename_i unvisited
    have unvisited : dag.id ∉ before.visited := by simpa using unvisited
    rw [Plan.calls_bind, Plan.run_bind, Plan.calls_perform]
    rcases answered : (Plan.perform (.tasks runId (some dag.id))).run services w with ⟨_ | tasks, v⟩
    · exact explores_graph unvisited .nil (by simp) _ (by simp)
    obtain ⟨listed, rfl⟩ := Plan.tasks_answered answered
    obtain ⟨once, lookups⟩ := lookups_distinct services keyed listed
    simp only [Plan.calls_bind, Plan.run_bind]
    rcases nested : (nestedDags tasks.values).run services v with ⟨_ | graphs, v'⟩
    · simpa using explores_graph unvisited once lookups (.error _) (by simp)
    obtain ⟨rfl, rfl⟩ := nestedDags_run keyed (stored_of_listed keyed listed) nested
    have stored (g : ExecutionRecord) (member : g ∈ (tasks.values.filter fun e =>
        e.isDag && !e.isIterator).reverse) : v'.store.executions.get? g.id = some g :=
      ((mem_toEnter_iff keyed listed).1 member).member.stored
    have whole := explores_graph unvisited once lookups
      (.ok ⟨before.tasks.union tasks, dag.id :: before.visited⟩) (by simp)
    refine whole.append (.mono ?_ (List.subset_cons_self _ _))
    refine collectAll_explores (fun g found here => (ih g found).mono ?_) stored _
    exact List.cons_subset.2 ⟨(mem_possibleCalls here).1, List.Subset.refl _⟩

theorem calls_reachableTasks (dag : ExecutionRecord) :
    (reachableTasks runId dag).calls services w =
      (collectTasks runId dag.id (maxDagDepth + 1) dag {}).calls services w := by
  rw [reachableTasks, Plan.calls_bind]
  rcases (collectTasks runId dag.id (maxDagDepth + 1) dag {}).run services w with ⟨_ | found, v⟩ <;>
    simp

/-- The tasks below a graph are looked for with a bounded number of calls, whatever records there
are. They are found exactly if the graph is not below itself, no graph below it lies too deep and no
two tasks of a graph share a name; then each name below it stands for a task of that name below
it. -/
theorem reachableTasks_exact (reachable : w.store.Reachable) (available : services.Available)
    (runId : String) (dag : ExecutionRecord) :
    ∃ result, (reachableTasks runId dag).run services w = (result, w) ∧
      ((reachableTasks runId dag).calls services w).Nodup ∧
      ((reachableTasks runId dag).calls services w).length ≤ 2 * w.store.executions.size + 1 ∧
      ((∃ tasks, result = .ok tasks) ↔ w.store.Collectable runId dag.id) ∧
      ∀ tasks, result = .ok tasks →
        (∀ name, tasks.contains name = true ↔
          ∃ depth e, w.store.ReachedAt runId dag.id depth e ∧ e.taskName = name) ∧
        ∀ name e, tasks.get? name = some e →
          e.taskName = name ∧ ∃ depth, w.store.ReachedAt runId dag.id depth e := by
  have keyed := reachable.keyed
  have explored := collectTasks_explores services keyed runId dag.id (maxDagDepth + 1) dag {}
  rw [← calls_reachableTasks] at explored
  rcases run : (reachableTasks runId dag).run services w with ⟨result, v⟩
  obtain rfl := (readsStore_reachableTasks dag).reads.world_eq run
  refine ⟨result, rfl, explored.once, ?_, ⟨?_, fun collectable => ?_⟩, ?_⟩
  · have fits := (List.Nodup.subperm explored.once explored.known).length_le
    rw [List.length_cons, length_possibleCalls] at fits
    exact fits
  · rintro ⟨tasks, rfl⟩
    exact collectable_of_reachableTasks available keyed run
  · obtain ⟨tasks, run', _⟩ := reachableTasks_of_collectable available keyed collectable
    rw [run] at run'
    exact ⟨tasks, (Prod.mk.inj run').1⟩
  · rintro tasks rfl
    constructor
    · intro name
      obtain ⟨tasks', run', names⟩ := reachableTasks_of_collectable available keyed
        (collectable_of_reachableTasks available keyed run)
      rw [run] at run'
      obtain rfl := Except.ok.inj (Prod.mk.inj run').1
      rw [SortedMap.contains, names, Store.occurs_iff_reachedAt]
    · intro name e found
      obtain ⟨_, collected, rfl, traversed⟩ := reachableTasks_run keyed run
      rcases (traversed.covers name e).1 found with stands | ⟨_, old⟩
      · obtain ⟨path, graph, last, named⟩ := stands
        exact ⟨named, _, last.nested.reachedAt last.member⟩
      · simp at old

namespace Branches

def graph (id : Int) (name : String) (parent : Int) (iterations : Option Nat) :
    ExecutionRecord where
  id := id
  runId := "run"
  taskName := name
  type := dagType
  parent := parent
  iterationCount := iterations

def task (id : Int) (name : String) (parent : Int) : ExecutionRecord where
  id := id
  runId := "run"
  taskName := name
  type := containerType
  parent := parent

def top : ExecutionRecord := graph 1 "" 0 none

def self : ExecutionRecord := graph 6 "self" 6 none

/-- A graph with a graph and a fan-out in it, and a graph that is its own parent. -/
def records : List ExecutionRecord :=
  [top, graph 2 "loop" 1 (some 3), task 3 "inside loop" 2, graph 4 "nested" 1 none,
    task 5 "inside" 4, self]

def world : World where
  store := records.foldl (fun s e => (s.insert e).2) {}

end Branches

/-- The tasks below `top` are found, those of the fan-out left out; `self` cannot be collected. -/
theorem reachableTasks_exact_branches :
    Branches.world.store.Reachable ∧ ({} : Services).Available ∧
    (∃ tasks, (reachableTasks "run" Branches.top).run {} Branches.world =
        (.ok tasks, Branches.world) ∧ tasks.keys = ["inside", "loop", "nested"] ∧
      Branches.world.store.Collectable "run" Branches.top.id ∧
      ∀ name e, tasks.get? name = some e →
        e.taskName = name ∧ ∃ depth, Branches.world.store.ReachedAt "run" Branches.top.id depth e) ∧
    ((reachableTasks "run" Branches.self).run {} Branches.world =
        (.fail (.visitedTwice Branches.self.id), Branches.world) ∧
      ¬ Branches.world.store.Collectable "run" Branches.self.id) := by
  have reachable : Branches.world.store.Reachable := Store.Reachable.empty.inserted _
  have available : ({} : Services).Available := fun _ => rfl
  refine ⟨reachable, available, ?_, ?_⟩
  · obtain ⟨tasks, run, keys⟩ : ∃ tasks, (reachableTasks "run" Branches.top).run {} Branches.world =
        (.ok tasks, Branches.world) ∧ tasks.keys = ["inside", "loop", "nested"] := ⟨_, rfl, rfl⟩
    obtain ⟨result, run', _, _, success, found⟩ :=
      reachableTasks_exact reachable available "run" Branches.top
    rw [run] at run'
    obtain rfl := (Prod.mk.inj run').1
    exact ⟨tasks, run, keys, success.1 ⟨tasks, rfl⟩, (found tasks rfl).2⟩
  · have run : (reachableTasks "run" Branches.self).run {} Branches.world =
        (.fail (.visitedTwice Branches.self.id), Branches.world) := rfl
    obtain ⟨result, run', _, _, success, _⟩ :=
      reachableTasks_exact reachable available "run" Branches.self
    rw [run] at run'
    obtain rfl := (Prod.mk.inj run').1
    refine ⟨run, fun collectable => ?_⟩
    obtain ⟨tasks, h⟩ := success.2 collectable
    simp [Result.fail] at h

end TaskGraph
