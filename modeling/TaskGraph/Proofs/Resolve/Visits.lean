import TaskGraph.Proofs.Plan
import TaskGraph.Proofs.Store
import TaskGraph.Resolve.Producers

/-! The order in which the graphs below a graph are visited, and what it does to
names. All tasks found go into one map, so a name stands for the task of that name
in the graph visited last. -/

namespace TaskGraph.Store

variable {s : Store} {runId : String}

/-- A graph below another one, by the names of the graphs on the way down. Graphs that fan out are
not entered. -/
inductive Nested (s : Store) (runId : String) : Int → List String → Int → Prop where
  | here (graph : Int) : Nested s runId graph [] graph
  | inside {task : ExecutionRecord} {path : List String} {top graph : Int} :
      s.HasTask runId top task → task.isDag = true → task.isIterator = false →
      Nested s runId task.id path graph → Nested s runId top (task.taskName :: path) graph

/-- A graph is visited before those in it, and of two graphs side by side the one with the greater
name is visited first, with all that is in it. -/
def VisitedBefore (p q : List String) : Prop := List.Lex (fun a b => b < a) p q

theorem visitedBefore_cons {a b : String} {p q : List String} :
    VisitedBefore (a :: p) (b :: q) ↔ b < a ∨ a = b ∧ VisitedBefore p q := by
  constructor
  · intro h
    cases h with
    | rel less => exact .inl less
    | cons before => exact .inr ⟨rfl, before⟩
  · rintro (less | ⟨rfl, before⟩)
    · exact .rel less
    · exact .cons before

/-- A task of a graph below `top`, where no graph visited later has a task of that name. -/
structure LastVisited (s : Store) (runId : String) (top : Int) (path : List String) (graph : Int)
    (task : ExecutionRecord) : Prop where
  nested : s.Nested runId top path graph
  member : s.HasTask runId graph task
  last : ∀ path' graph' task', s.Nested runId top path' graph' → s.HasTask runId graph' task' →
    task'.taskName = task.taskName → ¬ VisitedBefore path path'

/-- The task that a name stands for inside the graph `top`. -/
def StandsFor (s : Store) (runId : String) (top : Int) (name : String) (task : ExecutionRecord) :
    Prop :=
  ∃ path graph, s.LastVisited runId top path graph task ∧ task.taskName = name

/-- Whether some graph below `top` has a task of a name. -/
def Occurs (s : Store) (runId : String) (top : Int) (name : String) : Prop :=
  ∃ path graph task, s.Nested runId top path graph ∧ s.HasTask runId graph task ∧
    task.taskName = name

theorem StandsFor.occurs {top : Int} {name : String} {task : ExecutionRecord}
    (h : s.StandsFor runId top name task) : s.Occurs runId top name := by
  obtain ⟨path, graph, last, named⟩ := h
  exact ⟨path, graph, task, last.nested, last.member, named⟩

/-- The tasks of a graph that are graphs to enter. -/
structure Enters (s : Store) (runId : String) (top : Int) (task : ExecutionRecord) : Prop where
  member : s.HasTask runId top task
  isDag : task.isDag = true
  single : task.isIterator = false

theorem Enters.occurs {top : Int} {task : ExecutionRecord} {name : String}
    (enters : s.Enters runId top task) (h : s.Occurs runId task.id name) :
    s.Occurs runId top name := by
  obtain ⟨path, graph, found, nested, member, named⟩ := h
  exact ⟨_, graph, found, .inside enters.member enters.isDag enters.single nested, member, named⟩

/-- What a traversal of a graph adds to the tasks found before: under each name that occurs below
the graph, the task that the name stands for there. -/
def Covers (s : Store) (runId : String) (top : Int) (before after : Dict ExecutionRecord) : Prop :=
  ∀ name task, after.get? name = some task ↔ s.StandsFor runId top name task ∨
    (¬ s.Occurs runId top name ∧ before.get? name = some task)

/-- The same for several graphs, entered one after the other: the last one that has the name
decides. -/
def CoversAll (s : Store) (runId : String) (graphs : List ExecutionRecord)
    (before after : Dict ExecutionRecord) : Prop :=
  ∀ name task, after.get? name = some task ↔
    (∃ earlier graph later, graphs = earlier ++ graph :: later ∧
      s.StandsFor runId graph.id name task ∧ ∀ g ∈ later, ¬ s.Occurs runId g.id name) ∨
    ((∀ g ∈ graphs, ¬ s.Occurs runId g.id name) ∧ before.get? name = some task)

theorem CoversAll.nil (before : Dict ExecutionRecord) : s.CoversAll runId [] before before := by
  intro name task
  simp

theorem CoversAll.cons {g : ExecutionRecord} {graphs : List ExecutionRecord}
    {before middle after : Dict ExecutionRecord} (first : s.Covers runId g.id before middle)
    (rest : s.CoversAll runId graphs middle after) :
    s.CoversAll runId (g :: graphs) before after := by
  intro name task
  rw [rest, first]
  constructor
  · rintro (⟨earlier, graph, later, rfl, stands, absent⟩ | ⟨absent, stands | ⟨fresh, old⟩⟩)
    · exact .inl ⟨g :: earlier, graph, later, rfl, stands, absent⟩
    · exact .inl ⟨[], g, graphs, rfl, stands, absent⟩
    · exact .inr ⟨List.forall_mem_cons.2 ⟨fresh, absent⟩, old⟩
  · rintro (⟨earlier, graph, later, split, stands, absent⟩ | ⟨absent, old⟩)
    · cases earlier with
      | nil =>
        obtain ⟨rfl, rfl⟩ := List.cons.inj split
        exact .inr ⟨absent, .inl stands⟩
      | cons e earlier =>
        obtain ⟨rfl, rfl⟩ := List.cons.inj split
        exact .inl ⟨earlier, graph, later, rfl, stands, absent⟩
    · obtain ⟨fresh, absent⟩ := List.forall_mem_cons.1 absent
      exact .inr ⟨absent, .inr ⟨fresh, old⟩⟩

theorem occurs_iff {top : Int} {name : String} : s.Occurs runId top name ↔
    (∃ task, s.HasTask runId top task ∧ task.taskName = name) ∨
    (∃ g, s.Enters runId top g ∧ s.Occurs runId g.id name) := by
  constructor
  · rintro ⟨path, graph, task, nested, member, named⟩
    cases nested with
    | here => exact .inl ⟨task, member, named⟩
    | inside inner isDag single nested =>
      exact .inr ⟨_, ⟨inner, isDag, single⟩, _, graph, task, nested, member, named⟩
  · rintro (⟨task, member, named⟩ | ⟨g, enters, occurs⟩)
    · exact ⟨[], top, task, .here top, member, named⟩
    · exact enters.occurs occurs

/-- The tasks of a graph itself are found first and give way to all that is found inside. -/
theorem StandsFor.direct {top : Int} {task : ExecutionRecord} (member : s.HasTask runId top task)
    (alone : ∀ g, s.Enters runId top g → ¬ s.Occurs runId g.id task.taskName) :
    s.StandsFor runId top task.taskName task := by
  refine ⟨[], top, ⟨.here top, member, fun path graph other nested found named before => ?_⟩, rfl⟩
  cases nested with
  | here => cases before
  | inside inner isDag single nested =>
    exact alone _ ⟨inner, isDag, single⟩ ⟨_, graph, other, nested, found, named⟩

/-- What a name stands for in a graph inside, it stands for outside as well, unless it occurs in a
graph that is visited later. -/
theorem StandsFor.inside {top : Int} {name : String} {g task : ExecutionRecord}
    (enters : s.Enters runId top g) (h : s.StandsFor runId g.id name task)
    (alone : ∀ g', s.Enters runId top g' → g'.taskName < g.taskName → ¬ s.Occurs runId g'.id name)
    (distinct : ∀ g', s.Enters runId top g' → g'.taskName = g.taskName → g' = g) :
    s.StandsFor runId top name task := by
  obtain ⟨path, graph, latest, named⟩ := h
  have whole := Nested.inside enters.member enters.isDag enters.single latest.nested
  refine ⟨g.taskName :: path, graph, ⟨whole, latest.member, ?_⟩, named⟩
  intro path' graph' other nested found same before
  cases nested with
  | here => cases before
  | inside inner isDag single nested =>
    have entered : s.Enters runId top _ := ⟨inner, isDag, single⟩
    rcases visitedBefore_cons.1 before with less | ⟨sameName, deeper⟩
    · exact alone _ entered less ⟨_, graph', other, nested, found, same.trans named⟩
    · have equal := distinct _ entered sameName.symm
      subst equal
      exact latest.last _ _ _ nested found same deeper

/-- The converse of `direct` and `inside`. -/
theorem StandsFor.origin {top : Int} {name : String} {task : ExecutionRecord}
    (h : s.StandsFor runId top name task) :
    (s.HasTask runId top task ∧ task.taskName = name ∧
      ∀ g, s.Enters runId top g → ¬ s.Occurs runId g.id name) ∨
    (∃ g, s.Enters runId top g ∧ s.StandsFor runId g.id name task ∧
      ∀ g', s.Enters runId top g' → g'.taskName < g.taskName → ¬ s.Occurs runId g'.id name) := by
  obtain ⟨path, graph, latest, named⟩ := h
  cases latest.nested with
  | here =>
    refine .inl ⟨latest.member, named, ?_⟩
    rintro g enters ⟨path', graph', other, nested, found, same⟩
    exact latest.last _ _ other (.inside enters.member enters.isDag enters.single nested) found
      (same.trans named.symm) .nil
  | inside inner isDag single nested =>
    rename_i g path
    refine .inr ⟨g, ⟨inner, isDag, single⟩, ⟨path, graph, ⟨nested, latest.member, ?_⟩, named⟩, ?_⟩
    · intro path' graph' other nested' found same before
      exact latest.last _ _ _ (.inside inner isDag single nested') found same
        (visitedBefore_cons.2 (.inr ⟨rfl, before⟩))
    · rintro g' enters less ⟨path', graph', other, nested', found, same⟩
      exact latest.last _ _ _ (.inside enters.member enters.isDag enters.single nested') found
        (same.trans named.symm) (visitedBefore_cons.2 (.inl less))

/-- A traversal that lists the tasks of a graph and then enters the graphs among them, in the order
of descending names, covers the graph. -/
theorem covers_of_coversAll {top : Int} {tasks before after : Dict ExecutionRecord}
    {graphs : List ExecutionRecord}
    (listed : ∀ name e, tasks.get? name = some e ↔ s.HasTask runId top e ∧ e.taskName = name)
    (entered : ∀ g, g ∈ graphs ↔ s.Enters runId top g)
    (descending : graphs.Pairwise (fun a b => b.taskName < a.taskName))
    (covered : s.CoversAll runId graphs (before.union tasks) after) :
    s.Covers runId top before after := by
  have distinct (g g' : ExecutionRecord) (h : s.Enters runId top g) (h' : s.Enters runId top g')
      (same : g'.taskName = g.taskName) : g' = g := by
    have first := (listed g.taskName g).2 ⟨h.member, rfl⟩
    rw [(listed g.taskName g').2 ⟨h'.member, same⟩] at first
    exact Option.some.inj first
  intro name task
  rw [covered, SortedMap.get?_union]
  constructor
  · rintro (⟨earlier, g, later, rfl, stands, absent⟩ | ⟨absent, found⟩)
    · have enters : s.Enters runId top g := (entered g).1 (by simp)
      refine .inl (stands.inside enters (fun g' enters' less occurs => ?_)
        fun g' enters' same => distinct g g' enters enters' same)
      obtain ⟨_, after, before⟩ := List.pairwise_append.1 descending
      rcases List.mem_append.1 ((entered g').2 enters') with member | member
      · exact absurd (Std.lt_trans less (before g' member g List.mem_cons_self)) Std.lt_irrefl
      · rcases List.mem_cons.1 member with rfl | member
        · exact absurd less Std.lt_irrefl
        · exact absent g' member occurs
    · have alone (g : ExecutionRecord) (enters : s.Enters runId top g) :
          ¬ s.Occurs runId g.id name := absent g ((entered g).2 enters)
      cases direct : tasks.get? name with
      | some e =>
        obtain ⟨member, rfl⟩ := (listed name e).1 direct
        obtain rfl : e = task := by simpa [direct] using found
        exact .inl (.direct member alone)
      | none =>
        refine .inr ⟨fun occurs => ?_, by simpa [direct] using found⟩
        rcases occurs_iff.1 occurs with ⟨e, member, named⟩ | ⟨g, enters, occurs⟩
        · simp [(listed name e).2 ⟨member, named⟩] at direct
        · exact alone g enters occurs
  · rintro (stands | ⟨absent, old⟩)
    · rcases stands.origin with ⟨member, named, alone⟩ | ⟨g, enters, stands, alone⟩
      · refine .inr ⟨fun g member => alone g ((entered g).1 member), ?_⟩
        rw [(listed name task).2 ⟨member, named⟩, Option.some_or]
      · obtain ⟨earlier, later, rfl⟩ := List.append_of_mem ((entered g).2 enters)
        have after := (List.pairwise_cons.1 (List.pairwise_append.1 descending).2.1).1
        exact .inl ⟨earlier, g, later, rfl, stands, fun g' member =>
          alone g' ((entered g').1 (by simp [member])) (after g' member)⟩
    · refine .inr ⟨fun g member occurs => absent (((entered g).1 member).occurs occurs), ?_⟩
      have none : tasks.get? name = none := by
        refine Option.eq_none_iff_forall_ne_some.2 fun e found => ?_
        obtain ⟨member, named⟩ := (listed name e).1 found
        exact absent (occurs_iff.2 (.inl ⟨e, member, named⟩))
      rw [none, Option.none_or, old]

end TaskGraph.Store

namespace TaskGraph

variable {services : Services} {w w' : World} {runId : String} {start : Int}

/-- The graphs among some stored tasks are entered as they are stored. -/
theorem nestedDags_run (keyed : w.store.Keyed) {tasks dags : List ExecutionRecord}
    (stored : ∀ e ∈ tasks, w.store.executions.get? e.id = some e)
    (h : (nestedDags tasks).run services w = (.ok dags, w')) :
    w' = w ∧ dags = tasks.filter fun e => e.isDag && !e.isIterator := by
  induction tasks generalizing dags w' with
  | nil =>
    cases h
    exact ⟨rfl, rfl⟩
  | cons task rest ih =>
    obtain ⟨storedTask, storedRest⟩ := List.forall_mem_cons.1 stored
    unfold nestedDags at h
    split at h
    · rename_i entered
      obtain ⟨dag, v, answered, body⟩ := Plan.run_bind_ok_iff.1 h
      obtain ⟨others, v', inner, ending⟩ := Plan.run_bind_ok_iff.1 body
      obtain ⟨found, rfl⟩ := Plan.dag_answered answered
      obtain ⟨rfl, rfl⟩ := ih storedRest inner
      have same := (Store.dag_eq_ok_iff.1 found).1
      rw [storedTask, Option.some.injEq] at same
      simp only [Plan.run_pure, Prod.mk.injEq, Except.ok.injEq] at ending
      rw [List.filter_cons, if_pos entered, ← ending.1, same]
      exact ⟨ending.2.symm, rfl⟩
    · rename_i passed
      rw [List.filter_cons, if_neg passed]
      exact ih storedRest h

/-- The graphs among some tasks that are entered, in the order in which they are. -/
def toEnter (tasks : Dict ExecutionRecord) : List ExecutionRecord :=
  (tasks.values.filter fun e => e.isDag && !e.isIterator).reverse

theorem stored_of_listed (keyed : w.store.Keyed) {graph : Int} {tasks : Dict ExecutionRecord}
    (listed : w.store.tasks runId (some graph) = .ok tasks) :
    ∀ e ∈ tasks.values, w.store.executions.get? e.id = some e := by
  intro e member
  obtain ⟨name, found⟩ := SortedMap.mem_values_iff.1 member
  exact ((Store.tasks_eq_ok keyed listed name e).1 found).1.stored

theorem mem_toEnter_iff (keyed : w.store.Keyed) {graph : Int} {tasks : Dict ExecutionRecord}
    (listed : w.store.tasks runId (some graph) = .ok tasks) {g : ExecutionRecord} :
    g ∈ toEnter tasks ↔ w.store.Enters runId graph g := by
  simp only [toEnter, List.mem_reverse, List.mem_filter, SortedMap.mem_values_iff,
    Store.tasks_eq_ok keyed listed, Bool.and_eq_true, Bool.not_eq_true']
  constructor
  · rintro ⟨⟨_, member, _⟩, isDag, single⟩
    exact ⟨member, isDag, single⟩
  · intro enters
    exact ⟨⟨_, enters.member, rfl⟩, enters.isDag, enters.single⟩

/-- Of two graphs the one with the greater name is entered first. -/
theorem toEnter_descending (keyed : w.store.Keyed) {graph : Int} {tasks : Dict ExecutionRecord}
    (listed : w.store.tasks runId (some graph) = .ok tasks) :
    (toEnter tasks).Pairwise (fun a b => b.taskName < a.taskName) := by
  refine List.pairwise_reverse.2 (List.Pairwise.filter _ ?_)
  refine List.pairwise_map.2 (tasks.sorted.imp_of_mem fun {a b} left right less => ?_)
  have named (e : String × ExecutionRecord) (member : e ∈ tasks.entries) : e.2.taskName = e.1 :=
    ((Store.tasks_eq_ok keyed listed _ _).1 (SortedMap.get?_eq_some_iff.2 member)).2
  rw [named a left, named b right]
  exact less

/-- What a traversal from a graph has done once it ends well: it has covered the graph, and every
graph it entered was new to it. -/
structure Traversed (s : Store) (runId : String) (graph : Int) (before after : Collected) :
    Prop where
  covers : s.Covers runId graph before.tasks after.tasks
  grows : before.visited ⊆ after.visited
  fresh : ∀ path g, s.Nested runId graph path g → g ∉ before.visited
  acyclic : ∀ g path, s.Enters runId graph g → ¬ s.Nested runId g.id path graph
  distinct : ∀ a b, s.HasTask runId graph a → s.HasTask runId graph b →
    a.taskName = b.taskName → a = b

theorem collectAll_run {depth : Nat}
    (one : ∀ dag before after w', (collectTasks runId start depth dag before).run services w =
      (.ok after, w') → w' = w ∧ Traversed w.store runId dag.id before after)
    {graphs : List ExecutionRecord} {before after : Collected}
    (h : (graphs.foldlM (fun found dag => collectTasks runId start depth dag found) before).run
      services w = (.ok after, w')) :
    w' = w ∧ w.store.CoversAll runId graphs before.tasks after.tasks ∧
      before.visited ⊆ after.visited ∧
      ∀ dag ∈ graphs, ∀ path g, w.store.Nested runId dag.id path g → g ∉ before.visited := by
  induction graphs generalizing before w' with
  | nil =>
    cases h
    exact ⟨rfl, .nil _, fun _ member => member, by simp⟩
  | cons dag rest ih =>
    rw [List.foldlM_cons] at h
    obtain ⟨middle, v, first, others⟩ := Plan.run_bind_ok_iff.1 h
    obtain ⟨rfl, traversed⟩ := one _ _ _ _ first
    obtain ⟨rfl, covers, grows, fresh⟩ := ih others
    refine ⟨rfl, .cons traversed.covers covers, fun _ member => grows (traversed.grows member), ?_⟩
    rw [List.forall_mem_cons]
    exact ⟨traversed.fresh, fun d member path g nested old =>
      fresh d member path g nested (traversed.grows old)⟩

theorem collectTasks_run (keyed : w.store.Keyed) {depth : Nat} {dag : ExecutionRecord}
    {before after : Collected}
    (h : (collectTasks runId start depth dag before).run services w = (.ok after, w')) :
    w' = w ∧ Traversed w.store runId dag.id before after := by
  induction depth generalizing dag before after w' with
  | zero => simp [collectTasks, Result.fail] at h
  | succ depth ih =>
    unfold collectTasks at h
    split at h
    · simp [Result.fail] at h
    rename_i unvisited
    obtain ⟨tasks, v, answered, body⟩ := Plan.run_bind_ok_iff.1 h
    obtain ⟨graphs, v', nested, entries⟩ := Plan.run_bind_ok_iff.1 body
    obtain ⟨found, rfl⟩ := Plan.tasks_answered answered
    have listed := Store.tasks_eq_ok keyed found
    obtain ⟨rfl, rfl⟩ := nestedDags_run keyed (stored_of_listed keyed found) nested
    have entered {g : ExecutionRecord} := mem_toEnter_iff keyed found (g := g)
    change Plan.run _ ((toEnter tasks).foldlM _ _) _ = _ at entries
    obtain ⟨rfl, covers, grows, fresh⟩ := collectAll_run (fun _ _ _ _ => ih) entries
    refine ⟨rfl, Store.covers_of_coversAll listed (fun _ => entered)
      (toEnter_descending keyed found) covers,
      fun g member => grows (List.mem_cons_of_mem _ member), fun path g below old => ?_,
      fun g path enters below => ?_, fun a b first second same => ?_⟩
    · cases below with
      | here => exact unvisited (List.contains_iff_mem.2 old)
      | inside member isDag single below =>
        exact fresh _ (entered.2 ⟨member, isDag, single⟩) _ g below (List.mem_cons_of_mem _ old)
    · exact fresh g (entered.2 enters) path dag.id below List.mem_cons_self
    · have found := (listed _ a).2 ⟨first, same⟩
      rw [(listed _ b).2 ⟨second, rfl⟩] at found
      exact (Option.some.inj found).symm

/-- The tasks among which names are looked up. -/
theorem reachableTasks_run (keyed : w.store.Keyed) {dag : ExecutionRecord}
    {tasks : Dict ExecutionRecord}
    (h : (reachableTasks runId dag).run services w = (.ok tasks, w')) :
    w' = w ∧ ∃ found, tasks = found.tasks ∧ Traversed w.store runId dag.id {} found := by
  obtain ⟨found, v, collected, ending⟩ := Plan.run_bind_ok_iff.1 h
  obtain ⟨rfl, traversed⟩ := collectTasks_run keyed collected
  simp only [Plan.run_pure, Prod.mk.injEq, Except.ok.injEq] at ending
  exact ⟨ending.2.symm, found, ending.1.symm, traversed⟩

end TaskGraph
