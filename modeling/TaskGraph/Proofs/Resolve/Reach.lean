import Mathlib.Data.List.Induction
import TaskGraph.Proofs.Calls
import TaskGraph.Proofs.Resolve.Visits

/-! When the tasks below a graph can be collected. A graph that is entered has one parent
only, so it can be met twice only if the first graph is below itself; apart from that it
takes names that differ side by side and graphs that do not lie too deep. -/

namespace TaskGraph

namespace Store

variable {s : Store} {runId : String}

/-- An execution below the graph `top`, and how far below. Graphs that fan out are not entered. -/
inductive ReachedAt (s : Store) (runId : String) (top : Int) : Nat → ExecutionRecord → Prop where
  | child {e : ExecutionRecord} : s.HasTask runId top e → ReachedAt s runId top 1 e
  | deeper {depth : Nat} {g e : ExecutionRecord} :
      ReachedAt s runId top depth g → g.isDag = true → g.isIterator = false →
      s.HasTask runId g.id e → ReachedAt s runId top (depth + 1) e

/-- A graph below `top` that is entered. -/
structure EnteredAt (s : Store) (runId : String) (top : Int) (depth : Nat) (e : ExecutionRecord) :
    Prop where
  reached : s.ReachedAt runId top depth e
  isDag : e.isDag = true
  single : e.isIterator = false

/-- No two tasks of a graph share a name. -/
def DistinctNames (s : Store) (runId : String) (graph : Int) : Prop :=
  ∀ a b, s.HasTask runId graph a → s.HasTask runId graph b → a.taskName = b.taskName → a = b

/-- What it takes for the tasks below a graph to be collected. -/
structure Collectable (s : Store) (runId : String) (start : Int) : Prop where
  acyclic : ∀ depth e, s.EnteredAt runId start depth e → e.id ≠ start
  shallow : ∀ depth e, s.EnteredAt runId start depth e → depth ≤ maxDagDepth
  distinct : s.DistinctNames runId start ∧
    ∀ depth e, s.EnteredAt runId start depth e → s.DistinctNames runId e.id

theorem Enters.reachedAt {top : Int} {depth : Nat} {g e : ExecutionRecord}
    (enters : s.Enters runId top g) (h : s.ReachedAt runId g.id depth e) :
    s.ReachedAt runId top (depth + 1) e := by
  induction h with
  | child member => exact .deeper (.child enters.member) enters.isDag enters.single member
  | deeper _ isDag single member ih => exact .deeper ih isDag single member

theorem Nested.reachedAt {top graph : Int} {path : List String} {e : ExecutionRecord}
    (nested : s.Nested runId top path graph) (member : s.HasTask runId graph e) :
    s.ReachedAt runId top (path.length + 1) e := by
  induction nested with
  | here => exact .child member
  | inside inner isDag single _ ih => exact Enters.reachedAt ⟨inner, isDag, single⟩ (ih member)

theorem Nested.enter {top graph : Int} {path : List String} {g : ExecutionRecord}
    (nested : s.Nested runId top path graph) (enters : s.Enters runId graph g) :
    s.Nested runId top (path ++ [g.taskName]) g.id := by
  induction nested with
  | here => exact .inside enters.member enters.isDag enters.single (.here _)
  | inside member isDag single _ ih => exact .inside member isDag single (ih enters)

/-- The last graph on the way down. -/
theorem Nested.last {top graph : Int} {path : List String}
    (nested : s.Nested runId top path graph) :
    (path = [] ∧ graph = top) ∨ ∃ front parent g, path = front ++ [g.taskName] ∧
      s.Nested runId top front parent ∧ s.Enters runId parent g ∧ g.id = graph := by
  induction nested with
  | here => exact .inl ⟨rfl, rfl⟩
  | inside member isDag single _ ih =>
    rcases ih with ⟨rfl, rfl⟩ | ⟨front, parent, g, rfl, inner, enters, rfl⟩
    · exact .inr ⟨[], _, _, rfl, .here _, ⟨member, isDag, single⟩, rfl⟩
    · exact .inr ⟨_ :: front, parent, g, rfl, .inside member isDag single inner, enters, rfl⟩

theorem ReachedAt.nested {top : Int} {depth : Nat} {e : ExecutionRecord}
    (h : s.ReachedAt runId top depth e) :
    ∃ path graph, s.Nested runId top path graph ∧ s.HasTask runId graph e ∧
      depth = path.length + 1 := by
  induction h with
  | child member => exact ⟨[], top, .here top, member, rfl⟩
  | deeper _ isDag single member ih =>
    obtain ⟨path, graph, nested, inner, rfl⟩ := ih
    exact ⟨_, _, nested.enter ⟨inner, isDag, single⟩, member, by simp⟩

theorem occurs_iff_reachedAt {top : Int} {name : String} : s.Occurs runId top name ↔
    ∃ depth e, s.ReachedAt runId top depth e ∧ e.taskName = name := by
  constructor
  · rintro ⟨path, graph, e, nested, member, named⟩
    exact ⟨_, e, nested.reachedAt member, named⟩
  · rintro ⟨depth, e, reached, named⟩
    obtain ⟨path, graph, nested, member, _⟩ := reached.nested
    exact ⟨path, graph, e, nested, member, named⟩

theorem EnteredAt.nested {top : Int} {depth : Nat} {e : ExecutionRecord}
    (h : s.EnteredAt runId top depth e) :
    ∃ path, s.Nested runId top path e.id ∧ path.length = depth := by
  obtain ⟨path, graph, nested, member, rfl⟩ := h.reached.nested
  exact ⟨_, nested.enter ⟨member, h.isDag, h.single⟩, by simp⟩

theorem Nested.enteredAt {top graph : Int} {path : List String}
    (nested : s.Nested runId top path graph) :
    (path = [] ∧ graph = top) ∨
      ∃ e, s.EnteredAt runId top path.length e ∧ e.id = graph := by
  rcases nested.last with first | ⟨front, parent, g, rfl, inner, enters, rfl⟩
  · exact .inl first
  · refine .inr ⟨g, ⟨?_, enters.isDag, enters.single⟩, rfl⟩
    simpa using inner.reachedAt enters.member

/-- The same conditions, by the ways down to the graphs. -/
theorem collectable_iff {start : Int} : s.Collectable runId start ↔
    (∀ path, s.Nested runId start path start → path = []) ∧
    (∀ path g, s.Nested runId start path g → path.length ≤ maxDagDepth) ∧
    ∀ path g, s.Nested runId start path g → s.DistinctNames runId g := by
  constructor
  · intro h
    refine ⟨fun path nested => ?_, fun path g nested => ?_, fun path g nested => ?_⟩
    · rcases nested.enteredAt with ⟨rfl, _⟩ | ⟨e, entered, same⟩
      · rfl
      · exact absurd same (h.acyclic _ e entered)
    · rcases nested.enteredAt with ⟨rfl, _⟩ | ⟨e, entered, rfl⟩
      · exact Nat.zero_le _
      · exact h.shallow _ e entered
    · rcases nested.enteredAt with ⟨_, rfl⟩ | ⟨e, entered, rfl⟩
      · exact h.distinct.1
      · exact h.distinct.2 _ e entered
  · rintro ⟨acyclic, shallow, distinct⟩
    refine ⟨fun depth e entered same => ?_, fun depth e entered => ?_,
      distinct _ _ (.here start), fun depth e entered => ?_⟩
    · obtain ⟨path, nested, length⟩ := entered.nested
      have none : path = [] := acyclic path (same ▸ nested)
      obtain ⟨path', graph, _, _, deep⟩ := entered.reached.nested
      rw [none] at length
      simp [deep] at length
    · obtain ⟨path, nested, rfl⟩ := entered.nested
      exact shallow path _ nested
    · obtain ⟨path, nested, _⟩ := entered.nested
      exact distinct path _ nested

/-- As long as the first graph is not below itself, there is one way down to each graph. -/
theorem Nested.unique {start graph : Int}
    (acyclic : ∀ path, s.Nested runId start path start → path = []) {p q : List String}
    (left : s.Nested runId start p graph) (right : s.Nested runId start q graph) : p = q := by
  induction p using List.reverseRecOn generalizing q graph with
  | nil =>
    rcases left.last with ⟨_, rfl⟩ | ⟨front, _, _, split, _⟩
    · exact (acyclic q right).symm
    · simp at split
  | append_singleton front name ih =>
    rcases left.last with ⟨split, _⟩ | ⟨front', parent, g, split, inner, enters, rfl⟩
    · simp at split
    obtain ⟨rfl, rfl⟩ := List.append_inj' split rfl |>.imp_right (fun same => List.cons.inj same |>.1)
    rcases right.last with ⟨rfl, same⟩ | ⟨front', parent', g', rfl, inner', enters', same⟩
    · have whole := acyclic _ (same ▸ left)
      simp at whole
    · have stored := enters.member.stored
      rw [← same, enters'.member.stored] at stored
      obtain rfl := Option.some.inj stored
      have above : parent = parent' := enters.member.parent.symm.trans enters'.member.parent
      rw [ih inner (above ▸ inner')]

theorem foldlM_addTask_ok {es : List ExecutionRecord} {before : Dict ExecutionRecord}
    (distinct : es.Pairwise (fun a b => a.taskName ≠ b.taskName))
    (fresh : ∀ e ∈ es, before.get? e.taskName = none) : ∃ after, es.foldlM addTask before = .ok after := by
  induction es generalizing before with
  | nil => exact ⟨before, rfl⟩
  | cons e rest ih =>
    obtain ⟨apart, distinct⟩ := List.pairwise_cons.1 distinct
    obtain ⟨first, fresh⟩ := List.forall_mem_cons.1 fresh
    rw [List.foldlM_cons, addTask_eq_ok_iff.2 ⟨first, rfl⟩]
    refine ih distinct fun e' member => ?_
    rw [SortedMap.get?_insert, if_neg (apart e' member).symm]
    exact fresh e' member

/-- The tasks of a graph can be listed exactly if they have different names. -/
theorem exists_tasks_iff (keyed : s.Keyed) {graph : Int} :
    (∃ tasks, s.tasks runId (some graph) = .ok tasks) ↔ s.DistinctNames runId graph := by
  constructor
  · rintro ⟨tasks, listed⟩ a b left right same
    have found := (tasks_eq_ok keyed listed _ a).2 ⟨left, same⟩
    rw [(tasks_eq_ok keyed listed _ b).2 ⟨right, rfl⟩] at found
    exact (Option.some.inj found).symm
  · intro distinct
    refine foldlM_addTask_ok ?_ (fun _ _ => rfl)
    refine List.pairwise_filter.2 (List.pairwise_map.2 (s.executions.distinct.imp_of_mem ?_))
    intro a b left right apart ofGraph ofGraph' same
    have member (e : Int × ExecutionRecord) (stored : e ∈ s.executions.entries)
        (ofGraph : (e.2.runId = runId && !e.2.taskName.isEmpty &&
          (some graph).all (· = e.2.parent)) = true) : e.2.id = e.1 ∧ s.HasTask runId graph e.2 := by
      have found := SortedMap.get?_eq_some_iff.2 stored
      have own := keyed _ _ found
      simp only [Option.all_some, Bool.and_eq_true, decide_eq_true_eq, Bool.not_eq_true',
        String.isEmpty_eq_false_iff] at ofGraph
      exact ⟨own, own ▸ found, ofGraph.1.1, ofGraph.1.2, ofGraph.2.symm⟩
    obtain ⟨own, ofGraph⟩ := member a left ofGraph
    obtain ⟨own', ofGraph'⟩ := member b right ofGraph'
    exact apart (own.symm.trans ((congrArg _ (distinct _ _ ofGraph ofGraph' same)).trans own'))

end Store

end TaskGraph
