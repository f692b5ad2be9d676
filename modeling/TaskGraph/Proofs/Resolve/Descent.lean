import TaskGraph.Resolve.Producers

/-! The way from an output of a task down to the task that made it. Each hop leaves
a graph through what the graph declares as the producer of its output. -/

namespace TaskGraph

variable {side : OutputSide} {tasks : Dict ExecutionRecord}

/-- One hop: the output `key` of `graph` is made by `task`, as the output that `selector` names. -/
structure ProducerHop where
  graph : ExecutionRecord
  key : String
  selector : OutputSelector
  task : ExecutionRecord

/-- A hop follows the producers that are stored with the graph. -/
structure ProducerHop.Declared (side : OutputSide) (tasks : Dict ExecutionRecord)
    (h : ProducerHop) : Prop where
  isDag : h.graph.isDag = true
  producer : ∃ producers producer, h.graph.producers side = some producers ∧
    producers.get? h.key = some producer ∧ producer.select tasks = .ok h.selector
  named : h.selector.subtask ≠ ""
  found : tasks.get? h.selector.subtask = some h.task

/-- A chain of declared hops that ends at a task which is no graph. -/
inductive Trail (side : OutputSide) (tasks : Dict ExecutionRecord) :
    ExecutionRecord → String → List ProducerHop → ExecutionRecord → String → Prop where
  | leaf {task : ExecutionRecord} {key : String} :
      task.isDag = false → Trail side tasks task key [] task key
  | hop {h : ProducerHop} {hops : List ProducerHop} {leaf : ExecutionRecord} {key : String} :
      h.Declared side tasks → Trail side tasks h.task h.selector.key hops leaf key →
      Trail side tasks h.graph h.key (h :: hops) leaf key

theorem Trail.inversion {start leaf : ExecutionRecord} {key key' : String}
    {hops : List ProducerHop} (trail : Trail side tasks start key hops leaf key') :
    (start.isDag = false ∧ hops = [] ∧ leaf = start ∧ key' = key) ∨
    ∃ h rest, hops = h :: rest ∧ h.graph = start ∧ h.key = key ∧ h.Declared side tasks ∧
      Trail side tasks h.task h.selector.key rest leaf key' := by
  cases trail with
  | leaf notDag => exact .inl ⟨notDag, rfl, rfl, rfl⟩
  | hop declared rest => exact .inr ⟨_, _, rfl, rfl, rfl, declared, rest⟩

theorem Trail.declared {start leaf : ExecutionRecord} {key key' : String}
    {hops : List ProducerHop} (trail : Trail side tasks start key hops leaf key')
    {h : ProducerHop} (member : h ∈ hops) : h.Declared side tasks := by
  induction trail with
  | leaf => simp at member
  | hop declared _ ih =>
    rcases List.mem_cons.1 member with rfl | member
    · exact declared
    · exact ih member

/-- The leaf is one of the tasks among which names are looked up. -/
theorem Trail.leaf_found {start leaf : ExecutionRecord} {key key' : String}
    {hops : List ProducerHop} (trail : Trail side tasks start key hops leaf key')
    (found : ∃ name, tasks.get? name = some start) : ∃ name, tasks.get? name = some leaf := by
  induction trail with
  | leaf => exact found
  | hop declared _ ih => exact ih ⟨_, declared.found⟩

theorem producerOf_eq_ok_iff {dag task : ExecutionRecord} {key key' : String}
    (isDag : dag.isDag = true) : producerOf side tasks dag key = .ok (task, key') ↔
      ∃ selector, ProducerHop.Declared side tasks ⟨dag, key, selector, task⟩ ∧
        selector.key = key' := by
  unfold producerOf
  constructor
  · intro h
    cases stored : dag.producers side with
    | none => simp [stored, Result.fail] at h
    | some producers =>
      simp only [stored] at h
      cases entry : producers.get? key with
      | none => simp [entry, bind, Except.bind, Result.fail] at h
      | some producer =>
        simp only [entry] at h
        cases selected : producer.select tasks with
        | error e => simp [selected, bind, Except.bind] at h
        | ok selector =>
          simp only [selected, bind, Except.bind] at h
          split at h
          · simp [Result.fail] at h
          · rename_i named
            cases found : tasks.get? selector.subtask with
            | none => simp [found, Result.fail] at h
            | some next =>
              simp only [found, pure, Except.pure, Except.ok.injEq, Prod.mk.injEq] at h
              obtain ⟨rfl, rfl⟩ := h
              exact ⟨selector, ⟨isDag, ⟨producers, producer, stored, entry, selected⟩,
                by simpa using named, found⟩, rfl⟩
  · rintro ⟨selector, ⟨_, ⟨producers, producer, stored, entry, selected⟩, named, found⟩, rfl⟩
    simp only at stored entry selected named found
    simp [stored, entry, selected, named, found, bind, Except.bind, pure, Except.pure]

/-- A descent succeeds exactly along a trail with fewer hops than it may make steps. -/
theorem descendToLeaf_eq_ok_iff {start : String} {fuel : Nat} {task leaf : ExecutionRecord}
    {key key' : String} : descendToLeaf side tasks start fuel task key = .ok (leaf, key') ↔
      ∃ hops, Trail side tasks task key hops leaf key' ∧ hops.length < fuel := by
  induction fuel generalizing task key with
  | zero => simp [descendToLeaf, Result.fail]
  | succ fuel ih =>
    unfold descendToLeaf
    split
    · rename_i isDag
      constructor
      · intro h
        cases next : producerOf side tasks task key with
        | error e => simp [next, bind, Except.bind] at h
        | ok step =>
          obtain ⟨selector, declared, same⟩ := (producerOf_eq_ok_iff isDag).1 next
          obtain ⟨hops, trail, short⟩ := ih.1 (by simpa [next, bind, Except.bind] using h)
          rw [← same] at trail
          exact ⟨_ :: hops, .hop declared trail, by simpa using short⟩
      · rintro ⟨hops, trail, short⟩
        cases trail with
        | leaf notDag => simp [isDag] at notDag
        | hop declared rest =>
          have next := (producerOf_eq_ok_iff isDag).2 ⟨_, declared, rfl⟩
          simp only [next, bind, Except.bind]
          exact ih.2 ⟨_, rest, by simpa using short⟩
    · rename_i notDag
      constructor
      · intro h
        cases h
        exact ⟨[], .leaf (by simpa using notDag), by simp⟩
      · rintro ⟨hops, trail, _⟩
        cases trail with
        | leaf => rfl
        | hop declared => exact absurd declared.isDag notDag

end TaskGraph
