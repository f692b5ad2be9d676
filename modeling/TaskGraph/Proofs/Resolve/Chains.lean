import TaskGraph.Proofs.Resolve.Descent
import TaskGraph.Proofs.Result

/-! How far an output is followed. At most one hop leads on from an output of a graph, and
where none does there is one reason for it. A descent goes as far as the hops lead, unless
there are more of them than it may make. -/

namespace TaskGraph

variable {side : OutputSide} {tasks : Dict ExecutionRecord}

/-- A selector of a task that is known and whose outputs can be used. -/
def OutputSelector.Succeeded (tasks : Dict ExecutionRecord) (selector : OutputSelector) : Prop :=
  ∃ task, tasks.get? selector.subtask = some task ∧
    (task.state = .complete ∨ task.state = .cached)

theorem OutputSelector.succeeded_iff {selector : OutputSelector} :
    selector.Succeeded tasks ↔
      (tasks.get? selector.subtask).any (·.state.isSuccessful) = true := by
  have usable (state : ExecutionState) :
      state.isSuccessful = true ↔ state = .complete ∨ state = .cached := by
    cases state <;> decide
  unfold Succeeded
  cases tasks.get? selector.subtask <;> simp [usable]

namespace OutputProducer

/-- The output that a producer stands for. Of several selectors the first one counts whose task
succeeded. -/
inductive Picks (tasks : Dict ExecutionRecord) : OutputProducer → OutputSelector → Prop where
  | direct (selector : OutputSelector) : Picks tasks (.direct selector) selector
  | oneOf {earlier later : List OutputSelector} {selector : OutputSelector}
      (succeeded : selector.Succeeded tasks) (first : ∀ s ∈ earlier, ¬ s.Succeeded tasks) :
      Picks tasks (.oneOf (earlier ++ selector :: later)) selector

variable {producer : OutputProducer} {selector : OutputSelector}

theorem picks_oneOf_iff {selectors : List OutputSelector} :
    (oneOf selectors).Picks tasks selector ↔
      selectors.find? (fun s => (tasks.get? s.subtask).any (·.state.isSuccessful)) =
        some selector := by
  simp only [List.find?_eq_some_iff_append, Bool.not_eq_true', ← Bool.not_eq_true,
    ← OutputSelector.succeeded_iff]
  constructor
  · intro h
    cases h with
    | oneOf succeeded first => exact ⟨succeeded, _, _, rfl, first⟩
  · rintro ⟨succeeded, earlier, later, rfl, first⟩
    exact .oneOf succeeded first

theorem select_eq_ok_iff : producer.select tasks = .ok selector ↔ producer.Picks tasks selector := by
  cases producer with
  | direct only =>
    constructor
    · rintro ⟨⟩
      exact .direct selector
    · rintro ⟨⟩
      rfl
  | oneOf selectors =>
    rw [picks_oneOf_iff, select]
    cases selectors.find? fun s => (tasks.get? s.subtask).any (·.state.isSuccessful) <;> simp

theorem select_eq_error_iff {e : Error} : producer.select tasks = .error e ↔
    (∀ selector, ¬ producer.Picks tasks selector) ∧ e = Fault.noSuccessfulTask := by
  simp only [← select_eq_ok_iff]
  cases producer with
  | direct only => simp [select]
  | oneOf selectors =>
    rw [select]
    cases selectors.find? fun s => (tasks.get? s.subtask).any (·.state.isSuccessful) <;>
      simp [Result.fail, eq_comm]

end OutputProducer

/-- The entry of a graph for one of its outputs. -/
def ExecutionRecord.Declares (graph : ExecutionRecord) (side : OutputSide) (key : String)
    (producer : OutputProducer) : Prop :=
  ∃ producers, graph.producers side = some producers ∧ producers.get? key = some producer

/-- A hop from an output of a graph to the one that the graph declares as its producer. -/
inductive Hop (side : OutputSide) (tasks : Dict ExecutionRecord) :
    ExecutionRecord × String → ExecutionRecord × String → Prop where
  | mk {graph task : ExecutionRecord} {key : String} {producer : OutputProducer}
      {selector : OutputSelector} (isDag : graph.isDag = true)
      (declares : graph.Declares side key producer) (picks : producer.Picks tasks selector)
      (named : selector.subtask ≠ "") (found : tasks.get? selector.subtask = some task) :
      Hop side tasks (graph, key) (task, selector.key)

/-- Why no hop leads on from an output of a graph. -/
inductive NoHop (side : OutputSide) (tasks : Dict ExecutionRecord) (graph : ExecutionRecord)
    (key : String) : Fault → Prop where
  | noProducers : graph.producers side = none →
      NoHop side tasks graph key (.noProducers side graph.taskName)
  | noEntry {producers : Dict OutputProducer} : graph.producers side = some producers →
      producers.get? key = none → NoHop side tasks graph key .noSubtask
  | noSuccess {producer : OutputProducer} : graph.Declares side key producer →
      (∀ selector, ¬ producer.Picks tasks selector) → NoHop side tasks graph key .noSuccessfulTask
  | unnamed {producer : OutputProducer} {selector : OutputSelector} :
      graph.Declares side key producer → producer.Picks tasks selector → selector.subtask = "" →
      NoHop side tasks graph key .noSubtask
  | unknown {producer : OutputProducer} {selector : OutputSelector} :
      graph.Declares side key producer → producer.Picks tasks selector → selector.subtask ≠ "" →
      tasks.get? selector.subtask = none →
      NoHop side tasks graph key (.unknownSubtask selector.subtask)

/-- An output of a graph from which no hop leads on. -/
structure Stuck (side : OutputSide) (tasks : Dict ExecutionRecord)
    (place : ExecutionRecord × String) (fault : Fault) : Prop where
  isDag : place.1.isDag = true
  noHop : NoHop side tasks place.1 place.2 fault

/-- A chain of a number of hops. -/
inductive HopsTo (side : OutputSide) (tasks : Dict ExecutionRecord) :
    Nat → ExecutionRecord × String → ExecutionRecord × String → Prop where
  | here (place : ExecutionRecord × String) : HopsTo side tasks 0 place place
  | hop {n : Nat} {place next last : ExecutionRecord × String} :
      Hop side tasks place next → HopsTo side tasks n next last →
      HopsTo side tasks (n + 1) place last

variable {graph task : ExecutionRecord} {key : String} {place next last : ExecutionRecord × String}

theorem Hop.isDag (h : Hop side tasks place next) : place.1.isDag = true := by
  cases h
  assumption

theorem producerOf_ok_iff (isDag : graph.isDag = true) :
    producerOf side tasks graph key = .ok next ↔ Hop side tasks (graph, key) next := by
  obtain ⟨task, key'⟩ := next
  rw [producerOf_eq_ok_iff isDag]
  constructor
  · rintro ⟨selector, ⟨_, ⟨producers, producer, stored, entry, selected⟩, named, found⟩, rfl⟩
    exact .mk isDag ⟨producers, stored, entry⟩ (OutputProducer.select_eq_ok_iff.1 selected) named
      found
  · intro h
    cases h with
    | mk isDag declares picks named found =>
      obtain ⟨producers, stored, entry⟩ := declares
      exact ⟨_, ⟨isDag, ⟨producers, _, stored, entry, OutputProducer.select_eq_ok_iff.2 picks⟩,
        named, found⟩, rfl⟩

theorem producerOf_error_iff {e : Error} : producerOf side tasks graph key = .error e ↔
    ∃ fault, NoHop side tasks graph key fault ∧ e = fault := by
  constructor
  · intro h
    unfold producerOf at h
    cases stored : graph.producers side with
    | none =>
      simp only [stored] at h
      exact ⟨_, .noProducers stored, (Except.error.inj h).symm⟩
    | some producers =>
    simp only [stored] at h
    cases entry : producers.get? key with
    | none =>
      simp only [entry] at h
      exact ⟨_, .noEntry stored entry, (Except.error.inj h).symm⟩
    | some producer =>
    simp only [entry] at h
    cases selected : producer.select tasks with
    | error e' =>
      obtain ⟨none, rfl⟩ := OutputProducer.select_eq_error_iff.1 selected
      rw [selected] at h
      exact ⟨_, .noSuccess ⟨_, stored, entry⟩ none, (Except.error.inj h).symm⟩
    | ok selector =>
    have picks := OutputProducer.select_eq_ok_iff.1 selected
    rw [selected, ok_bind] at h
    split at h
    · rename_i empty
      exact ⟨_, .unnamed ⟨_, stored, entry⟩ picks (by simpa using empty), (Except.error.inj h).symm⟩
    · rename_i named
      cases found : tasks.get? selector.subtask with
      | none =>
        rw [found] at h
        exact ⟨_, .unknown ⟨_, stored, entry⟩ picks (by simpa using named) found,
          (Except.error.inj h).symm⟩
      | some task =>
        rw [found] at h
        cases h
  · rintro ⟨fault, stuck, rfl⟩
    unfold producerOf
    cases stuck with
    | noProducers missing => simp [missing, Result.fail]
    | noEntry stored missing => simp [stored, missing, Result.fail, bind, Except.bind]
    | noSuccess declares none =>
      obtain ⟨producers, stored, entry⟩ := declares
      simp [stored, entry, OutputProducer.select_eq_error_iff.2 ⟨none, rfl⟩, bind, Except.bind]
    | unnamed declares picks unnamed =>
      obtain ⟨producers, stored, entry⟩ := declares
      simp [stored, entry, OutputProducer.select_eq_ok_iff.2 picks, unnamed, Result.fail, bind,
        Except.bind]
    | unknown declares picks named unknown =>
      obtain ⟨producers, stored, entry⟩ := declares
      simp [stored, entry, OutputProducer.select_eq_ok_iff.2 picks, named, unknown, Result.fail,
        bind, Except.bind]

/-- One hop leads on from an output, or none. -/
theorem Hop.unique {other : ExecutionRecord × String} (h : Hop side tasks place next)
    (h' : Hop side tasks place other) : next = other := by
  have one := (producerOf_ok_iff h.isDag).2 h
  rw [(producerOf_ok_iff h.isDag).2 h'] at one
  exact (Except.ok.inj one).symm

theorem NoHop.unique {fault fault' : Fault} (h : NoHop side tasks graph key fault)
    (h' : NoHop side tasks graph key fault') : fault = fault' := by
  have one := producerOf_error_iff.2 ⟨fault, h, rfl⟩
  rw [producerOf_error_iff.2 ⟨fault', h', rfl⟩] at one
  exact (Error.mk.inj (Except.error.inj one)).2.symm

/-- A place where every chain ends. -/
def NoWayOn (side : OutputSide) (tasks : Dict ExecutionRecord)
    (place : ExecutionRecord × String) : Prop :=
  ∀ next, ¬ Hop side tasks place next

theorem noWayOn_of_leaf (leaf : place.1.isDag = false) : NoWayOn side tasks place := by
  intro next h
  rw [h.isDag] at leaf
  cases leaf

theorem Stuck.noWayOn {fault : Fault} (stuck : Stuck side tasks place fault) :
    NoWayOn side tasks place := by
  intro next h
  have failed := producerOf_error_iff.2 ⟨fault, stuck.noHop, rfl⟩
  rw [(producerOf_ok_iff stuck.isDag).2 h] at failed
  cases failed

namespace HopsTo

variable {n m : Nat} {other : ExecutionRecord × String}

/-- Of two chains from one place the longer one goes on where the other ends. -/
theorem continues (h : HopsTo side tasks n place last) (h' : HopsTo side tasks (n + m) place other) :
    HopsTo side tasks m last other := by
  induction h with
  | here => simpa using h'
  | hop first _ ih =>
    rw [Nat.succ_add] at h'
    cases h' with
    | hop first' rest' => exact ih (first.unique first' ▸ rest')

theorem le_of_noWayOn (h : HopsTo side tasks n place last) (ends : NoWayOn side tasks last)
    (h' : HopsTo side tasks m place other) : m ≤ n := by
  refine Nat.le_of_not_lt fun longer => ?_
  obtain ⟨more, rfl⟩ := Nat.exists_eq_add_of_lt longer
  cases h.continues (Nat.add_assoc n more 1 ▸ h') with
  | hop first _ => exact ends _ first

theorem end_unique (h : HopsTo side tasks n place last) (ends : NoWayOn side tasks last)
    (h' : HopsTo side tasks m place other) (ends' : NoWayOn side tasks other) :
    n = m ∧ last = other := by
  obtain rfl : n = m := Nat.le_antisymm (h'.le_of_noWayOn ends' h) (h.le_of_noWayOn ends h')
  cases h.continues (m := 0) h' with
  | here => exact ⟨rfl, rfl⟩

end HopsTo

variable {start : String} {fuel : Nat}

/-- A descent follows the hops to the end, or until it has made as many as it may. -/
theorem descendToLeaf_follows (side : OutputSide) (tasks : Dict ExecutionRecord) (start : String)
    (fuel : Nat) (task : ExecutionRecord) (key : String) :
    ∃ n last, HopsTo side tasks n (task, key) last ∧
      ((n < fuel ∧ last.1.isDag = false ∧
          descendToLeaf side tasks start fuel task key = .ok last) ∨
        (n < fuel ∧ ∃ fault, Stuck side tasks last fault ∧
          descendToLeaf side tasks start fuel task key = .fail fault) ∨
        (n = fuel ∧ descendToLeaf side tasks start fuel task key = .fail (.chainTooLong start))) := by
  induction fuel generalizing task key with
  | zero => exact ⟨0, _, .here _, .inr (.inr ⟨rfl, rfl⟩)⟩
  | succ fuel ih =>
    rw [descendToLeaf]
    split
    · rename_i isDag
      cases step : producerOf side tasks task key with
      | error e =>
        obtain ⟨fault, noHop, rfl⟩ := producerOf_error_iff.1 step
        exact ⟨0, _, .here _, .inr (.inl ⟨Nat.succ_pos fuel, fault, ⟨isDag, noHop⟩, rfl⟩)⟩
      | ok next =>
        obtain ⟨n, last, hops, outcome⟩ := ih next.1 next.2
        refine ⟨n + 1, last, .hop ((producerOf_ok_iff isDag).1 step) hops, ?_⟩
        simpa only [ok_bind, Nat.add_lt_add_iff_right, Nat.add_right_cancel_iff] using outcome
    · rename_i leaf
      exact ⟨0, _, .here _, .inl ⟨Nat.succ_pos fuel, by simpa using leaf, rfl⟩⟩

theorem descendToLeaf_ok_iff : descendToLeaf side tasks start fuel task key = .ok last ↔
    last.1.isDag = false ∧ ∃ n < fuel, HopsTo side tasks n (task, key) last := by
  obtain ⟨m, other, hops', outcome⟩ := descendToLeaf_follows side tasks start fuel task key
  constructor
  · intro h
    rw [h] at outcome
    rcases outcome with ⟨short, leaf, same⟩ | ⟨_, _, _, failed⟩ | ⟨_, failed⟩
    · obtain rfl := Except.ok.inj same
      exact ⟨leaf, m, short, hops'⟩
    · cases failed
    · cases failed
  · rintro ⟨leaf, n, short, hops⟩
    have ends : NoWayOn side tasks last := noWayOn_of_leaf leaf
    rcases outcome with ⟨_, leaf', found⟩ | ⟨_, _, stuck, _⟩ | ⟨rfl, _⟩
    · rw [found, (hops.end_unique ends hops' (noWayOn_of_leaf leaf')).2]
    · rw [(hops.end_unique ends hops' stuck.noWayOn).2, stuck.isDag] at leaf
      cases leaf
    · exact absurd (hops.le_of_noWayOn ends hops') (Nat.not_le.2 short)

theorem descendToLeaf_error_iff {e : Error} :
    descendToLeaf side tasks start fuel task key = .error e ↔
      (∃ n < fuel, ∃ last fault, HopsTo side tasks n (task, key) last ∧
        Stuck side tasks last fault ∧ e = fault) ∨
      ((∃ last, HopsTo side tasks fuel (task, key) last) ∧ e = Fault.chainTooLong start) := by
  obtain ⟨m, other, hops', outcome⟩ := descendToLeaf_follows side tasks start fuel task key
  constructor
  · intro h
    rw [h] at outcome
    rcases outcome with ⟨_, _, same⟩ | ⟨short, fault, stuck, failed⟩ | ⟨rfl, failed⟩
    · cases same
    · exact .inl ⟨m, short, other, fault, hops', stuck, Except.error.inj failed⟩
    · exact .inr ⟨⟨other, hops'⟩, Except.error.inj failed⟩
  · rintro (⟨n, short, last, fault, hops, stuck, rfl⟩ | ⟨⟨last, hops⟩, rfl⟩)
    · rcases outcome with ⟨_, leaf, _⟩ | ⟨_, fault', stuck', failed⟩ | ⟨rfl, _⟩
      · have isDag := stuck.isDag
        rw [(hops.end_unique stuck.noWayOn hops' (noWayOn_of_leaf leaf)).2, leaf] at isDag
        cases isDag
      · obtain ⟨_, rfl⟩ := hops.end_unique stuck.noWayOn hops' stuck'.noWayOn
        rw [stuck.noHop.unique stuck'.noHop]
        exact failed
      · exact absurd (hops.le_of_noWayOn stuck.noWayOn hops') (Nat.not_le.2 short)
    · rcases outcome with ⟨short, leaf, _⟩ | ⟨short, fault, stuck, _⟩ | ⟨_, failed⟩
      · exact absurd (hops'.le_of_noWayOn (noWayOn_of_leaf leaf) hops) (Nat.not_le.2 short)
      · exact absurd (hops'.le_of_noWayOn stuck.noWayOn hops) (Nat.not_le.2 short)
      · exact failed

/-- An output is followed hop by hop, as each graph declares, to a task that is no graph and is at
most 64 hops away. Anything else is an error: the chain gets stuck within 64 hops, or it has a
further one. -/
theorem descent_follows_declared (side : OutputSide) (tasks : Dict ExecutionRecord) (start : String)
    (producer : ExecutionRecord) (key : String) :
    (∀ leaf key', descendToLeaf side tasks start (maxDagDepth + 1) producer key =
        .ok (leaf, key') ↔
      leaf.isDag = false ∧ ∃ n ≤ 64, HopsTo side tasks n (producer, key) (leaf, key')) ∧
    ((∃ e, descendToLeaf side tasks start (maxDagDepth + 1) producer key = .error e) ↔
      ¬ ∃ leaf key', leaf.isDag = false ∧
        ∃ n ≤ 64, HopsTo side tasks n (producer, key) (leaf, key')) ∧
    (∀ e, descendToLeaf side tasks start (maxDagDepth + 1) producer key = .error e ↔
      (∃ n ≤ 64, ∃ last fault, HopsTo side tasks n (producer, key) last ∧
        Stuck side tasks last fault ∧ e = fault) ∨
      ((∃ last, HopsTo side tasks 65 (producer, key) last) ∧ e = Fault.chainTooLong start)) := by
  have limit (n : Nat) : n < maxDagDepth + 1 ↔ n ≤ 64 := Nat.lt_succ_iff
  have found (leaf : ExecutionRecord) (key' : String) :
      descendToLeaf side tasks start (maxDagDepth + 1) producer key = .ok (leaf, key') ↔
        leaf.isDag = false ∧ ∃ n ≤ 64, HopsTo side tasks n (producer, key) (leaf, key') := by
    simp only [descendToLeaf_ok_iff, limit]
  refine ⟨found, ?_, fun e => ?_⟩
  · simp only [← found]
    cases descendToLeaf side tasks start (maxDagDepth + 1) producer key with
    | error e => simp
    | ok last => exact iff_of_false (by simp) fun none => none ⟨last.1, last.2, rfl⟩
  · simp only [descendToLeaf_error_iff, limit]
    rfl

end TaskGraph
