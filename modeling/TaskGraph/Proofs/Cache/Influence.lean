import TaskGraph.Proofs.Cache.Histories

/-! What a cache can change. A container invocation asks the cache once at most, for its own task, and
what comes of that one lookup is all that the cache has a say in. No invocation changes the cache. -/

namespace TaskGraph

/-- A cache: what it holds, and its fault if it cannot be reached. -/
structure CacheState where
  index : CacheIndex := {}
  fault : Option Fault := none

namespace CacheState

variable (c : CacheState) (address : CacheAddress)

def answer : Result (Option Int) :=
  match c.fault with
  | some fault => .fail fault
  | none => .ok (c.index.lookup? address)

/-- What comes of a lookup: of one that fails, nothing. -/
def found : Option Int := (c.answer address).toOption.getD none

end CacheState

def Services.withCache (s : Services) (c : CacheState) : Services := { s with cacheFault := c.fault }

def World.withCache (w : World) (c : CacheState) : World := { w with cache := c.index }

/-- A call that is not for the cache. -/
def Call.BesideCache : Call → Prop
  | .cached _ | .cacheEntry _ => False
  | _ => True

theorem Call.besideCache_of_readsStore {c : Call} (looks : c.readsStore = true) :
    c.BesideCache := by
  cases c <;> trivial

theorem Options.Registers.besideCache {o : Options} {c : Call} (registers : o.Registers c) :
    c.BesideCache := by
  cases c <;> trivial

/-- An extension that leaves the cache to the invocation. -/
def PodExtension.BesideCache (extension : PodExtension) : Prop :=
  ∀ scope pod, (extension scope pod).Uses Call.BesideCache

theorem PodExtension.none_besideCache : PodExtension.none.BesideCache := fun _ _ => Plan.uses_pure _

/-- The extension for node selectors does not ask the cache. -/
theorem NodeSelector.extension_besideCache : PodExtension.BesideCache NodeSelector.extension :=
  fun scope pod => (extension_readsStore scope pod).imp fun _ => Call.besideCache_of_readsStore

variable {α β : Type} {s : Services} {w v : World} {a b c : CacheState} {o : Options} {d : Driver}

theorem World.answer_withCache {call : Call} (beside : call.BesideCache) (c : CacheState) :
    (w.withCache c).answer (s.withCache c) call =
      ((w.answer s call).1, (w.answer s call).2.withCache c) := by
  have faults : (s.withCache c).fault? call = s.fault? call := by
    cases call with
    | cached address => exact beside.elim
    | cacheEntry entry => exact beside.elim
    | registerRun own request => cases own <;> rfl
    | logParameter own parameter => cases own <;> rfl
    | _ => rfl
  have serves : (w.withCache c).serve (s.withCache c) call =
      ((w.serve s call).1, (w.serve s call).2.withCache c) := by
    cases call with
    | cached address => exact beside.elim
    | cacheEntry entry => exact beside.elim
    | publish id parameters artifacts state =>
      have store : (w.withCache c).store = w.store := rfl
      simp only [serve, store]
      cases w.store.publish id parameters artifacts state <;> rfl
    | registerRun own request => cases own <;> rfl
    | logParameter own parameter => cases own <;> rfl
    | _ => rfl
  unfold answer
  rw [faults, serves]
  cases s.fault? call <;> rfl

namespace Plan

/-- What a plan does with a cache: the calls that it makes, its result and the world that it leaves.
The cache stays as it is. -/
structure Does (p : Plan α) (s : Services) (w : World) (c : CacheState) (calls : List Call)
    (result : Result α) (v : World) : Prop where
  calls : p.calls (s.withCache c) (w.withCache c) = calls
  run : p.run (s.withCache c) (w.withCache c) = (result, v.withCache c)

/-- A plan that does the same with two caches. -/
def RunsAlike (p : Plan α) (s : Services) (w : World) (a b : CacheState) : Prop :=
  ∃ calls result v, p.Does s w a calls result v ∧ p.Does s w b calls result v

/-- Where a plan does not call the cache, it does not matter which one there is. -/
theorem Uses.does {p : Plan α} (beside : p.Uses Call.BesideCache) (c : CacheState) :
    p.Does s w c (p.calls s w) (p.run s w).1 (p.run s w).2 := by
  induction p generalizing w with
  | done r => exact ⟨rfl, rfl⟩
  | call call next ih =>
    have answered := World.answer_withCache (s := s) (w := w) beside.1 c
    have rest := ih (w.answer s call).1 (beside.2 _) (w := (w.answer s call).2)
    constructor
    · simp only [Plan.calls, answered]
      exact congrArg (call :: ·) rest.calls
    · simp only [Plan.run, answered]
      exact rest.run

theorem Uses.runsAlike {p : Plan α} (beside : p.Uses Call.BesideCache) : p.RunsAlike s w a b :=
  ⟨_, _, _, beside.does a, beside.does b⟩

theorem Does.bind {p : Plan α} {f : α → Plan β} {calls : List Call} {x : α} {more : List Call}
    {result : Result β} {v u : World} (first : p.Does s w c calls (.ok x) v)
    (rest : (f x).Does s v c more result u) : (p >>= f).Does s w c (calls ++ more) result u where
  calls := by
    rw [calls_bind, first.calls, first.run]
    exact congrArg (calls ++ ·) rest.calls
  run := by
    rw [run_bind, first.run]
    exact rest.run

theorem Does.bind_error {p : Plan α} {f : α → Plan β} {calls : List Call} {e : Error} {v : World}
    (first : p.Does s w c calls (.error e) v) : (p >>= f).Does s w c calls (.error e) v where
  calls := by rw [calls_bind, first.calls, first.run, List.append_nil]
  run := by rw [run_bind, first.run]

theorem RunsAlike.bind {p : Plan α} {f : α → Plan β} (first : p.RunsAlike s w a b)
    (rest : ∀ x v, (f x).RunsAlike s v a b) : (p >>= f).RunsAlike s w a b := by
  obtain ⟨calls, result, v, one, other⟩ := first
  cases result with
  | error e => exact ⟨calls, .error e, v, one.bind_error, other.bind_error⟩
  | ok x =>
    obtain ⟨more, result, u, one', other'⟩ := rest x v
    exact ⟨calls ++ more, result, u, one.bind one', other.bind other'⟩

theorem Uses.bind_runsAlike {p : Plan α} {f : α → Plan β} (beside : p.Uses Call.BesideCache)
    (rest : ∀ x v, p.run s w = (.ok x, v) → (f x).RunsAlike s v a b) :
    (p >>= f).RunsAlike s w a b := by
  have one := beside.does (s := s) (w := w) a
  have other := beside.does (s := s) (w := w) b
  rcases ran : p.run s w with ⟨e | x, v⟩ <;> rw [ran] at one other
  · exact ⟨_, _, _, one.bind_error, other.bind_error⟩
  · obtain ⟨more, result, u, one', other'⟩ := rest x v ran
    exact ⟨_, result, u, one.bind one', other.bind other'⟩

theorem calls_within (layer : Layer) (p : Plan α) (w : World) :
    (p.within layer).calls s w = p.calls s w := by
  induction p generalizing w with
  | done r => rfl
  | call call next ih => exact congrArg (call :: ·) (ih _ _)

theorem RunsAlike.within {p : Plan α} (alike : p.RunsAlike s w a b) (layer : Layer) :
    (p.within layer).RunsAlike s w a b := by
  obtain ⟨calls, result, v, one, other⟩ := alike
  refine ⟨calls, result.within layer, v, ⟨?_, ?_⟩, ⟨?_, ?_⟩⟩
  · rw [calls_within, one.calls]
  · rw [run_within, one.run]
  · rw [calls_within, other.calls]
  · rw [run_within, other.run]

end Plan

namespace ContainerTask

variable {t : ContainerTask} {text : String}

/-- A task that is looked up asks the cache once and goes on with what comes of it. -/
theorem lookup_does (triggers : t.willTrigger = true) (caching : t.options.cachingEnabled = true)
    (known : fingerprint t.options t.input = .ok text) (c : CacheState) :
    t.lookup.Does s w c [.cached (t.address text)] (.ok (text, c.found (t.address text))) w := by
  have asked : t.lookup = .call (.cached (t.address text)) fun reply =>
      match Result.within .cacheLookup reply with
      | .ok found => .done (.ok (text, found))
      | .error _ => .done (.ok (text, none)) := by
    unfold lookup
    rw [triggers, caching, known]
    refine congrArg (Plan.call _) ?_
    funext reply
    cases reply <;> rfl
  have answer : (w.withCache c).answer (s.withCache c) (.cached (t.address text)) =
      (c.answer (t.address text), w.withCache c) := by
    unfold World.answer CacheState.answer
    change (match c.fault with
      | some fault => (_, _)
      | none => (_, _)) = _
    cases c.fault <;> rfl
  rw [asked]
  constructor
  · simp only [Plan.calls, answer]
    cases c.answer (t.address text) <;> rfl
  · simp only [Plan.run, answer, CacheState.found]
    cases c.answer (t.address text) <;> rfl

/-- A lookup is the same with two caches of which the same comes. -/
theorem lookup_runsAlike (same : t.willTrigger = true → t.options.cachingEnabled = true →
    ∀ text, fingerprint t.options t.input = .ok text →
      a.found (t.address text) = b.found (t.address text)) : t.lookup.RunsAlike s w a b := by
  by_cases asks : t.willTrigger = true ∧ t.options.cachingEnabled = true
  · obtain ⟨triggers, caching⟩ := asks
    cases known : fingerprint t.options t.input with
    | ok text =>
      have one := lookup_does (s := s) (w := w) triggers caching known a
      have other := lookup_does (s := s) (w := w) triggers caching known b
      rw [← same triggers caching text known] at other
      exact ⟨_, _, w, one, other⟩
    | error e =>
      have fails : t.lookup = .done (.error e) := by
        unfold lookup
        rw [triggers, caching, known]
        rfl
      rw [fails]
      exact (Plan.uses_done _).runsAlike
  · have off : t.lookup = .done (.ok ("", none)) := by
      unfold lookup
      rw [if_neg (by simpa using asks)]
      rfl
    rw [off]
    exact (Plan.uses_done _).runsAlike

theorem besideCache_runPlatformOperation : t.runPlatformOperation.Uses Call.BesideCache := by
  obtain ⟨rest, same, uses⟩ := t.runPlatformOperation_eq
  rw [same]
  exact (Options.uses_createExecution trivial trivial).bind fun record =>
    uses record _ trivial fun _ _ => trivial

/-- But for its lookup, a launch does not call the cache. -/
theorem launch_runsAlike (beside : d.extension.BesideCache) (alike : t.lookup.RunsAlike s w a b) :
    (t.launch d).RunsAlike s w a b := by
  obtain ⟨rest, same, uses⟩ := t.launch_steps d
  rw [same]
  refine alike.bind fun known v => Plan.Uses.runsAlike ?_
  refine (Options.uses_createExecution trivial trivial).bind fun record => ?_
  exact uses known record _ beside (fun _ => Call.besideCache_of_readsStore)
    (fun _ => Options.Registers.besideCache) fun _ _ => trivial

end ContainerTask

namespace Options

/-- The address that an invocation would look up in the cache: the fingerprint of its task as it is
prepared, with the pipeline and the namespace that it is told. -/
def Own (o : Options) (d : Driver) (s : Services) (w : World) (address : CacheAddress) : Prop :=
  ∃ t v text, (o.containerTask d).run s w = (.ok t, v) ∧ fingerprint o t.input = .ok text ∧
    address = ⟨text, CacheIndex.pipelineKey o.pipelineName, o.nspace⟩

/-- Why it makes no difference to an invocation which of two caches there is. -/
inductive Indifferent (o : Options) (d : Driver) (s : Services) (w : World) (a b : CacheState) :
    Prop where
  | sameAnswer : (∀ address, o.Own d s w address → a.answer address = b.answer address) →
      Indifferent o d s w a b
  /-- One cache cannot be reached, the other one holds nothing for the task. -/
  | failing {fault : Fault} : a.fault = some fault →
      (∀ address, o.Own d s w address → b.answer address = .ok none) → Indifferent o d s w a b
  | taskUncached : (∀ task, o.task = some task → task.enableCache = false) →
      Indifferent o d s w a b
  | invocationUncached : o.cacheDisabled = true → Indifferent o d s w a b
  | conditionFalse : (∀ t v, (o.containerTask d).run s w = (.ok t, v) → t.condition = some false) →
      Indifferent o d s w a b
  | platformImage : (∀ container, o.container = some container →
      d.config.isDummyImage container.image = true) → Indifferent o d s w a b

/-- Of a lookup that is made with indifferent caches the same comes. -/
theorem Indifferent.found {t : ContainerTask} {text : String}
    (indifferent : o.Indifferent d s w a b) (prepares : (o.containerTask d).run s w = (.ok t, v))
    (launches : d.config.isDummyImage t.container.image = false) (triggers : t.willTrigger = true)
    (caching : o.cachingEnabled = true) (known : fingerprint o t.input = .ok text) :
    a.found (t.address text) = b.found (t.address text) := by
  have prepared := containerTask_ok prepares
  have own : o.Own d s w (t.address text) :=
    ⟨t, v, text, prepares, known, by rw [ContainerTask.address, prepared.options]⟩
  cases indifferent with
  | sameAnswer same =>
    unfold CacheState.found
    rw [same _ own]
  | failing fails misses =>
    have missed := misses _ own
    unfold CacheState.found
    rw [missed]
    simp [CacheState.answer, fails, Result.fail, Except.toOption]
  | taskUncached off =>
    have off := off t.task prepared.task
    simp [cachingEnabled, prepared.task, off] at caching
  | invocationUncached off => simp [cachingEnabled, off] at caching
  | conditionFalse skips =>
    have skips := skips t v prepares
    simp [ContainerTask.willTrigger, skips] at triggers
  | platformImage operates =>
    rw [operates _ prepared.container] at launches
    cases launches

theorem runContainer_runsAlike (beside : d.extension.BesideCache)
    (indifferent : o.Indifferent d s w a b) : (o.runContainer d).RunsAlike s w a b := by
  rw [runContainer_eq]
  have prepares : (o.containerTask d).Uses Call.BesideCache :=
    uses_containerTask trivial trivial fun _ => Call.besideCache_of_readsStore
  refine (prepares.bind_runsAlike fun t v run => ?_).within _
  split
  · exact ContainerTask.besideCache_runPlatformOperation.runsAlike
  · rename_i launches
    have options := (containerTask_ok run).options
    refine ContainerTask.launch_runsAlike beside (ContainerTask.lookup_runsAlike ?_)
    intro triggers caching text known
    rw [options] at caching known
    exact indifferent.found run (by simpa using launches) triggers caching known

end Options

/-- No invocation changes the cache. -/
theorem Driver.keeps_cache (beside : d.extension.BesideCache) (kind : DriverType) :
    ((d.invocation o kind).run (s.withCache a) (w.withCache a)).2.cache = a.index := by
  have alike : (d.invocation o kind).RunsAlike s w a a := by
    cases kind with
    | rootDag =>
      exact (Options.uses_runRootDag trivial (fun _ => trivial) trivial (fun _ _ _ => trivial)
        fun _ => Options.Registers.besideCache).runsAlike
    | dag =>
      exact (Options.uses_runDag trivial (fun _ => Call.besideCache_of_readsStore)
        fun _ _ _ => trivial).runsAlike
    | container => exact Options.runContainer_runsAlike beside (.sameAnswer fun _ _ => rfl)
  obtain ⟨calls, result, v, does, _⟩ := alike
  rw [does.run]
  rfl

/-- A cache acts on a container invocation by its answer to one lookup at most. Where two caches give
the same answer, or one of them fails and the other one holds nothing, or nothing is looked up, the
invocation makes the same calls in the same order, has the same result and leaves the same world.
Whatever an invocation does, the cache stays as it is. -/
theorem cache_acts_by_answer (beside : d.extension.BesideCache) (o : Options) (s : Services)
    (w : World) (a b : CacheState) :
    (o.Indifferent d s w a b → (o.runContainer d).RunsAlike s w a b) ∧
      ∀ kind, ((d.invocation o kind).run (s.withCache a) (w.withCache a)).2.cache = a.index :=
  ⟨Options.runContainer_runsAlike beside, Driver.keeps_cache beside⟩

namespace Twice

def cache : CacheState := ⟨again.cache, none⟩

/-- The same cache once another pipeline has recorded the same task. -/
def shared : CacheState :=
  ⟨again.cache.add ⟨fingerprint, CacheIndex.pipelineKey "other", "team", "third", 7⟩, none⟩

theorem indifferent : (train "second" 3).Indifferent {} {} again cache shared := by
  apply Options.Indifferent.sameAnswer
  rintro _ ⟨t, v, text, _, _, rfl⟩
  have apart : CacheIndex.pipelineKey "other" ≠ CacheIndex.pipelineKey "pipeline" := by
    intro same
    have names := CacheIndex.pipelineKey_injective same
    simp at names
  unfold CacheState.answer shared cache
  simp only
  rw [CacheIndex.lookup?_add, if_neg]
  intro same
  exact apart (congrArg CacheAddress.pipelineKey same)

end Twice

/-- A task is reused in the same way when another pipeline has recorded the same task as well. -/
theorem cache_acts_by_answer_shared : ∃ e,
    PodExtension.none.BesideCache ∧ Twice.cache.index ≠ Twice.shared.index ∧
    (Twice.train "second" 3).Indifferent {} {} Twice.again Twice.cache Twice.shared ∧
    ((Twice.train "second" 3).runContainer {}).run {} Twice.again = (.ok e, Twice.ran.2) ∧
    e.cached = some true ∧
    ((Twice.train "second" 3).runContainer {}).run {} (Twice.again.withCache Twice.shared) =
      (.ok e, Twice.ran.2.withCache Twice.shared) := by
  obtain ⟨e, run, _, hit⟩ := Twice.ran_ok
  have beside := PodExtension.none_besideCache
  obtain ⟨_, result, v, one, other⟩ := (cache_acts_by_answer (d := {}) beside
    (Twice.train "second" 3) {} Twice.again Twice.cache Twice.shared).1 Twice.indifferent
  have met : (result, v.withCache Twice.cache) = (.ok e, Twice.ran.2) := one.run.symm.trans run
  obtain ⟨rfl, same⟩ := Prod.mk.inj met
  have differ : Twice.cache.index ≠ Twice.shared.index := by
    -- told apart by their runs, since computing the fingerprints takes long
    have older : ∀ entry ∈ Twice.cache.index.entries, entry.runId ≠ "third" := by decide +kernel
    intro same
    refine older ⟨Twice.fingerprint, CacheIndex.pipelineKey "other", "team", "third", 7⟩ ?_ rfl
    rw [same]
    exact List.mem_append_right _ List.mem_cons_self
  refine ⟨e, beside, differ, Twice.indifferent, run, hit, ?_⟩
  rw [← same]
  exact other.run

end TaskGraph
