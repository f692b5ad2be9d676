import TaskGraph.Proofs.Invoke.Creates
import TaskGraph.Proofs.Invoke.Reuse
import TaskGraph.Proofs.Json.Numbers

/-! Histories of a cache. Invocations and records follow each other over one cache and one store. The
cache then holds what was recorded last, each execution has the fingerprint of the invocation that
created it, and so an execution is reused only for a task with the same text. -/

namespace TaskGraph

theorem Sha256.hex_ne_empty (text : String) : Sha256.hex text ≠ "" := by
  intro empty
  have none := congrArg String.toList empty
  simp [hex, digest, State.words, bigEndian, hexByte] at none

namespace CacheIndex

theorem pipelineKey_injective {a b : String} (h : pipelineKey a = pipelineKey b) : a = b :=
  (String.append_right_inj _).1 h

/-- An entry takes the place of an earlier one under its address, and of no other. -/
theorem lookup?_add (c : CacheIndex) (e : CacheEntry) (a : CacheAddress) :
    (c.add e).lookup? a = if address e = a then some e.executionId else c.lookup? a := by
  unfold lookup? add
  rw [List.find?_append]
  by_cases here : address e = a
  · subst here
    have gone : (c.entries.filter (address · ≠ address e)).find? (address · = address e) = none := by
      simp [List.find?_eq_none]
    rw [gone]
    simp
  · rw [List.find?_filter]
    have other (e' : CacheEntry) : (address e' ≠ address e ∧ address e' = a) ↔ address e' = a :=
      ⟨And.right, fun same => ⟨fun as => here (as.symm.trans same), same⟩⟩
    simp [here, other]

end CacheIndex

/-- A container invocation in the world that it meets. -/
structure Invocation where
  driver : Driver
  services : Services
  options : Options
  before : World

namespace Invocation

variable (i : Invocation)

def result : Result Execution := ((i.options.runContainer i.driver).run i.services i.before).1

def after : World := ((i.options.runContainer i.driver).run i.services i.before).2

/-- The task that the invocation prepares, unless that fails. -/
def task? : Option ContainerTask :=
  ((i.options.containerTask i.driver).run i.services i.before).1.toOption

/-- The text from which the invocation makes its fingerprint, if it makes one. An operation of the
platform gets none. -/
def text? : Option String :=
  i.task?.bind fun t =>
    if i.driver.config.isDummyImage t.container.image then none else t.hashedText?

/-- The invocation stored a new execution, whether it then succeeded or not. -/
def Creates (id : Int) : Prop :=
  i.before.store.executions.get? id = none ∧ (i.after.store.executions.get? id).isSome

/-- The invocation reports that the execution `x` stands in for the one it stored. -/
def Reuses (x : Int) : Prop :=
  ∃ e record, i.result = .ok e ∧ e.cached = some true ∧
    i.after.store.executions.get? e.id = some record ∧
    record.cachedExecutionId = Json.intText x

/-- The fingerprints with which the invocation stores executions. -/
def Fingerprint (fingerprint : String) : Prop :=
  fingerprint = "" ∨ ∃ text, i.text? = some text ∧ fingerprint = Sha256.hex text

variable {i}

/-- An invocation leaves the cache alone, and what it stores has its fingerprint. -/
theorem after_continues (looks : i.driver.extension.Looks) (ordered : i.before.store.Ordered) :
    Store.Continues i.Fingerprint i.before.store i.after.store ∧
      i.after.cache = i.before.cache := by
  unfold after
  rw [Options.runContainer_eq, Plan.run_within, Plan.run_bind]
  rcases prepares : (i.options.containerTask i.driver).run i.services i.before with ⟨result, v⟩
  cases result with
  | error e =>
    have uses : (i.options.containerTask i.driver).Uses (Call.Creates i.Fingerprint) :=
      Options.creates_containerTask
    have run := uses.run_continues (s := i.services) ordered
    rwa [prepares] at run
  | ok t =>
    have prepared := Options.containerTask_ok prepares
    have task : i.task? = some t := by simp [task?, prepares, Except.toOption]
    have fromStart {v' : World}
        (goesOn : Store.Continues i.Fingerprint v.store v'.store ∧ v'.cache = v.cache) :
        Store.Continues i.Fingerprint i.before.store v'.store ∧ v'.cache = i.before.cache :=
      ⟨(Store.Continues.of_same prepared.executions).trans goesOn.1,
        goesOn.2.trans prepared.cache⟩
    dsimp only
    split
    · exact fromStart ((ContainerTask.creates_runPlatformOperation (.inl rfl)).run_continues
        (prepared.ordered ordered))
    · rename_i launches
      have run := t.launch_continues (s := i.services) looks (prepared.ordered ordered)
      refine fromStart ⟨run.1.mono fun text known => ?_, run.2⟩
      rcases known with rfl | ⟨text, hashed, rfl⟩
      · exact .inl rfl
      · exact .inr ⟨text, by simp [text?, task, launches, hashed], rfl⟩

/-- Where the cache keeps what is recorded with the options of the invocation. -/
def address (i : Invocation) (fingerprint : String) : CacheAddress :=
  ⟨fingerprint, CacheIndex.pipelineKey i.options.pipelineName, i.options.nspace⟩

theorem address_eq_iff {i j : Invocation} {a b : String} : i.address a = j.address b ↔
    a = b ∧ i.options.pipelineName = j.options.pipelineName ∧
      i.options.nspace = j.options.nspace := by
  simp only [address, CacheAddress.mk.injEq]
  exact and_congr_right' (and_congr_left'
    ⟨CacheIndex.pipelineKey_injective, congrArg CacheIndex.pipelineKey⟩)

end Invocation

/-- What happens to a cache and to its executions. -/
inductive CacheEvent where
  | invocation (i : Invocation)
  | record (i : Invocation) (id : Int) (fingerprint : String)

/-- The execution that is recorded under an address. -/
def CacheEvent.recorded? (a : CacheAddress) : CacheEvent → Option Int
  | invocation _ => none
  | record i id fingerprint => if i.address fingerprint = a then some id else none

/-- The histories of one cache over one store, the latest event first. An execution is recorded with
the options of the invocation that created it and with the fingerprint that is stored for it. What
else happens to the store, and what happens elsewhere, is left out. -/
inductive CacheHistory : List CacheEvent → World → Prop where
  | start {w : World} : w.store.Arises → w.cache = {} → CacheHistory [] w
  | invocation {past : List CacheEvent} (i : Invocation) :
      CacheHistory past i.before → i.driver.extension.Looks → i.options.devMode = false →
      CacheHistory (.invocation i :: past) i.after
  | record {past : List CacheEvent} {w w' : World} {i : Invocation} {id : Int}
      {e : ExecutionRecord} (s : Services) :
      CacheHistory past w → .invocation i ∈ past → i.Creates id →
      w.store.executions.get? id = some e →
      (CacheKey.record i.options id e.fingerprint).run s w = (.ok (), w') →
      CacheHistory (.record i id e.fingerprint :: past) w'
  | graph {past : List CacheEvent} {w : World} (d : Driver) (s : Services) (o : Options)
      (kind : DriverType) : CacheHistory past w → kind ≠ .container →
      CacheHistory past ((d.invocation o kind).run s w).2
  | publish {past : List CacheEvent} {w : World} (s : Services) (id : Int)
      (parameters : Dict Json) (artifacts : List OutputArtifact) (state : ExecutionState) :
      CacheHistory past w →
      CacheHistory past ((Plan.perform (.publish id parameters artifacts state)).run s w).2
  | elsewhere {past : List CacheEvent} {w w' : World} : CacheHistory past w →
      w'.store = w.store → w'.cache = w.cache → CacheHistory past w'

/-- What a history makes sure of. Executions have the fingerprints of the invocations that created
them, only what was created before is recorded, and the cache holds what was recorded last. -/
structure CacheHistory.Sound (past : List CacheEvent) (w : World) : Prop where
  ordered : w.store.Ordered
  stored : ∀ i id, .invocation i ∈ past → i.Creates id →
    ∃ e, w.store.executions.get? id = some e ∧ i.Fingerprint e.fingerprint
  recorded : ∀ newer i id fingerprint older,
    past = newer ++ .record i id fingerprint :: older →
    .invocation i ∈ older ∧ i.Creates id ∧
      ∃ e, w.store.executions.get? id = some e ∧ e.fingerprint = fingerprint
  cache : ∀ a, w.cache.lookup? a = past.findSome? (CacheEvent.recorded? a)

theorem CacheKey.record_ok {o : Options} {id : Int} {fingerprint : String} {s : Services}
    {w w' : World} (h : (CacheKey.record o id fingerprint).run s w = (.ok (), w')) :
    w' = { w with
      cache := w.cache.add
        ⟨fingerprint, CacheIndex.pipelineKey o.pipelineName, o.nspace, o.runId, id⟩ } := by
  obtain ⟨entry, v, made, kept⟩ := Plan.run_bind_ok_iff.1 h
  simp only [Plan.run_lift, Prod.mk.injEq] at made
  obtain ⟨made, rfl⟩ := made
  unfold CacheIndex.entryOf at made
  split at made
  · cases made
  · obtain ⟨⟩ := made
    have served := Plan.perform_ok (Plan.run_within_ok_iff.1 kept)
    exact (congrArg Prod.snd served).symm

namespace CacheHistory

variable {past : List CacheEvent} {F : String → Prop} {w w' : World} {i : Invocation} {id : Int}

theorem Sound.start (ordered : w.store.Ordered) (empty : w.cache = {}) : Sound [] w where
  ordered
  stored i id never := absurd never List.not_mem_nil
  recorded newer i id fingerprint older split := by simp at split
  cache a := by rw [empty]; rfl

/-- While nothing is recorded and executions keep their fingerprints, nothing is lost. -/
theorem Sound.of_continues (sound : Sound past w) (continues : Store.Continues F w.store w'.store)
    (ordered : w'.store.Ordered) (cache : w'.cache = w.cache) : Sound past w' where
  ordered
  stored i id member created := by
    obtain ⟨e, found, known⟩ := sound.stored i id member created
    obtain ⟨e', found', same⟩ := continues.keeps id e found
    exact ⟨e', found', same ▸ known⟩
  recorded newer i id fingerprint older split := by
    obtain ⟨earlier, created, e, found, known⟩ := sound.recorded newer i id fingerprint older split
    obtain ⟨e', found', same⟩ := continues.keeps id e found
    exact ⟨earlier, created, e', found', same.trans known⟩
  cache a := by rw [cache, sound.cache a]

theorem Sound.of_uses {α : Type} {p : Plan α} {s : Services} (sound : Sound past w)
    (uses : p.Uses (Call.Creates fun _ => True)) : Sound past (p.run s w).2 := by
  obtain ⟨continues, cache⟩ := uses.run_continues (s := s) sound.ordered
  exact sound.of_continues continues (p.run_ordered s w sound.ordered) cache

theorem Sound.invocation (sound : Sound past i.before) (looks : i.driver.extension.Looks) :
    Sound (.invocation i :: past) i.after := by
  obtain ⟨continues, cache⟩ := Invocation.after_continues looks sound.ordered
  have later := sound.of_continues continues (Plan.run_ordered _ _ _ sound.ordered) cache
  exact {
    ordered := later.ordered
    stored := fun j id member created => by
      rcases List.mem_cons.1 member with same | earlier
      · obtain ⟨⟩ := same
        obtain ⟨e, found⟩ := Option.isSome_iff_exists.1 created.2
        exact ⟨e, found, continues.adds id e found created.1⟩
      · exact later.stored j id earlier created
    recorded := fun newer j id fingerprint older split => by
      cases newer with
      | nil => cases split
      | cons event newer => exact later.recorded newer j id fingerprint older (List.cons.inj split).2
    cache := later.cache }

theorem Sound.record {e : ExecutionRecord} {s : Services} (sound : Sound past w)
    (earlier : .invocation i ∈ past) (created : i.Creates id)
    (stored : w.store.executions.get? id = some e)
    (h : (CacheKey.record i.options id e.fingerprint).run s w = (.ok (), w')) :
    Sound (.record i id e.fingerprint :: past) w' := by
  obtain rfl := CacheKey.record_ok h
  exact {
    ordered := sound.ordered
    stored := fun j id' member => by
      rcases List.mem_cons.1 member with different | earlier'
      · cases different
      · exact sound.stored j id' earlier'
    recorded := fun newer j id' fingerprint older split => by
      cases newer with
      | nil =>
        obtain ⟨⟩ := split
        exact ⟨earlier, created, e, stored, rfl⟩
      | cons event newer =>
        exact sound.recorded newer j id' fingerprint older (List.cons.inj split).2
    cache := fun a => by
      rw [CacheIndex.lookup?_add, List.findSome?_cons, CacheEvent.recorded?, sound.cache a]
      change (if i.address e.fingerprint = a then _ else _) = _
      split <;> rfl }

theorem sound (history : CacheHistory past w) : Sound past w := by
  induction history with
  | start arises empty => exact .start arises.ordered empty
  | invocation i _ looks _ ih => exact ih.invocation looks
  | record s _ earlier created stored recorded ih => exact ih.record earlier created stored recorded
  | graph d s o kind _ other ih =>
    cases kind with
    | rootDag => exact ih.of_uses (Options.creates_runRootDag trivial)
    | dag => exact ih.of_uses (Options.creates_runDag trivial)
    | container => exact absurd rfl other
  | publish s id parameters artifacts state _ ih => exact ih.of_uses (Plan.uses_perform trivial)
  | elsewhere _ store cache ih =>
    exact ih.of_continues (F := fun _ => True) (.of_same (congrArg _ store)) (store ▸ ih.ordered)
      cache

/-- Each invocation of a history meets what the history was until then. -/
theorem met {events later : List CacheEvent} (history : CacheHistory events w)
    (split : events = later ++ .invocation i :: past) :
    CacheHistory past i.before ∧ i.driver.extension.Looks ∧ i.options.devMode = false := by
  induction history generalizing later with
  | start => simp at split
  | invocation j before looks creates ih =>
    cases later with
    | nil =>
      obtain ⟨⟩ := split
      exact ⟨before, looks, creates⟩
    | cons event later => exact ih (List.cons.inj split).2
  | record _ _ _ _ _ _ ih =>
    cases later with
    | nil => cases split
    | cons event later => exact ih (List.cons.inj split).2
  | graph _ _ _ _ _ _ ih => exact ih split
  | publish _ _ _ _ _ _ ih => exact ih split
  | elsewhere _ _ _ ih => exact ih split

end CacheHistory

theorem Invocation.Reuses.of_run {d : Driver} {s : Services} {o : Options} {w w' : World}
    {e : Execution} {record : ExecutionRecord} {x : Int}
    (run : (o.runContainer d).run s w = (.ok e, w')) (hit : e.cached = some true)
    (stored : w'.store.executions.get? e.id = some record)
    (known : record.cachedExecutionId = Json.intText x) : (Invocation.mk d s o w).Reuses x := by
  have after : (Invocation.mk d s o w).after = w' := congrArg Prod.snd run
  exact ⟨e, record, congrArg Prod.fst run, hit, after ▸ stored, known⟩

/-- An invocation that reuses an execution has asked the cache for its own text. -/
theorem Invocation.Reuses.looked_up {i : Invocation} {x : Int} (reuses : i.Reuses x)
    (ordered : i.before.store.Ordered) (looks : i.driver.extension.Looks)
    (creates : i.options.devMode = false) :
    ∃ text, i.text? = some text ∧
      i.before.cache.lookup? (i.address (Sha256.hex text)) = some x := by
  obtain ⟨e, record, succeeds, hit, stored, known⟩ := reuses
  have run : (i.options.runContainer i.driver).run i.services i.before = (.ok e, i.after) :=
    Prod.ext succeeds rfl
  obtain ⟨t, v, y, fingerprint, u, prepares, prepared, operation, triggers, found, store, rfl,
    reused⟩ := Options.runContainer_reuses looks creates run hit
  obtain ⟨earlier, stored', _, _⟩ := prepared.standsIn ordered operation triggers store reused
  obtain rfl := Option.some.inj (stored.symm.trans stored')
  obtain rfl : y = x := Json.intText_injective known
  obtain ⟨_, caching, _, holds⟩ := found.of_some rfl
  obtain ⟨key, of_task, rfl, _⟩ := found.of_caching triggers caching
  refine ⟨key.canonical, ?_, ?_⟩
  · simp [text?, task?, prepares, operation, ContainerTask.hashedText?, triggers, caching, of_task,
      Except.toOption]
  · rw [prepared.cache, ContainerTask.address, prepared.options] at holds
    exact holds

/-- In a history in which no two texts have the same digest, an execution is reused only for the
text from which its own fingerprint was made. An earlier invocation created it, it was recorded for
the same pipeline and namespace, and from then on nothing was recorded there with its fingerprint. -/
theorem reuse_recorded {events later past : List CacheEvent} {w : World} {i : Invocation} {x : Int}
    (history : CacheHistory events w) (split : events = later ++ .invocation i :: past)
    (injective : ∀ j k a b, .invocation j ∈ events → .invocation k ∈ events →
      j.text? = some a → k.text? = some b → Sha256.hex a = Sha256.hex b → a = b)
    (reuses : i.Reuses x) :
    ∃ newer j fingerprint older text,
      past = newer ++ CacheEvent.record j x fingerprint :: older ∧
      j.options.pipelineName = i.options.pipelineName ∧ j.options.nspace = i.options.nspace ∧
      (∀ k id, .record k id fingerprint ∈ newer →
        k.options.pipelineName = i.options.pipelineName → k.options.nspace ≠ i.options.nspace) ∧
      .invocation j ∈ older ∧ j.Creates x ∧
      i.text? = some text ∧ fingerprint = Sha256.hex text ∧
      ∀ k, .invocation k ∈ events → k.Creates x → k.text? = some text := by
  obtain ⟨before, looks, creates⟩ := history.met split
  obtain ⟨text, own, holds⟩ := reuses.looked_up before.sound.ordered looks creates
  rw [before.sound.cache, List.findSome?_eq_some_iff] at holds
  obtain ⟨newer, event, older, past_split, here, since⟩ := holds
  cases event with
  | invocation k => cases here
  | record j id fingerprint =>
  simp only [CacheEvent.recorded?, Option.ite_none_right_eq_some, Option.some.injEq,
    Invocation.address_eq_iff] at here
  obtain ⟨⟨rfl, pipeline, nspace⟩, rfl⟩ := here
  obtain ⟨earlier, created, e, stored, known⟩ := history.sound.recorded
    (later ++ .invocation i :: newer) j id _ older (by rw [split, past_split, List.append_assoc]; rfl)
  refine ⟨newer, j, _, older, text, past_split, pipeline, nspace, ?_, earlier, created, own, rfl, ?_⟩
  · intro k id' member pipeline' nspace'
    have never := since _ member
    simp [CacheEvent.recorded?, Invocation.address_eq_iff, pipeline', nspace'] at never
  · intro k member created
    obtain ⟨e', stored', known'⟩ := history.sound.stored k id member created
    obtain rfl := Option.some.inj (stored.symm.trans stored')
    rcases known' with blank | ⟨text', hashed, same⟩
    · exact absurd (known.symm.trans blank) (Sha256.hex_ne_empty text)
    · have present : .invocation i ∈ events := by simp [split]
      rw [injective k i text' text member present hashed own (same.symm.trans known)] at hashed
      exact hashed

namespace Twice

def first : Invocation := ⟨{}, {}, train "first" 1, begun⟩

def second : Invocation := ⟨{}, {}, train "second" 3, again⟩

theorem first_creates : first.Creates 2 := by
  have stored : begun.store.executions.get? 2 = none ∧
      (trained.store.executions.get? 2).isSome := by decide +kernel
  exact stored

def past : List CacheEvent := [.record first 2 fingerprint, .invocation first]

theorem history : CacheHistory (.invocation second :: past) second.after := by
  have stored : (finished.store.executions.get? 2).isSome := by decide +kernel
  obtain ⟨e, found⟩ := Option.isSome_iff_exists.1 stored
  have own : fingerprint = e.fingerprint := by simp [fingerprint, found]
  have begins : CacheHistory [] begun := .graph {} {} (root "first") .rootDag (.start .empty rfl)
    (by decide)
  have trains : CacheHistory [.invocation first] trained :=
    .invocation first begins PodExtension.none_looks rfl
  have finishes : CacheHistory [.invocation first] finished := .publish {} 2 _ _ _ trains
  have records : CacheHistory [.record first 2 fingerprint, .invocation first] recorded := by
    rw [own]
    refine .record {} finishes List.mem_cons_self first_creates found ?_
    rw [recorded, own]
    rfl
  exact .invocation second (.graph {} {} (root "second") .rootDag records (by decide))
    PodExtension.none_looks rfl

theorem same_text : first.text? = second.text? := by decide +kernel

theorem second_reuses : second.Reuses 2 := by
  obtain ⟨e, run, id, hit⟩ := ran_ok
  obtain ⟨_, known, _⟩ := ran_reuses
  obtain ⟨record, stored, own⟩ := Option.map_eq_some_iff.1 known
  exact .of_run run hit (id ▸ stored) own

end Twice

/-- A task that was recorded in one graph is reused in the next. -/
theorem reuse_recorded_twice :
    CacheHistory (.invocation Twice.second :: Twice.past) Twice.second.after ∧
    (∀ j k a b, .invocation j ∈ CacheEvent.invocation Twice.second :: Twice.past →
      .invocation k ∈ CacheEvent.invocation Twice.second :: Twice.past →
      j.text? = some a → k.text? = some b → Sha256.hex a = Sha256.hex b → a = b) ∧
    Twice.second.Reuses 2 ∧ ∃ text, Twice.first.text? = some text ∧
      Twice.second.text? = some text ∧ Twice.fingerprint = Sha256.hex text := by
  have same (i : Invocation) (member : .invocation i ∈ .invocation Twice.second :: Twice.past) :
      i.text? = Twice.first.text? := by
    simp only [Twice.past, List.mem_cons, CacheEvent.invocation.injEq, reduceCtorEq,
      List.not_mem_nil, or_false, false_or] at member
    rcases member with rfl | rfl
    · exact Twice.same_text.symm
    · rfl
  have injective : ∀ j k a b, .invocation j ∈ CacheEvent.invocation Twice.second :: Twice.past →
      .invocation k ∈ CacheEvent.invocation Twice.second :: Twice.past →
      j.text? = some a → k.text? = some b → Sha256.hex a = Sha256.hex b → a = b := by
    intro j k a b here there own own' _
    rw [same j here] at own
    rw [same k there, own] at own'
    exact Option.some.inj own'
  obtain ⟨newer, j, fingerprint, older, text, split, _, _, _, _, _, own, hashed, each⟩ :=
    reuse_recorded Twice.history (List.nil_append _).symm injective Twice.second_reuses
  have first := each Twice.first (by simp [Twice.past]) Twice.first_creates
  have recorded : .record j 2 fingerprint ∈ Twice.past := by simp [split]
  obtain ⟨rfl, rfl⟩ : j = Twice.first ∧ fingerprint = Twice.fingerprint := by
    simpa [Twice.past] using recorded
  exact ⟨Twice.history, injective, Twice.second_reuses, text, first, own, hashed⟩

end TaskGraph
