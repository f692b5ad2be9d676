import TaskGraph.Proofs.Invoke.Container

/-! What invocations create. Whatever an invocation does, and even if it fails, it leaves the cache
alone, and the executions that are there keep their fingerprints. The fingerprints of new executions
are known from the task. -/

namespace TaskGraph

variable {F G : String → Prop} {s : Services} {w w' : World} {o : Options} {d : Driver}

/-- A store that goes on from an earlier one: executions keep their fingerprints, and new ones have
fingerprints of which `F` holds. -/
structure Store.Continues (F : String → Prop) (before after : Store) : Prop where
  keeps : ∀ id e, before.executions.get? id = some e →
    ∃ e', after.executions.get? id = some e' ∧ e'.fingerprint = e.fingerprint
  adds : ∀ id e, after.executions.get? id = some e → before.executions.get? id = none →
    F e.fingerprint

namespace Store.Continues

variable {a b c : Store}

theorem of_same (same : b.executions = a.executions) : Store.Continues F a b where
  keeps id e found := ⟨e, same ▸ found, rfl⟩
  adds id e found absent := by
    rw [same, absent] at found
    cases found

/-- Storing an execution keeps the others. -/
theorem insert {id : Int} {e : ExecutionRecord} (executions : b.executions = a.executions.insert id e)
    (kept : ∀ e', a.executions.get? id = some e' → e.fingerprint = e'.fingerprint)
    (new : a.executions.get? id = none → F e.fingerprint) : Store.Continues F a b where
  keeps id' e' found := by
    rw [executions, SortedMap.get?_insert]
    split
    · rename_i same
      exact ⟨e, rfl, kept e' (same ▸ found)⟩
    · exact ⟨e', found, rfl⟩
  adds id' e' found absent := by
    rw [executions, SortedMap.get?_insert] at found
    split at found
    · rename_i same
      rw [← Option.some.inj found]
      exact new (same ▸ absent)
    · rw [absent] at found
      cases found

theorem trans (first : Store.Continues F a b) (second : Store.Continues F b c) :
    Store.Continues F a c where
  keeps id e found := by
    obtain ⟨e', found, same⟩ := first.keeps id e found
    obtain ⟨e'', found, same'⟩ := second.keeps id e' found
    exact ⟨e'', found, same'.trans same⟩
  adds id e found absent := by
    cases middle : b.executions.get? id with
    | none => exact second.adds id e found middle
    | some e' =>
      obtain ⟨e'', found', same⟩ := second.keeps id e' middle
      rw [found] at found'
      rw [Option.some.inj found', same]
      exact first.adds id e' middle absent

theorem mono (continues : Store.Continues F a b) (weaker : ∀ text, F text → G text) :
    Store.Continues G a b where
  keeps := continues.keeps
  adds id e found absent := weaker _ (continues.adds id e found absent)

end Store.Continues

/-- A call that creates executions only with fingerprints of which `F` holds, and records nothing in
the cache. -/
def Call.Creates (F : String → Prop) : Call → Prop
  | .create _ config => F config.fingerprint
  | .cacheEntry _ => False
  | _ => True

theorem Call.Creates.of_reads {c : Call} (reads : c.reads = true) : c.Creates F := by
  cases c <;> simp_all [Call.reads, Call.Creates]

theorem Call.Creates.of_blank (blank : F "") (p : Pipeline) (config : ExecutionConfig)
    (unmarked : config.fingerprint = "") : (Call.create p config).Creates F := by
  change F config.fingerprint
  rwa [unmarked]

theorem World.answer_continues {c : Call} (creates : c.Creates F) (ordered : w.store.Ordered) :
    Store.Continues F w.store (w.answer s c).2.store ∧ (w.answer s c).2.cache = w.cache := by
  have same : Store.Continues F w.store w.store := .of_same rfl
  unfold World.answer
  split
  · exact ⟨same, rfl⟩
  cases c with
  | pipeline q => exact ⟨.of_same (Store.pipeline_executions q), rfl⟩
  | create p config =>
    refine ⟨.insert rfl (fun e' taken => ?_) fun _ => creates, rfl⟩
    rw [show w.store.executions.get? _ = none from ordered.next_free] at taken
    cases taken
  | publish id parameters artifacts state =>
    simp only [World.serve]
    split
    · rename_i published
      obtain ⟨e, stored, executions⟩ := Store.publish_executions published
      refine ⟨.insert executions (fun e' found => ?_) fun absent => ?_, rfl⟩
      · rw [stored] at found
        rw [← Option.some.inj found]
      · rw [stored] at absent
        cases absent
    · exact ⟨same, rfl⟩
  | registerRun own request => cases own <;> exact ⟨same, rfl⟩
  | logParameter own parameter => cases own <;> exact ⟨same, rfl⟩
  | cacheEntry entry => exact creates.elim
  | _ => exact ⟨same, rfl⟩

namespace Plan

variable {α β : Type} {p : Plan α}

/-- What an ordered store goes on to when a plan runs. -/
theorem Uses.run_continues (uses : p.Uses (Call.Creates F)) (ordered : w.store.Ordered) :
    Store.Continues F w.store (p.run s w).2.store ∧ (p.run s w).2.cache = w.cache := by
  have run := Uses.run_keeps
    (P := fun v => v.store.Ordered ∧ Store.Continues F w.store v.store ∧ v.cache = w.cache) uses
    (fun c v creates ⟨ordered, continues, cache⟩ => by
      have next := World.answer_continues (s := s) creates ordered
      exact ⟨World.answer_ordered s c v ordered, continues.trans next.1, next.2.trans cache⟩)
    (w := w) (s := s) ⟨ordered, .of_same rfl, rfl⟩
  exact run.2

end Plan

namespace Options

theorem creates_createExecution {p : Pipeline} {config : ExecutionConfig}
    (new : F config.fingerprint) : (o.createExecution p config).Uses (Call.Creates F) :=
  uses_createExecution trivial new

theorem Registers.creates {c : Call} (registers : o.Registers c) : c.Creates F := by
  cases c <;> first | exact registers.elim | trivial

theorem creates_runRootDag (blank : F "") : o.runRootDag.Uses (Call.Creates F) :=
  uses_runRootDag trivial (fun _ => trivial) trivial (Call.Creates.of_blank blank)
    fun _ => Registers.creates

theorem creates_runDag (blank : F "") : o.runDag.Uses (Call.Creates F) :=
  uses_runDag trivial (fun _ looks => .of_reads (Call.reads_of_readsStore looks))
    (Call.Creates.of_blank blank)

theorem creates_containerTask : (o.containerTask d).Uses (Call.Creates F) :=
  uses_containerTask trivial trivial fun _ looks => .of_reads (Call.reads_of_readsStore looks)

end Options

namespace ContainerTask

variable {t : ContainerTask}

/-- The text from which the fingerprint of a task is made, if it gets one. -/
def hashedText? (t : ContainerTask) : Option String :=
  if t.willTrigger && t.options.cachingEnabled then
    (CacheKey.of t.options t.input).toOption.map CacheKey.canonical
  else none

/-- The fingerprints with which executions of a task are stored. -/
def Fingerprint (t : ContainerTask) (fingerprint : String) : Prop :=
  fingerprint = "" ∨ ∃ text, t.hashedText? = some text ∧ fingerprint = Sha256.hex text

theorem LookedUp.fingerprint {fingerprint : String} {found : Option Int}
    (known : t.LookedUp s w fingerprint found) : t.Fingerprint fingerprint := by
  cases known with
  | off _ => exact .inl rfl
  | on triggers caching of_task =>
    exact .inr ⟨_, by simp [hashedText?, triggers, caching, of_task, Except.toOption], rfl⟩

theorem creates_runPlatformOperation (blank : F "") :
    t.runPlatformOperation.Uses (Call.Creates F) := by
  obtain ⟨rest, same, uses⟩ := t.runPlatformOperation_eq
  rw [same]
  exact (Options.creates_createExecution blank).bind fun record =>
    uses record _ trivial fun _ _ => trivial

theorem launch_continues (looks : d.extension.Looks) (t : ContainerTask)
    (ordered : w.store.Ordered) :
    Store.Continues t.Fingerprint w.store ((t.launch d).run s w).2.store ∧
      ((t.launch d).run s w).2.cache = w.cache := by
  obtain ⟨rest, same, uses⟩ := t.launch_eq looks
  rw [same, Plan.run_bind]
  rcases looked : t.lookup.run s w with ⟨result, v⟩
  obtain rfl := t.reads_lookup.world_eq looked
  cases result with
  | error e => exact ⟨.of_same rfl, rfl⟩
  | ok answer =>
    obtain ⟨fingerprint, found⟩ := answer
    have known := (lookup_ok looked).2.fingerprint
    refine Plan.Uses.run_continues ?_ ordered
    exact (Options.creates_createExecution known).bind fun record =>
      uses (fingerprint, found) record _ (fun _ => Call.Creates.of_reads)
        (fun _ => Options.Registers.creates) fun _ _ => trivial

end ContainerTask

end TaskGraph
