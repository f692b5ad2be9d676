import TaskGraph.Proofs.Growth
import TaskGraph.Proofs.Invoke.Container
import TaskGraph.Proofs.Invoke.Graphs

/-! What an invocation may end. Whatever its calls are answered, an invocation publishes ends only for
executions that it has created itself. -/

namespace TaskGraph

namespace Call

/-- The call ends the execution. -/
def Publishes : Call → Int → Prop
  | .publish id .., id' => id = id'
  | _, _ => False

/-- The number of the execution that a call has created. -/
def made? : (c : Call) → Result c.Reply → Option Int
  | .create .., .ok e => some e.id
  | _, _ => none

theorem not_publishes_of_reads {c : Call} (reads : c.reads = true) (id : Int) :
    ¬ c.Publishes id := by
  cases c <;> simp_all [Call.reads, Publishes]

end Call

namespace Plan

variable {α β : Type} {own own' : Int → Prop}

/-- A plan that ends only executions of its own: those that it owns from the start, and those that it
has created. -/
def Owns (own : Int → Prop) : Plan α → Prop
  | .done _ => True
  | .call c next => (∀ id, c.Publishes id → own id) ∧
    ∀ reply, (next reply).Owns fun id => own id ∨ c.made? reply = some id

theorem Owns.mono {p : Plan α} (owns : p.Owns own) (more : ∀ id, own id → own' id) :
    p.Owns own' := by
  induction p generalizing own own' with
  | done r => trivial
  | call c next ih =>
    exact ⟨fun id ends => more id (owns.1 id ends),
      fun reply => ih reply (owns.2 reply) fun id => Or.imp_left (more id)⟩

theorem Uses.owns {p : Plan α} (uses : p.Uses fun c => ∀ id, c.Publishes id → own id) :
    p.Owns own := by
  induction p with
  | done r => trivial
  | call c next ih => exact ⟨uses.1, fun reply => (ih reply (uses.2 reply)).mono fun _ => .inl⟩

theorem Reads.owns {p : Plan α} (reads : p.Reads) : p.Owns own :=
  Uses.owns <| reads.imp fun _ reads id ends => absurd ends (Call.not_publishes_of_reads reads id)

theorem Owns.bind {p : Plan α} {f : α → Plan β} (first : p.Owns own)
    (rest : ∀ x, (f x).Owns own) : (p >>= f).Owns own := by
  change (p.bind f).Owns own
  induction p generalizing own with
  | done r =>
    cases r with
    | error e => trivial
    | ok x => exact rest x
  | call c next ih =>
    exact ⟨first.1, fun reply => ih reply (first.2 reply) fun x => (rest x).mono fun _ => .inl⟩

theorem Owns.within {p : Plan α} (owns : p.Owns own) (layer : Layer) :
    (p.within layer).Owns own := by
  induction p generalizing own with
  | done r => trivial
  | call c next ih => exact ⟨owns.1, fun reply => ih reply (owns.2 reply)⟩

end Plan

variable {own : Int → Prop} {o : Options} {d : Driver}

namespace Options

/-- What is created is owned from then on. -/
theorem owns_createExecution {β : Type} {p : Pipeline} {c : ExecutionConfig}
    {f : ExecutionRecord → Plan β} (creates : o.devMode = false)
    (rest : ∀ record : ExecutionRecord, (f record).Owns fun id => own id ∨ record.id = id) :
    (o.createExecution p c >>= f).Owns own := by
  simp only [createExecution, creates, Bool.false_eq_true, if_false]
  refine ⟨fun id ends => ends.elim, fun reply => ?_⟩
  cases reply with
  | error e => trivial
  | ok record => exact (rest record).mono fun id => Or.imp_right (congrArg some)

theorem Registers.not_publishes {c : Call} (registers : o.Registers c) (id : Int) :
    ¬ c.Publishes id := by
  cases c <;> simp_all [Registers, Call.Publishes]

theorem owns_registerRun (p : Pipeline) (name : String) (parent : Option Int) (id : Int)
    (parameters : List (String × String)) :
    (o.registerRun p name parent id parameters).Owns own :=
  Plan.Uses.owns <| uses_registerRun
    (fun _ registers id ends => absurd ends (registers.not_publishes id)) p name parent id parameters

theorem owns_runRootDag (creates : o.devMode = false) : o.runRootDag.Owns own := by
  refine Plan.Owns.within ((Plan.uses_lift _).owns.bind fun _ => ?_) _
  cases o.runtimeConfig with
  | none => trivial
  | some runtime =>
  exact (Plan.reads_perform rfl).owns.bind fun launcher => (Plan.uses_lift _).owns.bind fun query =>
    (Plan.uses_perform fun _ => False.elim).owns.bind fun pipeline =>
    owns_createExecution creates fun record => (owns_registerRun ..).bind fun _ =>
    (Plan.uses_pure _).owns

theorem owns_runDag (creates : o.devMode = false) : o.runDag.Owns own := by
  have prepares : o.prepareDag.Owns own := Plan.Uses.owns <|
    uses_prepareDag (fun _ => False.elim) fun c looks id ends =>
      absurd ends (Call.not_publishes_of_reads (Call.reads_of_readsStore looks) id)
  rw [runDag_eq]
  exact (prepares.bind fun t => owns_createExecution creates fun record =>
    (Plan.uses_pure _).owns).within _

end Options

namespace ContainerTask

variable {t : ContainerTask}

theorem owns_runPlatformOperation (creates : t.options.devMode = false) :
    t.runPlatformOperation.Owns own := by
  obtain ⟨rest, same, uses⟩ := t.runPlatformOperation_eq
  rw [same]
  exact Options.owns_createExecution creates fun record => Plan.Uses.owns <|
    uses record _ (fun _ => False.elim) fun _ _ _ => .inr

theorem owns_launch (creates : t.options.devMode = false) (looks : d.extension.Looks) :
    (t.launch d).Owns own := by
  obtain ⟨rest, same, uses⟩ := t.launch_eq looks
  rw [same]
  refine t.reads_lookup.owns.bind fun known =>
    Options.owns_createExecution creates fun record => Plan.Uses.owns ?_
  exact uses known record _
    (fun _ reads id ends => absurd ends (Call.not_publishes_of_reads reads id))
    (fun _ registers id ends => absurd ends (registers.not_publishes id)) fun _ _ _ => .inr

end ContainerTask

theorem Options.owns_runContainer (creates : o.devMode = false) (looks : d.extension.Looks) :
    (o.runContainer d).Owns own := by
  refine Plan.Owns.within ((Plan.uses_lift _).owns.bind fun _ => ?_) _
  cases o.task with
  | none => trivial
  | some task =>
  cases o.component with
  | none => trivial
  | some component =>
  cases o.container with
  | none => trivial
  | some container =>
  refine (Plan.uses_perform fun _ => False.elim).owns.bind fun pipeline =>
    (Plan.reads_perform rfl).owns.bind fun dag =>
    (TaskScope.readsStore_inputs _).reads.owns.bind fun inputs =>
    (Plan.uses_lift _).owns.bind fun condition => Plan.Owns.bind ?_ fun input => ?_
  · unfold provision
    split
    · exact (Plan.uses_perform fun _ => False.elim).owns.bind fun salt => (Plan.uses_pure _).owns
    · trivial
  · split
    · exact ContainerTask.owns_runPlatformOperation creates
    · exact ContainerTask.owns_launch creates looks

/-- An invocation ends only what it has created. -/
theorem Driver.owns_invocation {kind : DriverType} (creates : o.devMode = false)
    (looks : kind = .container → d.extension.Looks) : (d.invocation o kind).Owns own := by
  cases kind with
  | rootDag => exact Options.owns_runRootDag creates
  | dag => exact Options.owns_runDag creates
  | container => exact Options.owns_runContainer creates (looks rfl)

end TaskGraph
