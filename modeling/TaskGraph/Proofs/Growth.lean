import TaskGraph.Proofs.History

/-! How a store grows. A call either leaves the store alone or is one operation on it, so whatever
plans run, numbers are given out in ascending order, and of an execution that is stored only its end
can still change: its state and its outputs. -/

namespace TaskGraph

/-- The calls that may change a store. -/
def Call.writes : Call → Bool
  | .pipeline _ | .create .. | .publish .. => true
  | _ => false

namespace Store

variable {s s' a b c : Store}

/-- What a call does to a store and what it is answered. -/
inductive Takes (s : Store) : (c : Call) → Result c.Reply → Store → Prop where
  | refused {c : Call} (e : Error) : Takes s c (.error e) s
  | other {c : Call} (reply : Result c.Reply) : c.writes = false → Takes s c reply s
  | pipeline (q : PipelineQuery) : Takes s (.pipeline q) (.ok (s.pipeline q).1) (s.pipeline q).2
  | create (p : Pipeline) (config : ExecutionConfig) :
      Takes s (.create p config) (.ok (s.create p config).1) (s.create p config).2
  | publish {id : Int} {parameters : Dict Json} {artifacts : List OutputArtifact}
      {state : ExecutionState} {s' : Store} : s.publish id parameters artifacts state = .ok s' →
      Takes s (.publish id parameters artifacts state) (.ok ()) s'

@[simp] theorem addOutputArtifact_lastExecution (s : Store) (id : Int) (a : OutputArtifact) :
    (s.addOutputArtifact id a).lastExecution = s.lastExecution := rfl

@[simp] theorem foldl_addOutputArtifact_lastExecution (id : Int) (artifacts : List OutputArtifact)
    (s : Store) : (artifacts.foldl (fun s a => s.addOutputArtifact id a) s).lastExecution =
      s.lastExecution := by
  induction artifacts generalizing s with
  | nil => rfl
  | cons a rest ih => exact ih _

@[simp] theorem foldl_addOutputArtifact_pipelines (id : Int) (artifacts : List OutputArtifact)
    (s : Store) : (artifacts.foldl (fun s a => s.addOutputArtifact id a) s).pipelines =
      s.pipelines := by
  induction artifacts generalizing s with
  | nil => rfl
  | cons a rest ih => exact ih _

theorem publish_lastExecution {id : Int} {parameters : Dict Json} {artifacts : List OutputArtifact}
    {state : ExecutionState} (h : s.publish id parameters artifacts state = .ok s') :
    s'.lastExecution = s.lastExecution := by
  obtain ⟨e, _, rfl⟩ := publish_ok h
  exact foldl_addOutputArtifact_lastExecution ..

theorem publish_pipelines {id : Int} {parameters : Dict Json} {artifacts : List OutputArtifact}
    {state : ExecutionState} (h : s.publish id parameters artifacts state = .ok s') :
    s'.pipelines = s.pipelines := by
  obtain ⟨e, _, rfl⟩ := publish_ok h
  exact foldl_addOutputArtifact_pipelines ..

theorem Step.bounded (step : Step s s') (bounded : s.Bounded) : s'.Bounded := by
  cases step with
  | pipeline q => simpa [Bounded] using bounded
  | insert e => exact bounded.insert rfl (Int.le_max_right _ _) (Int.le_max_left _ _)
  | create p c => exact bounded.insert rfl (Int.le_refl _) (Int.le_of_lt (Int.lt_succ _))
  | publish h =>
    obtain ⟨e, stored, executions⟩ := publish_executions h
    have last := publish_lastExecution h
    exact bounded.insert executions (last ▸ bounded _ e stored) (Int.le_of_eq last.symm)
  | setInputArtifacts id artifacts => exact bounded
  | addOutputArtifact id a => exact bounded

theorem Reachable.bounded (reachable : s.Reachable) : s.Bounded := by
  induction reachable with
  | empty => intro id e stored; simp at stored
  | step _ step ih => exact step.bounded ih

theorem Takes.reachable {c : Call} {reply : Result c.Reply} (takes : s.Takes c reply s')
    (reachable : s.Reachable) : s'.Reachable := by
  cases takes with
  | refused | other => exact reachable
  | pipeline q => exact .step reachable (.pipeline s q)
  | create p config => exact .step reachable (.create s p config)
  | publish h => exact .step reachable (.publish h)

end Store

/-- Two records of one execution, the second one perhaps after its end. -/
def ExecutionRecord.Becomes (e e' : ExecutionRecord) : Prop :=
  e' = { e with state := e'.state, outputParameters := e'.outputParameters }

theorem ExecutionRecord.Becomes.refl (e : ExecutionRecord) : e.Becomes e := rfl

theorem ExecutionRecord.Becomes.trans {e e' e'' : ExecutionRecord} (first : e.Becomes e')
    (second : e'.Becomes e'') : e.Becomes e'' := by
  unfold Becomes at *
  rw [second, first]

namespace Store

variable {s s' a b c : Store}

/-- A store that goes on from an earlier one: no number is given out twice, and each execution is
still there. -/
structure Extends (before after : Store) : Prop where
  last : before.lastExecution ≤ after.lastExecution
  keeps : ∀ id e, before.executions.get? id = some e →
    ∃ e', after.executions.get? id = some e' ∧ e.Becomes e'

namespace Extends

theorem refl (s : Store) : Extends s s :=
  ⟨Int.le_refl _, fun _ e stored => ⟨e, stored, .refl e⟩⟩

theorem trans (first : Extends a b) (second : Extends b c) : Extends a c where
  last := Int.le_trans first.last second.last
  keeps id e stored := by
    obtain ⟨e', stored', becomes⟩ := first.keeps id e stored
    obtain ⟨e'', stored'', becomes'⟩ := second.keeps id e' stored'
    exact ⟨e'', stored'', becomes.trans becomes'⟩

/-- Storing a record in the place of an earlier one of the same execution. -/
theorem insert {id : Int} {e : ExecutionRecord} (last : a.lastExecution ≤ b.lastExecution)
    (executions : b.executions = a.executions.insert id e)
    (same : ∀ e', a.executions.get? id = some e' → e'.Becomes e) : Extends a b where
  last
  keeps id' e' stored := by
    rw [executions, SortedMap.get?_insert]
    split
    · rename_i here
      exact ⟨e, rfl, same e' (here ▸ stored)⟩
    · exact ⟨e', stored, .refl e'⟩

end Extends

theorem Takes.extends {c : Call} {reply : Result c.Reply} (takes : s.Takes c reply s')
    (bounded : s.Bounded) : Extends s s' := by
  cases takes with
  | refused | other => exact .refl s
  | pipeline q => exact ⟨by simp, fun id e stored => ⟨e, by simpa using stored, .refl e⟩⟩
  | create p config =>
    refine .insert (Int.le_of_lt (Int.lt_succ _)) rfl fun e' taken => ?_
    rw [show s.executions.get? _ = none from bounded.next_free] at taken
    cases taken
  | publish h =>
    obtain ⟨e, stored, executions⟩ := publish_executions h
    refine .insert (Int.le_of_eq (publish_lastExecution h).symm) executions fun e' stored' => ?_
    rw [stored] at stored'
    rw [← Option.some.inj stored']
    rfl

end Store

variable {α : Type} {s : Services} {w : World}

theorem World.answer_takes (s : Services) (w : World) (c : Call) :
    w.store.Takes c (w.answer s c).1 (w.answer s c).2.store := by
  unfold World.answer
  split
  · exact .refused _
  cases c with
  | pipeline q => exact .pipeline q
  | create p config => exact .create p config
  | publish id parameters artifacts state =>
    simp only [World.serve]
    cases published : w.store.publish id parameters artifacts state with
    | ok store => exact .publish published
    | error e => exact .refused e
  | registerRun own request => cases own <;> exact .other _ rfl
  | logParameter own parameter => cases own <;> exact .other _ rfl
  | _ => exact .other _ rfl

theorem Plan.run_reachable (p : Plan α) (reachable : w.store.Reachable) :
    (p.run s w).2.store.Reachable :=
  p.uses_true.run_keeps (P := fun v => v.store.Reachable)
    (fun c v _ reachable => (World.answer_takes s v c).reachable reachable) reachable

theorem Plan.reachable_of_run {p : Plan α} {r : Result α} {w' : World}
    (h : p.run s w = (r, w')) (reachable : w.store.Reachable) : w'.store.Reachable := by
  have run := p.run_reachable (s := s) reachable
  rwa [h] at run

theorem Plan.run_extends (p : Plan α) (reachable : w.store.Reachable) :
    Store.Extends w.store (p.run s w).2.store := by
  have run := p.uses_true.run_keeps (s := s)
    (P := fun v => v.store.Reachable ∧ Store.Extends w.store v.store)
    (fun c v _ ⟨reachable, goesOn⟩ => by
      have takes := World.answer_takes s v c
      exact ⟨takes.reachable reachable, goesOn.trans (takes.extends reachable.bounded)⟩)
    ⟨reachable, .refl _⟩
  exact run.2

end TaskGraph
