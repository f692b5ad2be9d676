import TaskGraph.Proofs.Result
import TaskGraph.World

/-! Running plans. A plan that succeeds has succeeded at each of its steps, and
each call was answered by the service it was for. -/

namespace TaskGraph.Plan

variable {α β : Type} {s : Services} {w w' : World}

@[simp] theorem run_pure (x : α) : (pure x : Plan α).run s w = (.ok x, w) := rfl

@[simp] theorem run_fail (fault : Fault) :
    (Plan.fail fault : Plan α).run s w = (.fail fault, w) := rfl

@[simp] theorem run_lift (r : Result α) : (liftM r : Plan α).run s w = (r, w) := rfl

theorem run_bind (p : Plan α) (f : α → Plan β) (w : World) :
    (p >>= f).run s w = match p.run s w with
      | (.ok x, v) => (f x).run s v
      | (.error e, v) => (.error e, v) := by
  change (p.bind f).run s w = _
  induction p generalizing w with
  | done r => cases r <;> rfl
  | call c next ih => exact ih _ _

theorem run_bind_ok_iff {p : Plan α} {f : α → Plan β} {y : β} :
    (p >>= f).run s w = (.ok y, w') ↔
      ∃ x v, p.run s w = (.ok x, v) ∧ (f x).run s v = (.ok y, w') := by
  rw [run_bind]
  rcases p.run s w with ⟨_ | x, v⟩
  · simp
  · constructor
    · exact fun h => ⟨x, v, rfl, h⟩
    · rintro ⟨_, _, ⟨⟩, h⟩
      exact h

/-- A plan that fails has failed at one of its steps, after the earlier ones had succeeded. -/
theorem run_bind_error_iff {p : Plan α} {f : α → Plan β} {e : Error} :
    (p >>= f).run s w = (.error e, w') ↔ p.run s w = (.error e, w') ∨
      ∃ x v, p.run s w = (.ok x, v) ∧ (f x).run s v = (.error e, w') := by
  rw [run_bind]
  rcases p.run s w with ⟨e' | x, v⟩
  · simp
  · constructor
    · exact fun h => .inr ⟨x, v, rfl, h⟩
    · rintro (h | ⟨_, _, ⟨⟩, h⟩)
      · cases h
      · exact h

theorem run_within (layer : Layer) (p : Plan α) (w : World) :
    (p.within layer).run s w = ((p.run s w).1.within layer, (p.run s w).2) := by
  induction p generalizing w with
  | done r => rfl
  | call c next ih => exact ih _ _

@[simp] theorem run_within_ok_iff {layer : Layer} {p : Plan α} {x : α} :
    (p.within layer).run s w = (.ok x, w') ↔ p.run s w = (.ok x, w') := by
  rw [run_within]
  rcases p.run s w with ⟨_ | y, v⟩ <;> simp 

theorem run_within_error {layer : Layer} {p : Plan α} {e : Error}
    (h : (p.within layer).run s w = (.error e, w')) : ∃ cause, p.run s w = (.error cause, w') := by
  rw [run_within] at h
  obtain ⟨failed, rfl⟩ := Prod.mk.inj h
  rcases ran : p.run s w with ⟨cause | y, v⟩
  · exact ⟨cause, rfl⟩
  · rw [ran] at failed
    cases failed

/-- A run with a known part of its outcome has succeeded. -/
theorem run_of_map {p : Plan α} {f : α → β} {y : β} (h : (p.run s w).1.toOption.map f = some y) :
    ∃ x w', p.run s w = (.ok x, w') ∧ f x = y := by
  generalize p.run s w = ran at h ⊢
  obtain ⟨_ | x, w'⟩ := ran
  · cases h
  · exact ⟨x, w', rfl, Option.some.inj h⟩

/-- The outcome of a plan is handed on, and the plan has run. -/
theorem run_attempt (p : Plan α) (w : World) :
    p.attempt.run s w = (.ok (p.run s w).1, (p.run s w).2) := by
  induction p generalizing w with
  | done r => rfl
  | call c next ih => exact ih _ _

/-- A call that succeeds met no fault of its service. -/
theorem answer_ok {c : Call} {x : c.Reply} (h : w.answer s c = (.ok x, w')) :
    w.serve s c = (.ok x, w') := by
  unfold World.answer at h
  split at h
  · simp [Result.fail] at h
  · exact h

theorem perform_ok {c : Call} {x : c.Reply} (h : (Plan.perform c).run s w = (.ok x, w')) :
    w.serve s c = (.ok x, w') := answer_ok h

theorem pipeline_answered {q : PipelineQuery} {p : Pipeline}
    (h : (Plan.perform (.pipeline q)).run s w = (.ok p, w')) :
    s.storeFault .getPipeline = none ∧ p = (w.store.pipeline q).1 ∧
      w' = { w with store := (w.store.pipeline q).2 } := by
  simp only [perform, run, World.answer, Services.fault?, Call.operation?, Option.bind_some] at h
  cases fault : s.storeFault .getPipeline with
  | some _ => simp [fault, Result.fail] at h
  | none =>
    simp only [fault, World.serve, Prod.mk.injEq, Except.ok.injEq] at h
    exact ⟨rfl, h.1.symm, h.2.symm⟩

theorem dag_answered {id : Int} {e : ExecutionRecord}
    (h : (Plan.perform (.dag id)).run s w = (.ok e, w')) : w.store.dag id = .ok e ∧ w' = w := by
  have served := answer_ok h
  simp only [World.serve, Prod.mk.injEq] at served
  exact ⟨served.1, served.2.symm⟩

theorem tasks_answered {runId : String} {parent : Option Int} {tasks : Dict ExecutionRecord}
    (h : (Plan.perform (.tasks runId parent)).run s w = (.ok tasks, w')) :
    w.store.tasks runId parent = .ok tasks ∧ w' = w := by
  have served := answer_ok h
  simp only [World.serve, Prod.mk.injEq] at served
  exact ⟨served.1, served.2.symm⟩

theorem outputArtifacts_answered {id : Int} {artifacts : Dict OutputArtifact}
    (h : (Plan.perform (.outputArtifacts id)).run s w = (.ok artifacts, w')) :
    artifacts = w.store.outputArtifactsOf id ∧ w' = w := by
  have served := answer_ok h
  simp only [World.serve, Prod.mk.injEq, Except.ok.injEq] at served
  exact ⟨served.1.symm, served.2.symm⟩

theorem create_answered {p : Pipeline} {c : ExecutionConfig} {e : ExecutionRecord}
    (h : (Plan.perform (.create p c)).run s w = (.ok e, w')) :
    e = (w.store.create p c).1 ∧ w' = { w with store := (w.store.create p c).2 } := by
  have served := answer_ok h
  simp only [World.serve, Prod.mk.injEq, Except.ok.injEq] at served
  exact ⟨served.1.symm, served.2.symm⟩

theorem execution_answered {id : Int} {e : ExecutionRecord}
    (h : (Plan.perform (.execution id)).run s w = (.ok e, w')) :
    w.store.execution id = .ok e ∧ w' = w := by
  have served := answer_ok h
  simp only [World.serve, Prod.mk.injEq] at served
  exact ⟨served.1, served.2.symm⟩

theorem platform_run (image : String) (o : Options) (input : ExecutorInput) (w : World) :
    (Plan.perform (.platform image o input)).run s w = (s.platform image o input, w) := rfl

theorem publish_answered {id : Int} {parameters : Dict Json} {artifacts : List OutputArtifact}
    {state : ExecutionState}
    (h : (Plan.perform (.publish id parameters artifacts state)).run s w = (.ok (), w')) :
    ∃ store, w.store.publish id parameters artifacts state = .ok store ∧
      w' = { w with store } := by
  have served := answer_ok h
  simp only [World.serve] at served
  cases published : w.store.publish id parameters artifacts state with
  | error e => simp [published] at served
  | ok store =>
    simp only [published, Prod.mk.injEq, true_and] at served
    exact ⟨store, rfl, served.symm⟩

end TaskGraph.Plan
