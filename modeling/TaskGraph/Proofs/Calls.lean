import TaskGraph.Proofs.Plan

/-! The calls of a plan. What each of its calls keeps, a run of the plan keeps; a plan
that only looks at the services leaves the world as it is. -/

namespace TaskGraph

/-- The calls that change nothing. -/
def Call.reads : Call → Bool
  | .dag _ | .tasks .. | .inputArtifacts _ | .outputArtifacts _ | .execution _ | .launcher
  | .cached _ => true
  | _ => false

/-- The calls that look into the store, and nowhere else. -/
def Call.readsStore : Call → Bool
  | .dag _ | .tasks .. | .inputArtifacts _ | .outputArtifacts _ | .execution _ => true
  | _ => false

theorem Call.reads_of_readsStore {c : Call} (looks : c.readsStore = true) : c.reads = true := by
  cases c <;> first | rfl | simp [Call.readsStore] at looks

namespace World

variable {s : Services} {w : World} {c : Call}

theorem answer_of_reads (reads : c.reads = true) : (w.answer s c).2 = w := by
  unfold answer
  split
  · rfl
  · cases c <;> first | rfl | simp [Call.reads] at reads

end World

namespace Plan

variable {α β : Type} {s : Services} {allowed : Call → Prop}

theorem bind_pure_self (p : Plan α) : p.bind (fun x => .done (.ok x)) = p := by
  induction p with
  | done r => cases r <;> rfl
  | call c next ih => exact congrArg (Plan.call c) (funext fun reply => ih reply)

theorem bind_assoc' {γ : Type} (p : Plan α) (f : α → Plan β) (g : β → Plan γ) :
    (p.bind f).bind g = p.bind fun x => (f x).bind g := by
  induction p with
  | done r => cases r <;> rfl
  | call c next ih => exact congrArg (Plan.call c) (funext fun reply => ih reply)

instance : LawfulMonad Plan := .mk' _ bind_pure_self (fun _ _ => rfl) bind_assoc'

/-- Every call that a plan may make, whatever the answers, is one of those allowed. -/
def Uses (allowed : Call → Prop) : Plan α → Prop
  | .done _ => True
  | .call c next => allowed c ∧ ∀ reply, (next reply).Uses allowed

/-- A plan that only looks. -/
abbrev Reads (p : Plan α) : Prop := p.Uses (·.reads = true)

/-- A plan that only looks, and only into the store. -/
abbrev ReadsStore (p : Plan α) : Prop := p.Uses (·.readsStore = true)

theorem uses_true (p : Plan α) : p.Uses fun _ => True := by
  induction p with
  | done r => trivial
  | call c next ih => exact ⟨trivial, ih⟩

/-- What every allowed call keeps, a run keeps. -/
theorem Uses.run_keeps {P : World → Prop} {p : Plan α} (uses : p.Uses allowed)
    (keeps : ∀ c w, allowed c → P w → P (w.answer s c).2) {w : World} (start : P w) :
    P (p.run s w).2 := by
  induction p generalizing w with
  | done r => exact start
  | call c next ih => exact ih _ (uses.2 _) (keeps c w uses.1 start)

theorem Reads.run {p : Plan α} (reads : p.Reads) (w : World) : (p.run s w).2 = w :=
  Uses.run_keeps (P := (· = w)) reads
    (fun _ _ looks same => same ▸ World.answer_of_reads looks) rfl

theorem Reads.world_eq {p : Plan α} (reads : p.Reads) {w w' : World} {r : Result α}
    (h : p.run s w = (r, w')) : w' = w := by
  rw [← reads.run w, h]

theorem Uses.imp {allowed' : Call → Prop} {p : Plan α} (uses : p.Uses allowed)
    (more : ∀ c, allowed c → allowed' c) : p.Uses allowed' := by
  induction p with
  | done r => trivial
  | call c next ih => exact ⟨more c uses.1, fun reply => ih reply (uses.2 reply)⟩

theorem ReadsStore.reads {p : Plan α} (looks : p.ReadsStore) : p.Reads :=
  looks.imp fun _ => Call.reads_of_readsStore

theorem uses_done (r : Result α) : (Plan.done r).Uses allowed := trivial

@[simp] theorem uses_pure (x : α) : (pure x : Plan α).Uses allowed := trivial

@[simp] theorem uses_lift (r : Result α) : (liftM r : Plan α).Uses allowed := trivial

@[simp] theorem uses_fail (fault : Fault) : (Plan.fail fault : Plan α).Uses allowed := trivial

theorem uses_perform {c : Call} (h : allowed c) : (Plan.perform c).Uses allowed :=
  ⟨h, fun _ => trivial⟩

theorem reads_perform {c : Call} (h : c.reads = true) : (Plan.perform c).Reads := uses_perform h

theorem readsStore_perform {c : Call} (h : c.readsStore = true) : (Plan.perform c).ReadsStore :=
  uses_perform h

theorem Uses.bind {p : Plan α} {f : α → Plan β} (first : p.Uses allowed)
    (rest : ∀ x, (f x).Uses allowed) : (p >>= f).Uses allowed := by
  change (p.bind f).Uses allowed
  induction p with
  | done r =>
    cases r with
    | error e => trivial
    | ok x => exact rest x
  | call c next ih => exact ⟨first.1, fun reply => ih reply (first.2 reply)⟩

theorem Uses.within {p : Plan α} (uses : p.Uses allowed) (layer : Layer) :
    (p.within layer).Uses allowed := by
  induction p with
  | done r => trivial
  | call c next ih => exact ⟨uses.1, fun reply => ih reply (uses.2 reply)⟩

theorem Uses.attempt {p : Plan α} (uses : p.Uses allowed) : p.attempt.Uses allowed := by
  induction p with
  | done r => trivial
  | call c next ih => exact ⟨uses.1, fun reply => ih reply (uses.2 reply)⟩

theorem uses_foldlM {f : β → α → Plan β} (each : ∀ y x, (f y x).Uses allowed) (xs : List α)
    (start : β) : (xs.foldlM f start).Uses allowed := by
  induction xs generalizing start with
  | nil => trivial
  | cons x rest ih =>
    rw [List.foldlM_cons]
    exact (each start x).bind ih

theorem uses_mapM {f : α → Plan β} (each : ∀ x, (f x).Uses allowed) (xs : List α) :
    (xs.mapM f).Uses allowed := by
  induction xs with
  | nil => trivial
  | cons x rest ih =>
    rw [List.mapM_cons]
    exact (each x).bind fun _ => ih.bind fun _ => uses_pure _

theorem uses_filterMapM {f : α → Plan (Option β)} (each : ∀ x, (f x).Uses allowed)
    (xs : List α) : (xs.filterMapM f).Uses allowed := by
  induction xs with
  | nil => trivial
  | cons x rest ih =>
    rw [List.filterMapM_cons]
    refine (each x).bind fun found => ?_
    cases found with
    | none => exact ih
    | some y => exact ih.bind fun _ => uses_pure _

/-- The calls that a run makes, in their order. -/
def calls (s : Services) : Plan α → World → List Call
  | .done _, _ => []
  | .call c next, w =>
    let (reply, w) := w.answer s c
    c :: (next reply).calls s w

@[simp] theorem calls_pure (x : α) (w : World) : (pure x : Plan α).calls s w = [] := rfl

theorem calls_perform (c : Call) (w : World) : (Plan.perform c).calls s w = [c] := rfl

theorem calls_bind (p : Plan α) (f : α → Plan β) (w : World) :
    (p >>= f).calls s w = p.calls s w ++ match p.run s w with
      | (.ok x, v) => (f x).calls s v
      | (.error _, _) => [] := by
  change (p.bind f).calls s w = _
  induction p generalizing w with
  | done r => cases r <;> rfl
  | call c next ih => exact congrArg (c :: ·) (ih _ _)

end Plan

end TaskGraph
