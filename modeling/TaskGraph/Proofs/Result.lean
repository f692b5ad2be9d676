import TaskGraph.Error

/-! Results of steps: a sequence of steps succeeds exactly if each step does. -/

namespace TaskGraph

variable {ε α β : Type}

@[simp] theorem Result.within_ok (layer : Layer) (x : α) :
    Result.within layer (.ok x) = .ok x := rfl

@[simp] theorem Result.within_error (layer : Layer) (e : Error) :
    Result.within layer (.error e : Result α) = .error (e.within layer) := rfl

theorem bind_eq_ok_iff {r : Except ε α} {f : α → Except ε β} {y : β} :
    r >>= f = .ok y ↔ ∃ x, r = .ok x ∧ f x = .ok y := by
  cases r with
  | error e => simp [bind, Except.bind]
  | ok x => simp [bind, Except.bind]

theorem bind_eq_error_iff {r : Except ε α} {f : α → Except ε β} {e : ε} :
    r >>= f = .error e ↔ r = .error e ∨ ∃ x, r = .ok x ∧ f x = .error e := by
  cases r with
  | error e' => simp [bind, Except.bind]
  | ok x => simp [bind, Except.bind]

/-- Where a list is mapped without a fault, its members and their results belong together. -/
theorem mapM_ok {f : α → Except ε β} {xs : List α} {ys : List β} (h : xs.mapM f = .ok ys) :
    (∀ y ∈ ys, ∃ x ∈ xs, f x = .ok y) ∧ ∀ x ∈ xs, ∃ y ∈ ys, f x = .ok y := by
  induction xs generalizing ys with
  | nil =>
    obtain ⟨⟩ := h
    simp
  | cons x rest ih =>
    rw [List.mapM_cons] at h
    obtain ⟨y, first, h⟩ := bind_eq_ok_iff.1 h
    obtain ⟨others, mapped, ⟨⟩⟩ := bind_eq_ok_iff.1 h
    obtain ⟨back, forth⟩ := ih mapped
    constructor
    · rintro z (_ | ⟨_, member⟩)
      · exact ⟨x, List.mem_cons_self, first⟩
      · obtain ⟨x', member, same⟩ := back z member
        exact ⟨x', List.mem_cons_of_mem _ member, same⟩
    · rintro z (_ | ⟨_, member⟩)
      · exact ⟨y, List.mem_cons_self, first⟩
      · obtain ⟨y', member, same⟩ := forth z member
        exact ⟨y', List.mem_cons_of_mem _ member, same⟩

/-- Where a list is mapped with a fault, it is the fault of one of its members. -/
theorem mapM_error {f : α → Except ε β} {xs : List α} {e : ε} (h : xs.mapM f = .error e) :
    ∃ x ∈ xs, f x = .error e := by
  induction xs with
  | nil => cases h
  | cons x rest ih =>
    rw [List.mapM_cons] at h
    cases first : f x with
    | error e' =>
      rw [first] at h
      obtain ⟨⟩ := h
      exact ⟨x, List.mem_cons_self, first⟩
    | ok y =>
      rw [first] at h
      cases others : rest.mapM f with
      | error e' =>
        rw [others] at h
        obtain ⟨⟩ := h
        obtain ⟨x', member, failed⟩ := ih others
        exact ⟨x', List.mem_cons_of_mem _ member, failed⟩
      | ok ys =>
        rw [others] at h
        cases h

theorem ok_bind {x : α} {f : α → Except ε β} : (Except.ok x >>= f) = f x := rfl

theorem toOption_eq_some_iff {r : Except ε α} {x : α} : r.toOption = some x ↔ r = .ok x := by
  cases r <;> simp [Except.toOption]

theorem toOption_bind {r : Except ε α} {f : α → Except ε β} :
    (r >>= f).toOption = r.toOption.bind fun x => (f x).toOption := by
  cases r <;> rfl

theorem foldlM_toOption (f : β → α → Except ε β) (xs : List α) (start : Option β) :
    (start.bind fun b => (xs.foldlM f b).toOption) =
      xs.foldl (fun b x => b.bind fun b => (f b x).toOption) start := by
  induction xs generalizing start with
  | nil => cases start <;> rfl
  | cons x rest ih =>
    rw [List.foldl_cons, ← ih]
    cases start with
    | none => rfl
    | some b => simp only [Option.bind_some, List.foldlM_cons, toOption_bind]

/-- Steps whose order does not matter two by two may be taken in any order. -/
theorem foldlM_toOption_of_perm {f : β → α → Except ε β} {xs ys : List α} (perm : xs.Perm ys)
    (commute : ∀ x ∈ xs, ∀ y ∈ xs, ∀ b,
      (f b x >>= (f · y)).toOption = (f b y >>= (f · x)).toOption) (b : β) :
    (xs.foldlM f b).toOption = (ys.foldlM f b).toOption := by
  have left := foldlM_toOption f xs (some b)
  have right := foldlM_toOption f ys (some b)
  rw [Option.bind_some] at left right
  rw [left, right]
  refine perm.foldl_eq' (fun x hx y hy start => ?_) (some b)
  cases start with
  | none => rfl
  | some b => simpa only [toOption_bind, Option.bind_some] using commute x hx y hy b

namespace Result

theorem within_eq_ok_iff {layer : Layer} {r : Result α} {x : α} :
    within layer r = .ok x ↔ r = .ok x := by
  cases r with
  | error e => simp
  | ok y => simp

@[simp] theorem fail_ne_ok (fault : Fault) (x : α) : (fail fault : Result α) ≠ .ok x := by
  simp [fail]

@[simp] theorem pure_eq_ok_iff {x y : α} : (pure x : Result α) = .ok y ↔ x = y := by
  simp [pure, Except.pure]

end Result

end TaskGraph
