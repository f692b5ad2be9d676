import TaskGraph.Proofs.Expr.Soundness

/-! Enough fuel. A step descends at most through all levels before it takes a token, so
twelve units of fuel for each token left are enough: no parse runs out of them, and more
of them change nothing. -/

namespace TaskGraph.Expr

/-- Whether some fuel is enough at a cursor for a step that descends some more steps before it takes
a token. -/
def Cursor.Enough (c : Cursor) (descent fuel : Nat) : Prop := 12 * c.rest.length + descent ≤ fuel

namespace Cursor

variable {c c' : Cursor} {t : Token} {what : String}

theorem Passes.length_eq {ts : List Token} (h : c.Passes ts c') :
    c'.rest.length + ts.length = c.rest.length := by
  rw [h.rest, List.length_append, Nat.add_comm]

theorem length_advance (h : c.peek = t) (token : t ≠ .eof) :
    c.advance.rest.length < c.rest.length := by
  have := (passes_advance h token).length_eq
  simp only [List.length_singleton] at this
  omega

theorem length_expect (h : c.expect t what = .ok c') (token : t ≠ .eof) :
    c'.rest.length < c.rest.length := by
  have := (passes_expect h token).length_eq
  simp only [List.length_singleton] at this
  omega

end Cursor

theorem Reads.length_le {s : Symbol} {x : s.Tree} {c c' : Cursor} (h : Reads s c x c') :
    c'.rest.length ≤ c.rest.length := by
  obtain ⟨ts, passed, _⟩ := h
  have := passed.length_eq
  omega

/-- Whatever starts with some token takes one, and not the end of the input. -/
theorem Reads.takes {s : Symbol} {x : s.Tree} {c c' : Cursor} (h : Reads s c x c')
    {p : Token → Bool} (leads : s.Leads = StartsWith p) :
    ∃ ts, c.Passes ts c' ∧ ts ≠ [] ∧ .eof ∉ ts := by
  obtain ⟨ts, passed, derived⟩ := h
  have start := derived.leads
  rw [leads] at start
  obtain ⟨t, rest, rfl, -⟩ := start
  exact ⟨_, passed, List.cons_ne_nil _ _, derived.eof_notMem⟩

theorem Reads.length_lt {s : Symbol} {x : s.Tree} {c c' : Cursor} (h : Reads s c x c')
    {p : Token → Bool} (leads : s.Leads = StartsWith p) : c'.rest.length < c.rest.length := by
  obtain ⟨ts, passed, full, -⟩ := h.takes leads
  have := passed.length_eq
  have := List.length_pos_iff.2 full
  omega

/-- Two parses end alike, and not for want of fuel. -/
structure Settles (x y : Except ParseError α) : Prop where
  same : x = y
  fuelled : ∀ position, x ≠ .error ⟨.exhausted, position⟩

namespace Settles

variable {x y : Except ParseError α} {f g : α → Except ParseError β}

theorem bind (first : Settles x y) (next : ∀ a, x = .ok a → Settles (f a) (g a)) :
    Settles (x >>= f) (y >>= g) := by
  obtain ⟨rfl, fuelled⟩ := first
  cases x with
  | error e => exact ⟨rfl, fun position exhausted => fuelled position (by cases exhausted; rfl)⟩
  | ok a => exact next a rfl

theorem ok (a : α) : Settles (.ok a) (.ok a) := ⟨rfl, by simp⟩

theorem fail (c : Cursor) {fault : ParseFault} (other : fault ≠ .exhausted) :
    Settles (c.fail fault : Except ParseError α) (c.fail fault) := by
  refine ⟨rfl, fun position exhausted => other ?_⟩
  cases exhausted
  rfl

theorem expect (c : Cursor) (t : Token) (what : String) :
    Settles (c.expect t what) (c.expect t what) := by
  unfold Cursor.expect
  split
  · exact .ok _
  · exact .fail c (by simp)

end Settles

/-- Steps with `n` and with `m` units of fuel do the same where `budget` units are enough. -/
structure Agree (n m budget : Nat) : Prop where
  conditional : ∀ {c}, c.Enough 10 budget →
    Settles (Parse.conditional n c) (Parse.conditional m c)
  binary : ∀ {k c}, k ≤ 6 → c.Enough (9 - k) budget →
    Settles (Parse.binary n k c) (Parse.binary m k c)
  binaryRest : ∀ {k left c}, k < 6 → c.Enough 1 budget →
    Settles (Parse.binaryRest n k left c) (Parse.binaryRest m k left c)
  unary : ∀ {c}, c.Enough 2 budget → Settles (Parse.unary n c) (Parse.unary m c)
  accesses : ∀ {object c}, c.Enough 1 budget →
    Settles (Parse.accesses n object c) (Parse.accesses m object c)
  primary : ∀ {c}, c.Enough 1 budget → Settles (Parse.primary n c) (Parse.primary m c)
  sequence : ∀ {close c}, c.Enough 11 budget →
    Settles (Parse.sequence n close c) (Parse.sequence m close c)
  mapFields : ∀ {c}, c.Enough 1 budget → Settles (Parse.mapFields n c) (Parse.mapFields m c)

namespace Agree

variable {n m budget k : Nat} {c : Cursor} {left object : Expr}

open Cursor

theorem conditional_succ (agree : Agree n m budget) (enough : c.Enough 10 (budget + 1)) :
    Settles (Parse.conditional (n + 1) c) (Parse.conditional (m + 1) c) := by
  unfold Enough at enough
  unfold Parse.conditional
  refine (agree.binary (Nat.zero_le _) (by unfold Enough; omega)).bind ?_
  rintro ⟨condition, c₁⟩ first
  have shorter := ((sound _).binary (Nat.zero_le _) first).length_lt rfl
  dsimp only
  split
  · rename_i question
    have shorter₁ := length_advance question (by simp)
    refine (agree.conditional (by unfold Enough; omega)).bind ?_
    rintro ⟨yes, c₂⟩ second
    refine (Settles.expect _ _ _).bind fun c₃ colon => ?_
    have shorter₂ := ((sound _).conditional second).length_lt rfl
    have shorter₃ := length_expect colon (by simp)
    dsimp only at shorter₃ ⊢
    exact (agree.conditional (by unfold Enough; omega)).bind fun _ _ => .ok _
  · exact .ok _

theorem binary_succ (agree : Agree n m budget) (bound : k ≤ 6)
    (enough : c.Enough (9 - k) (budget + 1)) :
    Settles (Parse.binary (n + 1) k c) (Parse.binary (m + 1) k c) := by
  unfold Enough at enough
  unfold Parse.binary
  split
  · rename_i inner
    unfold levels at inner
    refine (agree.binary (by omega) (by unfold Enough; omega)).bind ?_
    rintro ⟨left, c₁⟩ first
    have shorter := ((sound _).binary inner first).length_lt rfl
    exact agree.binaryRest inner (by unfold Enough; omega)
  · rename_i innermost
    unfold levels at innermost
    exact agree.unary (by unfold Enough; omega)

theorem binaryRest_succ (agree : Agree n m budget) (bound : k < 6)
    (enough : c.Enough 1 (budget + 1)) :
    Settles (Parse.binaryRest (n + 1) k left c) (Parse.binaryRest (m + 1) k left c) := by
  unfold Enough at enough
  unfold Parse.binaryRest
  cases found : operator? k c.peek with
  | none => exact .ok _
  | some op =>
    rw [operator?_eq_some_iff] at found
    have shorter := length_advance rfl found.ne_eof
    refine (agree.binary (by omega) (by unfold Enough; omega)).bind ?_
    rintro ⟨right, c₁⟩ first
    have shorter₁ := ((sound _).binary bound first).length_lt rfl
    exact agree.binaryRest bound (by unfold Enough; omega)

theorem unary_succ (agree : Agree n m budget) (enough : c.Enough 2 (budget + 1)) :
    Settles (Parse.unary (n + 1) c) (Parse.unary (m + 1) c) := by
  unfold Enough at enough
  unfold Parse.unary
  cases found : prefixOp? c.peek with
  | none =>
    refine (agree.primary (by unfold Enough; omega)).bind ?_
    rintro ⟨object, c₁⟩ first
    have shorter := ((sound _).primary first).length_lt rfl
    exact agree.accesses (by unfold Enough; omega)
  | some op =>
    rw [prefixOp?_eq_some_iff] at found
    have shorter := length_advance rfl found.ne_eof
    exact (agree.unary (by unfold Enough; omega)).bind fun _ _ => .ok _

theorem accesses_succ (agree : Agree n m budget) (enough : c.Enough 1 (budget + 1)) :
    Settles (Parse.accesses (n + 1) object c) (Parse.accesses (m + 1) object c) := by
  unfold Enough at enough
  unfold Parse.accesses
  split
  · rename_i dot
    have shorter := length_advance dot (by simp)
    dsimp only
    split
    · rename_i property named
      have shorter₁ := length_advance named (by simp)
      split
      · rename_i paren
        have shorter₂ := length_advance paren (by simp)
        refine (agree.sequence (by unfold Enough; omega)).bind ?_
        rintro ⟨args, c₁⟩ inside
        refine (Settles.expect _ _ _).bind fun c₂ close => ?_
        have shorter₃ := ((sound _).sequence inside).length_le
        have shorter₄ := length_expect close (by simp)
        dsimp only at shorter₄
        exact agree.accesses (by unfold Enough; omega)
      · exact agree.accesses (by unfold Enough; omega)
    · exact .fail _ (by simp)
  · rename_i bracket
    have shorter := length_advance bracket (by simp)
    refine (agree.conditional (by unfold Enough; omega)).bind ?_
    rintro ⟨subscript, c₁⟩ inside
    refine (Settles.expect _ _ _).bind fun c₂ close => ?_
    have shorter₁ := ((sound _).conditional inside).length_le
    have shorter₂ := length_expect close (by simp)
    exact agree.accesses (by unfold Enough; omega)
  · exact .ok _

theorem primary_succ (agree : Agree n m budget) (enough : c.Enough 1 (budget + 1)) :
    Settles (Parse.primary (n + 1) c) (Parse.primary (m + 1) c) := by
  unfold Enough at enough
  unfold Parse.primary
  split
  · exact .ok _
  · rename_i name _ named
    have shorter := length_advance named (by simp)
    dsimp only
    split
    · rename_i paren
      have shorter₁ := length_advance paren (by simp)
      exact (agree.sequence (by unfold Enough; omega)).bind fun _ _ =>
        (Settles.expect _ _ _).bind fun _ _ => .ok _
    · exact .ok _
  · rename_i paren
    have shorter := length_advance paren (by simp)
    exact (agree.conditional (by unfold Enough; omega)).bind fun _ _ =>
      (Settles.expect _ _ _).bind fun _ _ => .ok _
  · rename_i bracket
    have shorter := length_advance bracket (by simp)
    exact (agree.sequence (by unfold Enough; omega)).bind fun _ _ =>
      (Settles.expect _ _ _).bind fun _ _ => .ok _
  · rename_i brace
    have shorter := length_advance brace (by simp)
    exact (agree.mapFields (by unfold Enough; omega)).bind fun _ _ =>
      (Settles.expect _ _ _).bind fun _ _ => .ok _
  · exact .fail _ (by simp)

theorem sequence_succ (agree : Agree n m budget) {close : Token}
    (enough : c.Enough 11 (budget + 1)) :
    Settles (Parse.sequence (n + 1) close c) (Parse.sequence (m + 1) close c) := by
  unfold Enough at enough
  unfold Parse.sequence
  split
  · exact .ok _
  · refine (agree.conditional (by unfold Enough; omega)).bind ?_
    rintro ⟨item, c₁⟩ first
    have shorter := ((sound _).conditional first).length_lt rfl
    dsimp only
    split
    · rename_i comma
      have shorter₁ := length_advance comma (by simp)
      exact (agree.sequence (by unfold Enough; omega)).bind fun _ _ => .ok _
    · exact .ok _

theorem mapFields_succ (agree : Agree n m budget) (enough : c.Enough 1 (budget + 1)) :
    Settles (Parse.mapFields (n + 1) c) (Parse.mapFields (m + 1) c) := by
  unfold Enough at enough
  unfold Parse.mapFields
  split
  · exact .ok _
  cases found : mapKey? c.peek with
  | none => exact .fail _ (by simp)
  | some key =>
    rw [mapKey?_eq_some_iff] at found
    have shorter := length_advance rfl found.ne_eof
    refine (Settles.expect _ _ _).bind fun c₁ colon => ?_
    have shorter₁ := length_expect colon (by simp)
    refine (agree.conditional (by unfold Enough; omega)).bind ?_
    rintro ⟨value, c₂⟩ first
    have shorter₂ := ((sound _).conditional first).length_lt rfl
    dsimp only
    split
    · rename_i comma
      have shorter₃ := length_advance comma (by simp)
      exact (agree.mapFields (by unfold Enough; omega)).bind fun _ _ => .ok _
    · exact .ok _

end Agree

theorem agree {n m budget : Nat} (left : budget ≤ n) (right : budget ≤ m) : Agree n m budget := by
  induction budget generalizing n m with
  | zero =>
    constructor
    all_goals
      intros
      rename_i enough
      unfold Cursor.Enough at enough
      omega
  | succ budget ih =>
    obtain ⟨n, rfl⟩ := Nat.exists_eq_succ_of_ne_zero (Nat.ne_of_gt (Nat.zero_lt_of_lt left))
    obtain ⟨m, rfl⟩ := Nat.exists_eq_succ_of_ne_zero (Nat.ne_of_gt (Nat.zero_lt_of_lt right))
    have before := ih (Nat.le_of_succ_le_succ left) (Nat.le_of_succ_le_succ right)
    exact ⟨before.conditional_succ, before.binary_succ, before.binaryRest_succ, before.unary_succ,
      before.accesses_succ, before.primary_succ, before.sequence_succ, before.mapFields_succ⟩

variable {n m k : Nat} {c : Cursor} {left object : Expr}

theorem binaryRest_fuel (bound : k < 6) (enough : c.Enough 1 n) (enough' : c.Enough 1 m) :
    Parse.binaryRest n k left c = Parse.binaryRest m k left c :=
  ((agree enough enough').binaryRest bound (Nat.le_refl _)).same

theorem accesses_fuel (enough : c.Enough 1 n) (enough' : c.Enough 1 m) :
    Parse.accesses n object c = Parse.accesses m object c :=
  ((agree enough enough').accesses (Nat.le_refl _)).same

/-- A list of tokens is never refused for want of fuel. -/
theorem ofTokens_fuelled (tokens : List Token) (position : Nat) :
    ofTokens tokens ≠ .error ⟨.exhausted, position⟩ := by
  have enough : Cursor.Enough ⟨tokens, 0⟩ 10 (12 * (tokens.length + 2)) := by
    unfold Cursor.Enough
    dsimp only
    omega
  have step := (agree (Nat.le_refl _) (Nat.le_refl _)).conditional enough
  have whole : Settles (ofTokens tokens) (ofTokens tokens) := by
    unfold ofTokens
    dsimp only
    split
    · exact .fail _ (by simp)
    · refine step.bind ?_
      rintro ⟨e, c⟩ _
      split
      · exact .ok _
      · exact .fail _ (by simp)
  exact whole.fuelled position

end TaskGraph.Expr
