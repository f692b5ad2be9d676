import TaskGraph.Proofs.Expr.Grammar
import TaskGraph.Proofs.Result

/-! Soundness of the parser: the tokens that a successful step has taken derive the
tree that it returns. The loops keep this for what stands before the cursor. -/

namespace TaskGraph.Expr

namespace Cursor

/-- The tokens between two cursors. -/
structure Passes (c : Cursor) (ts : List Token) (c' : Cursor) : Prop where
  rest : c.rest = ts ++ c'.rest
  position : c'.position = c.position + ts.length

variable {c c' c'' : Cursor} {ts us : List Token} {t : Token}

theorem Passes.refl (c : Cursor) : c.Passes [] c := ⟨rfl, rfl⟩

theorem Passes.trans (first : c.Passes ts c') (second : c'.Passes us c'') :
    c.Passes (ts ++ us) c'' := by
  refine ⟨?_, ?_⟩
  · rw [first.rest, second.rest, List.append_assoc]
  · rw [second.position, first.position, List.length_append, Nat.add_assoc]

theorem passes_advance (h : c.peek = t) (token : t ≠ .eof) : c.Passes [t] c.advance := by
  obtain ⟨rest, position⟩ := c
  cases rest with
  | nil => exact absurd h.symm token
  | cons t' rest =>
    obtain rfl : t' = t := h
    exact ⟨rfl, rfl⟩

theorem expect_eq_ok_iff {what : String} :
    c.expect t what = .ok c' ↔ c.peek = t ∧ c.advance = c' := by
  unfold expect
  split
  · simp_all
  · simp_all [fail]

theorem passes_expect {what : String} (h : c.expect t what = .ok c') (token : t ≠ .eof) :
    c.Passes [t] c' := by
  obtain ⟨here, rfl⟩ := expect_eq_ok_iff.1 h
  exact passes_advance here token

/-- What stands between two tokens, and these tokens. -/
theorem passes_between {opening close : Token} {what : String} (here : c.peek = opening)
    (inner : c.advance.Passes ts c') (last : c'.expect close what = .ok c'')
    (start : opening ≠ .eof) (stop : close ≠ .eof) : c.Passes (opening :: ts ++ [close]) c'' :=
  ((passes_advance here start).trans inner).trans (passes_expect last stop)

@[simp] theorem fail_ne_ok {α : Type} (c : Cursor) (fault : ParseFault) (x : α) :
    c.fail fault ≠ .ok x := by
  simp [fail]

end Cursor

/-- A symbol was read between two cursors. -/
def Reads (s : Symbol) (c : Cursor) (x : s.Tree) (c' : Cursor) : Prop :=
  ∃ ts, c.Passes ts c' ∧ Derives s ts x

/-- What steps with some fuel have read if they succeed. -/
structure Sound (fuel : Nat) : Prop where
  conditional : ∀ {c e c'}, Parse.conditional fuel c = .ok (e, c') → Reads .conditional c e c'
  binary : ∀ {k c e c'}, k ≤ operators.length → Parse.binary fuel k c = .ok (e, c') →
    Reads (.level k) c e c'
  binaryRest : ∀ {k left us c e c'}, k < operators.length → Derives (.level k) us left →
    Parse.binaryRest fuel k left c = .ok (e, c') →
    ∃ ts, c.Passes ts c' ∧ Derives (.level k) (us ++ ts) e
  unary : ∀ {c e c'}, Parse.unary fuel c = .ok (e, c') → Reads .unary c e c'
  accesses : ∀ {object us c e c'}, Derives .accessed us object →
    Parse.accesses fuel object c = .ok (e, c') →
    ∃ ts, c.Passes ts c' ∧ Derives .accessed (us ++ ts) e
  primary : ∀ {c e c'}, Parse.primary fuel c = .ok (e, c') → Reads .primary c e c'
  sequence : ∀ {close c es c'}, Parse.sequence fuel close c = .ok (es, c') →
    Reads .sequence c es c'
  mapFields : ∀ {c fields c'}, Parse.mapFields fuel c = .ok (fields, c') →
    Reads .fields c fields c'

namespace Sound

variable {fuel k : Nat} {c c' : Cursor} {e left object : Expr} {us : List Token}

theorem conditional_succ (sound : Sound fuel)
    (h : Parse.conditional (fuel + 1) c = .ok (e, c')) : Reads .conditional c e c' := by
  simp only [Parse.conditional, bind_eq_ok_iff, Prod.exists] at h
  obtain ⟨condition, c₁, first, h⟩ := h
  obtain ⟨ts, passed, derived⟩ := sound.binary (Nat.zero_le _) first
  split at h
  · rename_i question
    simp only [bind_eq_ok_iff, Prod.exists] at h
    obtain ⟨yes, c₂, second, c₃, colon, no, c₄, third, done⟩ := h
    obtain ⟨us, passed₂, derived₂⟩ := sound.conditional second
    obtain ⟨vs, passed₃, derived₃⟩ := sound.conditional third
    cases done
    refine ⟨_, ?_, .ternary derived derived₂ derived₃⟩
    have mark := Cursor.passes_advance question nofun
    have mark₂ := Cursor.passes_expect colon nofun
    simpa using ((((passed.trans mark).trans passed₂).trans mark₂).trans passed₃)
  · cases h
    exact ⟨ts, passed, .plain derived⟩

theorem binary_succ (sound : Sound fuel) (bound : k ≤ operators.length)
    (h : Parse.binary (fuel + 1) k c = .ok (e, c')) : Reads (.level k) c e c' := by
  unfold Parse.binary at h
  split at h
  · rename_i inner
    simp only [bind_eq_ok_iff, Prod.exists] at h
    obtain ⟨left, c₁, first, others⟩ := h
    obtain ⟨ts, passed, derived⟩ := sound.binary inner first
    obtain ⟨us, passed₂, derived₂⟩ := sound.binaryRest inner (.tighter inner derived) others
    exact ⟨_, passed.trans passed₂, derived₂⟩
  · rename_i innermost
    obtain rfl : k = operators.length := Nat.le_antisymm bound (Nat.le_of_not_lt innermost)
    obtain ⟨ts, passed, derived⟩ := sound.unary h
    exact ⟨ts, passed, .operand derived⟩

theorem binaryRest_succ (sound : Sound fuel) (bound : k < operators.length)
    (derived : Derives (.level k) us left)
    (h : Parse.binaryRest (fuel + 1) k left c = .ok (e, c')) :
    ∃ ts, c.Passes ts c' ∧ Derives (.level k) (us ++ ts) e := by
  unfold Parse.binaryRest at h
  split at h
  · cases h
    exact ⟨[], .refl c, by simpa using derived⟩
  · rename_i op found
    simp only [bind_eq_ok_iff, Prod.exists] at h
    obtain ⟨right, c₁, first, others⟩ := h
    rw [operator?_eq_some_iff] at found
    obtain ⟨vs, passed, derived₂⟩ := sound.binary bound first
    obtain ⟨ws, passed₂, derived₃⟩ := sound.binaryRest bound (derived.binary found derived₂) others
    refine ⟨_, ((Cursor.passes_advance rfl found.ne_eof).trans passed).trans passed₂, ?_⟩
    simpa using derived₃

theorem unary_succ (sound : Sound fuel) (h : Parse.unary (fuel + 1) c = .ok (e, c')) :
    Reads .unary c e c' := by
  unfold Parse.unary at h
  split at h
  · simp only [bind_eq_ok_iff, Prod.exists] at h
    obtain ⟨object, c₁, first, others⟩ := h
    obtain ⟨ts, passed, derived⟩ := sound.primary first
    obtain ⟨us, passed₂, derived₂⟩ := sound.accesses (.object derived) others
    exact ⟨_, passed.trans passed₂, .unprefixed derived₂⟩
  · rename_i op found
    simp only [bind_eq_ok_iff, Prod.exists] at h
    obtain ⟨operand, c₁, first, done⟩ := h
    rw [prefixOp?_eq_some_iff] at found
    obtain ⟨ts, passed, derived⟩ := sound.unary first
    cases done
    exact ⟨_, (Cursor.passes_advance rfl found.ne_eof).trans passed, .unary found derived⟩

theorem accesses_succ (sound : Sound fuel) (derived : Derives .accessed us object)
    (h : Parse.accesses (fuel + 1) object c = .ok (e, c')) :
    ∃ ts, c.Passes ts c' ∧ Derives .accessed (us ++ ts) e := by
  unfold Parse.accesses at h
  split at h
  · rename_i dot
    have mark := Cursor.passes_advance dot nofun
    dsimp only at h
    split at h
    · rename_i property named
      have mark₂ := mark.trans (Cursor.passes_advance named nofun)
      split at h
      · rename_i paren
        simp only [bind_eq_ok_iff, Prod.exists] at h
        obtain ⟨args, c₁, inside, c₂, close, others⟩ := h
        obtain ⟨vs, passed, derived₂⟩ := sound.sequence inside
        obtain ⟨ws, passed₂, derived₃⟩ := sound.accesses (derived.method derived₂) others
        have mark₃ := mark₂.trans (Cursor.passes_between paren passed close nofun nofun)
        refine ⟨_, mark₃.trans passed₂, ?_⟩
        simpa using derived₃
      · obtain ⟨ws, passed₂, derived₂⟩ := sound.accesses derived.member h
        refine ⟨_, mark₂.trans passed₂, ?_⟩
        simpa using derived₂
    · simp at h
  · rename_i bracket
    simp only [bind_eq_ok_iff, Prod.exists] at h
    obtain ⟨subscript, c₁, inside, c₂, close, others⟩ := h
    obtain ⟨vs, passed, derived₂⟩ := sound.conditional inside
    obtain ⟨ws, passed₂, derived₃⟩ := sound.accesses (derived.index derived₂) others
    refine ⟨_, (Cursor.passes_between bracket passed close nofun nofun).trans passed₂, ?_⟩
    simpa using derived₃
  · cases h
    exact ⟨[], .refl c, by simpa using derived⟩

theorem primary_succ (sound : Sound fuel) (h : Parse.primary (fuel + 1) c = .ok (e, c')) :
    Reads .primary c e c' := by
  unfold Parse.primary at h
  split at h
  · rename_i found
    cases h
    rw [literal?_eq_some_iff] at found
    exact ⟨_, Cursor.passes_advance rfl found.ne_eof, .literal found⟩
  · rename_i name _ named
    have mark := Cursor.passes_advance named nofun
    dsimp only at h
    split at h
    · rename_i paren
      simp only [bind_eq_ok_iff, Prod.exists] at h
      obtain ⟨args, c₁, inside, c₂, close, done⟩ := h
      obtain ⟨ts, passed, derived⟩ := sound.sequence inside
      cases done
      exact ⟨_, mark.trans (Cursor.passes_between paren passed close nofun nofun), .call derived⟩
    · cases h
      exact ⟨_, mark, .ident⟩
  · rename_i paren
    simp only [bind_eq_ok_iff, Prod.exists] at h
    obtain ⟨inner, c₁, inside, c₂, close, done⟩ := h
    obtain ⟨ts, passed, derived⟩ := sound.conditional inside
    cases done
    exact ⟨_, Cursor.passes_between paren passed close nofun nofun, .group derived⟩
  · rename_i bracket
    simp only [bind_eq_ok_iff, Prod.exists] at h
    obtain ⟨items, c₁, inside, c₂, close, done⟩ := h
    obtain ⟨ts, passed, derived⟩ := sound.sequence inside
    cases done
    exact ⟨_, Cursor.passes_between bracket passed close nofun nofun, .list derived⟩
  · rename_i brace
    simp only [bind_eq_ok_iff, Prod.exists] at h
    obtain ⟨fields, c₁, inside, c₂, close, done⟩ := h
    obtain ⟨ts, passed, derived⟩ := sound.mapFields inside
    cases done
    exact ⟨_, Cursor.passes_between brace passed close nofun nofun, .map derived⟩
  · simp at h

theorem sequence_succ (sound : Sound fuel) {close : Token} {es : List Expr}
    (h : Parse.sequence (fuel + 1) close c = .ok (es, c')) : Reads .sequence c es c' := by
  unfold Parse.sequence at h
  split at h
  · cases h
    exact ⟨[], .refl c, .none⟩
  · simp only [bind_eq_ok_iff, Prod.exists] at h
    obtain ⟨item, c₁, first, h⟩ := h
    obtain ⟨ts, passed, derived⟩ := sound.conditional first
    split at h
    · rename_i comma
      simp only [bind_eq_ok_iff, Prod.exists] at h
      obtain ⟨items, c₂, others, done⟩ := h
      obtain ⟨us, passed₂, derived₂⟩ := sound.sequence others
      cases done
      refine ⟨_, ?_, derived.cons derived₂⟩
      simpa using (passed.trans (Cursor.passes_advance comma nofun)).trans passed₂
    · cases h
      exact ⟨ts, passed, .all (.item derived)⟩

theorem mapFields_succ (sound : Sound fuel) {fields : List (String × Expr)}
    (h : Parse.mapFields (fuel + 1) c = .ok (fields, c')) : Reads .fields c fields c' := by
  unfold Parse.mapFields at h
  split at h
  · cases h
    exact ⟨[], .refl c, .noFields⟩
  split at h
  · simp at h
  · rename_i key found
    rw [mapKey?_eq_some_iff] at found
    simp only [bind_eq_ok_iff, Prod.exists] at h
    obtain ⟨c₁, colon, value, c₂, first, h⟩ := h
    have mark := (Cursor.passes_advance rfl found.ne_eof).trans
      (Cursor.passes_expect colon nofun)
    obtain ⟨ts, passed, derived⟩ := sound.conditional first
    split at h
    · rename_i comma
      simp only [bind_eq_ok_iff, Prod.exists] at h
      obtain ⟨fields, c₃, others, done⟩ := h
      obtain ⟨us, passed₂, derived₂⟩ := sound.mapFields others
      cases done
      refine ⟨_, ?_, .consField found derived derived₂⟩
      simpa using ((mark.trans passed).trans (Cursor.passes_advance comma nofun)).trans passed₂
    · cases h
      exact ⟨_, mark.trans passed, .allFields (.entry found derived)⟩

end Sound

/-- A step that succeeds has read what it returns. -/
theorem sound (fuel : Nat) : Sound fuel := by
  induction fuel with
  | zero =>
    constructor
    all_goals
      intros
      rename_i h
      cases h
  | succ fuel ih =>
    exact ⟨ih.conditional_succ, ih.binary_succ, ih.binaryRest_succ, ih.unary_succ,
      ih.accesses_succ, ih.primary_succ, ih.sequence_succ, ih.mapFields_succ⟩

end TaskGraph.Expr
