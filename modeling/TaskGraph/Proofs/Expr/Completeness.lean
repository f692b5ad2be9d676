import Mathlib.Data.List.Basic
import TaskGraph.Proofs.Expr.Fuel

/-! Completeness of the parser: what the grammar derives is read, and read as the tree
that it is derived with. A step must not be tempted to read on, so what is derived has to
be followed by a token that extends nothing at its level. The loops hand on what they have
read so far, which is how a left operand becomes part of a longer expression. As the
parser reads one tree only, nothing has two trees. -/

namespace TaskGraph.Expr

/-- How tight a symbol a token extends at its right end. -/
def reach : Token → Nat
  | .question => 1
  | .or => 2
  | .and => 3
  | .eq | .ne => 4
  | .lt | .le | .gt | .ge | .in => 5
  | .plus | .minus => 6
  | .star | .slash | .percent => 7
  | .dot | .openBracket => 9
  | .openParen => 10
  | _ => 0

theorem Operator.reach_eq {k : Nat} {t : Token} {op : BinaryOp} (h : Operator k t op) :
    reach t = k + 2 := by
  rw [← operator?_eq_some_iff] at h
  unfold operator? at h
  split at h <;> cases h <;> rfl

theorem reach_ne (t : Token) : reach t ≠ 8 := by
  cases t <;> simp [reach]

namespace Cursor

variable {c c' : Cursor} {ts us : List Token} {t : Token} {d d' n : Nat}

theorem Passes.split (h : c.Passes (ts ++ us) c') : ∃ c₁, c.Passes ts c₁ ∧ c₁.Passes us c' := by
  refine ⟨⟨us ++ c'.rest, c.position + ts.length⟩, ⟨?_, rfl⟩, ⟨rfl, ?_⟩⟩
  · rw [h.rest, List.append_assoc]
  · rw [h.position, List.length_append, Nat.add_assoc]

theorem Passes.uncons (h : c.Passes (t :: ts) c') : c.peek = t ∧ c.advance.Passes ts c' := by
  obtain ⟨rest, position⟩ := c
  obtain rfl : rest = t :: (ts ++ c'.rest) := h.rest
  refine ⟨rfl, rfl, ?_⟩
  have := h.position
  simp only [List.length_cons, advance] at this ⊢
  omega

theorem Passes.eq (h : c.Passes [] c') : c = c' := by
  cases c
  cases c'
  cases h.rest
  cases h.position
  rfl

/-- What stands between two tokens. -/
theorem Passes.between {opening close : Token} (h : c.Passes (opening :: ts ++ [close]) c') :
    c.peek = opening ∧
      ∃ c₁, c.advance.Passes ts c₁ ∧ c₁.peek = close ∧ c₁.advance = c' := by
  obtain ⟨c₁, front, back⟩ := h.split
  obtain ⟨here, inner⟩ := front.uncons
  obtain ⟨last, back⟩ := back.uncons
  exact ⟨here, c₁, inner, last, back.eq⟩

theorem Passes.peek_lead {p : Token → Bool} (h : c.Passes ts c') (leads : StartsWith p ts) :
    p c.peek := by
  obtain ⟨t, us, rfl, lead⟩ := leads
  rwa [h.uncons.1]

theorem expect_eq_ok {what : String} (h : c.peek = t) : c.expect t what = .ok c.advance :=
  if_pos h

theorem Enough.pos (h : c.Enough (d + 1) n) : ∃ m, n = m + 1 := by
  unfold Enough at h
  exact ⟨n - 1, by omega⟩

/-- After a token there is enough fuel for any step. -/
theorem Enough.later (h : c.Enough d (n + 1)) (shorter : c'.rest.length < c.rest.length)
    (small : d' ≤ 11) : c'.Enough d' n := by
  unfold Enough at h ⊢
  omega

theorem Enough.least (c : Cursor) (d : Nat) : c.Enough d (12 * c.rest.length + d) := Nat.le_refl _

end Cursor

open Cursor

variable {c c' : Cursor} {e : Expr} {k n : Nat}

theorem binaryRest_stop (enough : c.Enough 1 n) (other : reach c.peek ≠ k + 2) :
    Parse.binaryRest n k e c = .ok (e, c) := by
  obtain ⟨m, rfl⟩ := enough.pos
  unfold Parse.binaryRest
  cases found : operator? k c.peek with
  | none => rfl
  | some op => exact absurd (operator?_eq_some_iff.1 found).reach_eq other

theorem accesses_stop (enough : c.Enough 1 n) (below : reach c.peek ≤ 8) :
    Parse.accesses n e c = .ok (e, c) := by
  obtain ⟨m, rfl⟩ := enough.pos
  unfold Parse.accesses
  split
  · rename_i dot
    rw [dot] at below
    exact absurd below (by decide)
  · rename_i bracket
    rw [bracket] at below
    exact absurd below (by decide)
  · rfl

/-- How the parser meets what is derived from a symbol. -/
def Accepts : (s : Symbol) → List Token → s.Tree → Prop
  | .conditional, ts, e => ∀ {c c' n}, c.Passes ts c' → reach c'.peek = 0 → c.Enough 10 n →
    Parse.conditional n c = .ok (e, c')
  | .level k, ts, e => ∀ {c c' n m}, c.Passes ts c' → reach c'.peek ≤ k + 2 →
    c.Enough (9 - k) n → c'.Enough 1 m → Parse.binary n k c = Parse.binaryRest m k e c'
  | .unary, ts, e => ∀ {c c' n}, c.Passes ts c' → reach c'.peek ≤ 8 → c.Enough 2 n →
    Parse.unary n c = .ok (e, c')
  | .accessed, ts, e => ∀ {c c' n m}, c.Passes ts c' → reach c'.peek ≤ 9 → c.Enough 1 n →
    c'.Enough 1 m → (do
      let (object, c) ← Parse.primary n c
      Parse.accesses n object c) = Parse.accesses m e c'
  | .primary, ts, e => ∀ {c c' n}, c.Passes ts c' → reach c'.peek ≤ 9 → c.Enough 1 n →
    Parse.primary n c = .ok (e, c')
  | .items, ts, es => ∀ {close c c' c'' n}, close = .closeParen ∨ close = .closeBracket →
    c.Passes ts c' → c'.Passes [] c'' ∨ c'.Passes [.comma] c'' → c''.peek = close →
    c.Enough 11 n → Parse.sequence n close c = .ok (es, c'')
  | .sequence, ts, es => ∀ {close c c' n}, close = .closeParen ∨ close = .closeBracket →
    c.Passes ts c' → c'.peek = close → c.Enough 11 n → Parse.sequence n close c = .ok (es, c')
  | .entries, ts, es => ∀ {c c' c'' n}, c.Passes ts c' →
    c'.Passes [] c'' ∨ c'.Passes [.comma] c'' → c''.peek = .closeBrace → c.Enough 1 n →
    Parse.mapFields n c = .ok (es, c'')
  | .fields, ts, es => ∀ {c c' n}, c.Passes ts c' → c'.peek = .closeBrace → c.Enough 1 n →
    Parse.mapFields n c = .ok (es, c')

variable {ts us vs : List Token} {t : Token} {op : BinaryOp} {left right condition yes no : Expr}

theorem accepts_plain (ih : Accepts (.level 0) ts e) : Accepts .conditional ts e := by
  intro c c' n passes stops enough
  obtain ⟨n, rfl⟩ := enough.pos
  have whole := ih passes (by omega) (Nat.le_of_succ_le_succ enough) (.least c' 1)
  rw [binaryRest_stop (.least c' 1) (by omega)] at whole
  have done : c'.peek ≠ .question := by
    intro question
    rw [question] at stops
    cases stops
  simp only [Parse.conditional, whole, ok_bind, if_neg done]
  rfl

theorem accepts_ternary (ih : Accepts (.level 0) ts condition) (ih₁ : Accepts .conditional us yes)
    (ih₂ : Accepts .conditional vs no) :
    Accepts .conditional (ts ++ .question :: us ++ .colon :: vs) (.ternary condition yes no) := by
  intro c c' n passes stops enough
  obtain ⟨n, rfl⟩ := enough.pos
  obtain ⟨c₂, front, back⟩ := passes.split
  obtain ⟨c₁, first, middle⟩ := front.split
  obtain ⟨question, second⟩ := middle.uncons
  obtain ⟨colon, third⟩ := back.uncons
  have shorter := first.length_eq
  have shorter₁ := length_advance question nofun
  have shorter₂ := second.length_eq
  have shorter₃ := length_advance colon nofun
  have whole := ih first (by rw [question]; decide) (Nat.le_of_succ_le_succ enough) (.least c₁ 1)
  rw [binaryRest_stop (.least c₁ 1) (by rw [question]; decide)] at whole
  have inside := ih₁ second (by rw [colon]; rfl) (enough.later (by omega) (by omega))
  have after := ih₂ third stops (enough.later (by omega) (by omega))
  simp only [Parse.conditional, whole, ok_bind, if_pos question, inside, expect_eq_ok colon, after]
  rfl

theorem accepts_tighter (bound : k < operators.length) (ih : Accepts (.level (k + 1)) ts e) :
    Accepts (.level k) ts e := by
  intro c c' n m passes stops enough enough'
  have inner : k < 6 := bound
  unfold Enough at enough
  obtain ⟨n, rfl⟩ : ∃ n', n = n' + 1 := ⟨n - 1, by omega⟩
  have shorter := passes.length_eq
  have whole := ih passes (by omega) (show c.Enough _ n by unfold Enough; omega) (.least c' 1)
  rw [binaryRest_stop (.least c' 1) (by omega)] at whole
  simp only [Parse.binary, levels, if_pos inner, whole, ok_bind]
  exact binaryRest_fuel inner (by unfold Enough; omega) enough'

theorem accepts_binary (ih : Accepts (.level k) ts left) (operator : Operator k t op)
    (ih₁ : Accepts (.level (k + 1)) us right) :
    Accepts (.level k) (ts ++ t :: us) (.binary op left right) := by
  intro c c' n m passes stops enough enough'
  obtain ⟨c₁, first, back⟩ := passes.split
  obtain ⟨here, second⟩ := back.uncons
  have shorter := length_advance here operator.ne_eof
  have shorter₁ := second.length_eq
  rw [ih first (Nat.le_of_eq (by rw [here, operator.reach_eq])) enough (.least c₁ 1)]
  have operand := ih₁ second (by omega)
    (show c₁.advance.Enough _ (12 * c₁.rest.length) by unfold Enough; omega) (.least c' 1)
  rw [binaryRest_stop (.least c' 1) (by omega)] at operand
  simp only [Parse.binaryRest, here, operator?_eq_some_iff.2 operator, operand, ok_bind]
  exact binaryRest_fuel operator.level_lt (by unfold Enough; omega) enough'

theorem accepts_operand (ih : Accepts .unary ts e) : Accepts (.level operators.length) ts e := by
  intro c c' n m passes stops enough enough'
  obtain ⟨n, rfl⟩ := enough.pos
  have whole := ih passes stops (Nat.le_of_succ_le_succ enough)
  have stop : Parse.binaryRest m operators.length e c' = .ok (e, c') :=
    binaryRest_stop enough' (reach_ne _)
  rw [stop]
  exact whole

theorem accepts_unary {op : UnaryOp} (operator : Prefix t op) (ih : Accepts .unary ts e) :
    Accepts .unary (t :: ts) (.unary op e) := by
  intro c c' n passes stops enough
  obtain ⟨n, rfl⟩ := enough.pos
  obtain ⟨here, rest⟩ := passes.uncons
  have shorter := length_advance here operator.ne_eof
  have operand := ih rest stops (enough.later shorter (by omega))
  simp only [Parse.unary, here, prefixOp?_eq_some_iff.2 operator, operand, ok_bind]
  rfl

theorem accepts_unprefixed (leads : StartsWith isPrimaryLead ts) (ih : Accepts .accessed ts e) :
    Accepts .unary ts e := by
  intro c c' n passes stops enough
  obtain ⟨n, rfl⟩ := enough.pos
  have bare : prefixOp? c.peek = none := by
    have lead := passes.peek_lead leads
    cases here : c.peek <;> simp_all [isPrimaryLead, prefixOp?]
  have whole := ih passes (by omega) (Nat.le_of_succ_le_succ enough) (.least c' 1)
  rw [accesses_stop (.least c' 1) stops] at whole
  simp only [Parse.unary, bare]
  exact whole

theorem accepts_object (ih : Accepts .primary ts e) : Accepts .accessed ts e := by
  intro c c' n m passes stops enough enough'
  have shorter := passes.length_eq
  simp only [ih passes stops enough, ok_bind]
  exact accesses_fuel (by unfold Enough at enough ⊢; omega) enough'

theorem accepts_member {name : String} (ih : Accepts .accessed ts e) :
    Accepts .accessed (ts ++ [.dot, .identifier name]) (.member e name) := by
  intro c c' n m passes stops enough enough'
  obtain ⟨c₁, first, back⟩ := passes.split
  obtain ⟨dot, back⟩ := back.uncons
  obtain ⟨named, back⟩ := back.uncons
  obtain rfl := back.eq
  have shorter := length_advance dot nofun
  have shorter₁ := length_advance named nofun
  have noCall : c₁.advance.advance.peek ≠ .openParen := by
    intro paren
    rw [paren] at stops
    exact absurd stops (by decide)
  rw [ih first (by rw [dot]; decide) enough (.least c₁ 1)]
  simp only [Parse.accesses, dot, named, if_neg noCall]
  exact accesses_fuel (by unfold Enough; omega) enough'

theorem accepts_method {name : String} {args : List Expr} (ih : Accepts .accessed ts e)
    (ih₁ : Accepts .sequence us args) :
    Accepts .accessed (ts ++ .dot :: .identifier name :: .openParen :: us ++ [.closeParen])
      (.call name (e :: args)) := by
  intro c c' n m passes stops enough enough'
  rw [List.append_assoc] at passes
  obtain ⟨c₁, first, back⟩ := passes.split
  obtain ⟨dot, back⟩ := back.uncons
  obtain ⟨named, back⟩ := back.uncons
  obtain ⟨paren, c₂, second, close, rfl⟩ := back.between
  have shorter := length_advance dot nofun
  have shorter₁ := length_advance named nofun
  have shorter₂ := length_advance paren nofun
  have shorter₃ := second.length_eq
  have shorter₄ := length_advance close nofun
  have inside := ih₁ (.inl rfl) second close
    (show Enough _ _ (12 * c₁.rest.length) by unfold Enough; omega)
  rw [ih first (by rw [dot]; decide) enough (.least c₁ 1)]
  simp only [Parse.accesses, dot, named, if_pos paren, inside, ok_bind, expect_eq_ok close]
  exact accesses_fuel (by unfold Enough; omega) enough'

theorem accepts_index {subscript : Expr} (ih : Accepts .accessed ts e)
    (ih₁ : Accepts .conditional us subscript) :
    Accepts .accessed (ts ++ .openBracket :: us ++ [.closeBracket]) (.index e subscript) := by
  intro c c' n m passes stops enough enough'
  rw [List.append_assoc] at passes
  obtain ⟨c₁, first, back⟩ := passes.split
  obtain ⟨bracket, c₂, second, close, rfl⟩ := back.between
  have shorter := length_advance bracket nofun
  have shorter₁ := second.length_eq
  have shorter₂ := length_advance close nofun
  have inside := ih₁ second (by rw [close]; rfl)
    (show Enough _ _ (12 * c₁.rest.length) by unfold Enough; omega)
  rw [ih first (by rw [bracket]; decide) enough (.least c₁ 1)]
  simp only [Parse.accesses, bracket, inside, ok_bind, expect_eq_ok close]
  exact accesses_fuel (by unfold Enough; omega) enough'

theorem accepts_literal (literal : Literal t e) : Accepts .primary [t] e := by
  intro c c' n passes stops enough
  obtain ⟨n, rfl⟩ := enough.pos
  obtain ⟨here, back⟩ := passes.uncons
  obtain rfl := back.eq
  simp only [Parse.primary, here, literal?_eq_some_iff.2 literal]

theorem accepts_ident {name : String} : Accepts .primary [.identifier name] (.ident name) := by
  intro c c' n passes stops enough
  obtain ⟨n, rfl⟩ := enough.pos
  obtain ⟨here, back⟩ := passes.uncons
  obtain rfl := back.eq
  have noCall : c.advance.peek ≠ .openParen := by
    intro paren
    rw [paren] at stops
    exact absurd stops (by decide)
  simp only [Parse.primary, here, literal?, if_neg noCall]

theorem accepts_call {name : String} {args : List Expr} (ih : Accepts .sequence ts args) :
    Accepts .primary (.identifier name :: .openParen :: ts ++ [.closeParen]) (.call name args) := by
  intro c c' n passes stops enough
  obtain ⟨n, rfl⟩ := enough.pos
  obtain ⟨here, back⟩ := passes.uncons
  obtain ⟨paren, c₁, inner, close, rfl⟩ := back.between
  have shorter := length_advance here nofun
  have shorter₁ := length_advance paren nofun
  have inside := ih (.inl rfl) inner close (enough.later (by omega) (by omega))
  simp only [Parse.primary, here, literal?, if_pos paren, inside, ok_bind, expect_eq_ok close]
  rfl

theorem accepts_group (ih : Accepts .conditional ts e) :
    Accepts .primary (.openParen :: ts ++ [.closeParen]) e := by
  intro c c' n passes stops enough
  obtain ⟨n, rfl⟩ := enough.pos
  obtain ⟨here, c₁, inner, close, rfl⟩ := passes.between
  have shorter := length_advance here nofun
  have inside := ih inner (by rw [close]; rfl) (enough.later (by omega) (by omega))
  simp only [Parse.primary, here, literal?, inside, ok_bind, expect_eq_ok close]
  rfl

theorem accepts_list {items : List Expr} (ih : Accepts .sequence ts items) :
    Accepts .primary (.openBracket :: ts ++ [.closeBracket]) (.list items) := by
  intro c c' n passes stops enough
  obtain ⟨n, rfl⟩ := enough.pos
  obtain ⟨here, c₁, inner, close, rfl⟩ := passes.between
  have shorter := length_advance here nofun
  have inside := ih (.inr rfl) inner close (enough.later (by omega) (by omega))
  simp only [Parse.primary, here, literal?, inside, ok_bind, expect_eq_ok close]
  rfl

theorem accepts_map {fields : List (String × Expr)} (ih : Accepts .fields ts fields) :
    Accepts .primary (.openBrace :: ts ++ [.closeBrace]) (.map fields) := by
  intro c c' n passes stops enough
  obtain ⟨n, rfl⟩ := enough.pos
  obtain ⟨here, c₁, inner, close, rfl⟩ := passes.between
  have shorter := length_advance here nofun
  have inside := ih inner close (enough.later (by omega) (by omega))
  simp only [Parse.primary, here, literal?, inside, ok_bind, expect_eq_ok close]
  rfl

section Sequences

variable {close key : Token} {name : String} {es : List Expr} {fields : List (String × Expr)}

theorem sequence_close (here : c.peek = close) (enough : c.Enough 11 n) :
    Parse.sequence n close c = .ok ([], c) := by
  obtain ⟨n, rfl⟩ := enough.pos
  rw [Parse.sequence, if_pos here]

/-- After an item a sequence ends, unless there is a comma. -/
theorem sequence_item (closes : close = .closeParen ∨ close = .closeBracket)
    (leads : StartsWith isLead ts) (ih : Accepts .conditional ts e) (passes : c.Passes ts c')
    (follow : c'.peek = close ∨ c'.peek = .comma) (enough : c.Enough 11 (n + 1)) :
    Parse.sequence (n + 1) close c =
      if c'.peek = .comma then do
        let (items, c) ← Parse.sequence n close c'.advance
        return (e :: items, c)
      else return ([e], c') := by
  have lead := passes.peek_lead leads
  have inside : c.peek ≠ close := by
    rintro rfl
    rcases closes with closes | closes <;> simp [closes, isLead, isPrimaryLead] at lead
  have stops : reach c'.peek = 0 := by
    rcases follow with here | here
    · rcases closes with rfl | rfl <;> rw [here] <;> rfl
    · rw [here]
      rfl
  have item := ih passes stops (Nat.le_of_succ_le_succ enough)
  simp only [Parse.sequence, if_neg inside, item, ok_bind]

theorem accepts_item (leads : StartsWith isLead ts) (ih : Accepts .conditional ts e) :
    Accepts .items ts [e] := by
  intro close c c' c'' n closes passes trail here enough
  obtain ⟨n, rfl⟩ := enough.pos
  rcases trail with none | trailing
  · obtain rfl := none.eq
    have last : c'.peek ≠ .comma := by
      rcases closes with rfl | rfl <;> rw [here] <;> nofun
    rw [sequence_item closes leads ih passes (.inl here) enough, if_neg last]
    rfl
  · obtain ⟨comma, back⟩ := trailing.uncons
    obtain rfl := back.eq
    have shorter := passes.length_eq
    have shorter₁ := length_advance comma nofun
    rw [sequence_item closes leads ih passes (.inr comma) enough, if_pos comma,
      sequence_close here (enough.later (by omega) (by omega))]
    rfl

theorem accepts_items (leads : StartsWith isLead ts) (ih : Accepts .conditional ts e)
    (ih₁ : Accepts .items us es) : Accepts .items (ts ++ .comma :: us) (e :: es) := by
  intro close c c' c'' n closes passes trail here enough
  obtain ⟨n, rfl⟩ := enough.pos
  obtain ⟨c₁, first, back⟩ := passes.split
  obtain ⟨comma, second⟩ := back.uncons
  have shorter := first.length_eq
  have shorter₁ := length_advance comma nofun
  rw [sequence_item closes leads ih first (.inr comma) enough, if_pos comma,
    ih₁ closes second trail here (enough.later (by omega) (by omega))]
  rfl

theorem accepts_none : Accepts .sequence [] [] := by
  intro close c c' n closes passes here enough
  obtain rfl := passes.eq
  exact sequence_close here enough

theorem accepts_trailing (ih : Accepts .items ts es) : Accepts .sequence (ts ++ [.comma]) es := by
  intro close c c' n closes passes here enough
  obtain ⟨c₁, first, back⟩ := passes.split
  exact ih closes first (.inr back) here enough

theorem mapFields_close (here : c.peek = .closeBrace) (enough : c.Enough 1 n) :
    Parse.mapFields n c = .ok ([], c) := by
  obtain ⟨n, rfl⟩ := enough.pos
  rw [Parse.mapFields, if_pos here]

theorem mapFields_entry (named : MapKey key name) (ih : Accepts .conditional ts e)
    (passes : c.Passes (key :: .colon :: ts) c')
    (follow : c'.peek = .closeBrace ∨ c'.peek = .comma) (enough : c.Enough 1 (n + 1)) :
    Parse.mapFields (n + 1) c =
      if c'.peek = .comma then do
        let (fields, c) ← Parse.mapFields n c'.advance
        return ((name, e) :: fields, c)
      else return ([(name, e)], c') := by
  obtain ⟨here, back⟩ := passes.uncons
  obtain ⟨colon, value⟩ := back.uncons
  have inside : c.peek ≠ .closeBrace := by
    rw [here]
    rintro rfl
    cases named
  have stops : reach c'.peek = 0 := by
    rcases follow with here | here <;> rw [here] <;> rfl
  have shorter := length_advance here named.ne_eof
  have shorter₁ := length_advance colon nofun
  have found : mapKey? c.peek = some name := by
    rw [here]
    exact mapKey?_eq_some_iff.2 named
  simp only [Parse.mapFields, if_neg inside, found, expect_eq_ok colon, ok_bind,
    ih value stops (enough.later (by omega) (by omega))]

theorem accepts_entry (named : MapKey key name) (ih : Accepts .conditional ts e) :
    Accepts .entries (key :: .colon :: ts) [(name, e)] := by
  intro c c' c'' n passes trail here enough
  obtain ⟨n, rfl⟩ := enough.pos
  rcases trail with none | trailing
  · obtain rfl := none.eq
    have last : c'.peek ≠ .comma := by
      rw [here]
      nofun
    rw [mapFields_entry named ih passes (.inl here) enough, if_neg last]
    rfl
  · obtain ⟨comma, back⟩ := trailing.uncons
    obtain rfl := back.eq
    have shorter := passes.length_eq
    have shorter₁ := length_advance comma nofun
    rw [mapFields_entry named ih passes (.inr comma) enough, if_pos comma,
      mapFields_close here (enough.later (by omega) (by omega))]
    rfl

theorem accepts_entries (named : MapKey key name) (ih : Accepts .conditional ts e)
    (ih₁ : Accepts .entries us fields) :
    Accepts .entries (key :: .colon :: ts ++ .comma :: us) ((name, e) :: fields) := by
  intro c c' c'' n passes trail here enough
  obtain ⟨n, rfl⟩ := enough.pos
  obtain ⟨c₁, first, back⟩ := passes.split
  obtain ⟨comma, second⟩ := back.uncons
  have shorter := first.length_eq
  have shorter₁ := length_advance comma nofun
  rw [mapFields_entry named ih first (.inr comma) enough, if_pos comma,
    ih₁ second trail here (enough.later (by omega) (by omega))]
  rfl

theorem accepts_noFields : Accepts .fields [] [] := by
  intro c c' n passes here enough
  obtain rfl := passes.eq
  exact mapFields_close here enough

theorem accepts_trailingField (ih : Accepts .entries ts fields) :
    Accepts .fields (ts ++ [.comma]) fields := by
  intro c c' n passes here enough
  obtain ⟨c₁, first, back⟩ := passes.split
  exact ih first (.inr back) here enough

end Sequences

/-- Whatever the grammar derives, the parser reads. -/
theorem Derives.accepts {s : Symbol} {x : s.Tree} (h : Derives s ts x) : Accepts s ts x := by
  induction h with
  | plain _ ih => exact accepts_plain ih
  | ternary _ _ _ ih ih₁ ih₂ => exact accepts_ternary ih ih₁ ih₂
  | tighter bound _ ih => exact accepts_tighter bound ih
  | binary _ operator _ ih ih₁ => exact accepts_binary ih operator ih₁
  | operand _ ih => exact accepts_operand ih
  | unary operator _ ih => exact accepts_unary operator ih
  | unprefixed derived ih => exact accepts_unprefixed derived.leads ih
  | object _ ih => exact accepts_object ih
  | member _ ih => exact accepts_member ih
  | method _ _ ih ih₁ => exact accepts_method ih ih₁
  | index _ _ ih ih₁ => exact accepts_index ih ih₁
  | literal literal => exact accepts_literal literal
  | ident => exact accepts_ident
  | call _ ih => exact accepts_call ih
  | group _ ih => exact accepts_group ih
  | list _ ih => exact accepts_list ih
  | map _ ih => exact accepts_map ih
  | item derived ih => exact accepts_item derived.leads ih
  | items derived _ ih ih₁ => exact accepts_items derived.leads ih ih₁
  | none => exact accepts_none
  | all _ ih => exact fun closes passes => ih closes passes (.inl (.refl _))
  | trailing _ ih => exact accepts_trailing ih
  | entry named _ ih => exact accepts_entry named ih
  | entries named _ _ ih ih₁ => exact accepts_entries named ih ih₁
  | noFields => exact accepts_noFields
  | allFields _ ih => exact fun passes => ih passes (.inl (.refl _))
  | trailingField _ ih => exact accepts_trailingField ih

/-- Where a reading of a whole input ends. -/
theorem passes_whole (eof : .eof ∉ ts) (passed : Cursor.Passes ⟨ts ++ [.eof], 0⟩ us c)
    (inside : .eof ∉ us) (stop : c.peek = .eof) : us = ts := by
  have shape := passed.rest
  dsimp only at shape
  cases ended : c.rest with
  | nil =>
    rw [ended, List.append_nil] at shape
    exact absurd (shape ▸ List.mem_append_right ts (List.mem_singleton.2 rfl)) inside
  | cons t rest =>
    obtain rfl : t = .eof := by simpa [Cursor.peek, ended] using stop
    rw [ended] at shape
    exact ((List.append_cons_inj_of_notMem eof List.not_mem_nil).1 shape).1.symm

theorem ofTokens_eq_ok_iff (eof : .eof ∉ ts) :
    ofTokens (ts ++ [.eof]) = .ok e ↔ Derives .conditional ts e := by
  constructor
  · intro read
    simp only [ofTokens] at read
    split at read
    · simp at read
    simp only [bind_eq_ok_iff, Prod.exists] at read
    obtain ⟨tree, c, step, read⟩ := read
    split at read
    · rename_i stop
      cases read
      obtain ⟨us, passed, derived⟩ := (sound _).conditional step
      rwa [← passes_whole eof passed derived.eof_notMem stop]
    · simp at read
  · intro derived
    have passes : Cursor.Passes ⟨ts ++ [.eof], 0⟩ ts ⟨[.eof], ts.length⟩ := ⟨rfl, by simp⟩
    have enough : Cursor.Enough ⟨ts ++ [.eof], 0⟩ 10 (12 * ((ts ++ [Token.eof]).length + 2)) := by
      unfold Cursor.Enough
      dsimp only
      omega
    have started : Cursor.peek ⟨ts ++ [.eof], 0⟩ ≠ .eof := by
      intro start
      have lead := passes.peek_lead derived.leads
      rw [start] at lead
      cases lead
    have step := derived.accepts passes rfl enough
    simp only [ofTokens, if_neg started, step, ok_bind]
    rfl

/-- Exactly the lists that the grammar derives are read, and as the tree that they are derived with.
A list has therefore at most one tree, and a list without one is refused. -/
theorem ofTokens_reads_grammar (eof : .eof ∉ ts) :
    (∀ e, ofTokens (ts ++ [.eof]) = .ok e ↔ Derives .conditional ts e) ∧
    (∀ e e', Derives .conditional ts e → Derives .conditional ts e' → e = e') ∧
    ((¬ ∃ e, Derives .conditional ts e) →
      ∃ error, ofTokens (ts ++ [.eof]) = .error error ∧ error.fault ≠ .exhausted) := by
  refine ⟨fun e => ofTokens_eq_ok_iff eof, ?_, ?_⟩
  · intro e e' derived derived'
    have first := (ofTokens_eq_ok_iff eof).2 derived
    have second := (ofTokens_eq_ok_iff eof).2 derived'
    exact Except.ok.inj (first.symm.trans second)
  · intro underivable
    cases read : ofTokens (ts ++ [.eof]) with
    | ok e => exact absurd ⟨e, (ofTokens_eq_ok_iff eof).1 read⟩ underivable
    | error error =>
      refine ⟨error, rfl, fun exhausted => ofTokens_fuelled (ts ++ [.eof]) error.position ?_⟩
      rw [read, ← exhausted]

/-- `a.f(b,) ? 1 - 2 - 3 : {x: [1,],}` -/
def nestedTokens : List Token :=
  [.identifier "a", .dot, .identifier "f", .openParen, .identifier "b", .comma, .closeParen,
    .question, .int 1, .minus, .int 2, .minus, .int 3,
    .colon, .openBrace, .identifier "x", .colon, .openBracket, .int 1, .comma, .closeBracket,
    .comma, .closeBrace]

def nestedTree : Expr :=
  .ternary (.call "f" [.ident "a", .ident "b"])
    (.binary .sub (.binary .sub (.int 1) (.int 2)) (.int 3))
    (.map [("x", .list [.int 1])])

theorem nested_tokens_tree :
    .eof ∉ nestedTokens ∧ ∀ e, Derives .conditional nestedTokens e ↔ e = nestedTree := by
  have eof : .eof ∉ nestedTokens := by simp [nestedTokens]
  obtain ⟨reads, unique, -⟩ := ofTokens_reads_grammar eof
  have derived : Derives .conditional nestedTokens nestedTree := (reads _).1 rfl
  refine ⟨eof, fun e => ⟨fun derived' => unique _ _ derived' derived, ?_⟩⟩
  rintro rfl
  exact derived

end TaskGraph.Expr
