import TaskGraph.Proofs.Expr.Fuel
import TaskGraph.Proofs.Expr.LexFaults

/-! Progress of reading. Each level of the descent comes to an outcome. Where it succeeds it has
gone on, but not past the end of the tokens. Where it fails, the place it names may be one past the
end, since a token that should be a name or a key is passed before it is refused. -/

namespace TaskGraph.Expr

/-- The levels of the descent, from the loosest to the tightest. -/
inductive Level where
  | conditional
  | binary (k : Fin levels)
  | unary
  /-- A primary and the accesses after it. -/
  | accessed
  | primary

def Level.parse (fuel : Nat) : Level → Cursor → Except ParseError (Expr × Cursor)
  | .conditional, c => Parse.conditional fuel c
  | .binary k, c => Parse.binary fuel k c
  | .unary, c => Parse.unary fuel c
  | .accessed, c => do
    let (object, c) ← Parse.primary fuel c
    Parse.accesses fuel object c
  | .primary, c => Parse.primary fuel c

/-- The cursor at a place of a list of tokens. -/
def cursorAt (tokens : List Token) (place : Nat) : Cursor := ⟨tokens.drop place, place⟩

namespace Cursor

/-- A cursor that stands between two places, the second of them that of the end of the tokens. -/
structure Between (start stop : Nat) (c : Cursor) : Prop where
  start_le : start ≤ c.position
  ends : ∃ ts, c.rest = ts ++ [Token.eof] ∧ c.position + ts.length = stop

variable {start stop : Nat} {c c' : Cursor} {ts : List Token} {t : Token} {what : String}

theorem Between.le_stop (h : c.Between start stop) : c.position ≤ stop := by
  obtain ⟨ts, -, same⟩ := h.ends
  exact Nat.le_of_add_right_le (Nat.le_of_eq same)

/-- The end is not passed with other tokens. -/
theorem Between.passes (h : c.Between start stop) (passed : c.Passes ts c') (eof : .eof ∉ ts) :
    c'.Between start stop := by
  obtain ⟨us, ends, same⟩ := h.ends
  have parts := passed.rest.symm.trans ends
  refine ⟨?_, ?_⟩
  · rw [passed.position]
    exact Nat.le_add_right_of_le h.start_le
  · obtain ⟨more, rfl, ends'⟩ | ⟨more, rfl, ends'⟩ := List.append_eq_append_iff.1 parts
    · refine ⟨more, ends', ?_⟩
      rw [passed.position, ← same, List.length_append, Nat.add_assoc]
    · cases more with
      | nil => exact ⟨[], ends'.symm, by simpa [passed.position] using same⟩
      | cons last more =>
        obtain ⟨rfl, -⟩ := List.cons.inj ends'
        simp at eof

theorem Between.advance (h : c.Between start stop) (here : c.peek = t) (token : t ≠ .eof) :
    c.advance.Between start stop :=
  h.passes (passes_advance here token) (by simpa using token.symm)

theorem Between.expect (h : c.Between start stop) (here : c.expect t what = .ok c')
    (token : t ≠ .eof) : c'.Between start stop :=
  h.passes (passes_expect here token) (by simpa using token.symm)

theorem Between.reads {s : Symbol} {x : s.Tree} (h : c.Between start stop)
    (reads : Reads s c x c') : c'.Between start stop := by
  obtain ⟨ts, passed, derived⟩ := reads
  exact h.passes passed derived.eof_notMem

end Cursor

/-- A step that, if it fails, does so between two places or at the one after the second. -/
def FailsWithin {α : Type} (start stop : Nat) (r : Except ParseError α) : Prop :=
  ∀ e, r = .error e → start ≤ e.position ∧ e.position ≤ stop + 1

namespace FailsWithin

variable {α β : Type} {start stop : Nat} {r : Except ParseError α} {f : α → Except ParseError β}
  {c : Cursor}

theorem bind (first : FailsWithin start stop r)
    (next : ∀ a, r = .ok a → FailsWithin start stop (f a)) : FailsWithin start stop (r >>= f) := by
  intro e failed
  obtain failed | ⟨a, done, failed⟩ := bind_eq_error_iff.1 failed
  · exact first e failed
  · exact next a done e failed

theorem ok (a : α) : FailsWithin start stop (.ok a) := nofun

theorem fail (h : c.Between start stop) (fault : ParseFault) :
    FailsWithin start stop (c.fail fault : Except ParseError α) := by
  rintro _ ⟨⟩
  exact ⟨h.start_le, Nat.le_succ_of_le h.le_stop⟩

/-- A token may be passed before it is refused, even the end. -/
theorem fail_advance (h : c.Between start stop) (fault : ParseFault) :
    FailsWithin start stop (c.advance.fail fault : Except ParseError α) := by
  rintro _ ⟨⟩
  exact ⟨Nat.le_succ_of_le h.start_le, Nat.succ_le_succ h.le_stop⟩

/-- A token that is expected, and what comes after it. -/
theorem expect {f : Cursor → Except ParseError β} {t : Token} {what : String}
    (h : c.Between start stop) (token : t ≠ .eof)
    (next : ∀ c' : Cursor, c'.Between start stop → FailsWithin start stop (f c')) :
    FailsWithin start stop (c.expect t what >>= f) := by
  refine bind ?_ fun c' here => next c' (h.expect here token)
  unfold Cursor.expect
  split
  · exact .ok _
  · exact .fail h _

end FailsWithin

/-! ### Where a parse fails -/

/-- Where the steps with some fuel fail. -/
structure InRange (start stop fuel : Nat) : Prop where
  conditional : ∀ {c}, c.Between start stop → FailsWithin start stop (Parse.conditional fuel c)
  binary : ∀ {k c}, c.Between start stop → FailsWithin start stop (Parse.binary fuel k c)
  binaryRest : ∀ {k left c}, c.Between start stop →
    FailsWithin start stop (Parse.binaryRest fuel k left c)
  unary : ∀ {c}, c.Between start stop → FailsWithin start stop (Parse.unary fuel c)
  accesses : ∀ {object c}, c.Between start stop →
    FailsWithin start stop (Parse.accesses fuel object c)
  primary : ∀ {c}, c.Between start stop → FailsWithin start stop (Parse.primary fuel c)
  sequence : ∀ {close c}, c.Between start stop →
    FailsWithin start stop (Parse.sequence fuel close c)
  mapFields : ∀ {c}, c.Between start stop → FailsWithin start stop (Parse.mapFields fuel c)

namespace InRange

variable {start stop fuel k : Nat} {c : Cursor} {left object : Expr}

theorem conditional_succ (within : InRange start stop fuel) (place : c.Between start stop) :
    FailsWithin start stop (Parse.conditional (fuel + 1) c) := by
  unfold Parse.conditional
  refine (within.binary place).bind ?_
  rintro ⟨condition, c₁⟩ first
  have place₁ := place.reads ((sound _).binary (Nat.zero_le _) first)
  dsimp only
  split
  · rename_i question
    have place₂ := place₁.advance question (by simp)
    refine (within.conditional place₂).bind ?_
    rintro ⟨yes, c₂⟩ second
    have place₃ := place₂.reads ((sound _).conditional second)
    refine .expect place₃ (by simp) fun c₃ place₄ => ?_
    exact (within.conditional place₄).bind fun _ _ => .ok _
  · exact .ok _

theorem binary_succ (within : InRange start stop fuel) (place : c.Between start stop) :
    FailsWithin start stop (Parse.binary (fuel + 1) k c) := by
  unfold Parse.binary
  split
  · rename_i inner
    refine (within.binary place).bind ?_
    rintro ⟨left, c₁⟩ first
    exact within.binaryRest (place.reads ((sound _).binary inner first))
  · exact within.unary place

theorem binaryRest_succ (within : InRange start stop fuel) (place : c.Between start stop) :
    FailsWithin start stop (Parse.binaryRest (fuel + 1) k left c) := by
  unfold Parse.binaryRest
  cases found : operator? k c.peek with
  | none => exact .ok _
  | some op =>
    rw [operator?_eq_some_iff] at found
    have place₁ := place.advance rfl found.ne_eof
    refine (within.binary place₁).bind ?_
    rintro ⟨right, c₁⟩ first
    exact within.binaryRest (place₁.reads ((sound _).binary found.level_lt first))

theorem unary_succ (within : InRange start stop fuel) (place : c.Between start stop) :
    FailsWithin start stop (Parse.unary (fuel + 1) c) := by
  unfold Parse.unary
  cases found : prefixOp? c.peek with
  | none =>
    refine (within.primary place).bind ?_
    rintro ⟨object, c₁⟩ first
    exact within.accesses (place.reads ((sound _).primary first))
  | some op =>
    rw [prefixOp?_eq_some_iff] at found
    exact (within.unary (place.advance rfl found.ne_eof)).bind fun _ _ => .ok _

theorem accesses_succ (within : InRange start stop fuel) (place : c.Between start stop) :
    FailsWithin start stop (Parse.accesses (fuel + 1) object c) := by
  unfold Parse.accesses
  split
  · rename_i dot
    have place₁ := place.advance dot (by simp)
    dsimp only
    split
    · rename_i property named
      have place₂ := place₁.advance named (by simp)
      split
      · rename_i paren
        have place₃ := place₂.advance paren (by simp)
        refine (within.sequence place₃).bind ?_
        rintro ⟨items, c₁⟩ inside
        have behind := place₃.reads ((sound _).sequence inside)
        exact .expect behind (by simp) fun _ last => within.accesses last
      · exact within.accesses place₂
    · exact .fail_advance place₁ _
  · rename_i bracket
    have place₁ := place.advance bracket (by simp)
    refine (within.conditional place₁).bind ?_
    rintro ⟨e, c₁⟩ inside
    have behind := place₁.reads ((sound _).conditional inside)
    exact .expect behind (by simp) fun _ last => within.accesses last
  · exact .ok _

theorem primary_succ (within : InRange start stop fuel) (place : c.Between start stop) :
    FailsWithin start stop (Parse.primary (fuel + 1) c) := by
  unfold Parse.primary
  split
  · exact .ok _
  · rename_i name _ named
    have place₁ := place.advance named (by simp)
    dsimp only
    split
    · rename_i paren
      have place₂ := place₁.advance paren (by simp)
      refine (within.sequence place₂).bind ?_
      rintro ⟨items, c₁⟩ inside
      have behind := place₂.reads ((sound _).sequence inside)
      exact .expect behind (by simp) fun _ _ => .ok _
    · exact .ok _
  · rename_i paren
    have place₁ := place.advance paren (by simp)
    refine (within.conditional place₁).bind ?_
    rintro ⟨e, c₁⟩ inside
    have behind := place₁.reads ((sound _).conditional inside)
    exact .expect behind (by simp) fun _ _ => .ok _
  · rename_i bracket
    have place₁ := place.advance bracket (by simp)
    refine (within.sequence place₁).bind ?_
    rintro ⟨items, c₁⟩ inside
    have behind := place₁.reads ((sound _).sequence inside)
    exact .expect behind (by simp) fun _ _ => .ok _
  · rename_i brace
    have place₁ := place.advance brace (by simp)
    refine (within.mapFields place₁).bind ?_
    rintro ⟨fields, c₁⟩ inside
    have behind := place₁.reads ((sound _).mapFields inside)
    exact .expect behind (by simp) fun _ _ => .ok _
  · exact .fail place _

theorem sequence_succ (within : InRange start stop fuel) {close : Token}
    (place : c.Between start stop) :
    FailsWithin start stop (Parse.sequence (fuel + 1) close c) := by
  unfold Parse.sequence
  split
  · exact .ok _
  · refine (within.conditional place).bind ?_
    rintro ⟨item, c₁⟩ first
    have place₁ := place.reads ((sound _).conditional first)
    dsimp only
    split
    · rename_i comma
      exact (within.sequence (place₁.advance comma (by simp))).bind fun _ _ => .ok _
    · exact .ok _

theorem mapFields_succ (within : InRange start stop fuel) (place : c.Between start stop) :
    FailsWithin start stop (Parse.mapFields (fuel + 1) c) := by
  unfold Parse.mapFields
  split
  · exact .ok _
  cases found : mapKey? c.peek with
  | none => exact .fail_advance place _
  | some key =>
    rw [mapKey?_eq_some_iff] at found
    have place₁ := place.advance rfl found.ne_eof
    refine .expect place₁ (by simp) fun c₁ place₂ => ?_
    refine (within.conditional place₂).bind ?_
    rintro ⟨value, c₂⟩ first
    have place₃ := place₂.reads ((sound _).conditional first)
    dsimp only
    split
    · rename_i comma
      exact (within.mapFields (place₃.advance comma (by simp))).bind fun _ _ => .ok _
    · exact .ok _

end InRange

theorem inRange (start stop fuel : Nat) : InRange start stop fuel := by
  induction fuel with
  | zero =>
    constructor
    all_goals
      intros
      rename_i place
      exact .fail place _
  | succ fuel ih =>
    exact ⟨ih.conditional_succ, ih.binary_succ, ih.binaryRest_succ, ih.unary_succ,
      ih.accesses_succ, ih.primary_succ, ih.sequence_succ, ih.mapFields_succ⟩

/-! ### Levels at a place of a list -/

section

variable {ts us : List Token} {start : Nat} {c : Cursor}

theorem between_cursorAt (inside : start ≤ ts.length) :
    (cursorAt (ts ++ [Token.eof]) start).Between start ts.length := by
  refine ⟨Nat.le_refl _, ts.drop start, List.drop_append_of_le_length inside, ?_⟩
  rw [List.length_drop]
  exact Nat.add_sub_cancel' inside

theorem Cursor.Passes.eq_cursorAt (passed : (cursorAt ts start).Passes us c) :
    c = cursorAt ts c.position := by
  obtain ⟨rest, position⟩ := c
  have parts : ts.drop start = us ++ rest := passed.rest
  obtain rfl : position = start + us.length := passed.position
  rw [cursorAt, ← List.drop_drop, parts, List.drop_left]

end

namespace Level

variable {level : Level} {fuel m start stop : Nat} {c c' : Cursor} {e : Expr}

/-- Ten units of fuel, and twelve for each token that is left, are enough for each level. -/
theorem settles (enough : c.Enough 10 fuel) (enough' : c.Enough 10 m) :
    Settles (level.parse fuel c) (level.parse m c) := by
  have same := agree enough enough'
  cases level with
  | conditional => exact same.conditional (Nat.le_refl _)
  | binary k => exact same.binary (Nat.le_of_lt k.isLt) (by unfold Cursor.Enough; omega)
  | unary => exact same.unary (by unfold Cursor.Enough; omega)
  | accessed =>
    refine (same.primary (by unfold Cursor.Enough; omega)).bind ?_
    rintro ⟨object, c₁⟩ first
    have shorter := ((sound _).primary first).length_lt rfl
    exact same.accesses (by unfold Cursor.Enough; omega)
  | primary => exact same.primary (by unfold Cursor.Enough; omega)

/-- A level that succeeds takes at least one token, and not the end. -/
theorem takes (h : level.parse fuel c = .ok (e, c')) :
    ∃ ts, c.Passes ts c' ∧ ts ≠ [] ∧ .eof ∉ ts := by
  have steps := sound fuel
  cases level with
  | conditional => exact (steps.conditional h).takes rfl
  | binary k => exact (steps.binary (Nat.le_of_lt k.isLt) h).takes rfl
  | unary => exact (steps.unary h).takes rfl
  | accessed =>
    obtain ⟨⟨object, c₁⟩, first, later⟩ := bind_eq_ok_iff.1 h
    obtain ⟨ts, passed, derived⟩ := steps.primary first
    obtain ⟨us, passed₁, derived₁⟩ := steps.accesses (.object derived) later
    exact Reads.takes ⟨_, passed.trans passed₁, derived₁⟩ rfl
  | primary => exact (steps.primary h).takes rfl

theorem failsWithin (place : c.Between start stop) :
    FailsWithin start stop (level.parse fuel c) := by
  have steps := inRange start stop fuel
  cases level with
  | conditional => exact steps.conditional place
  | binary k => exact steps.binary place
  | unary => exact steps.unary place
  | accessed =>
    refine (steps.primary place).bind ?_
    rintro ⟨object, c₁⟩ first
    exact steps.accesses (place.reads ((sound _).primary first))
  | primary => exact steps.primary place

/-- What a level does at a place of a list of tokens with the end after it. -/
structure Progresses (level : Level) (ts : List Token) (start : Nat) : Prop where
  /-- There is an outcome that does not depend on the fuel, if that is enough. -/
  terminates : ∃ outcome, (∀ position, outcome ≠ .error ⟨.exhausted, position⟩) ∧
    ∀ fuel, 12 * (ts.length + 1 - start) + 10 ≤ fuel →
      level.parse fuel (cursorAt (ts ++ [Token.eof]) start) = outcome
  advances : ∀ fuel e c, level.parse fuel (cursorAt (ts ++ [Token.eof]) start) = .ok (e, c) →
    c = cursorAt (ts ++ [Token.eof]) c.position ∧ start < c.position ∧ c.position ≤ ts.length
  in_range : ∀ fuel e, level.parse fuel (cursorAt (ts ++ [Token.eof]) start) = .error e →
    start ≤ e.position ∧ e.position ≤ (ts ++ [Token.eof]).length

theorem progresses {ts : List Token} (inside : start ≤ ts.length) : level.Progresses ts start where
  terminates := by
    have enough : (cursorAt (ts ++ [Token.eof]) start).Enough 10
        (12 * (ts.length + 1 - start) + 10) := by
      simp [Cursor.Enough, cursorAt]
    have settled := level.settles enough enough
    refine ⟨_, settled.fuelled, fun fuel more => ?_⟩
    exact (settles (Nat.le_trans enough more) enough).same
  advances fuel e c done := by
    obtain ⟨us, passed, full, eof⟩ := takes done
    have place := (between_cursorAt inside).passes passed eof
    refine ⟨passed.eq_cursorAt, ?_, place.le_stop⟩
    rw [passed.position]
    exact Nat.lt_add_of_pos_right (List.length_pos_iff.2 full)
  in_range fuel e failed := by
    rw [List.length_append]
    exact failsWithin (between_cursorAt inside) e failed

end Level

theorem ofTokens_failsWithin (ts : List Token) :
    FailsWithin 0 ts.length (ofTokens (ts ++ [Token.eof])) := by
  have place := between_cursorAt (Nat.zero_le ts.length)
  unfold ofTokens
  dsimp only
  split
  · exact .fail place _
  · refine ((inRange _ _ _).conditional place).bind ?_
    rintro ⟨e, c⟩ done
    split
    · exact .ok _
    · exact .fail (place.reads ((sound _).conditional done)) _

/-- Reading an expression terminates, each level of the descent takes a token but never the end, and
errors are reported within what is read. In a list of tokens, of which only the last has to be the
end, that is at most the place past the last. In a text it is the place of a character, and all that
stands before the token of this character can be read by itself. -/
theorem reading_progresses :
    (∀ ts : List Token,
      (∀ (level : Level) (start : Nat), start ≤ ts.length → level.Progresses ts start) ∧
      ∀ e, ofTokens (ts ++ [Token.eof]) = .error e →
        e.fault ≠ .exhausted ∧ e.position ≤ (ts ++ [Token.eof]).length) ∧
    ∀ text : String,
      (∀ fuel, text.toList.length ≤ fuel → Token.scanAll fuel 0 text.toList = tokenize text) ∧
      ∀ e, tokenize text = .error e →
        ∃ tokens before failing, Token.Fails 0 text.toList tokens before failing e ∧
          tokenize (String.ofList before) = .ok (tokens ++ [Token.eof]) ∧
          ∃ inner c after, failing = inner ++ c :: after ∧
            e.position = (String.ofList (before ++ inner)).utf8ByteSize := by
  constructor
  · intro ts
    refine ⟨fun level start inside => level.progresses inside, fun e failed => ⟨?_, ?_⟩⟩
    · intro exhausted
      refine ofTokens_fuelled (ts ++ [Token.eof]) e.position ?_
      rw [failed, ← exhausted]
    · rw [List.length_append]
      exact (ofTokens_failsWithin ts e failed).2
  · intro text
    refine ⟨fun fuel enough => scanAll_eq_tokenize enough, fun e failed => ?_⟩
    obtain ⟨tokens, before, failing, fails⟩ := tokenize_eq_error_iff.1 failed
    obtain ⟨inner, c, after, parts, place⟩ := Token.scan_error fails.fault
    refine ⟨tokens, before, failing, fails, ?_, inner, c, after, parts, ?_⟩
    · refine tokenize_eq_ok_iff.2 ⟨tokens, rfl, ?_⟩
      rw [String.toList_ofList]
      exact fails.splits
    · rw [place, Nat.zero_add, ← byteLength_append, byteLength_eq]

namespace Unfinished

/-- `x + y.`, which ends where a name should stand. -/
def tokens : List Token := [.identifier "x", .plus, .identifier "y", .dot]

/-- Two strings, the second with an escape that does not exist. The characters `é` and `ü` take two
bytes each. -/
def text : String := "'é' + 'ü\\q'"

/-- The name that is missing is reported at the place past the last token, and the escape at its
backslash. -/
theorem reading_progresses_unfinished :
    (2 ≤ tokens.length ∧ Level.primary.Progresses tokens 2 ∧
      Level.primary.parse 1 (cursorAt (tokens ++ [Token.eof]) 2) =
        .ok (.ident "y", cursorAt (tokens ++ [Token.eof]) 3) ∧ 2 < 3 ∧ 3 ≤ tokens.length) ∧
    (ofTokens (tokens ++ [Token.eof]) = .error ⟨.expected "property name after '.'", 5⟩ ∧
      5 ≤ (tokens ++ [Token.eof]).length) ∧
    (text.toList.length ≤ 20 ∧ Token.scanAll 20 0 text.toList = tokenize text) ∧
    tokenize text = .error ⟨.invalidEscape 'q', 10⟩ ∧
    ∃ tokens before failing,
      Token.Fails 0 text.toList tokens before failing ⟨.invalidEscape 'q', 10⟩ ∧
      tokenize (String.ofList before) = .ok (tokens ++ [Token.eof]) ∧
      ∃ inner c after, failing = inner ++ c :: after ∧
        10 = (String.ofList (before ++ inner)).utf8ByteSize := by
  have inside : 2 ≤ tokens.length := by decide
  have named : Level.primary.parse 1 (cursorAt (tokens ++ [Token.eof]) 2) =
      .ok (.ident "y", cursorAt (tokens ++ [Token.eof]) 3) := rfl
  have unnamed : ofTokens (tokens ++ [Token.eof]) =
      .error ⟨.expected "property name after '.'", 5⟩ := rfl
  have small : text.toList.length ≤ 20 := by decide
  have escape : tokenize text = .error ⟨.invalidEscape 'q', 10⟩ := by cbv
  obtain ⟨levels, whole⟩ := reading_progresses.1 tokens
  obtain ⟨steps, faults⟩ := reading_progresses.2 text
  have progress := levels .primary 2 inside
  exact ⟨⟨inside, progress, named, (progress.advances _ _ _ named).2⟩,
    ⟨unnamed, (whole _ unnamed).2⟩, ⟨small, steps 20 small⟩, escape, faults _ escape⟩

end Unfinished

end TaskGraph.Expr
