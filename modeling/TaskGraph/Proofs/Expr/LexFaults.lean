import TaskGraph.Proofs.Expr.Lexing
import TaskGraph.Proofs.Text

/-! Texts that are not made of tokens. Reading such a text goes on up to a place at which no
token starts. What stands before that place is read by itself as it is read there, and the error
names a character behind it. -/

namespace TaskGraph.Expr

@[simp] theorem byteLength_append (s t : List Char) :
    byteLength (s ++ t) = byteLength s + byteLength t := by
  induction s with
  | nil => exact (Nat.zero_add _).symm
  | cons c s ih => rw [List.cons_append, byteLength, byteLength, ih, Nat.add_assoc]

theorem byteLength_eq (s : List Char) : byteLength s = (String.ofList s).utf8ByteSize := by
  induction s with
  | nil => rfl
  | cons c s ih =>
    rw [byteLength, ih, String.ofList_cons, String.utf8ByteSize_append,
      String.utf8ByteSize_singleton]

namespace Token

variable {quote : Char} {s rest more left before failing : List Char} {token : Token}
  {tokens : List Token} {position fuel : Nat} {e : LexError}

/-! ### Cutting a text behind a token -/

theorem fraction_shorten (none : fraction (rest ++ more) = []) : fraction rest = [] := by
  cases rest with
  | nil => rfl
  | cons c tail =>
    by_cases point : c = '.'
    · subst point
      cases tail with
      | nil => rfl
      | cons digit tail => simpa [fraction, List.takeWhile_cons] using none
    · exact fraction_other point tail

/-- The digits behind a point, and what stops them. -/
theorem fraction_cut (some : fraction s ≠ []) :
    ∃ tail, s = '.' :: (fraction s ++ tail) ∧
      Text.Cut Char.isDigit (fraction s ++ tail) (fraction s) tail := by
  unfold fraction at some ⊢
  split
  · rename_i tail
    have cut := Text.cut_span Char.isDigit tail
    refine ⟨tail.dropWhile Char.isDigit, ?_, ?_⟩
    · rw [← cut.parts]
    · rwa [← cut.parts]
  · rename_i other
    split at some
    · exact absurd rfl (other _)
    · exact absurd rfl some

theorem scanNumber_cut (h : scanNumber position s = .ok (token, rest ++ more)) :
    ∃ taken, s = taken ++ (rest ++ more) ∧
      ∀ position', scanNumber position' (taken ++ rest) = .ok (token, rest) := by
  have cut := Text.cut_span Char.isDigit s
  rw [scanNumber_eq] at h
  dsimp only at h
  split at h
  · rename_i whole
    split at h
    · rename_i small
      obtain ⟨rfl, left⟩ := Prod.mk.inj (Except.ok.inj h)
      rw [left] at cut whole
      refine ⟨_, cut.parts, fun position' => ?_⟩
      have none := fraction_shorten (List.isEmpty_iff.1 whole)
      rw [scanNumber_eq]
      simp only [cut.shorten.takeWhile_eq, cut.shorten.dropWhile_eq, none]
      exact if_pos small
    · cases h
  · rename_i point
    obtain ⟨rfl, left⟩ := Prod.mk.inj (Except.ok.inj h)
    obtain ⟨tail, parts, digits⟩ := fraction_cut (by simpa using point)
    generalize fraction (s.dropWhile Char.isDigit) = fractional at left parts digits point ⊢
    rw [parts, Nat.add_comm, List.drop_succ_cons, List.drop_left] at left
    rw [left] at digits parts
    rw [parts] at cut
    refine ⟨s.takeWhile Char.isDigit ++ '.' :: fractional, by simpa using cut.parts, fun _ => ?_⟩
    have longer : Text.Cut Char.isDigit s (s.takeWhile Char.isDigit)
        ('.' :: (fractional ++ rest) ++ more) := by simpa using cut
    have again := longer.shorten
    have same : fraction ('.' :: (fractional ++ rest)) = fractional := digits.shorten.takeWhile_eq
    rw [List.append_assoc, List.cons_append, scanNumber_eq]
    simp only [again.takeWhile_eq, again.dropWhile_eq, same]
    rw [if_neg point, Nat.add_comm, List.drop_succ_cons, List.drop_left]

/-- A token is read the same where the text ends earlier, but not before the token does. -/
theorem Starts.cut (starts : Starts s token (rest ++ more)) :
    ∃ taken, s = taken ++ (rest ++ more) ∧ Starts (taken ++ rest) token rest := by
  generalize behind : rest ++ more = left at starts
  cases starts with
  | symbol listed ends =>
    refine ⟨_, rfl, .symbol listed fun extends' equals => ends extends' ?_⟩
    rw [← behind, List.head?_append, equals, Option.some_or]
  | string quoted ends =>
    subst behind
    obtain ⟨taken, rfl, again⟩ := scanString_cut (ends 0 0)
    exact ⟨_ :: taken, rfl, .string quoted fun start position => again start position rest⟩
  | number digit reads =>
    subst behind
    obtain ⟨taken, parts, again⟩ := scanNumber_cut (reads 0)
    cases taken with
    | nil =>
      have short := scanNumber_length digit (reads 0)
      have long := congrArg List.length parts
      simp only [List.nil_append, List.length_cons] at short long
      omega
    | cons lead taken =>
      obtain ⟨rfl, -⟩ := List.cons.inj parts
      exact ⟨_, parts, .number digit again⟩
  | @word c s start =>
    have cut := Text.cut_span isNameRest s
    rw [← behind] at cut ⊢
    have word := Starts.word (s := s.takeWhile isNameRest ++ rest) start
    rw [cut.shorten.takeWhile_eq, cut.shorten.dropWhile_eq] at word
    exact ⟨c :: s.takeWhile isNameRest, congrArg (c :: ·) cut.parts, word⟩

theorem Starts.taken (starts : Starts s token rest) : ∃ taken, s = taken ++ rest := by
  have whole : Starts s token ([] ++ rest) := starts
  obtain ⟨taken, parts, -⟩ := whole.cut
  exact ⟨taken, parts⟩

/-! ### Reading the start of a text -/

theorem scanAll_next {blanks : List Char} {c : Char} {tail : List Char}
    (blank : ∀ c ∈ blanks, Unicode.isBlank c = Bool.true) (solid : Unicode.isBlank c = Bool.false) :
    let start := position + byteLength blanks
    scanAll (fuel + 1) position (blanks ++ c :: tail) = do
      let (token, rest) ← scan start (c :: tail)
      let tokens ← scanAll fuel (start + byteLength (c :: tail) - byteLength rest) rest
      return token :: tokens := by
  have cut : Text.Cut Unicode.isBlank (blanks ++ c :: tail) blanks (c :: tail) := by
    refine ⟨rfl, blank, fun first lead => ?_⟩
    obtain rfl := Option.some.inj lead
    exact solid
  rw [scanAll_succ fuel position cut.dropWhile_eq, cut.takeWhile_eq]

/-- A text that starts with some tokens, perhaps with blanks before each of them, and what follows
the last one. -/
inductive Begins : List Char → List Token → List Char → Prop where
  | start {s : List Char} : Begins s [] s
  | next {blanks s rest left : List Char} {token : Token} {tokens : List Token} :
      (∀ c ∈ blanks, Unicode.isBlank c = Bool.true) → Starts s token rest →
      Begins rest tokens left → Begins (blanks ++ s) (token :: tokens) left

namespace Begins

/-- A text that ends behind the last of its tokens, or behind the blanks after it, is made of these
tokens. -/
theorem cut {blanks : List Char} (blank : ∀ c ∈ blanks, Unicode.isBlank c = Bool.true)
    (begins : Begins s tokens (blanks ++ left)) :
    ∃ taken, s = taken ++ left ∧ Splits taken tokens := by
  generalize behind : blanks ++ left = after at begins
  induction begins with
  | start => exact ⟨blanks, behind.symm, .done blank⟩
  | @next blanks' s rest _ token tokens blank' starts _ ih =>
    obtain ⟨taken, rfl, splits⟩ := ih behind
    obtain ⟨first, rfl, again⟩ := starts.cut
    refine ⟨blanks' ++ (first ++ taken), ?_, .next blank' again splits⟩
    simp only [List.append_assoc]

theorem taken (begins : Begins s tokens left) : ∃ taken, s = taken ++ left := by
  have blank : ∀ c ∈ ([] : List Char), Unicode.isBlank c = Bool.true := nofun
  obtain ⟨taken, parts, -⟩ := cut blank begins
  exact ⟨taken, parts⟩

/-- After the tokens at its start, a text is read like what follows them. -/
theorem scanAll_eq (begins : Begins s tokens left) (position : Nat) (enough : s.length ≤ fuel) :
    ∃ fuel', left.length ≤ fuel' ∧ scanAll fuel position s = do
      let others ← scanAll fuel' (position + byteLength s - byteLength left) left
      return tokens ++ others := by
  induction begins generalizing fuel position with
  | @start s =>
    refine ⟨fuel, enough, ?_⟩
    rw [Nat.add_sub_cancel]
    exact (bind_pure _).symm
  | @next blanks s rest left token tokens blank starts begins ih =>
    obtain ⟨c, tail, rfl, solid, progress⟩ := starts.lead
    obtain ⟨first, parts⟩ := starts.taken
    obtain ⟨middle, rfl⟩ := begins.taken
    have room : (middle ++ left).length < fuel := by
      simp only [List.length_append, List.length_cons] at enough progress ⊢
      omega
    obtain ⟨fuel, rfl⟩ : ∃ n, fuel = n + 1 := ⟨fuel - 1, by omega⟩
    obtain ⟨fuel', enough', same⟩ := ih _ (Nat.le_of_lt_succ room)
    refine ⟨fuel', enough', ?_⟩
    rw [scanAll_next blank solid, starts.scan_eq, ok_bind]
    dsimp only
    rw [same]
    simp only [parts, byteLength_append, bind_assoc, pure_bind, List.cons_append]
    congr 2
    omega

end Begins

/-! ### Where no token starts -/

theorem scanString_error {start : Nat} (h : scanString quote start position s = .error e) :
    e.position = start ∨
      ∃ inner c after, s = inner ++ c :: after ∧ e.position = position + byteLength inner := by
  fun_induction scanString quote start position s with
  | case1 => cases h; exact .inl rfl
  | case2 => cases h; exact .inl rfl
  | case3 position c s refused =>
    cases h
    exact .inr ⟨[], '\\', c :: s, rfl, rfl⟩
  | case4 position c s escaped escapes ih =>
    obtain failed | ⟨⟨_, _⟩, -, ⟨⟩⟩ := bind_eq_error_iff.1 h
    obtain first | ⟨inner, c', after, rfl, place⟩ := ih failed
    · exact .inl first
    · refine .inr ⟨'\\' :: c :: inner, c', after, rfl, ?_⟩
      simp only [place, byteLength, Nat.add_assoc]
      rfl
  | case5 => cases h
  | case6 position c s plain other ih =>
    obtain failed | ⟨⟨_, _⟩, -, ⟨⟩⟩ := bind_eq_error_iff.1 h
    obtain first | ⟨inner, c', after, rfl, place⟩ := ih failed
    · exact .inl first
    · refine .inr ⟨c :: inner, c', after, rfl, ?_⟩
      rw [place, byteLength, Nat.add_assoc]

theorem scanNumber_error (h : scanNumber position s = .error e) : e.position = position := by
  rw [scanNumber_eq] at h
  dsimp only at h
  split at h
  · split at h
    · cases h
    · cases h
      rfl
  · cases h

/-- An error names a character of the text that starts with no token. -/
theorem scan_error (h : scan position s = .error e) :
    ∃ inner c after, s = inner ++ c :: after ∧ e.position = position + byteLength inner := by
  unfold scan at h
  split at h
  case h_29 =>
    split at h
    · rename_i quoted
      obtain failed | ⟨⟨_, _⟩, -, ⟨⟩⟩ := bind_eq_error_iff.1 h
      obtain first | ⟨inner, c, after, rfl, place⟩ := scanString_error failed
      · exact ⟨[], _, _, rfl, first⟩
      · refine ⟨_ :: inner, c, after, rfl, ?_⟩
        rw [place, byteLength, Nat.add_assoc]
        rcases quoted with rfl | rfl <;> rfl
    · split at h
      · exact ⟨[], _, _, rfl, scanNumber_error h⟩
      · split at h
        · cases h
        · cases h
          exact ⟨[], _, _, rfl, rfl⟩
  -- the beginnings of symbols that are none themselves
  case h_18 | h_26 | h_28 =>
    cases h
    exact ⟨[], _, _, rfl, rfl⟩
  all_goals cases h

/-- How reading a text at some position fails. Some tokens are read, the blanks after them are
passed, and what is left starts with no token. -/
structure Fails (position : Nat) (s : List Char) (tokens : List Token) (before failing : List Char)
    (e : LexError) : Prop where
  parts : s = before ++ failing
  reads : ∃ blanks, (∀ c ∈ blanks, Unicode.isBlank c = Bool.true) ∧
    Begins s tokens (blanks ++ failing)
  solid : ∀ c, failing.head? = some c → Unicode.isBlank c = Bool.false
  fault : scan (position + byteLength before) failing = .error e

/-- A token in front of a text puts off the place where reading fails. -/
theorem Fails.next {blanks taken : List Char}
    (blank : ∀ c ∈ blanks, Unicode.isBlank c = Bool.true)
    (starts : Starts (taken ++ rest) token rest)
    (fails : Fails (position + byteLength blanks + byteLength taken) rest tokens before failing e) :
    Fails position (blanks ++ (taken ++ rest)) (token :: tokens) (blanks ++ (taken ++ before))
      failing e := by
  obtain ⟨parts, ⟨blanks', blank', begins⟩, solid, fault⟩ := fails
  refine ⟨?_, ⟨blanks', blank', .next blank starts begins⟩, solid, ?_⟩
  · simp only [parts, List.append_assoc]
  · simpa only [byteLength_append, Nat.add_assoc] using fault

theorem fails_of_scanAll (enough : s.length ≤ fuel) (h : scanAll fuel position s = .error e) :
    ∃ tokens before failing, Fails position s tokens before failing e := by
  induction fuel generalizing position s with
  | zero =>
    obtain rfl := List.length_eq_zero_iff.1 (Nat.le_zero.1 enough)
    rw [scanAll_nil 0 rfl] at h
    cases h
  | succ fuel ih =>
    have cut := Text.cut_span Unicode.isBlank s
    cases left : s.dropWhile Unicode.isBlank with
    | nil =>
      rw [scanAll_nil _ left] at h
      cases h
    | cons c tail =>
      rw [scanAll_succ fuel position left] at h
      rw [left] at cut
      obtain failed | ⟨⟨token, rest⟩, first, h⟩ := bind_eq_error_iff.1 h
      · exact ⟨[], _, c :: tail, cut.parts, ⟨_, cut.all, cut.parts ▸ .start⟩, cut.stops, failed⟩
      obtain failed | ⟨_, -, ⟨⟩⟩ := bind_eq_error_iff.1 h
      have starts := starts_of_scan (by simp) first
      obtain ⟨c', tail', same, -, progress⟩ := starts.lead
      obtain ⟨rfl, rfl⟩ := List.cons.inj same
      obtain ⟨taken, parts⟩ := starts.taken
      have room : rest.length ≤ fuel := by
        rw [cut.parts] at enough
        simp only [List.length_append, List.length_cons] at enough
        omega
      rw [parts, byteLength_append, ← Nat.add_assoc, Nat.add_sub_cancel] at failed
      obtain ⟨tokens, before, failing, fails⟩ := ih room failed
      rw [cut.parts, parts]
      exact ⟨_, _, failing, .next cut.all (parts ▸ starts) fails⟩

theorem Fails.scanAll_eq (fails : Fails position s tokens before failing e)
    (enough : s.length ≤ fuel) : scanAll fuel position s = .error e := by
  obtain ⟨parts, ⟨blanks, blank, begins⟩, solid, fault⟩ := fails
  obtain ⟨taken, parts'⟩ := begins.taken
  obtain ⟨fuel', enough', same⟩ := begins.scanAll_eq position enough
  obtain rfl : before = taken ++ blanks := by
    rw [parts, ← List.append_assoc] at parts'
    exact List.append_cancel_right parts'
  cases failing with
  | nil => cases fault
  | cons c tail =>
    simp only [List.length_append, List.length_cons] at enough'
    obtain ⟨fuel', rfl⟩ : ∃ n, fuel' = n + 1 := ⟨fuel' - 1, by omega⟩
    have place : position + byteLength s - byteLength (blanks ++ c :: tail) + byteLength blanks =
        position + byteLength (taken ++ blanks) := by
      simp only [parts', byteLength_append]
      omega
    rw [same, scanAll_next blank (solid c rfl), place, fault]
    rfl

/-- What stands before the failure is read by itself as it is read there. -/
theorem Fails.splits (fails : Fails position s tokens before failing e) : Splits before tokens := by
  obtain ⟨parts, ⟨blanks, blank, begins⟩, -, -⟩ := fails
  obtain ⟨taken, parts', splits⟩ := begins.cut blank
  rwa [List.append_cancel_right (parts.symm.trans parts')]

end Token

/-- A text is refused where no token starts. -/
theorem tokenize_eq_error_iff {text : String} {e : LexError} :
    tokenize text = .error e ↔
      ∃ tokens before failing, Token.Fails 0 text.toList tokens before failing e := by
  constructor
  · exact Token.fails_of_scanAll (Nat.le_refl _)
  · rintro ⟨tokens, before, failing, fails⟩
    exact fails.scanAll_eq (Nat.le_refl _)

/-- As many steps as a text has characters are enough to read it, and more change nothing. -/
theorem scanAll_eq_tokenize {text : String} {fuel : Nat} (enough : text.toList.length ≤ fuel) :
    Token.scanAll fuel 0 text.toList = tokenize text := by
  cases read : tokenize text with
  | ok found =>
    obtain ⟨tokens, rfl, splits⟩ := tokenize_eq_ok_iff.1 read
    exact splits.scanAll_eq enough
  | error e =>
    obtain ⟨tokens, before, failing, fails⟩ := tokenize_eq_error_iff.1 read
    exact fails.scanAll_eq enough

end TaskGraph.Expr
