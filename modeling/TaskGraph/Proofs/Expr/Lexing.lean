import Mathlib
import TaskGraph.Expr.Lexer
import TaskGraph.Proofs.Result

/-! The tokens of a text. Which token a text starts with does not depend on its place, and a
blank after the text changes nothing about it. So texts can be put side by side with a blank
between them, and tokens that are written side by side are read back. -/

namespace TaskGraph.Expr

namespace Token

/-- The symbols and what they stand for. -/
def symbols : List (List Char × Token) :=
  [(['+'], .plus), (['-'], .minus), (['*'], .star), (['/'], .slash), (['%'], .percent),
    (['.'], .dot), ([','], .comma), ([':'], .colon), (['?'], .question), (['('], .openParen),
    ([')'], .closeParen), (['['], .openBracket), ([']'], .closeBracket), (['\x7b'], .openBrace),
    (['\x7d'], .closeBrace), (['=', '='], .eq), (['!', '='], .ne), (['!'], .not),
    (['<', '='], .le), (['<'], .lt), (['>', '='], .ge), (['>'], .gt), (['&', '&'], .and),
    (['|', '|'], .or)]

/-- The symbols that an equals sign would make another symbol of. -/
def extendable : List (List Char) := [['!'], ['<'], ['>']]

/-- A text that starts with a token, and what follows the token. -/
inductive Starts : List Char → Token → List Char → Prop where
  | symbol {chars : List Char} {token : Token} {rest : List Char} : (chars, token) ∈ symbols →
      (chars ∈ extendable → rest.head? ≠ some '=') → Starts (chars ++ rest) token rest
  | string {quote : Char} {s body rest : List Char} : quote = '\'' ∨ quote = '"' →
      (∀ start position, scanString quote start position s = .ok (body, rest)) →
      Starts (quote :: s) (.string (String.ofList body)) rest
  | number {c : Char} {s : List Char} {token : Token} {rest : List Char} : c.isDigit = Bool.true →
      (∀ position, scanNumber position (c :: s) = .ok (token, rest)) → Starts (c :: s) token rest
  | word {c : Char} {s : List Char} : isNameStart c = Bool.true →
      Starts (c :: s) (ofWord (String.ofList (c :: s.takeWhile isNameRest)))
        (s.dropWhile isNameRest)

/-- A text that is made of tokens, perhaps with blanks before and after them. -/
inductive Splits : List Char → List Token → Prop where
  | done {blanks : List Char} : (∀ c ∈ blanks, Unicode.isBlank c = Bool.true) → Splits blanks []
  | next {blanks s rest : List Char} {token : Token} {tokens : List Token} :
      (∀ c ∈ blanks, Unicode.isBlank c = Bool.true) → Starts s token rest → Splits rest tokens →
      Splits (blanks ++ s) (token :: tokens)

variable {quote : Char} {s body rest more : List Char} {token : Token}

/-- A text that may follow a token without changing it: it is empty or starts with a space. -/
def Apart (more : List Char) : Prop := ∀ c, more.head? = some c → c = ' '

theorem takeWhile_apart {p : Char → Bool} (stops : p ' ' = Bool.false) (apart : Apart more)
    (s : List Char) : (s ++ more).takeWhile p = s.takeWhile p := by
  induction s with
  | nil =>
    cases more with
    | nil => rfl
    | cons c tail =>
      obtain rfl := apart c rfl
      simp [stops]
  | cons c s ih => simp only [List.cons_append, List.takeWhile_cons, ih]

theorem dropWhile_apart {p : Char → Bool} (stops : p ' ' = Bool.false) (apart : Apart more)
    (s : List Char) : (s ++ more).dropWhile p = s.dropWhile p ++ more := by
  induction s with
  | nil =>
    cases more with
    | nil => rfl
    | cons c tail =>
      obtain rfl := apart c rfl
      simp [stops]
  | cons c s ih =>
    simp only [List.cons_append, List.dropWhile_cons, ih]
    split <;> rfl

/-- A string ends at its quote, wherever it stands and whatever comes after it. -/
theorem scanString_cut {start position : Nat}
    (h : scanString quote start position s = .ok (body, rest)) :
    ∃ taken, s = taken ++ rest ∧ ∀ start' position' more,
      scanString quote start' position' (taken ++ more) = .ok (body, more) := by
  fun_induction scanString quote start position s generalizing body rest with
  | case1 => cases h
  | case2 => cases h
  | case3 => cases h
  | case4 position c s e escapes ih =>
    obtain ⟨⟨body', rest'⟩, scanned, done⟩ := bind_eq_ok_iff.1 h
    obtain ⟨⟩ := done
    obtain ⟨taken, rfl, again⟩ := ih scanned
    refine ⟨'\\' :: c :: taken, rfl, fun start' position' more => ?_⟩
    simp only [List.cons_append, scanString, escapes, again]
    rfl
  | case5 position s plain =>
    obtain ⟨⟩ := h
    refine ⟨[quote], rfl, fun start' position' more => ?_⟩
    rw [List.singleton_append, scanString, if_pos rfl]
    exact plain
  | case6 position c s plain other ih =>
    obtain ⟨⟨body', rest'⟩, scanned, done⟩ := bind_eq_ok_iff.1 h
    obtain ⟨⟩ := done
    obtain ⟨taken, rfl, again⟩ := ih scanned
    refine ⟨c :: taken, rfl, fun start' position' more => ?_⟩
    rw [List.cons_append, scanString, if_neg other, again]
    · rfl
    · exact plain

theorem scanString_ends {start position : Nat}
    (h : scanString quote start position s = .ok (body, rest)) :
    rest.length ≤ s.length ∧ ∀ start' position' more,
      scanString quote start' position' (s ++ more) = .ok (body, rest ++ more) := by
  obtain ⟨taken, rfl, again⟩ := scanString_cut h
  refine ⟨by simp, fun start' position' more => ?_⟩
  rw [List.append_assoc]
  exact again start' position' (rest ++ more)

/-- The digits behind the point, if the text starts with one. -/
def fraction : List Char → List Char
  | '.' :: tail => tail.takeWhile Char.isDigit
  | _ => []

theorem fraction_other {c : Char} (other : c ≠ '.') (tail : List Char) :
    fraction (c :: tail) = [] := by
  unfold fraction
  split
  · rename_i same
    exact absurd (List.cons.inj same).1 other
  · rfl

/-- A point has to be followed by a digit, which no space is. -/
theorem fraction_apart (apart : Apart more) (s : List Char) :
    fraction (s ++ more) = fraction s := by
  cases s with
  | nil =>
    cases more with
    | nil => rfl
    | cons c tail =>
      obtain rfl := apart c rfl
      rfl
  | cons c tail =>
    by_cases point : c = '.'
    · subst point
      exact takeWhile_apart (by decide) apart tail
    · rw [List.cons_append, fraction_other point, fraction_other point]

theorem length_fraction (some : fraction s ≠ []) : 1 + (fraction s).length ≤ s.length := by
  unfold fraction at some ⊢
  split
  · rename_i tail
    have short := (List.takeWhile_sublist (l := tail) Char.isDigit).length_le
    simpa [Nat.add_comm] using short
  · rename_i other
    split at some
    · exact absurd rfl (other _)
    · exact absurd rfl some

theorem scanNumber_eq (position : Nat) (s : List Char) :
    scanNumber position s =
      let whole := s.takeWhile Char.isDigit
      let after := s.dropWhile Char.isDigit
      if (fraction after).isEmpty then
        if Json.digitsValue whole < int64Bound then .ok (.int (Json.digitsValue whole), after)
        else .error ⟨.invalidNumber (String.ofList whole), position⟩
      else
        .ok (.double (Decimal.toFloat Bool.false
            ⟨Json.digitsValue (whole ++ fraction after), -(fraction after).length⟩),
          after.drop (1 + (fraction after).length)) := rfl

theorem scanNumber_append {position : Nat} (h : scanNumber position s = .ok (token, rest))
    (position' : Nat) (apart : Apart more) :
    scanNumber position' (s ++ more) = .ok (token, rest ++ more) := by
  rw [scanNumber_eq] at h ⊢
  simp only [takeWhile_apart (p := Char.isDigit) (by decide) apart,
    dropWhile_apart (p := Char.isDigit) (by decide) apart, fraction_apart apart] at h ⊢
  split at h
  · rename_i whole
    rw [if_pos whole]
    split at h
    · rename_i small
      obtain ⟨⟩ := h
      rw [if_pos small]
    · cases h
  · rename_i point
    obtain ⟨⟩ := h
    rw [if_neg point, List.drop_append_of_le_length (length_fraction (by simpa using point))]

theorem scanNumber_length {c : Char} {position : Nat} (digit : c.isDigit = Bool.true)
    (h : scanNumber position (c :: s) = .ok (token, rest)) : rest.length ≤ s.length := by
  have short := (List.dropWhile_sublist (l := s) Char.isDigit).length_le
  rw [scanNumber_eq, List.dropWhile_cons_of_pos digit] at h
  dsimp only at h
  split at h
  · split at h
    · obtain ⟨⟩ := h
      exact short
    · cases h
  · obtain ⟨⟩ := h
    rw [List.length_drop]
    omega

/-- A symbol is read as what it stands for, unless an equals sign makes another symbol of it. -/
theorem scan_symbol {chars : List Char} (position : Nat) (listed : (chars, token) ∈ symbols)
    (ends : chars ∈ extendable → rest.head? ≠ some '=') :
    scan position (chars ++ rest) = .ok (token, rest) := by
  have each : ∀ entry ∈ symbols, (entry.1 ∈ extendable → rest.head? ≠ some '=') →
      scan position (entry.1 ++ rest) = .ok (entry.2, rest) := by
    simp only [symbols, List.forall_mem_cons, List.not_mem_nil, false_implies, implies_true,
      and_true]
    and_intros
    all_goals intro ends
    all_goals try rfl
    all_goals
      have plain : ∀ tail, rest = '=' :: tail → False := by
        rintro tail rfl
        exact ends (by decide) rfl
      rw [List.singleton_append, scan]
      exact plain
  exact each _ listed ends

/-- What is no symbol is a string, a number or a word. -/
theorem scan_other {c : Char} (position : Nat) (s : List Char)
    (other : ∀ entry ∈ symbols, entry.1.head? ≠ some c) :
    scan position (c :: s) =
      if c = '\'' ∨ c = '"' then do
        let (body, rest) ← scanString c position (position + 1) s
        return (.string (String.ofList body), rest)
      else if c.isDigit then scanNumber position (c :: s)
      else if isNameStart c then
        .ok (ofWord (String.ofList (c :: s.takeWhile isNameRest)), s.dropWhile isNameRest)
      else .error ⟨.unexpectedCharacter c, position⟩ := by
  simp [symbols] at other
  rw [scan]
  all_goals grind

theorem Starts.single {c : Char} (listed : ([c], token) ∈ symbols)
    (ends : [c] ∈ extendable → ∀ tail, rest ≠ '=' :: tail) : Starts (c :: rest) token rest := by
  show Starts ([c] ++ rest) token rest
  refine .symbol listed fun extends' => ?_
  rw [Ne, List.head?_eq_some_iff]
  rintro ⟨tail, same⟩
  exact ends extends' tail same

theorem Starts.double {a b : Char} (listed : ([a, b], token) ∈ symbols) :
    Starts (a :: b :: rest) token rest := by
  show Starts ([a, b] ++ rest) token rest
  exact .symbol listed (by simp [extendable])

theorem starts_of_scan {position : Nat} (full : s ≠ [])
    (h : scan position s = .ok (token, rest)) : Starts s token rest := by
  unfold scan at h
  split at h
  case h_1 => exact absurd rfl full
  case h_29 c s =>
    split at h
    · rename_i quoted
      obtain ⟨⟨body, after⟩, scanned, done⟩ := bind_eq_ok_iff.1 h
      obtain ⟨⟩ := done
      refine .string quoted fun start position' => ?_
      simpa using (scanString_ends scanned).2 start position' []
    · split at h
      · rename_i digit
        refine .number digit fun position' => ?_
        have apart : Apart [] := nofun
        simpa using scanNumber_append h position' apart
      · split at h
        · rename_i letter
          obtain ⟨⟩ := h
          exact .word letter
        · cases h
  -- the beginnings of symbols that are none themselves
  case h_18 | h_26 | h_28 => cases h
  -- the symbols that can be extended, of which it is known that they are not
  case h_20 | h_22 | h_24 =>
    rename_i plain
    cases h
    exact .single (by decide) fun _ => plain
  all_goals
    cases h
    first
      | exact .double (by decide)
      | exact .single (by decide) (by simp [extendable])

/-! ### Characters -/

/-- What holds of the first characters can be tried out. -/
theorem ascii {p : Char → Prop} (each : ∀ n < 128, p (Char.ofNat n)) {c : Char}
    (small : c.toNat < 128) : p c := by
  have held := each c.toNat small
  rwa [Char.ofNat_toNat] at held

theorem small_of_isAlphanum {c : Char} (plain : c.isAlphanum = Bool.true) : c.toNat < 128 := by
  simp only [Char.isAlphanum, Char.isAlpha, Char.isUpper, Char.isLower, Char.isDigit,
    Bool.or_eq_true, Bool.and_eq_true, decide_eq_true_eq, UInt32.le_iff_toNat_le, ge_iff_le,
    Char.reduceVal, UInt32.reduceToNat] at plain
  rw [Char.toNat]
  omega

theorem small_of_isNameStart {c : Char} (start : isNameStart c = Bool.true) : c.toNat < 128 := by
  rcases Bool.or_eq_true_iff.1 start with letter | underscore
  · exact small_of_isAlphanum (by simp [Char.isAlphanum, letter])
  · rw [of_decide_eq_true underscore]
    decide

theorem small_of_isDigit {c : Char} (digit : c.isDigit = Bool.true) : c.toNat < 128 :=
  small_of_isAlphanum (by simp [Char.isAlphanum, digit])

/-- What sets a character apart with which a number or a word may start. -/
structure Leads (c : Char) : Prop where
  solid : Unicode.isBlank c = Bool.false
  other : ∀ entry ∈ symbols, entry.1.head? ≠ some c
  plain : ¬(c = '\'' ∨ c = '"')

instance (c : Char) : Decidable (Leads c) :=
  decidable_of_iff (Unicode.isBlank c = Bool.false ∧ (∀ entry ∈ symbols, entry.1.head? ≠ some c) ∧
    ¬(c = '\'' ∨ c = '"')) ⟨fun ⟨solid, other, plain⟩ => ⟨solid, other, plain⟩,
      fun ⟨solid, other, plain⟩ => ⟨solid, other, plain⟩⟩

theorem leads_of_isDigit {c : Char} (digit : c.isDigit = Bool.true) : Leads c :=
  ascii (p := fun c => c.isDigit = Bool.true → Leads c) (by decide +kernel)
    (small_of_isDigit digit) digit

theorem leads_of_isNameStart {c : Char} (start : isNameStart c = Bool.true) :
    Leads c ∧ c.isDigit = Bool.false :=
  ascii (p := fun c => isNameStart c = Bool.true → Leads c ∧ c.isDigit = Bool.false)
    (by decide +kernel) (small_of_isNameStart start) start

theorem isNameRest_of_isAlphanum {c : Char} (plain : c.isAlphanum = Bool.true) :
    isNameRest c = Bool.true :=
  ascii (p := fun c => c.isAlphanum = Bool.true → isNameRest c = Bool.true) (by decide +kernel)
    (small_of_isAlphanum plain) plain

/-! ### Which token comes first -/

namespace Starts

theorem scan_eq (starts : Starts s token rest) (position : Nat) :
    scan position s = .ok (token, rest) := by
  cases starts with
  | symbol listed ends => exact scan_symbol position listed ends
  | string quoted ends =>
    rw [scan_other position _ (by rcases quoted with rfl | rfl <;> decide), if_pos quoted,
      ends position (position + 1)]
    rfl
  | number digit reads =>
    have leads := leads_of_isDigit digit
    rw [scan_other position _ leads.other, if_neg leads.plain, if_pos digit]
    exact reads position
  | word start =>
    obtain ⟨leads, letter⟩ := leads_of_isNameStart start
    rw [scan_other position _ leads.other, if_neg leads.plain, if_neg (by simp [letter]),
      if_pos start]

theorem append (starts : Starts s token rest) (apart : Apart more) :
    Starts (s ++ more) token (rest ++ more) := by
  cases starts with
  | symbol listed ends =>
    rw [List.append_assoc]
    refine .symbol listed fun extends' => ?_
    cases rest with
    | nil =>
      intro equals
      exact absurd (apart '=' equals) (by decide)
    | cons c tail => exact ends extends'
  | string quoted ends =>
    exact .string quoted fun start position => (scanString_ends (ends start position)).2 _ _ more
  | number digit reads =>
    exact .number digit fun position => scanNumber_append (reads position) position apart
  | @word c s start =>
    have taken := takeWhile_apart (p := isNameRest) (by decide) apart s
    have left := dropWhile_apart (p := isNameRest) (by decide) apart s
    rw [← taken, ← left]
    exact .word start

/-- A token takes at least one character, which is no blank. -/
theorem lead (starts : Starts s token rest) :
    ∃ c tail, s = c :: tail ∧ Unicode.isBlank c = Bool.false ∧ rest.length ≤ tail.length := by
  cases starts with
  | @symbol chars _ _ listed ends =>
    have solid : ∀ entry ∈ symbols, entry.1.head?.any (!Unicode.isBlank ·) := by decide
    obtain ⟨c, lead, plain⟩ := (Option.any_eq_true _ _).1 (solid _ listed)
    obtain ⟨tail, rfl⟩ := List.head?_eq_some_iff.1 lead
    exact ⟨c, tail ++ rest, rfl, by simpa using plain, by simp⟩
  | string quoted ends =>
    exact ⟨_, _, rfl, by rcases quoted with rfl | rfl <;> decide,
      (scanString_ends (ends 0 0)).1⟩
  | number digit reads =>
    exact ⟨_, _, rfl, (leads_of_isDigit digit).solid, scanNumber_length digit (reads 0)⟩
  | word start =>
    exact ⟨_, _, rfl, (leads_of_isNameStart start).1.solid,
      (List.dropWhile_sublist _).length_le⟩

theorem ne_eof (starts : Starts s token rest) : token ≠ .eof := by
  cases starts with
  | symbol listed ends =>
    have none : ∀ entry ∈ symbols, entry.2 ≠ .eof := by decide
    exact none _ listed
  | string quoted ends => nofun
  | number digit reads =>
    have read := reads 0
    rw [scanNumber_eq] at read
    dsimp only at read
    split at read
    · split at read
      · obtain ⟨⟩ := read
        nofun
      · cases read
    · obtain ⟨⟩ := read
      nofun
  | word start =>
    unfold ofWord
    split <;> nofun

end Starts

/-! ### Splitting a text -/

theorem scanAll_nil {position : Nat} (fuel : Nat)
    (empty : s.dropWhile Unicode.isBlank = []) : scanAll fuel position s = .ok [.eof] := by
  unfold scanAll
  simp only [empty]

/-- What is left after the blanks is read as a token and as what follows it. -/
theorem scanAll_succ {c : Char} {tail : List Char} (fuel position : Nat)
    (left : s.dropWhile Unicode.isBlank = c :: tail) :
    let start := position + byteLength (s.takeWhile Unicode.isBlank)
    scanAll (fuel + 1) position s = do
      let (token, rest) ← scan start (c :: tail)
      let tokens ← scanAll fuel (start + byteLength (c :: tail) - byteLength rest) rest
      return token :: tokens := by
  rw [scanAll.eq_def]
  simp only [left]

theorem Splits.ne_eof {tokens : List Token} (splits : Splits s tokens) : .eof ∉ tokens := by
  induction splits with
  | done blank => exact List.not_mem_nil
  | next blank starts splits ih =>
    rintro (_ | ⟨_, later⟩)
    · exact starts.ne_eof rfl
    · exact ih later

theorem splits_of_scanAll {fuel position : Nat} {found : List Token} (enough : s.length ≤ fuel)
    (h : scanAll fuel position s = .ok found) :
    ∃ tokens, found = tokens ++ [.eof] ∧ Splits s tokens := by
  induction fuel generalizing s position found with
  | zero =>
    obtain rfl := List.length_eq_zero_iff.1 (Nat.le_zero.1 enough)
    rw [scanAll_nil 0 rfl] at h
    obtain ⟨⟩ := h
    exact ⟨[], rfl, .done nofun⟩
  | succ fuel ih =>
    have blank : ∀ c ∈ s.takeWhile Unicode.isBlank, Unicode.isBlank c = Bool.true := fun c member =>
      List.all_eq_true.1 List.all_takeWhile c member
    have parts := List.takeWhile_append_dropWhile (p := Unicode.isBlank) (l := s)
    cases left : s.dropWhile Unicode.isBlank with
    | nil =>
      rw [scanAll_nil _ left] at h
      obtain ⟨⟩ := h
      exact ⟨[], rfl, .done (List.dropWhile_eq_nil_iff.1 left)⟩
    | cons c tail =>
      rw [scanAll_succ fuel position left] at h
      obtain ⟨⟨token, rest⟩, first, h⟩ := bind_eq_ok_iff.1 h
      obtain ⟨others, later, done⟩ := bind_eq_ok_iff.1 h
      obtain ⟨⟩ := done
      have starts := starts_of_scan (by simp) first
      obtain ⟨c', tail', same, -, progress⟩ := starts.lead
      obtain ⟨rfl, rfl⟩ := List.cons.inj same
      rw [left] at parts
      have shorter : tail.length < s.length := by
        rw [← parts]
        simp
        omega
      obtain ⟨tokens, rfl, splits⟩ := ih (by omega) later
      exact ⟨token :: tokens, rfl, parts ▸ .next blank starts splits⟩

theorem Splits.scanAll_eq {tokens : List Token} (splits : Splits s tokens) {fuel position : Nat}
    (enough : s.length ≤ fuel) : scanAll fuel position s = .ok (tokens ++ [.eof]) := by
  induction splits generalizing fuel position with
  | done blank => exact scanAll_nil fuel (List.dropWhile_eq_nil_iff.2 blank)
  | @next blanks s rest token tokens blank starts splits ih =>
    obtain ⟨c, tail, rfl, solid, progress⟩ := starts.lead
    have left : (blanks ++ c :: tail).dropWhile Unicode.isBlank = c :: tail := by
      rw [List.dropWhile_append_of_pos blank, List.dropWhile_cons_of_neg (by simp [solid])]
    have room : tail.length < fuel := by
      simp only [List.length_append, List.length_cons] at enough
      omega
    obtain ⟨fuel, rfl⟩ : ∃ n, fuel = n + 1 := ⟨fuel - 1, by omega⟩
    rw [scanAll_succ fuel position left, starts.scan_eq, ok_bind]
    dsimp only
    rw [ih (by omega)]
    rfl

/-- Blanks before a text mean nothing. -/
theorem Splits.blanks_append {blanks : List Char} {tokens : List Token}
    (blank : ∀ c ∈ blanks, Unicode.isBlank c = Bool.true) (splits : Splits s tokens) :
    Splits (blanks ++ s) tokens := by
  cases splits with
  | done more => exact .done fun c member => (List.mem_append.1 member).elim (blank c) (more c)
  | next more starts splits =>
    rw [← List.append_assoc]
    exact .next (fun c member => (List.mem_append.1 member).elim (blank c) (more c)) starts splits

/-- Of two texts with a space between them, neither changes the tokens of the other. -/
theorem Splits.append {t : List Char} {tokens others : List Token} (splits : Splits s tokens)
    (follows : Splits t others) : Splits (s ++ ' ' :: t) (tokens ++ others) := by
  induction splits with
  | done blank =>
    have space : ∀ c ∈ [' '], Unicode.isBlank c = Bool.true :=
      List.forall_mem_singleton.2 (by decide)
    exact .blanks_append blank (.blanks_append space follows)
  | next blank starts splits ih =>
    rw [List.append_assoc]
    refine .next blank (starts.append ?_) ih
    rintro c ⟨⟩
    rfl

end Token

/-- The tokens of a text are those it is made of, and the end. -/
theorem tokenize_eq_ok_iff {text : String} {found : List Token} :
    tokenize text = .ok found ↔
      ∃ tokens, found = tokens ++ [.eof] ∧ Token.Splits text.toList tokens := by
  constructor
  · exact Token.splits_of_scanAll (Nat.le_refl _)
  · rintro ⟨tokens, rfl, splits⟩
    exact splits.scanAll_eq (Nat.le_refl _)

end TaskGraph.Expr
