import TaskGraph.Proofs.Expr.Lexing
import TaskGraph.Proofs.Json.Numbers
import TaskGraph.Text.Basic

/-! Tokens written as text. Every token but the end and the floats can be written so that it is
read back, and a list of them as well, with spaces between them. -/

namespace TaskGraph.Expr

namespace Token

/-- A character of a string between single quotes. -/
def escapeChar (c : Char) : List Char := if c = '\\' ∨ c = '\'' then ['\\', c] else [c]

/-- A string between single quotes. All else is written as it is shown. -/
def written : Token → String
  | .string s => String.ofList ('\'' :: s.toList.flatMap escapeChar ++ ['\''])
  | token => token.display

/-- A word of letters, digits and underscores that does not start with a digit. -/
def IsWord (name : List Char) : Prop :=
  (∀ c ∈ name, c.isAlphanum ∨ c = '_') ∧ name.head?.any fun c => !c.isDigit

instance (name : List Char) : Decidable (IsWord name) :=
  @instDecidableAnd _ _ (List.decidableBAll _ name) inferInstance

/-- A token that can be written. An integer token is never below zero and fits 64 signed bits, and
the words of the other tokens are no names. -/
def Writable : Token → Prop
  | .int n => 0 ≤ n ∧ n < int64Bound
  | .identifier name => IsWord name.toList ∧ name ∉ ["null", "true", "false", "in"]
  | .double _ | .eof => False
  | _ => True

/-! ### Reading one token back -/

/-- An escaped character is read as itself, whatever the place of the string. -/
theorem scanString_escapeChar (c : Char) (start position : Nat) (s : List Char) :
    ∃ position', scanString '\'' start position (escapeChar c ++ s) = do
      let (body, rest) ← scanString '\'' start position' s
      return (c :: body, rest) := by
  by_cases special : c = '\\' ∨ c = '\''
  · rw [escapeChar, if_pos special]
    have escapes : escape? c = some c := by rcases special with rfl | rfl <;> rfl
    refine ⟨position + 1 + c.utf8Size, ?_⟩
    simp only [List.cons_append, List.nil_append, scanString, escapes]
  · rw [escapeChar, if_neg special]
    refine ⟨position + c.utf8Size, ?_⟩
    rw [List.cons_append, List.nil_append, scanString, if_neg (not_or.1 special).2]
    exact fun same => absurd same (not_or.1 special).1

theorem scanString_escaped (s : List Char) (start position : Nat) :
    scanString '\'' start position (s.flatMap escapeChar ++ ['\'']) = .ok (s, []) := by
  induction s generalizing position with
  | nil => rfl
  | cons c s ih =>
    obtain ⟨position', read⟩ := scanString_escapeChar c start position _
    rw [List.flatMap_cons, List.append_assoc, read, ih]
    rfl

theorem starts_string (s : String) : Starts (written (.string s)).toList (.string s) [] := by
  have starts := Starts.string (.inl rfl) (scanString_escaped s.toList)
  rw [String.ofList_toList] at starts
  rwa [written, String.toList_ofList]

theorem starts_int {n : Nat} (small : n < int64Bound) : Starts (Nat.toDigits 10 n) (.int n) [] := by
  have digits : ∀ c ∈ Nat.toDigits 10 n, c.isDigit = Bool.true := fun c member =>
    Nat.isDigit_of_mem_toDigits (by decide) (by decide) member
  have whole : (Nat.toDigits 10 n).takeWhile Char.isDigit = Nat.toDigits 10 n :=
    List.takeWhile_eq_self_iff.2 digits
  have reads (position : Nat) : scanNumber position (Nat.toDigits 10 n) = .ok (.int n, []) := by
    rw [scanNumber_eq]
    simp only [whole, List.dropWhile_eq_nil_iff.2 digits, Json.digitsValue_toDigits]
    exact if_pos small
  obtain ⟨c, tail, form, digit⟩ := toDigits_cons n
  rw [form] at reads ⊢
  exact .number digit reads

/-- A word is read as a whole. -/
theorem starts_word {word : String} (h : IsWord word.toList) :
    Starts word.toList (ofWord word) [] := by
  obtain ⟨plain, first⟩ := h
  obtain ⟨c, lead, letter⟩ := (Option.any_eq_true _ _).1 first
  obtain ⟨tail, form⟩ := List.head?_eq_some_iff.1 lead
  rw [form] at plain
  have start : isNameStart c = Bool.true := by
    have := plain c List.mem_cons_self
    simp only [Bool.not_eq_true'] at letter
    simpa [isNameStart, Char.isAlphanum, letter] using this
  have rest : ∀ c ∈ tail, isNameRest c = Bool.true := by
    intro x member
    rcases plain x (List.mem_cons_of_mem _ member) with plain | rfl
    · exact isNameRest_of_isAlphanum plain
    · decide
  have starts := Starts.word (s := tail) start
  rwa [List.takeWhile_eq_self_iff.2 rest, List.dropWhile_eq_nil_iff.2 rest, ← form,
    String.ofList_toList] at starts

theorem ofWord_name {name : String} (other : name ∉ ["null", "true", "false", "in"]) :
    ofWord name = .identifier name := by
  unfold ofWord
  split <;> simp_all

theorem starts_symbol {chars : List Char} {token : Token} (listed : (chars, token) ∈ symbols) :
    Starts chars token [] := by
  have starts : Starts (chars ++ []) token [] := .symbol listed nofun
  rwa [List.append_nil] at starts

theorem starts_written {token : Token} (writable : token.Writable) :
    Starts token.written.toList token [] := by
  cases token with
  | string s => exact starts_string s
  | int n =>
    obtain ⟨n, rfl⟩ := Int.eq_ofNat_of_zero_le writable.1
    have text : (written (.int n)).toList = Nat.toDigits 10 n := by
      simp [written, display, Json.intText, Json.intChars]
    rw [text]
    exact starts_int (Int.ofNat_lt.1 writable.2)
  | identifier name =>
    have starts := starts_word writable.1
    rwa [ofWord_name writable.2] at starts
  | double | eof => exact writable.elim
  | null => exact @starts_word "null" (by decide)
  | true => exact @starts_word "true" (by decide)
  | false => exact @starts_word "false" (by decide)
  | «in» => exact @starts_word "in" (by decide)
  | _ => exact starts_symbol (by decide)

/-! ### Reading a list of tokens back -/

/-- The tokens with a space between one and the next. -/
def writeAll (tokens : List Token) : String := Text.join " " (tokens.map written)

theorem splits_writeAll {tokens : List Token} (writable : ∀ token ∈ tokens, token.Writable) :
    Splits (writeAll tokens).toList tokens := by
  induction tokens with
  | nil => exact .done nofun
  | cons token rest ih =>
    obtain ⟨first, others⟩ := List.forall_mem_cons.1 writable
    have one : Splits token.written.toList [token] :=
      @Splits.next [] _ _ _ _ nofun (starts_written first) (.done nofun)
    cases rest with
    | nil => simpa [writeAll, Text.join] using one
    | cons next rest =>
      simpa [writeAll, Text.join] using one.append (ih others)

end Token

/-- Two texts with a space between them are read as each is by itself, and tokens that are written
with spaces between them are read back. -/
theorem tokenize_side_by_side :
    (∀ (s t : String) (found others : List Token), tokenize s = .ok found →
      tokenize t = .ok others → ∃ tokens, found = tokens ++ [.eof] ∧ .eof ∉ tokens ∧
        tokenize (s ++ " " ++ t) = .ok (tokens ++ others)) ∧
    ∀ tokens : List Token, (∀ token ∈ tokens, token.Writable) →
      tokenize (Token.writeAll tokens) = .ok (tokens ++ [.eof]) := by
  constructor
  · intro s t found others first second
    obtain ⟨tokens, rfl, splits⟩ := tokenize_eq_ok_iff.1 first
    obtain ⟨more, rfl, follows⟩ := tokenize_eq_ok_iff.1 second
    refine ⟨tokens, rfl, splits.ne_eof, tokenize_eq_ok_iff.2 ⟨tokens ++ more, ?_, ?_⟩⟩
    · rw [List.append_assoc]
    · simpa using splits.append follows
  · intro tokens writable
    exact tokenize_eq_ok_iff.2 ⟨tokens, rfl, Token.splits_writeAll writable⟩

namespace Quotation

/-- A string with both quotes, a backslash and a line break in it, compared with a name. -/
def tokens : List Token :=
  [.string "it's \"so\" \\\n", .ne, .identifier "in_2", .question, .int 10]

theorem writable : ∀ token ∈ tokens, token.Writable := by
  simp only [tokens, List.forall_mem_cons, Token.Writable]
  refine ⟨trivial, trivial, ⟨by decide, by decide⟩, trivial, by decide, nofun⟩

/-- Of a sign at the end of one text and an equals sign at the start of the next no other sign is
made. -/
theorem tokenize_side_by_side_quotation :
    (∃ tokens, [.identifier "n", .lt, .eof] = tokens ++ [.eof] ∧ .eof ∉ tokens ∧
      tokenize ("n<" ++ " " ++ "==10.x") =
        .ok (tokens ++ [.eq, .int 10, .dot, .identifier "x", .eof])) ∧
    Token.writeAll tokens = "'it\\'s \"so\" \\\\\n' != in_2 ? 10" ∧
    tokenize (Token.writeAll tokens) = .ok (tokens ++ [.eof]) := by
  refine ⟨tokenize_side_by_side.1 "n<" "==10.x" _ _ (by cbv) (by cbv),
    by decide, tokenize_side_by_side.2 _ writable⟩

end Quotation

end TaskGraph.Expr
