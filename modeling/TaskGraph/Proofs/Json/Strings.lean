import TaskGraph.Json.Parser
import TaskGraph.Json.Printer

/-! String texts. Reading the text of a string gives the string back, so a text ends
where its string ends and belongs to no other string. -/

namespace TaskGraph.Json

theorem lowerHex_below (n : Nat) (bound : n < 32) (above : 16 ≤ n) :
    lowerHex n = ['1', Nat.digitChar (n - 16)] := by
  revert n
  decide

theorem hexQuad?_below : ∀ n < 16, hexQuad? '0' '0' '0' (Nat.digitChar n) = some n := by decide

theorem hexQuad?_above : ∀ n < 16, hexQuad? '0' '0' '1' (Nat.digitChar n) = some (n + 16) := by
  decide

/-- A character is written as itself, as a letter or as four digits. -/
theorem escapeChar_form (c : Char) :
    (∃ letter, escapeChar c = ['\\', letter] ∧ simpleEscape? letter = some c) ∨
    (∃ x y, escapeChar c = ['\\', 'u', '0', '0', x, y] ∧
      hexQuad? '0' '0' x y = some c.toNat ∧ c.toNat < 32) ∨
    (escapeChar c = [c] ∧ 32 ≤ c.toNat ∧ c ≠ '"' ∧ c ≠ '\\') := by
  unfold escapeChar
  split
  · exact .inl ⟨_, rfl, rfl⟩
  · exact .inl ⟨_, rfl, rfl⟩
  · exact .inl ⟨_, rfl, rfl⟩
  · exact .inl ⟨_, rfl, rfl⟩
  · exact .inl ⟨_, rfl, rfl⟩
  · exact .inl ⟨_, rfl, rfl⟩
  · exact .inl ⟨_, rfl, rfl⟩
  · rename_i notQuote notBackslash _ _ _ _ _
    split
    · rename_i small
      refine .inr (.inl ⟨'0', Nat.digitChar c.toNat, ?_, hexQuad?_below _ small, by omega⟩)
      rw [lowerHex, Nat.toDigits_of_lt_base small]
    · split
      · rename_i large small
        refine .inr (.inl ⟨'1', Nat.digitChar (c.toNat - 16), ?_, ?_, small⟩)
        · rw [lowerHex_below _ small (by omega)]
        · rw [hexQuad?_above _ (by omega), Nat.sub_add_cancel (by omega)]
      · rename_i plain
        exact .inr (.inr ⟨rfl, by omega, notQuote, notBackslash⟩)

theorem stringBody_letter {letter c : Char} (means : simpleEscape? letter = some c)
    (rest : List Char) :
    stringBody ('\\' :: letter :: rest) = (stringBody rest).map fun (cs, r) => (c :: cs, r) := by
  have other : letter ≠ 'u' := by
    rintro rfl
    cases means
  rw [stringBody.eq_def]
  split <;> grind

theorem stringBody_digits {a b x y : Char} {n : Nat} (means : hexQuad? a b x y = some n)
    (small : n < 32) (rest : List Char) :
    stringBody ('\\' :: 'u' :: a :: b :: x :: y :: rest) =
      (stringBody rest).map fun (cs, r) => (Char.ofNat n :: cs, r) := by
  have notHigh : isHighSurrogate n = false := decide_eq_false (by omega)
  have notLow : isLowSurrogate n = false := decide_eq_false (by omega)
  rw [stringBody.eq_def]
  split <;> grind

theorem stringBody_plain {c : Char} (large : 32 ≤ c.toNat) (notQuote : c ≠ '"')
    (notBackslash : c ≠ '\\') (rest : List Char) :
    stringBody (c :: rest) = (stringBody rest).map fun (cs, r) => (c :: cs, r) := by
  have notControl : ¬ (c.toNat < 32 ∨ c = '\\') := by
    rintro (small | same)
    · omega
    · exact notBackslash same
  rw [stringBody.eq_def]
  split <;> grind

/-- Reading the text of a string gives the string back and stops at its end. -/
theorem stringBody_escape (s rest : List Char) :
    stringBody (s.flatMap escapeChar ++ '"' :: rest) = some (s, rest) := by
  induction s with
  | nil => simp [stringBody]
  | cons c s ih =>
    rw [List.flatMap_cons, List.append_assoc]
    rcases escapeChar_form c with ⟨letter, form, means⟩ | ⟨x, y, form, means, small⟩ |
      ⟨form, large, notQuote, notBackslash⟩
    · rw [form, List.cons_append, List.cons_append, List.nil_append, stringBody_letter means, ih]
      rfl
    · rw [form]
      simp only [List.cons_append, List.nil_append]
      rw [stringBody_digits means small, ih, Char.ofNat_toNat]
      rfl
    · rw [form, List.singleton_append, stringBody_plain large notQuote notBackslash, ih]
      rfl

theorem stringChars_append (s : String) (rest : List Char) :
    stringChars s ++ rest = '"' :: (s.toList.flatMap escapeChar ++ '"' :: rest) := by
  simp [stringChars]

/-- What follows the text of a string does not change which string it is. -/
theorem stringChars_append_inj {s t : String} {rest rest' : List Char}
    (h : stringChars s ++ rest = stringChars t ++ rest') : s = t ∧ rest = rest' := by
  rw [stringChars_append, stringChars_append] at h
  have read := congrArg stringBody (List.cons.inj h).2
  rw [stringBody_escape, stringBody_escape] at read
  obtain ⟨same, rest⟩ := Prod.mk.inj (Option.some.inj read)
  exact ⟨String.toList_injective same, rest⟩

end TaskGraph.Json
