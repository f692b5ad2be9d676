import TaskGraph.Pod.Quantity
import TaskGraph.Proofs.Result
import TaskGraph.Proofs.Text

/-! The grammar of quantities. The letter `E` may begin an exponent or be a unit by itself or the
first letter of one, and digits may be missing on one side of the point; a quantity is recognized
from left to right all the same. -/

namespace TaskGraph.Quantity

/-- A sign or nothing. -/
inductive Sign : List Char → Prop where
  | none : Sign []
  | plus : Sign ['+']
  | minus : Sign ['-']

/-- One or more decimal digits. -/
def Digits (s : List Char) : Prop := s ≠ [] ∧ ∀ c ∈ s, c.isDigit

/-- Digits with an optional point and further digits, or a point and digits. -/
inductive Number : List Char → Prop where
  | whole : Digits digits → Number digits
  | pointed : Digits whole → (∀ c ∈ fraction, c.isDigit) → Number (whole ++ '.' :: fraction)
  | fraction : Digits digits → Number ('.' :: digits)

/-- What follows the number: at most one of an exponent, a binary unit and a decimal unit. -/
inductive Suffix : List Char → Prop where
  | none : Suffix []
  | exponent : mark = 'e' ∨ mark = 'E' → Sign sign → Digits digits →
      Suffix (mark :: (sign ++ digits))
  | binary : unit ∈ ['K', 'M', 'G', 'T', 'P', 'E'] → Suffix [unit, 'i']
  | decimal : unit ∈ ['n', 'u', 'm', 'k', 'M', 'G', 'T', 'P', 'E'] → Suffix [unit]

inductive WellFormed : List Char → Prop where
  | intro : Sign sign → Number number → Suffix suffix → WellFormed (sign ++ (number ++ suffix))

variable {s sign number suffix digits rest : List Char} {c : Char} {text quantity : String}

theorem isDigits_iff : isDigits s = true ↔ Digits s := by
  simp [isDigits, Digits]

theorem Digits.cons (digits : Digits s) : ∃ c rest, s = c :: rest ∧ c.isDigit := by
  obtain ⟨c, rest, form⟩ := List.exists_cons_of_ne_nil digits.1
  exact ⟨c, rest, form, digits.2 c (form ▸ List.mem_cons_self)⟩

theorem digit_ne (digit : c.isDigit) : c ≠ '+' ∧ c ≠ '-' ∧ c ≠ '.' := by
  refine ⟨?_, ?_, ?_⟩ <;> rintro rfl <;> cases digit

theorem Number.cons (number : Number s) : ∃ c rest, s = c :: rest ∧ (c.isDigit ∨ c = '.') := by
  cases number with
  | whole digits =>
    obtain ⟨c, rest, form, digit⟩ := digits.cons
    exact ⟨c, rest, form, .inl digit⟩
  | pointed digits =>
    obtain ⟨c, rest, rfl, digit⟩ := digits.cons
    exact ⟨c, _, List.cons_append, .inl digit⟩
  | fraction => exact ⟨'.', _, rfl, .inr rfl⟩

theorem dropSign_append (signed : Sign sign)
    (unsigned : ∀ c, s.head? = some c → c ≠ '+' ∧ c ≠ '-') : dropSign (sign ++ s) = s := by
  cases signed with
  | plus | minus => rfl
  | none =>
    cases s with
    | nil => rfl
    | cons c rest =>
      obtain ⟨notPlus, notMinus⟩ := unsigned c rfl
      simp [dropSign, notPlus, notMinus]

theorem exists_sign (s : List Char) : ∃ sign, Sign sign ∧ s = sign ++ dropSign s := by
  unfold dropSign
  split
  · exact ⟨_, .plus, rfl⟩
  · exact ⟨_, .minus, rfl⟩
  · exact ⟨_, .none, rfl⟩

theorem dropSign_digits (signed : Sign sign) (digits : Digits s) : dropSign (sign ++ s) = s := by
  apply dropSign_append signed
  intro c first
  obtain ⟨_, _, rfl, digit⟩ := digits.cons
  obtain ⟨⟩ := first
  exact ⟨(digit_ne digit).1, (digit_ne digit).2.1⟩

theorem isExponent_iff : isExponent s = true ↔ ∃ mark sign digits,
    (mark = 'e' ∨ mark = 'E') ∧ Sign sign ∧ Digits digits ∧ s = mark :: (sign ++ digits) := by
  constructor
  · intro found
    have marked {mark rest} (letter : mark = 'e' ∨ mark = 'E')
        (found : isDigits (dropSign rest) = true) : ∃ mark' sign digits,
        (mark' = 'e' ∨ mark' = 'E') ∧ Sign sign ∧ Digits digits ∧
          mark :: rest = mark' :: (sign ++ digits) := by
      obtain ⟨sign, signed, parts⟩ := exists_sign rest
      exact ⟨mark, sign, _, letter, signed, isDigits_iff.1 found, congrArg _ parts⟩
    unfold isExponent at found
    split at found
    · exact marked (.inl rfl) found
    · exact marked (.inr rfl) found
    · cases found
  · rintro ⟨mark, sign, digits, letter, signed, isNumber, rfl⟩
    have found : isDigits (dropSign (sign ++ digits)) = true := by
      rw [dropSign_digits signed isNumber, isDigits_iff]
      exact isNumber
    rcases letter with rfl | rfl <;> exact found

/-- An exponent is too long to be a unit. -/
theorem isTail_of_isExponent (found : isExponent s = true) : isTail s = true := by
  obtain ⟨mark, sign, digits, -, signed, isNumber, rfl⟩ := isExponent_iff.1 found
  obtain ⟨c, rest, rfl, digit⟩ := isNumber.cons
  have notLetter : c ≠ 'i' := by
    rintro rfl
    cases digit
  cases signed with
  | none =>
    cases rest with
    | nil => simpa [isTail, notLetter] using found
    | cons => simpa [isTail] using found
  | plus | minus => simpa [isTail] using found

theorem isTail_iff : isTail s = true ↔ Suffix s := by
  constructor
  · intro found
    unfold isTail at found
    split at found
    · exact .none
    · exact .decimal (by simpa [isDecimalUnit] using found)
    · exact .binary (by simpa [isBinaryUnit] using found)
    · obtain ⟨_, _, _, letter, signed, digits, rfl⟩ := isExponent_iff.1 found
      exact .exponent letter signed digits
  · intro suffix
    cases suffix with
    | none => rfl
    | exponent letter signed digits =>
      exact isTail_of_isExponent (isExponent_iff.2 ⟨_, _, _, letter, signed, digits, rfl⟩)
    | binary unit => simpa [isTail, isBinaryUnit] using unit
    | decimal unit => simpa [isTail, isDecimalUnit] using unit

/-- What follows a number does not continue it. -/
def Apart (s : List Char) : Prop := ∀ c, s.head? = some c → c.isDigit = false ∧ c ≠ '.'

/-- Letters stand above the digits and below the blanks that are not ASCII. -/
theorem letter_bounds {letters : List Char} (known : c ∈ letters)
    (all : (letters.all fun c => 0x39 < c.toNat && c.toNat < 0x85) = true) :
    0x39 < c.toNat ∧ c.toNat < 0x85 := by
  simpa using List.all_eq_true.1 all c known

theorem apart_of_above (above : 0x39 < c.toNat) : Apart (c :: rest) := by
  rintro _ ⟨⟩
  constructor
  · rw [← Bool.not_eq_true, Char.isDigit_iff_toNat]
    exact fun bounds => absurd bounds.2 (not_le.2 above)
  · rintro rfl
    exact absurd above (by decide)

theorem Suffix.apart (suffix : Suffix s) : Apart s := by
  cases suffix with
  | none => nofun
  | exponent letter =>
    apply apart_of_above
    rcases letter with rfl | rfl <;> decide
  | binary unit => exact apart_of_above (letter_bounds unit (by rfl)).1
  | decimal unit => exact apart_of_above (letter_bounds unit (by rfl)).1

theorem cut_digits (all : ∀ c ∈ digits, c.isDigit)
    (stops : ∀ c, rest.head? = some c → c.isDigit = false) :
    Text.Cut Char.isDigit (digits ++ rest) digits rest :=
  ⟨rfl, all, stops⟩

theorem afterNumber?_append (isNumber : Number number) (apart : Apart rest) :
    afterNumber? (number ++ rest) = some rest := by
  have stops (c : Char) (first : rest.head? = some c) : c.isDigit = false := (apart c first).1
  have point (fraction : List Char) (c : Char) (first : ('.' :: fraction).head? = some c) :
      c.isDigit = false := by
    obtain ⟨⟩ := first
    rfl
  cases isNumber with
  | whole digits =>
    have cut := cut_digits digits.2 stops
    unfold afterNumber?
    rw [cut.takeWhile_eq, cut.dropWhile_eq]
    dsimp only
    split
    · exact absurd rfl (apart '.' rfl).2
    · simp [digits.1]
  | @pointed whole fraction digits all =>
    have cut := cut_digits digits.2 (point (fraction ++ rest))
    have cutFraction := cut_digits all stops
    rw [List.append_assoc, List.cons_append]
    unfold afterNumber?
    rw [cut.takeWhile_eq, cut.dropWhile_eq]
    simp [digits.1, cutFraction.dropWhile_eq]
  | @fraction digits isNumber =>
    have cut := cut_digits isNumber.2 stops
    simp [afterNumber?, cut.takeWhile_eq, cut.dropWhile_eq, isNumber.1]

theorem exists_number (found : afterNumber? s = some rest) :
    ∃ number, Number number ∧ s = number ++ rest := by
  have cut := Text.cut_span Char.isDigit s
  unfold afterNumber? at found
  dsimp only at found
  split at found
  · rename_i fraction pointed
    have cutFraction := Text.cut_span Char.isDigit fraction
    split at found
    · cases found
    rename_i some
    obtain ⟨⟩ := found
    rw [cut.parts, pointed]
    by_cases bare : s.takeWhile Char.isDigit = []
    · refine ⟨'.' :: fraction.takeWhile Char.isDigit, .fraction ⟨?_, cutFraction.all⟩, ?_⟩
      · intro none
        simp [bare, none] at some
      · rw [bare, List.nil_append, List.cons_append, ← cutFraction.parts]
    · refine ⟨_, .pointed ⟨bare, cut.all⟩ cutFraction.all, ?_⟩
      rw [List.append_assoc, List.cons_append, ← cutFraction.parts]
  · split at found
    · cases found
    rename_i some
    obtain ⟨⟩ := found
    exact ⟨_, .whole ⟨by simpa using some, cut.all⟩, cut.parts⟩

theorem Number.unsigned (isNumber : Number number) (c : Char)
    (first : (number ++ rest).head? = some c) : c ≠ '+' ∧ c ≠ '-' := by
  obtain ⟨_, _, rfl, digit | rfl⟩ := isNumber.cons
  · obtain ⟨⟩ := first
    exact ⟨(digit_ne digit).1, (digit_ne digit).2.1⟩
  · obtain ⟨⟩ := first
    decide

/-- Quantities are recognized: each of the three parts ends where the next one begins. -/
theorem isQuantity_append (signed : Sign sign) (isNumber : Number number) (apart : Apart rest) :
    isQuantity (sign ++ (number ++ rest)) = isTail rest := by
  rw [isQuantity, dropSign_append signed isNumber.unsigned, afterNumber?_append isNumber apart]
  rfl

theorem isQuantity_iff : isQuantity s = true ↔ WellFormed s := by
  constructor
  · intro found
    obtain ⟨rest, after, tail⟩ := (Option.any_eq_true _ _).1 found
    obtain ⟨sign, signed, parts⟩ := exists_sign s
    obtain ⟨number, isNumber, unsigned⟩ := exists_number after
    rw [parts, unsigned]
    exact .intro signed isNumber (isTail_iff.1 tail)
  · rintro ⟨signed, isNumber, suffix⟩
    rw [isQuantity_append signed isNumber suffix.apart]
    exact isTail_iff.2 suffix

theorem parse_eq_ok_iff :
    parse text = .ok quantity ↔ isQuantity (Text.trim text).toList ∧ quantity = Text.trim text := by
  unfold parse
  by_cases valid : isQuantity (Text.trim text).toList
  · simp [valid, eq_comm]
  · simp [valid]

theorem parse_of_not_wellFormed (invalid : ¬ WellFormed (Text.trim text).toList) :
    parse text = .fail (.invalidQuantity text) := by
  rw [← isQuantity_iff] at invalid
  exact if_neg invalid

/-- A text is read exactly if what it is without the blanks at its ends is a quantity. The result is
that quantity, which is read again as it is. -/
theorem parse_reads_grammar (text : String) :
    (∀ quantity, parse text = .ok quantity ↔
      Text.Trims text quantity ∧ WellFormed quantity.toList) ∧
    (∀ quantity, parse text = .ok quantity →
      quantity = Text.trim text ∧ parse quantity = .ok quantity) ∧
    ((∀ quantity, Text.Trims text quantity → ¬ WellFormed quantity.toList) →
      parse text = .fail (.invalidQuantity text)) := by
  refine ⟨fun quantity => ?_, fun quantity read => ?_, fun invalid => ?_⟩
  · rw [parse_eq_ok_iff, isQuantity_iff, Text.trims_iff]
    constructor
    · rintro ⟨wellFormed, rfl⟩
      exact ⟨rfl, wellFormed⟩
    · rintro ⟨rfl, wellFormed⟩
      exact ⟨wellFormed, rfl⟩
  · obtain ⟨valid, rfl⟩ := parse_eq_ok_iff.1 read
    refine ⟨rfl, parse_eq_ok_iff.2 ?_⟩
    rw [Text.trim_trim]
    exact ⟨valid, rfl⟩
  · exact parse_of_not_wellFormed (invalid _ (Text.trims_trim text))

/-! A number, its exponent and its unit may all three have the letter `E`. -/

example : parse " 1E\n" = .ok "1E" := by decide

example : parse "1Ei" = .ok "1Ei" := by decide

example : parse "-.5E+3" = .ok "-.5E+3" := by decide

example : parse "1E3E" = .fail (.invalidQuantity "1E3E") := by decide

theorem Digits.solid (digits : Digits s) : ∀ c ∈ s, Unicode.isBlank c = false :=
  fun c member => Text.isBlank_of_isDigit (digits.2 c member)

theorem Sign.solid (signed : Sign s) : ∀ c ∈ s, Unicode.isBlank c = false := by
  intro c member
  cases signed with
  | none => cases member
  | plus | minus =>
    obtain rfl := List.mem_singleton.1 member
    decide

theorem solid_of_letter {letters : List Char} (known : c ∈ letters)
    (all : (letters.all fun c => 0x39 < c.toNat && c.toNat < 0x85) = true) :
    Unicode.isBlank c = false := by
  obtain ⟨above, below⟩ := letter_bounds known all
  exact Text.isBlank_eq_false (lt_trans (by decide) above) below

/-- There are no blanks inside a quantity. -/
theorem WellFormed.solid (wellFormed : WellFormed s) : ∀ c ∈ s, Unicode.isBlank c = false := by
  obtain ⟨signed, isNumber, suffix⟩ := wellFormed
  simp only [List.mem_append]
  rintro c (member | member | member)
  · exact signed.solid c member
  · cases isNumber with
    | whole digits => exact digits.solid c member
    | pointed digits all =>
      rcases List.mem_append.1 member with whole | rest
      · exact digits.solid c whole
      · rcases List.mem_cons.1 rest with rfl | fraction
        · decide
        · exact Text.isBlank_of_isDigit (all c fraction)
    | fraction digits =>
      rcases List.mem_cons.1 member with rfl | fraction
      · decide
      · exact digits.solid c fraction
  · cases suffix with
    | none => cases member
    | exponent letter signed digits =>
      rcases List.mem_cons.1 member with rfl | rest
      · rcases letter with rfl | rfl <;> decide
      · rcases List.mem_append.1 rest with sign | power
        · exact signed.solid c sign
        · exact digits.solid c power
    | binary known =>
      rcases List.mem_cons.1 member with rfl | last
      · exact solid_of_letter known (by rfl)
      · obtain rfl := List.mem_singleton.1 last
        decide
    | decimal known =>
      obtain rfl := List.mem_singleton.1 member
      exact solid_of_letter known (by rfl)

end TaskGraph.Quantity
