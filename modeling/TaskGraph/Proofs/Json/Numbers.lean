import TaskGraph.Json.Number
import TaskGraph.Json.Printer

/-! Number texts. The text of a float has a point, an exponent or a name in it and is
therefore never that of an integer; no number text has a comma or a bracket in it. -/

namespace TaskGraph

/-- The integers that a JSON number holds: of 64 bits, signed or not. -/
def IsJsonInteger (n : Int) : Prop := -int64Bound ≤ n ∧ n < nat64Bound

instance : DecidablePred IsJsonInteger := fun _ => instDecidableAnd

/-- Numbers of one kind that are written alike. -/
def JsonNumber.Alike : JsonNumber → JsonNumber → Prop
  | .int a, .int b => Json.intChars a = Json.intChars b
  | .float x, .float y => Decimal.json.render x = Decimal.json.render y
  | _, _ => False

/-- The characters of number texts. -/
def Json.isNumeric (c : Char) : Bool :=
  c.isDigit || c ∈ ['-', '+', '.', 'e', 'N', 'a', 'i', 'n', 'f']

theorem Json.isNumeric_of_isDigit {c : Char} (digit : c.isDigit) : isNumeric c := by
  simp [isNumeric, digit]

theorem toDigits_cons (n : Nat) : ∃ c rest, Nat.toDigits 10 n = c :: rest ∧ c.isDigit := by
  obtain ⟨c, rest, form⟩ := List.exists_cons_of_ne_nil (Nat.toDigits_ne_nil (n := n) (b := 10))
  have member : c ∈ Nat.toDigits 10 n := form ▸ List.mem_cons_self
  exact ⟨c, rest, form, Nat.isDigit_of_mem_toDigits (by decide) (by decide) member⟩

namespace Decimal

open Json

/-- A text that starts with a digit and tells a float from an integer. -/
structure Marked (s : List Char) : Prop where
  lead : ∃ c rest, s = c :: rest ∧ c.isDigit
  numeric : ∀ c ∈ s, isNumeric c
  mark : '.' ∈ s ∨ 'e' ∈ s

theorem isDigit_of_mem_digits {d : Decimal} {c : Char} (member : c ∈ d.digits) : c.isDigit :=
  Nat.isDigit_of_mem_toDigits (by decide) (by decide) member

theorem isNumeric_of_mem_digits {d : Decimal} {c : Char} (member : c ∈ d.digits) : isNumeric c :=
  isNumeric_of_isDigit (isDigit_of_mem_digits member)

theorem digits_cons (d : Decimal) : ∃ c rest, d.digits = c :: rest ∧ c.isDigit :=
  toDigits_cons d.coefficient

theorem isNumeric_of_mem_zeros {n : Int} {c : Char} (member : c ∈ zeros n) : isNumeric c := by
  rw [(List.mem_replicate.1 member).2]
  rfl

theorem marked_positional (d : Decimal) : Marked (writePositional true d) := by
  obtain ⟨c, rest, form, digit⟩ := d.digits_cons
  unfold writePositional
  dsimp only
  split
  · split
    · refine ⟨⟨'0', _, rfl, rfl⟩, ?_, by simp⟩
      simp only [List.cons_append, List.mem_cons, List.mem_append]
      rintro x (rfl | rfl | zero | member)
      · rfl
      · rfl
      · exact isNumeric_of_mem_zeros zero
      · exact isNumeric_of_mem_digits member
    · rename_i whole
      refine ⟨?_, ?_, by simp⟩
      · obtain ⟨n, positive⟩ : ∃ n, (↑d.digits.length + d.exponent).toNat = n + 1 :=
          ⟨(↑d.digits.length + d.exponent).toNat - 1, by omega⟩
        rw [positive, form, List.take_succ_cons]
        exact ⟨c, _, rfl, digit⟩
      · simp only [List.mem_append, List.mem_cons]
        rintro x (member | rfl | member)
        · exact isNumeric_of_mem_digits (List.mem_of_mem_take member)
        · rfl
        · exact isNumeric_of_mem_digits (List.mem_of_mem_drop member)
  · refine ⟨⟨c, _, by rw [form]; rfl, digit⟩, ?_, by simp⟩
    simp only [if_true, List.mem_append, List.mem_cons, List.not_mem_nil, or_false]
    rintro x ((member | zero) | rfl | rfl)
    · exact isNumeric_of_mem_digits member
    · exact isNumeric_of_mem_zeros zero
    · rfl
    · rfl

theorem marked_scientific (width : Nat) (d : Decimal) : Marked (writeScientific width d) := by
  obtain ⟨c, rest, form, digit⟩ := d.digits_cons
  have power (sign : Char) (signed : isNumeric sign) (n : Nat) :
      ∀ x ∈ 'e' :: sign :: (zeros (width - (Nat.toDigits 10 n).length : Nat) ++ Nat.toDigits 10 n),
        isNumeric x := by
    simp only [List.mem_cons, List.mem_append]
    rintro x (rfl | rfl | zero | member)
    · rfl
    · exact signed
    · exact isNumeric_of_mem_zeros zero
    · exact isNumeric_of_isDigit (Nat.isDigit_of_mem_toDigits (by decide) (by decide) member)
  have sign : isNumeric (if d.leading < 0 then '-' else '+') := by
    split <;> rfl
  have exponent := power _ sign d.leading.natAbs
  have whole : ∀ x ∈ c :: rest, isNumeric x := fun x member =>
    isNumeric_of_mem_digits (d := d) (form ▸ member)
  unfold writeScientific
  rw [form]
  cases rest with
  | nil =>
    refine ⟨⟨c, _, rfl, digit⟩, ?_, by simp⟩
    intro x member
    rcases List.mem_cons.1 member with rfl | later
    · exact isNumeric_of_isDigit digit
    · exact exponent x later
  | cons c' rest =>
    refine ⟨⟨c, _, rfl, digit⟩, ?_, by simp⟩
    intro x member
    rcases List.mem_cons.1 member with rfl | later
    · exact isNumeric_of_isDigit digit
    rcases List.mem_cons.1 later with rfl | later
    · rfl
    rcases List.mem_append.1 later with digits | later
    · exact whole x (List.mem_cons_of_mem _ digits)
    · exact exponent x later

theorem marked_magnitude (b : Binary) : Marked (json.magnitude b) := by
  unfold Layout.magnitude
  dsimp only
  split
  · exact marked_positional _
  · exact marked_scientific _ _

end Decimal

namespace Json

/-- The characters with which number texts start. -/
def isNumberLead (c : Char) : Bool := c.isDigit || c ∈ ['-', 'N', 'i']

theorem isNumberLead_of_isDigit {c : Char} (digit : c.isDigit) : isNumberLead c := by
  simp [isNumberLead, digit]

/-- What the texts of all numbers have in common. -/
structure IsNumberText (s : List Char) : Prop where
  lead : ∃ c rest, s = c :: rest ∧ isNumberLead c
  numeric : ∀ c ∈ s, isNumeric c

/-- The texts of integers have no other characters. -/
def isIntegral (c : Char) : Bool := c.isDigit || c = '-'

theorem isIntegral_of_mem {n : Int} {c : Char} (member : c ∈ intChars n) : isIntegral c := by
  have digit (member : c ∈ Nat.toDigits 10 n.natAbs) : isIntegral c := by
    have : c.isDigit := Nat.isDigit_of_mem_toDigits (by decide) (by decide) member
    simp [isIntegral, this]
  unfold intChars at member
  split at member
  · rcases List.mem_cons.1 member with rfl | later
    · rfl
    · exact digit later
  · exact digit member

theorem isNumeric_of_isIntegral {c : Char} (integral : isIntegral c) : isNumeric c := by
  rcases Bool.or_eq_true_iff.1 integral with digit | minus
  · exact isNumeric_of_isDigit digit
  · rw [of_decide_eq_true minus]
    rfl

theorem isNumberText_int (n : Int) : IsNumberText (intChars n) := by
  refine ⟨?_, fun c member => isNumeric_of_isIntegral (isIntegral_of_mem member)⟩
  have first : intChars n ≠ [] := by
    unfold intChars
    split
    · exact List.cons_ne_nil _ _
    · exact Nat.toDigits_ne_nil
  obtain ⟨c, rest, form⟩ := List.exists_cons_of_ne_nil first
  refine ⟨c, rest, form, ?_⟩
  have integral : isIntegral c := isIntegral_of_mem (n := n) (form ▸ List.mem_cons_self)
  rcases Bool.or_eq_true_iff.1 integral with digit | minus
  · exact isNumberLead_of_isDigit digit
  · rw [of_decide_eq_true minus]
    rfl

theorem isNumberText_float (x : Float) : IsNumberText (Decimal.json.render x).toList := by
  unfold Decimal.Layout.render
  cases FloatClass.of x with
  | nan => exact ⟨⟨'N', _, rfl, rfl⟩, by simp [isNumeric]⟩
  | infinite negative =>
    cases negative with
    | false => exact ⟨⟨'i', _, rfl, rfl⟩, by simp [isNumeric]⟩
    | true => exact ⟨⟨'-', _, rfl, rfl⟩, by simp [isNumeric]⟩
  | finite b =>
    have marked := Decimal.marked_magnitude b
    simp only [String.toList_ofList]
    split
    · refine ⟨⟨'-', _, rfl, rfl⟩, fun c member => ?_⟩
      rcases List.mem_cons.1 member with rfl | later
      · rfl
      · exact marked.numeric c later
    · obtain ⟨c, rest, form, digit⟩ := marked.lead
      exact ⟨⟨c, rest, form, isNumberLead_of_isDigit digit⟩, marked.numeric⟩

theorem exists_not_isIntegral (x : Float) :
    ∃ c ∈ (Decimal.json.render x).toList, ¬ isIntegral c := by
  unfold Decimal.Layout.render
  cases FloatClass.of x with
  | nan => exact ⟨'N', by decide, by decide⟩
  | infinite negative => cases negative <;> exact ⟨'i', by decide, by decide⟩
  | finite b =>
    simp only [String.toList_ofList]
    have within (c : Char) (member : c ∈ Decimal.json.magnitude b) :
        c ∈ if b.negative then '-' :: Decimal.json.magnitude b else Decimal.json.magnitude b := by
      split
      · exact List.mem_cons_of_mem _ member
      · exact member
    rcases (Decimal.marked_magnitude b).mark with point | exponent
    · exact ⟨'.', within _ point, by decide⟩
    · exact ⟨'e', within _ exponent, by decide⟩

theorem isNumberText_numberChars (n : JsonNumber) : IsNumberText (numberChars n) := by
  cases n with
  | int n => exact isNumberText_int n
  | float x => exact isNumberText_float x

theorem intChars_ne_float (n : Int) (x : Float) :
    intChars n ≠ (Decimal.json.render x).toList := by
  intro same
  obtain ⟨c, member, other⟩ := exists_not_isIntegral x
  exact other (isIntegral_of_mem (same ▸ member))

/-- Numbers are alike exactly if they have the same text, which shows their kind. -/
theorem numberChars_eq_iff {a b : JsonNumber} : numberChars a = numberChars b ↔ a.Alike b := by
  cases a with
  | int a =>
    cases b with
    | int b => exact Iff.rfl
    | float y => exact iff_of_false (intChars_ne_float a y) id
  | float x =>
    cases b with
    | int b => exact iff_of_false (intChars_ne_float b x).symm id
    | float y => exact String.toList_inj

theorem digitsValue_toDigits (n : Nat) : digitsValue (Nat.toDigits 10 n) = n := by
  have value := Nat.ofDigitChars_toDigits (b := 10) (n := n) (by decide) (by decide)
  simp only [Nat.ofDigitChars, Nat.mul_comm 10] at value
  exact value

/-- Different integers have different texts. -/
theorem intText_injective {m n : Int} (h : intText m = intText n) : m = n := by
  have chars : intChars m = intChars n := String.ofList_injective h
  have unsigned {a b : Nat} (same : Nat.toDigits 10 a = Nat.toDigits 10 b) : a = b := by
    rw [← Nat.ofDigitChars_ten_toDigits (n := a), same, Nat.ofDigitChars_ten_toDigits]
  have signless (a : Nat) : '-' ∉ Nat.toDigits 10 a := fun member =>
    absurd (Nat.isDigit_of_mem_toDigits (by decide) (by decide) member) (by decide)
  unfold intChars at chars
  split at chars <;> split at chars
  · have := unsigned (List.cons.inj chars).2
    omega
  · exact absurd (chars ▸ List.mem_cons_self) (signless n.natAbs)
  · exact absurd (chars ▸ List.mem_cons_self) (signless m.natAbs)
  · have := unsigned chars
    omega

end Json

end TaskGraph
