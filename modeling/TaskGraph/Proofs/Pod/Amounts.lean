import TaskGraph.Proofs.Decimal.Shortest
import TaskGraph.Proofs.Json.Numbers
import TaskGraph.Proofs.Pod.Quantity

/-! Amounts that are given as numbers. What a number is written as is a quantity, with an exponent if
the number is small or great. A unit may follow it only if there is no exponent. -/

namespace TaskGraph.Quantity

open Decimal (writePositional writeScientific zeros)

variable {s number sign digits rest : List Char} {x : Float} {b : Binary} {d : Decimal}

theorem digits_of_decimal (d : Decimal) : Digits d.digits :=
  ⟨Nat.toDigits_ne_nil, fun _ => Decimal.isDigit_of_mem_digits⟩

theorem isDigit_of_mem_zeros {n : Int} {c : Char} (member : c ∈ zeros n) : c.isDigit := by
  rw [(List.mem_replicate.1 member).2]
  rfl

theorem isDigit_of_mem_padded {n : Int} {c : Char} (digits : Digits s) (member : c ∈ zeros n ++ s) :
    c.isDigit :=
  (List.mem_append.1 member).elim isDigit_of_mem_zeros (digits.2 c)

/-- A decimal with the point in place is a number. -/
theorem number_positional (d : Decimal) : Number (writePositional false d) := by
  have digits := digits_of_decimal d
  unfold writePositional
  dsimp only
  split
  · split
    · have zero : Digits ['0'] := by simp [Digits]
      exact .pointed zero fun c member => isDigit_of_mem_padded digits member
    · rename_i whole
      refine .pointed ⟨?_, fun c member => digits.2 c (List.mem_of_mem_take member)⟩
        fun c member => digits.2 c (List.mem_of_mem_drop member)
      have some : 0 < d.digits.length := List.length_pos_iff.2 digits.1
      simp only [ne_eq, List.take_eq_nil_iff, not_or]
      exact ⟨by omega, digits.1⟩
  · refine .whole ⟨by simp [digits.1], fun c member => ?_⟩
    rw [if_neg Bool.false_ne_true, List.append_nil] at member
    exact (List.mem_append.1 member).elim (digits.2 c) isDigit_of_mem_zeros

/-- A decimal with an exponent is a number and the exponent. -/
theorem scientific_parts (width : Nat) (d : Decimal) : ∃ number sign digits,
    writeScientific width d = number ++ 'e' :: (sign ++ digits) ∧
      Number number ∧ Sign sign ∧ Digits digits := by
  obtain ⟨c, rest, form, digit⟩ := d.digits_cons
  have mantissa : Digits (c :: rest) := form ▸ digits_of_decimal d
  have exponent : Digits (Nat.toDigits 10 d.leading.natAbs) :=
    digits_of_decimal ⟨d.leading.natAbs, 0⟩
  have power : Digits (zeros (width - (Nat.toDigits 10 d.leading.natAbs).length : Nat) ++
      Nat.toDigits 10 d.leading.natAbs) :=
    ⟨by simp [exponent.1], fun c member => isDigit_of_mem_padded exponent member⟩
  have signed : Sign [if d.leading < 0 then '-' else '+'] := by
    split
    · exact .minus
    · exact .plus
  unfold writeScientific
  rw [form]
  cases rest with
  | nil => exact ⟨[c], _, _, rfl, .whole mantissa, signed, power⟩
  | cons c' rest =>
    have first : Digits [c] := ⟨by simp, by simp [digit]⟩
    have number : Number ([c] ++ '.' :: c' :: rest) :=
      .pointed first fun x member => mantissa.2 x (List.mem_cons_of_mem _ member)
    refine ⟨c :: '.' :: c' :: rest, _, _, ?_, number, signed, power⟩
    simp

theorem wellFormed_append_iff (isNumber : Number number) (apart : Apart rest) :
    WellFormed (number ++ rest) ↔ Suffix rest := by
  have recognized := isQuantity_append .none isNumber apart
  rw [List.nil_append] at recognized
  rw [← isQuantity_iff, recognized, isTail_iff]

/-- A unit stands by itself, not after an exponent. -/
theorem Suffix.eq_unit (suffix : Suffix s) (last : s.getLast? = some 'G') : s = ['G'] := by
  cases suffix with
  | none => cases last
  | @exponent mark sign digits letter signed isDigits =>
    have digit : 'G' ∈ digits := by
      rw [← List.cons_append, List.getLast?_append_of_ne_nil _ isDigits.1] at last
      exact List.mem_of_getLast? last
    cases isDigits.2 _ digit
  | binary => cases last
  | decimal =>
    obtain ⟨⟩ := last
    rfl

theorem apart_exponent (rest : List Char) : Apart ('e' :: rest) := apart_of_above (by decide)

/-- Whether a float is written without an exponent. -/
def Plain (b : Binary) : Prop :=
  Decimal.quantity.positional (Decimal.shortest .away b).leading = true

theorem magnitude_forms (b : Binary) :
    (Plain b ∧ Number (Decimal.quantity.magnitude b)) ∨
    (¬ Plain b ∧ ∃ number sign digits,
      Decimal.quantity.magnitude b = number ++ 'e' :: (sign ++ digits) ∧
        Number number ∧ Sign sign ∧ Digits digits) := by
  by_cases plain : Plain b
  · have written : Decimal.quantity.magnitude b = _ := if_pos plain
    rw [written]
    exact .inl ⟨plain, number_positional _⟩
  · have written : Decimal.quantity.magnitude b = _ := if_neg plain
    rw [written]
    exact .inr ⟨plain, scientific_parts _ _⟩

/-- What a finite number is written as is a quantity. -/
theorem wellFormed_magnitude (b : Binary) : WellFormed (Decimal.quantity.magnitude b) := by
  rcases magnitude_forms b with ⟨-, number⟩ | ⟨-, _, _, _, parts, number, signed, digits⟩
  · rw [← List.append_nil (Decimal.quantity.magnitude b)]
    exact (wellFormed_append_iff number Suffix.none.apart).2 .none
  · rw [parts, wellFormed_append_iff number (apart_exponent _)]
    exact .exponent (.inl rfl) signed digits

/-- A unit may follow it exactly if it has no exponent. -/
theorem wellFormed_unit_iff (b : Binary) :
    WellFormed (Decimal.quantity.magnitude b ++ ['G']) ↔ Plain b := by
  rcases magnitude_forms b with ⟨plain, number⟩ | ⟨exponent, _, _, _, parts, number, -, -⟩
  · have unit : Suffix ['G'] := .decimal (by decide)
    exact iff_of_true ((wellFormed_append_iff number unit.apart).2 unit) plain
  · refine iff_of_false ?_ exponent
    rw [parts, List.append_assoc, List.cons_append, wellFormed_append_iff number (apart_exponent _)]
    intro suffix
    cases suffix.eq_unit (by rw [← List.cons_append, List.getLast?_concat])

/-- The float of `0.0001`, the least one that is written without an exponent. -/
def leastPlain : Binary := ⟨false, 0x1a36e2eb1c432d, -66⟩

/-- A million, the least number after it that is written with an exponent. -/
def million : Binary := ⟨false, 0x1e848000000000, -33⟩

theorem plain_iff (normal : b.Normal) (positive : 0 < b.mantissa) :
    Plain b ↔ leastPlain.size ≤ b.size ∧ b.size < million.size := by
  have lower : -4 ≤ (Decimal.shortest .away b).leading ↔ leastPlain.size ≤ b.size :=
    Decimal.le_leading_shortest_iff normal ⟨by decide, by decide, by decide⟩ positive (by rfl) (by
      norm_num [Binary.low, Binary.high, Decimal.reachBelow, leastPlain, Binary.hidden])
  have upper : 6 ≤ (Decimal.shortest .away b).leading ↔ million.size ≤ b.size :=
    Decimal.le_leading_shortest_iff normal ⟨by decide, by decide, by decide⟩ positive (by rfl) (by
      norm_num [Binary.low, Binary.high, Decimal.reachBelow, million, Binary.hidden])
  rw [← lower, ← not_le, ← upper]
  simp [Plain, Decimal.quantity]

theorem class_zero : FloatClass.of 0 = .finite ⟨false, 0, -1074⟩ := by rfl

theorem value_pos (finite : FloatClass.of x = .finite b) (positive : 0 < x) : 0 < b.value := by
  rwa [FloatClass.lt_iff class_zero finite, Binary.value_zero] at positive

theorem size_of_positive (finite : FloatClass.of x = .finite b) (positive : 0 < x) :
    b.negative = false ∧ 0 < b.mantissa ∧ b.value = b.size := by
  have above := value_pos finite positive
  have nonneg := b.size_nonneg
  have unsigned : b.negative = false := by
    by_contra negative
    rw [Binary.value, if_pos (by simpa using negative)] at above
    linarith
  have same : b.value = b.size := by rw [Binary.value, unsigned, if_neg Bool.false_ne_true]
  refine ⟨unsigned, ?_, same⟩
  rw [Nat.pos_iff_ne_zero]
  intro zero
  simp [same, Binary.size, zero] at above

/-- In terms of floats: from `0.0001` up to below a million. -/
theorem plain_iff_of_positive (finite : FloatClass.of x = .finite b) (positive : 0 < x) :
    Plain b ↔ 0.0001 ≤ x ∧ x < 1000000 := by
  obtain ⟨-, some, value⟩ := size_of_positive finite positive
  have least : FloatClass.of 0.0001 = .finite leastPlain := by rfl
  have greatest : FloatClass.of 1000000 = .finite million := by rfl
  rw [plain_iff (FloatClass.normal_of_finite finite) some, FloatClass.le_iff least finite,
    FloatClass.lt_iff finite greatest, value]
  rfl

theorem ofFloat_toList (finite : FloatClass.of x = .finite b) (unsigned : b.negative = false)
    (unit : String) : (ofFloat x unit).toList = Decimal.quantity.magnitude b ++ unit.toList := by
  simp [ofFloat, Decimal.Layout.render, finite, unsigned]

theorem render_solid (x : Float) :
    ∀ c ∈ (Decimal.quantity.render x).toList, Unicode.isBlank c = false := by
  unfold Decimal.Layout.render
  cases FloatClass.of x with
  | nan =>
    simp
    decide
  | infinite negative =>
    cases negative <;> simp <;> decide
  | finite b =>
    have solid := (wellFormed_magnitude b).solid
    simp only [String.toList_ofList]
    split
    · intro c member
      rcases List.mem_cons.1 member with rfl | member
      · decide
      · exact solid c member
    · exact solid

/-- There is nothing to trim from a number, whatever it is, with its unit. -/
theorem trim_ofFloat (x : Float) {unit : String}
    (solid : ∀ c ∈ unit.toList, Unicode.isBlank c = false) :
    Text.trim (ofFloat x unit) = ofFloat x unit := by
  apply Text.trim_eq_self
  intro c member
  rw [ofFloat, String.toList_append, List.mem_append] at member
  exact member.elim (render_solid x c) (solid c)

theorem resource?_legacy (inputs : ExecutorInputs) (finite : FloatClass.of x = .finite b)
    (positive : 0 < x) (unit : String) :
    resource? inputs "" x unit = (parse (ofFloat x unit)).map some := by
  have nonzero : (x == 0) = false := by
    rw [← Bool.not_eq_true, FloatClass.beq_iff finite class_zero, Binary.value_zero]
    exact (value_pos finite positive).ne'
  rw [resource?, if_neg (by simp), nonzero]
  cases parse (ofFloat x unit) <;> rfl

/-- Every positive number is accepted as an amount without a unit. With the unit `G` it is accepted
exactly if it is written without an exponent, which it is from `0.0001` up to below a million. -/
theorem numbers_accepted (x : Float) (finite : isFiniteFloat x = true) (positive : 0 < x) :
    (WellFormed (ofFloat x "").toList ∧
      ∀ inputs, resource? inputs "" x "" = .ok (some (ofFloat x ""))) ∧
    (0.0001 ≤ x ∧ x < 1000000 → WellFormed (ofFloat x "G").toList ∧
      ∀ inputs, resource? inputs "" x "G" = .ok (some (ofFloat x "G"))) ∧
    (¬ (0.0001 ≤ x ∧ x < 1000000) → ¬ WellFormed (ofFloat x "G").toList ∧
      ∀ inputs, resource? inputs "" x "G" = .fail (.invalidQuantity (ofFloat x "G"))) := by
  obtain ⟨b, isFinite⟩ : ∃ b, FloatClass.of x = .finite b := by
    unfold isFiniteFloat at finite
    split at finite
    · exact ⟨_, ‹_›⟩
    · cases finite
  obtain ⟨unsigned, -, -⟩ := size_of_positive isFinite positive
  have accepted {unit : String} (solid : ∀ c ∈ unit.toList, Unicode.isBlank c = false)
      (wellFormed : WellFormed (ofFloat x unit).toList) (inputs : ExecutorInputs) :
      resource? inputs "" x unit = .ok (some (ofFloat x unit)) := by
    have trimmed := trim_ofFloat x solid
    have read : parse (ofFloat x unit) = .ok (ofFloat x unit) := by
      rw [parse_eq_ok_iff, trimmed, isQuantity_iff]
      exact ⟨wellFormed, rfl⟩
    rw [resource?_legacy inputs isFinite positive, read]
    rfl
  have bare : WellFormed (ofFloat x "").toList := by
    rw [ofFloat_toList isFinite unsigned, String.toList_empty, List.append_nil]
    exact wellFormed_magnitude b
  have unit : WellFormed (ofFloat x "G").toList ↔ 0.0001 ≤ x ∧ x < 1000000 := by
    rw [ofFloat_toList isFinite unsigned, ← plain_iff_of_positive isFinite positive]
    exact wellFormed_unit_iff b
  have letter : ∀ c ∈ "G".toList, Unicode.isBlank c = false := by
    simp
    decide
  refine ⟨⟨bare, accepted (by simp) bare⟩, fun inside => ?_, fun outside => ?_⟩
  · have wellFormed := unit.2 inside
    exact ⟨wellFormed, accepted letter wellFormed⟩
  · refine ⟨outside ∘ unit.1, fun inputs => ?_⟩
    have refused : parse (ofFloat x "G") = .fail (.invalidQuantity (ofFloat x "G")) := by
      apply parse_of_not_wellFormed
      rw [trim_ofFloat x letter]
      exact outside ∘ unit.1
    rw [resource?_legacy inputs isFinite positive, refused]
    rfl

/-- Half a million is accepted with a unit and without one, and what is less than `0.0001` only
without. -/
theorem numbers_accepted_half :
    resource? {} "" 500000.5 "G" = .ok (some "500000.5G") ∧
    resource? {} "" 500000.5 "" = .ok (some "500000.5") ∧
    resource? {} "" 0.00005 "" = .ok (some "5e-05") ∧
    resource? {} "" 0.00005 "G" = .fail (.invalidQuantity "5e-05G") := by
  obtain ⟨⟨-, bare⟩, inside, -⟩ := numbers_accepted 500000.5 (by decide) (by decide)
  obtain ⟨⟨-, bareSmall⟩, -, outside⟩ := numbers_accepted 0.00005 (by decide) (by decide)
  exact ⟨(inside (by decide)).2 {}, bare {}, bareSmall {}, (outside (by decide)).2 {}⟩

/-- A million with a unit is refused: it is written with an exponent. -/
theorem million_refused : isFiniteFloat 1000000 = true ∧ (0 : Float) < 1000000 ∧
    ofFloat 1000000 "G" = "1e+06G" ∧ ¬ WellFormed "1e+06G".toList ∧
    ¬ ∃ amount, resource? {} "" 1000000 "G" = .ok amount := by
  refine ⟨by decide, by decide, by rfl, ?_, ?_⟩
  · rw [← isQuantity_iff]
    decide
  · rintro ⟨amount, accepted⟩
    have refused : resource? {} "" 1000000 "G" = .fail (.invalidQuantity "1e+06G") := by rfl
    rw [refused] at accepted
    cases accepted

end TaskGraph.Quantity
