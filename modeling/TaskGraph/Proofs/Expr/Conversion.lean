import Mathlib.Data.List.TakeWhile
import TaskGraph.Proofs.Expr.Comparison
import TaskGraph.Proofs.Result
import TaskGraph.Proofs.Text

/-! Conversion to integers. The range of a float is checked against the float of the greatest
integer of 64 signed bits, which is one more than that integer. -/

namespace TaskGraph

namespace Text

/-- The text of an integer: an optional sign and one or more decimal digits. -/
inductive Denotes : List Char → Int → Prop where
  | plain : digits ≠ [] → (∀ c ∈ digits, c.isDigit) →
      Denotes digits (Nat.ofDigitChars 10 digits 0)
  | plus : digits ≠ [] → (∀ c ∈ digits, c.isDigit) →
      Denotes ('+' :: digits) (Nat.ofDigitChars 10 digits 0)
  | minus : digits ≠ [] → (∀ c ∈ digits, c.isDigit) →
      Denotes ('-' :: digits) (-Nat.ofDigitChars 10 digits 0)

variable {digits s : List Char} {limit n v : Nat} {overflow : IntegerError} {a b : Int}

/-- Digits do not lower the value read so far. -/
theorem le_ofDigitChars (digits : List Char) (n : Nat) : n ≤ Nat.ofDigitChars 10 digits n := by
  induction digits generalizing n with
  | nil => exact le_rfl
  | cons c digits ih =>
    rw [Nat.ofDigitChars_cons]
    exact le_trans (by omega) (ih _)

theorem boundedDigits_eq_ok_iff (within : n ≤ limit) :
    boundedDigits limit overflow n digits = .ok v ↔
      (∀ c ∈ digits, c.isDigit) ∧ Nat.ofDigitChars 10 digits n ≤ limit ∧
        Nat.ofDigitChars 10 digits n = v := by
  induction digits generalizing n with
  | nil => simp [boundedDigits, within]
  | cons c digits ih =>
    rw [boundedDigits, Nat.ofDigitChars_cons, List.forall_mem_cons, Nat.mul_comm]
    dsimp only
    have above := le_ofDigitChars digits (10 * n + (c.toNat - '0'.toNat))
    split
    · rename_i digit
      split
      · rename_i exceeds
        constructor
        · nofun
        · rintro ⟨_, le, _⟩
          exact absurd (above.trans le) (not_le.2 exceeds)
      · rename_i small
        rw [ih (not_lt.1 small)]
        simp [digit]
    · rename_i other
      simp [other]

theorem denotes_minus_iff : Denotes ('-' :: digits) a ↔
    digits ≠ [] ∧ (∀ c ∈ digits, c.isDigit) ∧ -(Nat.ofDigitChars 10 digits 0 : Int) = a := by
  constructor
  · intro h
    cases h with
    | plain _ decimal => exact absurd (decimal '-' List.mem_cons_self) (by decide)
    | minus nonempty decimal => exact ⟨nonempty, decimal, rfl⟩
  · rintro ⟨nonempty, decimal, rfl⟩
    exact .minus nonempty decimal

theorem denotes_plus_iff : Denotes ('+' :: digits) a ↔
    digits ≠ [] ∧ (∀ c ∈ digits, c.isDigit) ∧ (Nat.ofDigitChars 10 digits 0 : Int) = a := by
  constructor
  · intro h
    cases h with
    | plain _ decimal => exact absurd (decimal '+' List.mem_cons_self) (by decide)
    | plus nonempty decimal => exact ⟨nonempty, decimal, rfl⟩
  · rintro ⟨nonempty, decimal, rfl⟩
    exact .plus nonempty decimal

theorem denotes_plain_iff (notMinus : ∀ rest, s ≠ '-' :: rest) (notPlus : ∀ rest, s ≠ '+' :: rest) :
    Denotes s a ↔
      s ≠ [] ∧ (∀ c ∈ s, c.isDigit) ∧ (Nat.ofDigitChars 10 s 0 : Int) = a := by
  constructor
  · intro h
    cases h with
    | plain nonempty decimal => exact ⟨nonempty, decimal, rfl⟩
    | plus => exact absurd rfl (notPlus _)
    | minus => exact absurd rfl (notMinus _)
  · rintro ⟨nonempty, decimal, rfl⟩
    exact .plain nonempty decimal

/-- A text denotes one integer at most. -/
theorem Denotes.unique (left : Denotes s a) (right : Denotes s b) : a = b := by
  cases left with
  | plain _ decimal =>
    cases right with
    | plain => rfl
    | plus => exact absurd (decimal '+' List.mem_cons_self) (by decide)
    | minus => exact absurd (decimal '-' List.mem_cons_self) (by decide)
  | plus => exact (denotes_plus_iff.1 right).2.2
  | minus => exact (denotes_minus_iff.1 right).2.2

theorem signedDigits_eq_ok_iff {f : Nat → Int} :
    (boundedDigits limit overflow 0 digits >>= fun n => pure (f n)) = .ok a ↔
      (∀ c ∈ digits, c.isDigit) ∧ Nat.ofDigitChars 10 digits 0 ≤ limit ∧
        f (Nat.ofDigitChars 10 digits 0) = a := by
  rw [bind_eq_ok_iff]
  constructor
  · rintro ⟨n, read, ⟨⟩⟩
    obtain ⟨decimal, within, rfl⟩ := (boundedDigits_eq_ok_iff (Nat.zero_le limit)).1 read
    exact ⟨decimal, within, rfl⟩
  · rintro ⟨decimal, within, rfl⟩
    exact ⟨_, (boundedDigits_eq_ok_iff (Nat.zero_le limit)).2 ⟨decimal, within, rfl⟩, rfl⟩

/-- Reading gives the integer that the text denotes, if it fits. -/
theorem readInt64_eq_ok_iff {text : String} :
    readInt64 text = .ok a ↔ Denotes text.toList a ∧ fitsInt64 a := by
  have bound : int64Bound = 9223372036854775808 := rfl
  unfold readInt64
  rw [Expr.fitsInt64_iff]
  split
  · rename_i empty
    simp [empty, denotes_plain_iff]
  · rename_i sign
    simp [sign, denotes_minus_iff]
  · rename_i sign
    simp [sign, denotes_plus_iff]
  · rename_i digits nonempty sign
    rw [signedDigits_eq_ok_iff, sign, denotes_minus_iff]
    constructor
    · rintro ⟨decimal, within, rfl⟩
      exact ⟨⟨nonempty, decimal, rfl⟩, by omega, by omega⟩
    · rintro ⟨⟨_, decimal, rfl⟩, atLeast, _⟩
      exact ⟨decimal, by omega, rfl⟩
  · rename_i digits nonempty sign
    rw [signedDigits_eq_ok_iff, sign, denotes_plus_iff]
    constructor
    · rintro ⟨decimal, within, rfl⟩
      exact ⟨⟨nonempty, decimal, rfl⟩, by omega, by omega⟩
    · rintro ⟨⟨_, decimal, rfl⟩, _, below⟩
      exact ⟨decimal, by omega, rfl⟩
  · rename_i nonempty _ _ notMinus notPlus
    rw [signedDigits_eq_ok_iff, denotes_plain_iff notMinus notPlus]
    constructor
    · rintro ⟨decimal, within, rfl⟩
      exact ⟨⟨nonempty, decimal, rfl⟩, by omega, by omega⟩
    · rintro ⟨⟨_, decimal, rfl⟩, _, below⟩
      exact ⟨decimal, by omega, rfl⟩

theorem denotes_intChars (a : Int) : Denotes (Json.intChars a) a := by
  have digits (n : Nat) : ∀ c ∈ Nat.toDigits 10 n, c.isDigit = true := fun c member =>
    Nat.isDigit_of_mem_toDigits (by decide) (by decide) member
  have value (n : Nat) : Nat.ofDigitChars 10 (Nat.toDigits 10 n) 0 = n :=
    Nat.ofDigitChars_ten_toDigits
  unfold Json.intChars
  split
  · have read := Denotes.minus Nat.toDigits_ne_nil (digits a.natAbs)
    rwa [value, Int.ofNat_natAbs_of_nonpos (by omega), neg_neg] at read
  · have read := Denotes.plain Nat.toDigits_ne_nil (digits a.natAbs)
    rwa [value, Int.natAbs_of_nonneg (by omega)] at read

/-- The text of an integer has no blanks. -/
theorem trim_intText (a : Int) : trim (Json.intText a) = Json.intText a := by
  refine trim_eq_self fun c member => ?_
  rw [Json.intText, String.toList_ofList] at member
  have characters : c.isDigit ∨ c = '-' := by
    have digit (n : Nat) (member : c ∈ Nat.toDigits 10 n) : c.isDigit :=
      Nat.isDigit_of_mem_toDigits (by decide) (by decide) member
    unfold Json.intChars at member
    split at member
    · rcases List.mem_cons.1 member with minus | member
      · exact .inr minus
      · exact .inl (digit _ member)
    · exact .inl (digit _ member)
  rcases characters with digit | rfl
  · exact isBlank_of_isDigit digit
  · decide

end Text

namespace Expr

/-- The texts of an integer that fits 64 signed bits, the blanks at both ends aside. -/
def IsIntegerText (text : String) (n : Int) : Prop :=
  Text.Denotes (Text.trim text).toList n ∧ fitsInt64 n

/-- `int(e)` -/
def intOf (e : Expr) : Expr := .call "int" [e]

/-- `int(string(e))` -/
def intOfString (e : Expr) : Expr := .call "int" [.call "string" [e]]

variable {scope : Scope} {e : Expr} {n : Int} {x : Float} {b : Binary} {j : Json} {text : String}

/-- The range check compares with the floats of the least integer of 64 signed bits and of the one
above the greatest. -/
theorem intOfFloat_eq (finite : FloatClass.of x = .finite b) :
    intOfFloat x =
      if -(2 ^ 63) ≤ b.value ∧ b.value ≤ 2 ^ 63 then .ok (.int (min b.truncate (int64Bound - 1)))
      else .error (.intOutOfRange x) := by
  obtain ⟨low, lowFinite, lowValue⟩ := Binary.ofInt_value (n := -int64Bound) (by decide)
  obtain ⟨high, highFinite, highValue⟩ := Binary.ofInt_value (n := int64Bound) (by decide)
  have least : Binary.nearest (-int64Bound) = -(2 ^ 63) := by decide
  have greatest : Binary.nearest int64Bound = 2 ^ 63 := by decide
  have lower : Float.ofInt (-int64Bound) ≤ x ↔ -(2 ^ 63) ≤ b.value := by
    rw [FloatClass.le_iff lowFinite finite, lowValue, least]
    norm_num
  have upper : x ≤ Float.ofInt int64Bound ↔ b.value ≤ 2 ^ 63 := by
    rw [FloatClass.le_iff finite highFinite, highValue, greatest]
    norm_num
  have whole : truncateFloat? x = some b.truncate := by rw [truncateFloat?, finite]
  rw [intOfFloat, whole]
  dsimp only
  simp only [Bool.and_eq_true, decide_eq_true_iff, lower, upper]

theorem toInt_int (fits : fitsInt64 n) : toInt (.int n) = .ok (.int n) := by
  simp only [Json.int, toInt, JsonNumber.toInt64?_of_fits fits]

theorem toInt_int_of_large (large : int64Bound ≤ n) (integer : IsJsonInteger n) :
    toInt (.int n) =
      if n ≤ int64Bound + 1024 then .ok (.int (int64Bound - 1))
      else .error (.intOutOfRange (Float.ofInt n)) := by
  have unfit : ¬ fitsInt64 n := fun fits => absurd (fitsInt64_iff.1 fits).2 (not_lt.2 large)
  have converted : toInt (.int n) = intOfFloat (Float.ofInt n) := by
    simp only [Json.int, toInt, JsonNumber.toInt64?_of_not_fits unfit, JsonNumber.toFloat]
  obtain ⟨b, finite, value⟩ := Binary.ofInt_value integer.natAbs_lt
  have atLeast : (2 ^ 63 : Int) ≤ Binary.nearest n := Binary.nearest_mono large
  have band : Binary.nearest n ≤ 2 ^ 63 ↔ n ≤ int64Bound + 1024 :=
    Binary.nearest_le_iff large integer.2
  have inRange : -(2 ^ 63) ≤ b.value ∧ b.value ≤ 2 ^ 63 ↔ n ≤ int64Bound + 1024 := by
    rw [← band, value]
    norm_cast
    omega
  rw [converted, intOfFloat_eq finite, Binary.truncate_of_value value]
  simp only [inRange]
  split
  · rename_i near
    have merged : Binary.nearest n = 2 ^ 63 := le_antisymm (band.2 near) atLeast
    rw [merged]
    rfl
  · rfl

theorem toInt_str_eq_ok_iff :
    toInt (.str text) = .ok j ↔ ∃ n, IsIntegerText text n ∧ j = .int n := by
  rw [toInt]
  cases read : Text.readInt64 (Text.trim text) with
  | ok n =>
    have here : IsIntegerText text n := Text.readInt64_eq_ok_iff.1 read
    constructor
    · rintro ⟨⟩
      exact ⟨n, here, rfl⟩
    · rintro ⟨m, other, rfl⟩
      rw [here.1.unique other.1]
  | error error =>
    constructor
    · nofun
    · rintro ⟨m, here, rfl⟩
      exact absurd (read.symm.trans (Text.readInt64_eq_ok_iff.2 here)) nofun

theorem toInt_str_error (none : ¬ ∃ n, IsIntegerText text n) :
    toInt (.str text) = .error (.cannotConvert "int" text) := by
  rw [toInt]
  cases read : Text.readInt64 (Text.trim text) with
  | ok n => exact absurd ⟨n, Text.readInt64_eq_ok_iff.1 read⟩ none
  | error => rfl

theorem eval_call {name : String} {f : Json → Except EvalError Json}
    (found : function? name = some (oneArgument name f)) (argument : eval scope e = .ok j) :
    eval scope (.call name [e]) = f j := by
  simp only [eval, evalItems, argument, applyFunction, found, oneArgument]
  rfl

theorem eval_intOf (argument : eval scope e = .ok j) : eval scope (intOf e) = toInt j :=
  eval_call rfl argument

theorem eval_intOfString (argument : eval scope e = .ok (.int n)) :
    eval scope (intOfString e) = toInt (.str (Json.intText n)) := by
  have written : eval scope (.call "string" [e]) = .ok (.str (Json.intText n)) := by
    rw [eval_call rfl argument]
    simp only [toText, Json.text, Json.int, Json.chars, Json.numberChars, Json.intText]
  exact eval_call rfl written

theorem toInt_intText (fits : fitsInt64 n) : toInt (.str (Json.intText n)) = .ok (.int n) := by
  refine toInt_str_eq_ok_iff.2 ⟨n, ⟨?_, fits⟩, rfl⟩
  rw [Text.trim_intText, Json.intText, String.toList_ofList]
  exact Text.denotes_intChars n

theorem toInt_intText_error (unfit : ¬ fitsInt64 n) :
    ∃ error, toInt (.str (Json.intText n)) = .error error := by
  refine ⟨_, toInt_str_error ?_⟩
  rintro ⟨m, denotes, fits⟩
  rw [Text.trim_intText, Json.intText, String.toList_ofList] at denotes
  exact unfit (denotes.unique (Text.denotes_intChars n) ▸ fits)

theorem toInt_intText_agrees_iff (integer : IsJsonInteger n) :
    (∀ j, toInt (.str (Json.intText n)) = .ok j ↔ toInt (.int n) = .ok j) ↔
      ¬ (int64Bound ≤ n ∧ n ≤ int64Bound + 1024) := by
  by_cases fits : fitsInt64 n
  · have below := (fitsInt64_iff.1 fits).2
    rw [toInt_intText fits, toInt_int fits]
    exact iff_of_true (fun _ => .rfl) fun band => absurd band.1 (not_le.2 below)
  · have large : int64Bound ≤ n := by
      by_contra below
      exact fits (fitsInt64_iff.2 ⟨integer.1, not_le.1 below⟩)
    obtain ⟨error, failed⟩ := toInt_intText_error fits
    rw [failed, toInt_int_of_large large integer]
    split
    · rename_i near
      refine iff_of_false (fun agree => ?_) (not_not.2 ⟨large, near⟩)
      cases (agree _).2 rfl
    · rename_i far
      exact iff_of_true (fun _ => ⟨nofun, nofun⟩) fun band => far band.2

theorem intOfFloat_of_fits (finite : FloatClass.of x = .finite b) (least : -(2 ^ 63) ≤ b.value)
    (below : b.value < 2 ^ 63) : intOfFloat x = .ok (.int b.truncate) := by
  have small : b.truncate < 2 ^ 63 := by
    rw [Binary.truncate_eq]
    split
    · rename_i negative
      exact lt_of_le_of_lt (Int.ceil_le.2 (by exact_mod_cast negative.le : b.value ≤ (0 : Int)))
        (by decide)
    · exact Int.floor_lt.2 (by exact_mod_cast below)
  have fits : b.truncate ≤ int64Bound - 1 := Int.le_sub_one_of_lt small
  rw [intOfFloat_eq finite, if_pos ⟨least, below.le⟩, min_eq_left fits]

theorem intOfFloat_of_bound (finite : FloatClass.of x = .finite b) (bound : b.value = 2 ^ 63) :
    intOfFloat x = .ok (.int (int64Bound - 1)) := by
  have whole : b.truncate = 2 ^ 63 := Binary.truncate_of_value (by rw [bound]; norm_num)
  rw [intOfFloat_eq finite, if_pos (by rw [bound]; norm_num), whole]
  rfl

/-- An integer that fits 64 signed bits is converted to itself, and so is its text. The integers
from `2 ^ 63` to `2 ^ 63 + 1024`, whose nearest float is `2 ^ 63`, are converted to `2 ^ 63 - 1`, and
so is that float, whereas the text of such an integer fails as it does for any that does not fit. All
other integers fail, and all other floats in range are truncated. -/
theorem int_conversion (scope : Scope) (e : Expr) :
    (∀ n, eval scope e = .ok (.int n) → IsJsonInteger n →
      (fitsInt64 n → eval scope (intOf e) = .ok (.int n)) ∧
      (int64Bound ≤ n → n ≤ int64Bound + 1024 →
        eval scope (intOf e) = .ok (.int (int64Bound - 1))) ∧
      (int64Bound + 1024 < n → ∃ error, eval scope (intOf e) = .error error) ∧
      (fitsInt64 n → eval scope (intOfString e) = .ok (.int n)) ∧
      (¬ fitsInt64 n → ∃ error, eval scope (intOfString e) = .error error) ∧
      ((∀ j, eval scope (intOfString e) = .ok j ↔ eval scope (intOf e) = .ok j) ↔
        ¬ (int64Bound ≤ n ∧ n ≤ int64Bound + 1024))) ∧
    (∀ text, eval scope e = .ok (.str text) →
      (∀ j, eval scope (intOf e) = .ok j ↔ ∃ n, IsIntegerText text n ∧ j = .int n) ∧
      ((¬ ∃ n, IsIntegerText text n) →
        eval scope (intOf e) = .error (.cannotConvert "int" text))) ∧
    ∀ x b, eval scope e = .ok (.float x) → FloatClass.of x = .finite b →
      (-(2 ^ 63) ≤ b.value → b.value < 2 ^ 63 →
        eval scope (intOf e) = .ok (.int (if b.value < 0 then ⌈b.value⌉ else ⌊b.value⌋))) ∧
      (b.value = 2 ^ 63 → eval scope (intOf e) = .ok (.int (int64Bound - 1))) ∧
      (b.value < -(2 ^ 63) ∨ 2 ^ 63 < b.value →
        ∃ error, eval scope (intOf e) = .error error) := by
  refine ⟨fun n argument integer => ⟨fun fits => ?_, fun large near => ?_, fun far => ?_,
    fun fits => ?_, fun unfit => ?_, ?_⟩, fun text argument => ⟨fun j => ?_, fun none => ?_⟩,
    fun x b argument finite => ⟨fun least below => ?_, fun bound => ?_, fun outside => ?_⟩⟩
  · rw [eval_intOf argument, toInt_int fits]
  · rw [eval_intOf argument, toInt_int_of_large large integer, if_pos near]
  · have large : int64Bound ≤ n := by omega
    rw [eval_intOf argument, toInt_int_of_large large integer, if_neg (not_le.2 far)]
    exact ⟨_, rfl⟩
  · rw [eval_intOfString argument, toInt_intText fits]
  · rw [eval_intOfString argument]
    exact toInt_intText_error unfit
  · rw [eval_intOf argument, eval_intOfString argument]
    exact toInt_intText_agrees_iff integer
  · rw [eval_intOf argument, toInt_str_eq_ok_iff]
  · rw [eval_intOf argument, toInt_str_error none]
  · rw [eval_intOf argument, ← Binary.truncate_eq]
    exact intOfFloat_of_fits finite least below
  · rw [eval_intOf argument]
    exact intOfFloat_of_bound finite bound
  · rw [eval_intOf argument]
    refine ⟨.intOutOfRange x, (intOfFloat_eq finite).trans (if_neg ?_)⟩
    rintro ⟨least, greatest⟩
    exact outside.elim least.not_gt greatest.not_gt

/-! Integers above `2 ^ 63`, texts and a float. -/

namespace Convertible

def bound : Scope := .ofList
  [("above", .int 9223372036854775808), ("next", .int 9223372036854776833), ("count", .int (-42)),
    ("text", .str " +0042\n"), ("word", .str "4 2"), ("rate", .float (-2.5))]

def rate : Binary := ⟨true, 5629499534213120, -51⟩

theorem rate_value : rate.value = -5 / 2 := by
  norm_num [rate, Binary.value, Binary.size, zpow_neg]

end Convertible

/-- The integer above the greatest one of 64 signed bits is brought down to that one, although its
text is not converted. -/
theorem int_saturates :
    IsJsonInteger 9223372036854775808 ∧
    eval Convertible.bound (.ident "above") = .ok (.int 9223372036854775808) ∧
    eval Convertible.bound (intOf (.ident "above")) = .ok (.int 9223372036854775807) ∧
    eval Convertible.bound (intOfString (.ident "above")) =
      .error (.cannotConvert "int" "9223372036854775808") := by
  exact ⟨by decide, by rfl, by rfl, by rfl⟩

/-- Only the integers within half the distance of floats are brought down. -/
theorem int_conversion_next :
    eval Convertible.bound (intOf (.ident "count")) = .ok (.int (-42)) ∧
    eval Convertible.bound (intOfString (.ident "count")) = .ok (.int (-42)) ∧
    eval Convertible.bound (intOf (.ident "above")) = .ok (.int 9223372036854775807) ∧
    (∃ error, eval Convertible.bound (intOfString (.ident "above")) = .error error) ∧
    (∃ error, eval Convertible.bound (intOf (.ident "next")) = .error error) ∧
    eval Convertible.bound (intOf (.ident "text")) = .ok (.int 42) ∧
    eval Convertible.bound (intOf (.ident "word")) = .error (.cannotConvert "int" "4 2") ∧
    eval Convertible.bound (intOf (.ident "rate")) = .ok (.int (-2)) := by
  obtain ⟨exact, -, -, textExact, -, -⟩ :=
    (int_conversion Convertible.bound (.ident "count")).1 (-42) (by rfl) (by decide)
  obtain ⟨-, saturated, -, -, textFails, -⟩ :=
    (int_conversion Convertible.bound (.ident "above")).1 9223372036854775808 (by rfl) (by decide)
  obtain ⟨-, -, fails, -, -, -⟩ :=
    (int_conversion Convertible.bound (.ident "next")).1 9223372036854776833 (by rfl) (by decide)
  obtain ⟨text, -⟩ :=
    (int_conversion Convertible.bound (.ident "text")).2.1 " +0042\n" (by rfl)
  obtain ⟨-, word⟩ := (int_conversion Convertible.bound (.ident "word")).2.1 "4 2" (by rfl)
  obtain ⟨truncated, -, -⟩ :=
    (int_conversion Convertible.bound (.ident "rate")).2.2 (-2.5) Convertible.rate (by rfl) (by rfl)
  refine ⟨exact (by decide), textExact (by decide), saturated (by decide) (by decide),
    textFails (by decide), fails (by decide), (text _).2 ⟨42, ?_, rfl⟩, word ?_, ?_⟩
  · exact Text.readInt64_eq_ok_iff.1 (by rfl)
  · rintro ⟨n, denotes⟩
    exact absurd (Text.readInt64_eq_ok_iff.2 denotes) nofun
  · rw [Convertible.rate_value] at truncated
    refine (truncated (by norm_num) (by norm_num)).trans ?_
    norm_num

end Expr

end TaskGraph
