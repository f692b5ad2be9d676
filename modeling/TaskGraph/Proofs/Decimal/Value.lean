import Mathlib
import TaskGraph.Decimal.Binary

/-! Finite floats as rational numbers. The operators that compare floats compare these numbers. -/

namespace TaskGraph

open Float.Model
open Float.Model.UnpackedFloat

namespace Binary

/-- The size of the number that a binary float stands for. -/
def size (b : Binary) : ℚ := b.mantissa * 2 ^ b.exponent

/-- The number that a binary float stands for. -/
def value (b : Binary) : ℚ := if b.negative then -b.size else b.size

/-- The forms in which finite floats are kept: only the smallest ones have leading zeros. -/
structure Normal (b : Binary) : Prop where
  mantissa_lt : b.mantissa < 2 * hidden
  exponent_ge : -1074 ≤ b.exponent
  leading : hidden ≤ b.mantissa ∨ b.exponent = -1074

variable {b c : Binary}

theorem size_nonneg (b : Binary) : 0 ≤ b.size :=
  mul_nonneg (Nat.cast_nonneg _) (zpow_nonneg zero_le_two _)

theorem size_pos (positive : 0 < b.mantissa) : 0 < b.size :=
  mul_pos (Nat.cast_pos.2 positive) (zpow_pos two_pos _)

/-- The greater exponent is that of the greater number. -/
theorem size_lt_of_exponent_lt (left : b.Normal) (right : c.Normal)
    (lt : b.exponent < c.exponent) : b.size < c.size := by
  have leading : (hidden : ℚ) ≤ c.mantissa := by
    rcases right.leading with leading | least
    · exact_mod_cast leading
    · have := left.exponent_ge
      omega
  have below : (b.mantissa : ℚ) < 2 * hidden := by exact_mod_cast left.mantissa_lt
  calc b.size
      < 2 * hidden * 2 ^ b.exponent := mul_lt_mul_of_pos_right below (zpow_pos two_pos _)
    _ = hidden * 2 ^ (b.exponent + 1) := by rw [zpow_add_one₀ two_ne_zero]; ring
    _ ≤ hidden * 2 ^ c.exponent :=
        mul_le_mul_of_nonneg_left (zpow_le_zpow_right₀ one_le_two lt) (Nat.cast_nonneg _)
    _ ≤ c.size := mul_le_mul_of_nonneg_right leading (zpow_nonneg zero_le_two _)

theorem value_zero {negative : Bool} {exponent : Int} : value ⟨negative, 0, exponent⟩ = 0 := by
  cases negative <;> simp [value, size]

theorem truncate_eq_floor_size (b : Binary) :
    b.truncate = if b.negative then -⌊b.size⌋ else ⌊b.size⌋ := by
  obtain ⟨negative, m, e⟩ := b
  cases e with
  | ofNat e =>
    have floor : ⌊size ⟨negative, m, .ofNat e⟩⌋ = (m * Nat.pow 2 e : Nat) := by
      have whole : size ⟨negative, m, .ofNat e⟩ = (m * 2 ^ e : Nat) := by
        push_cast
        exact congrArg _ (zpow_natCast 2 e)
      rw [whole]
      exact Int.floor_natCast _
    rw [floor]
    rfl
  | negSucc e =>
    have floor : ⌊size ⟨negative, m, .negSucc e⟩⌋ = (m / Nat.pow 2 (e + 1) : Nat) := by
      have quotient : size ⟨negative, m, .negSucc e⟩ = (m : ℚ) / (2 ^ (e + 1) : Nat) := by
        rw [size, zpow_negSucc, div_eq_mul_inv]
        push_cast
        rfl
      rw [quotient]
      exact Rat.floor_natCast_div_natCast m (2 ^ (e + 1))
    rw [floor]
    rfl

/-- Truncation is toward zero. -/
theorem truncate_eq (b : Binary) :
    b.truncate = if b.value < 0 then ⌈b.value⌉ else ⌊b.value⌋ := by
  have nonneg := b.size_nonneg
  rw [truncate_eq_floor_size]
  cases negative : b.negative with
  | false =>
    have same : b.value = b.size := by rw [value, if_neg (by simp [negative])]
    rw [same, if_neg (by simp), if_neg nonneg.not_gt]
  | true =>
    have same : b.value = -b.size := by rw [value, if_pos negative]
    rw [same, if_pos rfl]
    split
    · rw [Int.ceil_neg]
    · have zero : b.size = 0 := by linarith
      simp [zero]

theorem truncate_of_value {n : Int} (whole : b.value = n) : b.truncate = n := by
  rw [truncate_eq, whole, Int.ceil_intCast, Int.floor_intCast, ite_self]

/-- Numbers are compared by their exponents and then by their mantissas. -/
theorem compares_size (left : b.Normal) (right : c.Normal) :
    ((compare b.exponent c.exponent).then (compare b.mantissa c.mantissa)).Compares
      b.size c.size := by
  rcases lt_trichotomy b.exponent c.exponent with lt | same | gt
  · rw [compare_lt_iff_lt.2 lt]
    exact size_lt_of_exponent_lt left right lt
  · rw [compare_eq_iff_eq.2 same]
    have step : (0 : ℚ) < 2 ^ c.exponent := zpow_pos two_pos _
    unfold size
    rw [same]
    rcases lt_trichotomy b.mantissa c.mantissa with lt | same | gt
    · rw [compare_lt_iff_lt.2 lt]
      exact mul_lt_mul_of_pos_right (Nat.cast_lt.2 lt) step
    · rw [compare_eq_iff_eq.2 same, same]
      rfl
    · rw [compare_gt_iff_gt.2 gt]
      exact mul_lt_mul_of_pos_right (Nat.cast_lt.2 gt) step
  · rw [compare_gt_iff_gt.2 gt]
    exact size_lt_of_exponent_lt right left gt

end Binary

namespace FloatClass

/-- The class of a float that is given by its parts. -/
def ofUnpacked : UnpackedFloat → FloatClass
  | .notANumber => .nan
  | .infinity sign => .infinite (sign == .negative)
  | .zero sign => .finite ⟨sign == .negative, 0, -1074⟩
  | .finite sign mantissa exponent _ => .finite ⟨sign == .negative, mantissa, exponent⟩

theorem unpackMantissa_toNat (b : BitVec Format.binary64.numBits) :
    (unpackMantissa b).toNat = b.toNat % Binary.hidden := by
  simp [unpackMantissa, BitVec.extractLsb_toNat]

theorem unpackExponent_toNat (b : BitVec Format.binary64.numBits) :
    (unpackExponent b).toNat = b.toNat / Binary.hidden % 2048 := by
  simp [unpackExponent, BitVec.extractLsb_toNat, Nat.shiftRight_eq_div_pow]

theorem unpackSign_toNat (b : BitVec Format.binary64.numBits) :
    (unpackSign b).toNat = b.toNat / 0x8000000000000000 := by
  have bound : b.toNat < 0x10000000000000000 := b.isLt
  simp [unpackSign, BitVec.extractLsb_toNat, Nat.shiftRight_eq_div_pow]
  omega

theorem appendMantissa_toNat (m : BitVec 52) : (1#1 ++ m).toNat = Binary.hidden + m.toNat := by
  rw [BitVec.toNat_append, ← Nat.shiftLeft_add_eq_or_of_lt m.isLt]
  rfl

theorem sign_eq (b : BitVec Format.binary64.numBits) :
    (Sign.ofBitVec (unpackSign b) == .negative) = decide (0x8000000000000000 ≤ b.toNat) := by
  have bound : b.toNat < 0x10000000000000000 := b.isLt
  have sign := unpackSign_toNat b
  by_cases negative : 0x8000000000000000 ≤ b.toNat
  · have nonzero : unpackSign b ≠ 0#1 := by
      rw [Ne, ← BitVec.toNat_inj, sign]
      simp only [BitVec.toNat_ofNat, Nat.zero_mod]
      omega
    rw [Sign.ofBitVec, if_neg nonzero, decide_eq_true negative]
    rfl
  · have zero : unpackSign b = 0#1 := by
      rw [← BitVec.toNat_inj, sign]
      simp only [BitVec.toNat_ofNat, Nat.zero_mod]
      omega
    rw [Sign.ofBitVec, if_pos zero, decide_eq_false negative]
    rfl

/-- The bits of a float show its parts. -/
theorem of_eq_ofUnpacked (x : Float) : FloatClass.of x = ofUnpacked x.toModel.unpack := by
  have parts (b : BitVec Format.binary64.numBits) (same : x.toBits.toNat = b.toNat) :
      FloatClass.of x = ofUnpacked (UnpackedFloat.unpack Format.binary64 b) := by
    have greatest : unpackExponent b = -1#_ ↔ b.toNat / Binary.hidden % 2048 = 2047 := by
      rw [← unpackExponent_toNat, ← BitVec.toNat_inj]
      rfl
    have least : unpackExponent b = 0#_ ↔ b.toNat / Binary.hidden % 2048 = 0 := by
      rw [← unpackExponent_toNat, ← BitVec.toNat_inj]
      rfl
    have bare : unpackMantissa b = 0#_ ↔ b.toNat % Binary.hidden = 0 := by
      rw [← unpackMantissa_toNat, ← BitVec.toNat_inj]
      rfl
    unfold FloatClass.of UnpackedFloat.unpack
    rw [same]
    dsimp only
    by_cases special : b.toNat / Binary.hidden % 2048 = 2047
    · rw [if_pos special, if_pos (greatest.2 special)]
      by_cases infinite : b.toNat % Binary.hidden = 0
      · rw [if_pos infinite, if_pos (bare.2 infinite), ofUnpacked, sign_eq]
      · rw [if_neg infinite, if_neg (infinite ∘ bare.1), ofUnpacked]
    rw [if_neg special, if_neg (special ∘ greatest.1)]
    by_cases small : b.toNat / Binary.hidden % 2048 = 0
    · rw [if_pos small, if_pos (least.2 small)]
      by_cases zero : b.toNat % Binary.hidden = 0
      · rw [dif_pos (bare.2 zero), ofUnpacked, sign_eq, zero]
      · rw [dif_neg (zero ∘ bare.1), ofUnpacked, sign_eq, unpackMantissa_toNat,
          unpackExponent_toNat, small]
        rfl
    · rw [if_neg small, if_neg (small ∘ least.1), ofUnpacked, sign_eq, appendMantissa_toNat,
        unpackMantissa_toNat, unpackExponent_toNat]
      rfl
  exact parts x.toModel.toBits.toBitVec rfl

theorem normal_of_finite {x : Float} {b : Binary} (h : FloatClass.of x = .finite b) : b.Normal := by
  have fraction : x.toBits.toNat % Binary.hidden < Binary.hidden := Nat.mod_lt _ (by decide)
  unfold FloatClass.of at h
  dsimp only at h
  split at h
  · split at h <;> cases h
  split at h
  · obtain ⟨⟩ := h
    exact ⟨by dsimp only; omega, le_rfl, .inr rfl⟩
  · rename_i small
    obtain ⟨⟩ := h
    refine ⟨by dsimp only; omega, ?_, .inl (Nat.le_add_right _ _)⟩
    dsimp only
    omega

theorem compares_neg {o : Ordering} {p q : ℚ} (compares : o.Compares p q) :
    o.swap.Compares (-p) (-q) := by
  cases o with
  | lt => exact neg_lt_neg compares
  | eq => exact congrArg Neg.neg compares
  | gt => exact neg_lt_neg compares

/-- Finite floats are ordered as the numbers they stand for. -/
theorem compare_finite {x y : Float} {b c : Binary} (left : FloatClass.of x = .finite b)
    (right : FloatClass.of y = .finite c) :
    ∃ o, x.toModel.unpack.compare y.toModel.unpack = some o ∧ o.Compares b.value c.value := by
  have leftNormal := normal_of_finite left
  have rightNormal := normal_of_finite right
  rw [of_eq_ofUnpacked] at left right
  generalize x.toModel.unpack = u at left
  generalize y.toModel.unpack = v at right
  cases u with
  | infinity | notANumber => cases left
  | zero sign =>
    obtain ⟨⟩ := left
    rw [Binary.value_zero]
    cases v with
    | infinity | notANumber => cases right
    | zero sign' =>
      obtain ⟨⟩ := right
      exact ⟨.eq, rfl, Binary.value_zero.symm⟩
    | finite sign' m' e' positive' =>
      obtain ⟨⟩ := right
      have size := Binary.size_pos (b := ⟨sign' == .negative, m', e'⟩) positive'
      cases sign' with
      | positive => exact ⟨.lt, rfl, size⟩
      | negative => exact ⟨.gt, rfl, neg_neg_of_pos size⟩
  | finite sign m e positive =>
    obtain ⟨⟩ := left
    have size := Binary.size_pos (b := ⟨sign == .negative, m, e⟩) positive
    cases v with
    | infinity | notANumber => cases right
    | zero sign' =>
      obtain ⟨⟩ := right
      rw [Binary.value_zero]
      cases sign with
      | positive => exact ⟨.gt, rfl, size⟩
      | negative => exact ⟨.lt, rfl, neg_neg_of_pos size⟩
    | finite sign' m' e' positive' =>
      obtain ⟨⟩ := right
      have size' := Binary.size_pos (b := ⟨sign' == .negative, m', e'⟩) positive'
      have compares := Binary.compares_size leftNormal rightNormal
      cases sign with
      | positive =>
        cases sign' with
        | positive => exact ⟨_, rfl, compares⟩
        | negative => exact ⟨.gt, rfl, (neg_neg_of_pos size').trans size⟩
      | negative =>
        cases sign' with
        | positive => exact ⟨.lt, rfl, (neg_neg_of_pos size).trans size'⟩
        | negative => exact ⟨_, rfl, compares_neg compares⟩

variable {x y : Float} {b c : Binary}

theorem lt_iff (left : FloatClass.of x = .finite b) (right : FloatClass.of y = .finite c) :
    x < y ↔ b.value < c.value := by
  obtain ⟨o, compared, compares⟩ := compare_finite left right
  have meaning : x < y ↔ (x.toModel.unpack.compare y.toModel.unpack == some .lt) = true :=
    decide_eq_true_iff
  rw [meaning, compared, ← compares.eq_lt]
  cases o <;> decide

theorem le_iff (left : FloatClass.of x = .finite b) (right : FloatClass.of y = .finite c) :
    x ≤ y ↔ b.value ≤ c.value := by
  obtain ⟨o, compared, compares⟩ := compare_finite left right
  have meaning : x ≤ y ↔ (x.toModel.unpack.compare y.toModel.unpack).any (·.isLE) = true :=
    decide_eq_true_iff
  have greater : c.value < b.value ↔ o = .gt := compares.eq_gt.symm
  rw [meaning, compared, ← not_lt, greater]
  cases o <;> decide

theorem beq_iff (left : FloatClass.of x = .finite b) (right : FloatClass.of y = .finite c) :
    (x == y) = true ↔ b.value = c.value := by
  obtain ⟨o, compared, compares⟩ := compare_finite left right
  change (x.toModel.unpack.compare y.toModel.unpack == some .eq) = true ↔ _
  rw [compared, ← compares.eq_eq]
  cases o <;> decide

end FloatClass

end TaskGraph
