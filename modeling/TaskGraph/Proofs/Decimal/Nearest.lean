import TaskGraph.Proofs.Decimal.Value

/-! The floats of integers. An integer is rounded to 53 significant bits, and half way between two
candidates to the even one. -/

namespace TaskGraph.Binary

open Float.Model
open Float.Model.UnpackedFloat

/-- The quotient, rounded to the nearest integer and from half way to an even one. -/
def roundedQuotient (n unit : Nat) : Nat :=
  let q := n / unit
  if 2 * (n % unit) < unit ∨ 2 * (n % unit) = unit ∧ q % 2 = 0 then q else q + 1

/-- The distance of the integers with 53 significant bits that are around `n`. -/
def spacing (n : Nat) : Nat := 2 ^ (n.log2 - 52)

def nearestNat (n : Nat) : Nat := roundedQuotient n (spacing n) * spacing n

/-- The integer with 53 significant bits that is nearest to `n`, and from half way the one that is
even in these bits. -/
def nearest (n : Int) : Int := n.sign * nearestNat n.natAbs

variable {n m k unit : Nat}

theorem spacing_pos (n : Nat) : 0 < spacing n := Nat.two_pow_pos _

theorem spacing_eq (width : n.log2 = 52 + k) : spacing n = 2 ^ k := by
  rw [spacing, width, Nat.add_sub_cancel_left]

theorem roundedQuotient_one (n : Nat) : roundedQuotient n 1 = n := by
  simp [roundedQuotient, Nat.mod_one]

theorem roundedQuotient_bounds (n unit : Nat) :
    n / unit ≤ roundedQuotient n unit ∧ roundedQuotient n unit ≤ n / unit + 1 := by
  unfold roundedQuotient
  dsimp only
  split <;> omega

theorem roundedQuotient_mul (positive : 0 < k) :
    roundedQuotient (n * k) (unit * k) = roundedQuotient n unit := by
  have half : 2 * (n % unit * k) = 2 * (n % unit) * k := (Nat.mul_assoc ..).symm
  simp only [roundedQuotient, Nat.mul_div_mul_right _ _ positive, Nat.mul_mod_mul_right, half,
    Nat.mul_lt_mul_right positive, Nat.mul_left_inj positive.ne']

theorem roundedQuotient_mono (le : n ≤ m) :
    roundedQuotient n unit ≤ roundedQuotient m unit := by
  have quotients : n / unit ≤ m / unit := Nat.div_le_div_right le
  rcases quotients.lt_or_eq with lt | same
  · have := roundedQuotient_bounds n unit
    have := roundedQuotient_bounds m unit
    omega
  · have remainders : n % unit ≤ m % unit := by
      have left := Nat.div_add_mod n unit
      have right := Nat.div_add_mod m unit
      rw [same] at left
      omega
    unfold roundedQuotient
    rw [same]
    dsimp only
    split <;> split <;> omega

theorem spacing_of_lt (lt : n < 2 * hidden) : spacing n = 1 := by
  by_cases zero : n = 0
  · subst zero
    rfl
  · have := (Nat.log2_lt zero).2 (show n < 2 ^ 53 from lt)
    rw [spacing, Nat.sub_eq_zero_of_le (by omega)]
    rfl

/-- Integers with no more than 53 bits are kept. -/
theorem nearestNat_of_lt (lt : n < 2 * hidden) : nearestNat n = n := by
  rw [nearestNat, spacing_of_lt lt, roundedQuotient_one, Nat.mul_one]

theorem le_log2 (leading : hidden ≤ n) : 52 ≤ n.log2 :=
  (Nat.le_log2 (by unfold hidden at leading; omega)).2 leading

theorem log2_eq (leading : hidden ≤ n) (below : n < 2 * hidden) : n.log2 = 52 :=
  (Nat.log2_eq_iff (lt_of_lt_of_le (by decide) leading).ne').2 ⟨leading, below⟩

theorem log2_mul_two_pow (nonzero : n ≠ 0) (k : Nat) : (n * 2 ^ k).log2 = n.log2 + k := by
  have least := Nat.mul_le_mul_right (2 ^ k) (Nat.log2_self_le nonzero)
  have below := Nat.mul_lt_mul_of_pos_right (Nat.lt_log2_self (n := n)) (Nat.two_pow_pos k)
  rw [← Nat.pow_add] at least below
  refine (Nat.log2_eq_iff (Nat.mul_ne_zero nonzero (Nat.two_pow_pos k).ne')).2 ⟨least, ?_⟩
  rwa [Nat.add_right_comm]

/-- A number with more bits has a rounded quotient of 53 bits, or the next power of two. -/
theorem roundedQuotient_normal (width : n.log2 = 52 + k) :
    hidden ≤ roundedQuotient n (2 ^ k) ∧ roundedQuotient n (2 ^ k) ≤ 2 * hidden := by
  have nonzero : n ≠ 0 := by
    rintro rfl
    rw [Nat.log2_zero] at width
    omega
  have bounds := roundedQuotient_bounds n (2 ^ k)
  have atLeast : 2 ^ 52 ≤ n / 2 ^ k := by
    rw [Nat.le_div_iff_mul_le (Nat.two_pow_pos k), ← Nat.pow_add, ← width]
    exact Nat.log2_self_le nonzero
  have below : n / 2 ^ k < 2 ^ 53 := by
    rw [Nat.div_lt_iff_lt_mul (Nat.two_pow_pos k), ← Nat.pow_add, ← Nat.log2_lt nonzero]
    omega
  unfold hidden
  omega

/-- Rounding stays between the powers of two around the number. -/
theorem nearestNat_bounds (nonzero : n ≠ 0) :
    2 ^ n.log2 ≤ nearestNat n ∧ nearestNat n ≤ 2 ^ (n.log2 + 1) := by
  rcases lt_or_ge n (2 * hidden) with small | large
  · rw [nearestNat_of_lt small]
    exact ⟨Nat.log2_self_le nonzero, Nat.lt_log2_self.le⟩
  · obtain ⟨k, width⟩ := Nat.exists_eq_add_of_le (le_log2 (n := n) (by omega))
    obtain ⟨atLeast, atMost⟩ := roundedQuotient_normal width
    have least : (2 : Nat) ^ (52 + k) = hidden * 2 ^ k := Nat.pow_add ..
    have next : (2 : Nat) ^ (52 + k + 1) = 2 * hidden * 2 ^ k := by
      rw [Nat.pow_succ, least]
      ring
    rw [nearestNat, spacing_eq width, width, least, next]
    exact ⟨Nat.mul_le_mul_right _ atLeast, Nat.mul_le_mul_right _ atMost⟩

theorem nearestNat_mono (le : n ≤ m) : nearestNat n ≤ nearestNat m := by
  by_cases zero : n = 0
  · rw [zero]
    exact Nat.zero_le _
  have nonzero : m ≠ 0 := by omega
  have widths : n.log2 ≤ m.log2 :=
    (Nat.le_log2 nonzero).2 ((Nat.log2_self_le zero).trans le)
  rcases widths.lt_or_eq with lt | same
  · calc nearestNat n
        ≤ 2 ^ (n.log2 + 1) := (nearestNat_bounds zero).2
      _ ≤ 2 ^ m.log2 := Nat.pow_le_pow_right two_pos lt
      _ ≤ nearestNat m := (nearestNat_bounds nonzero).1
  · have spaced : spacing n = spacing m := by rw [spacing, spacing, same]
    rw [nearestNat, nearestNat, spaced]
    exact Nat.mul_le_mul_right _ (roundedQuotient_mono le)

theorem nearestNat_error (n : Nat) :
    2 * nearestNat n ≤ 2 * n + spacing n ∧ 2 * n ≤ 2 * nearestNat n + spacing n := by
  have division := Nat.div_add_mod n (spacing n)
  have below := Nat.mod_lt n (spacing_pos n)
  rw [Nat.mul_comm] at division
  have next := Nat.add_one_mul (n / spacing n) (spacing n)
  unfold nearestNat roundedQuotient
  dsimp only
  split <;> omega

theorem nearestNat_scale (leading : hidden ≤ n) (k : Nat) :
    nearestNat (n * 2 ^ k) = nearestNat n * 2 ^ k := by
  have := le_log2 leading
  have nonzero : n ≠ 0 := by unfold hidden at leading; omega
  have scaled : spacing (n * 2 ^ k) = spacing n * 2 ^ k := by
    rw [spacing, spacing, log2_mul_two_pow nonzero, ← Nat.pow_add]
    congr 1
    omega
  rw [nearestNat, scaled, roundedQuotient_mul (Nat.two_pow_pos k), ← Nat.mul_assoc]
  rfl

theorem nearest_neg (n : Int) : nearest (-n) = -nearest n := by
  rw [nearest, nearest, Int.sign_neg, Int.natAbs_neg, Int.neg_mul]

theorem nearest_natCast (n : Nat) : nearest n = nearestNat n := by
  rcases Nat.eq_zero_or_pos n with rfl | positive
  · rfl
  · rw [nearest, Int.sign_natCast_of_ne_zero positive.ne', one_mul, Int.natAbs_natCast]

theorem nearest_mono {a b : Int} (le : a ≤ b) : nearest a ≤ nearest b := by
  obtain ⟨n, rfl | rfl⟩ := a.eq_nat_or_neg <;> obtain ⟨m, rfl | rfl⟩ := b.eq_nat_or_neg <;>
    simp only [nearest_neg, nearest_natCast]
  · exact Int.ofNat_le.2 (nearestNat_mono (Int.ofNat_le.1 le))
  · obtain ⟨rfl, rfl⟩ : n = 0 ∧ m = 0 := by omega
    rfl
  · omega
  · exact neg_le_neg (Int.ofNat_le.2 (nearestNat_mono (Int.ofNat_le.1 (neg_le_neg_iff.1 le))))

/-- Integers below `2 ^ 64` have floats that are at most `2048` apart. -/
theorem nearest_error {a : Int} (bound : a.natAbs < 2 ^ 64) : |nearest a - a| ≤ 1024 := by
  have wide : spacing a.natAbs ≤ 2 ^ 11 := by
    refine Nat.pow_le_pow_right two_pos ?_
    by_cases zero : a.natAbs = 0
    · rw [zero]
      decide
    · have := (Nat.log2_lt zero).2 bound
      omega
  have error := nearestNat_error a.natAbs
  obtain ⟨n, rfl | rfl⟩ := a.eq_nat_or_neg
  · rw [Int.natAbs_natCast] at *
    rw [nearest_natCast, abs_le]
    omega
  · rw [Int.natAbs_neg, Int.natAbs_natCast] at *
    rw [nearest_neg, nearest_natCast, abs_le]
    omega

/-- Above `2 ^ 63` the floats are `2048` apart, and half way to the first of them is nearer to
`2 ^ 63`. -/
theorem nearest_le_iff {a : Int} (large : 2 ^ 63 ≤ a) (bound : a < 2 ^ 64) :
    nearest a ≤ 2 ^ 63 ↔ a ≤ 2 ^ 63 + 1024 := by
  lift a to Nat using by omega
  have width : a.log2 = 63 := (Nat.log2_eq_iff (by omega)).2 ⟨by omega, by omega⟩
  have spaced : spacing a = 2048 := spacing_eq (k := 11) width
  rw [nearest_natCast, nearestNat, spaced, roundedQuotient]
  split <;> omega

/-! Rounding shifts the mantissa to the right and keeps two bits of what it drops: half of the unit,
and whether anything else remains. -/

/-- What a shift by a power of two leaves. -/
def shifted (n unit : Nat) : ExtendedMantissa :=
  ⟨n / unit, decide (unit ≤ 2 * (n % unit)), decide (n % unit ≠ 0 ∧ 2 * (n % unit) ≠ unit)⟩

theorem shiftRightOne_shifted (positive : 0 < unit) :
    (shifted n unit).shiftRightOne = shifted n (unit * 2) := by
  have remainder : n % (unit * 2) = n % unit + unit * (n / unit % 2) := Nat.mod_mul
  have below : n % unit < unit := Nat.mod_lt _ positive
  have bit : n / unit % 2 = 0 ∨ n / unit % 2 = 1 := by omega
  simp only [shifted, ExtendedMantissa.shiftRightOne, Nat.div_div_eq_div_mul, remainder]
  rcases bit with even | odd
  · simp only [even, Nat.mul_zero, Nat.add_zero]
    congr 1 <;> grind
  · simp only [odd, Nat.mul_one]
    congr 1 <;> grind

theorem shiftRight_shifted (n k : Nat) :
    ExtendedMantissa.ofMantissaAndAccuracy n .exact >>> k = shifted n (2 ^ k) := by
  change k.repeat ExtendedMantissa.shiftRightOne _ = _
  induction k with
  | zero => simp [Nat.repeat, shifted, ExtendedMantissa.ofMantissaAndAccuracy, Nat.mod_one]
  | succ k ih => rw [Nat.repeat, ih, shiftRightOne_shifted (Nat.two_pow_pos k), Nat.pow_succ]

theorem roundedMantissa_shifted (positive : 0 < unit) :
    (shifted n unit).roundedMantissa = roundedQuotient n unit := by
  rcases lt_trichotomy (2 * (n % unit)) unit with lt | half | gt
  · rw [shifted, decide_eq_false (by omega), roundedQuotient, if_pos (.inl lt)]
    cases decide (n % unit ≠ 0 ∧ 2 * (n % unit) ≠ unit) <;> rfl
  · rw [shifted, decide_eq_true half.ge, decide_eq_false (by omega)]
    change n / unit + n / unit % 2 = _
    unfold roundedQuotient
    dsimp only
    split <;> omega
  · rw [shifted, decide_eq_true gt.le, decide_eq_true (by omega), roundedQuotient,
      if_neg (by omega)]
    rfl

theorem shiftToTargetExponent_exact {exponent : Int} (width : n.log2 = 52 + k)
    (least : -1074 ≤ exponent) :
    shiftToTargetExponent Format.binary64 n exponent .exact =
      (shifted n (2 ^ k), exponent + k) := by
  have target : Format.binary64.targetExponent (totalExponent n exponent) = exponent + k := by
    change max ((n.log2 : Int) + 1 + exponent - 53) (-1074) = _
    omega
  rw [shiftToTargetExponent, target, shiftToExponent, add_sub_cancel_left, Int.toNat_natCast,
    shiftRight_shifted]

/-- The parts of a normal float of the given sign and size. -/
def IsNormal (u : UnpackedFloat) (sign : Sign) (size : ℚ) : Prop :=
  ∃ m e positive, u = .finite sign m e positive ∧ hidden ≤ m ∧ m < 2 * hidden ∧
    -1074 ≤ e ∧ e ≤ 971 ∧ m * 2 ^ e = size

/-- An exact number is rounded to 53 significant bits. -/
theorem isNormal_roundWithAccuracy (sign : Sign) (exponent : Int) (leading : hidden ≤ n)
    (least : -1074 ≤ exponent) (greatest : exponent + n.log2 ≤ 1022) :
    IsNormal (roundWithAccuracy Format.binary64 sign n exponent .exact) sign
      (nearestNat n * 2 ^ exponent) := by
  obtain ⟨k, width⟩ := Nat.exists_eq_add_of_le (le_log2 leading)
  have quotient := roundedQuotient_normal width
  -- A mantissa that was rounded up to the next power of two is shifted once more.
  obtain ⟨m, j, carried, atLeast, below, small⟩ : ∃ m j,
      roundedQuotient n (2 ^ k) = m * 2 ^ j ∧ hidden ≤ m ∧ m < 2 * hidden ∧ j ≤ 1 := by
    rcases quotient.2.lt_or_eq with lt | eq
    · exact ⟨_, 0, (Nat.mul_one _).symm, quotient.1, lt, zero_le_one⟩
    · exact ⟨hidden, 1, eq.trans (Nat.mul_comm ..), le_rfl, by decide, le_rfl⟩
  have nonzero : m ≠ 0 := (lt_of_lt_of_le (by decide) atLeast).ne'
  have carriedWidth : (m * 2 ^ j).log2 = 52 + j := by
    rw [log2_mul_two_pow nonzero, log2_eq atLeast below]
  refine ⟨m, exponent + k + j, Nat.pos_of_ne_zero nonzero, ?_, atLeast, below, by omega, by omega,
    ?_⟩
  · unfold roundWithAccuracy
    rw [shiftToTargetExponent_exact width least]
    dsimp only
    rw [roundedMantissa_shifted (Nat.two_pow_pos k), carried,
      shiftToTargetExponent_exact carriedWidth (by omega)]
    simp only [shifted, Nat.mul_div_cancel _ (Nat.two_pow_pos j), dif_neg nonzero]
  · rw [nearestNat, spacing_eq width, carried, zpow_add₀ two_ne_zero, zpow_add₀ two_ne_zero,
      zpow_natCast, zpow_natCast]
    push_cast
    ring

/-- A normal float is found again in its bits. -/
theorem unpack_pack_normal (sign : Sign) {e : Int} (leading : hidden ≤ m) (below : m < 2 * hidden)
    (least : -1074 ≤ e) (greatest : e ≤ 971) (positive : 0 < m) :
    (Float.Model.pack (.finite sign m e positive)).unpack = .finite sign m e positive := by
  have width := log2_eq leading below
  have packed : UnpackedFloat.pack Format.binary64 (.finite sign m e positive) =
      packComponents Format.binary64 sign (BitVec.ofNat 11 (e + 1075).toNat)
        (BitVec.ofNat 52 m) := by
    have biased : e + (Format.binary64.exponentBias : Int) + (52 : Nat) = e + 1075 := by
      change e + 1023 + 52 = _
      omega
    simp only [UnpackedFloat.pack]
    rw [width, biased, if_neg (by omega)]
    exact if_pos rfl
  have exponent : (BitVec.ofNat 11 (e + 1075).toNat).toNat = (e + 1075).toNat := by
    rw [BitVec.toNat_ofNat, Nat.mod_eq_of_lt (by omega)]
  have mantissa : (1#1 ++ BitVec.ofNat 52 m).toNat = m := by
    rw [FloatClass.appendMantissa_toNat, BitVec.toNat_ofNat]
    unfold hidden at *
    omega
  have notGreatest : BitVec.ofNat 11 (e + 1075).toNat ≠ -1#11 := by
    rw [Ne, ← BitVec.toNat_inj, exponent]
    change (e + 1075).toNat ≠ 2047
    omega
  have notLeast : BitVec.ofNat 11 (e + 1075).toNat ≠ 0#11 := by
    rw [Ne, ← BitVec.toNat_inj, exponent]
    change (e + 1075).toNat ≠ 0
    omega
  change UnpackedFloat.unpack Format.binary64 (UnpackedFloat.pack Format.binary64 _) = _
  rw [packed]
  simp only [UnpackedFloat.unpack, unpackMantissa_packComponents, unpackExponent_packComponents,
    unpackSign_packComponents, Sign.ofBitVec_toBitVec, if_neg notGreatest, if_neg notLeast,
    exponent, mantissa]
  congr 1
  change ((e + 1075).toNat : Int) - (1023 + 52) = e
  omega

variable {sign : Sign} {size : ℚ} {u : UnpackedFloat} {x : Float}

theorem IsNormal.unpack_pack (normal : IsNormal u sign size) :
    (Float.Model.pack u).unpack = u := by
  obtain ⟨m, e, positive, rfl, leading, below, least, greatest, -⟩ := normal
  exact unpack_pack_normal sign leading below least greatest positive

theorem IsNormal.neg (normal : IsNormal u sign size) : IsNormal u.neg (-sign) size := by
  obtain ⟨m, e, positive, rfl, rest⟩ := normal
  exact ⟨m, e, positive, rfl, rest⟩

theorem IsNormal.value (normal : IsNormal x.toModel.unpack sign size) :
    ∃ b, FloatClass.of x = .finite b ∧ b.value = if sign == .negative then -size else size := by
  obtain ⟨m, e, positive, parts, -, -, -, -, rfl⟩ := normal
  exact ⟨_, (FloatClass.of_eq_ofUnpacked x).trans (congrArg FloatClass.ofUnpacked parts), rfl⟩

/-- Multiplication rounds the exact product. -/
theorem isNormal_mul (positive : 0 < m) (positive' : 0 < k) (e e' : Int) (leading : hidden ≤ m * k)
    (least : -1074 ≤ e + e') (greatest : e + e' + (m * k).log2 ≤ 1022) :
    IsNormal (UnpackedFloat.mul Format.binary64 (.finite .positive m e positive)
      (.finite .positive k e' positive')) .positive (nearestNat (m * k) * 2 ^ (e + e')) :=
  isNormal_roundWithAccuracy .positive (e + e') leading least greatest

theorem scale_back (n k : Nat) : ((n * 2 ^ k : Nat) : ℚ) * 2 ^ (-k : Int) = n := by
  rw [Nat.cast_mul, Nat.cast_pow, Nat.cast_ofNat, mul_assoc, ← zpow_natCast,
    ← zpow_add₀ two_ne_zero, add_neg_cancel, zpow_zero, mul_one]

theorem unpack_one : ∃ positive, (Float.exactlyRepresentablePowersOfTen[0]).toModel.unpack =
    .finite .positive hidden (-52) positive :=
  ⟨by decide, by rfl⟩

/-- A small integer is shifted to the left until it has 53 bits, which is exact. -/
theorem isNormal_toFloat (positive : 0 < n) (small : n < 2 * hidden) :
    IsNormal n.toUInt64.toFloat.toModel.unpack .positive n := by
  have width : n.log2 ≤ 52 := Nat.lt_succ_iff.1 ((Nat.log2_lt positive.ne').2 small)
  obtain ⟨k, complement⟩ := Nat.exists_eq_add_of_le width
  have word : n.toUInt64.toNat = n := by
    change n % 2 ^ 64 = n
    unfold hidden at small
    omega
  have target : Format.binary64.targetExponent (totalExponent n 0) = -k := by
    change max ((n.log2 : Int) + 1 + 0 - 53) (-1074) = _
    omega
  have rounded : UnpackedFloat.ofUInt64 Format.binary64 n.toUInt64 =
      roundWithAccuracy Format.binary64 .positive (n * 2 ^ k) (-k) .exact := by
    change UnpackedFloat.normalize Format.binary64 (n.toUInt64.toNat : Int) 0 .positive = _
    rw [word, UnpackedFloat.normalize, compare_gt_iff_gt.2 (by omega)]
    dsimp only
    rw [Int.toNat_natCast, UnpackedFloat.round, target, decreaseExponent, Nat.shiftLeft_eq]
    simp
  have scaledWidth : (n * 2 ^ k).log2 = 52 := by
    rw [log2_mul_two_pow positive.ne', complement]
  have normal : hidden ≤ n * 2 ^ k ∧ n * 2 ^ k < 2 * hidden :=
    (Nat.log2_eq_iff (Nat.mul_ne_zero positive.ne' (Nat.two_pow_pos k).ne')).1 scaledWidth
  have parts := isNormal_roundWithAccuracy .positive (-k) normal.1 (by omega) (by omega)
  rw [← rounded, nearestNat_of_lt normal.2] at parts
  rw [scale_back] at parts
  change IsNormal (Float.Model.pack (UnpackedFloat.ofUInt64 _ _)).unpack _ _
  rwa [parts.unpack_pack]

theorem exponent_bounds {e : Int} (leading : hidden ≤ m) (below : m < 2 * hidden)
    (positive : 1 ≤ (m * 2 ^ e : ℚ)) (small : (m * 2 ^ e : ℚ) < 2 ^ 53) : -53 < e ∧ e < 1 := by
  constructor
  · have mantissa : (m : ℚ) < 2 ^ 53 := by exact_mod_cast below
    have one_lt : (1 : ℚ) < 2 ^ (53 + e) := calc
      1 ≤ (m * 2 ^ e : ℚ) := positive
      _ < 2 ^ 53 * 2 ^ e := mul_lt_mul_of_pos_right mantissa (zpow_pos two_pos _)
      _ = 2 ^ (53 + e) := (zpow_add₀ two_ne_zero 53 e).symm
    have := (one_lt_zpow_iff_right₀ one_lt_two).1 one_lt
    omega
  · have mantissa : (2 ^ 52 : ℚ) ≤ m := by exact_mod_cast leading
    have lt : (2 : ℚ) ^ (52 + e) < 2 ^ (53 : Int) := calc
      (2 : ℚ) ^ (52 + e) = 2 ^ 52 * 2 ^ e := zpow_add₀ two_ne_zero 52 e
      _ ≤ m * 2 ^ e := mul_le_mul_of_nonneg_right mantissa (zpow_nonneg zero_le_two _)
      _ < 2 ^ 53 := small
    have := (zpow_lt_zpow_iff_right₀ one_lt_two).1 lt
    omega

theorem isNormal_ofNat_small (positive : 0 < n) (small : n < 2 * hidden) :
    IsNormal (Float.ofNat n).toModel.unpack .positive n := by
  obtain ⟨m, e, mPositive, parts, leading, below, least, greatest, size⟩ :=
    isNormal_toFloat positive small
  obtain ⟨onePositive, one⟩ := unpack_one
  have converted : (Float.ofNat n).toModel =
      Float.Model.pack (UnpackedFloat.mul Format.binary64 (.finite .positive m e mPositive)
        (.finite .positive hidden (-52) onePositive)) := by
    rw [← parts, ← one]
    exact congrArg Float.toModel (dif_pos ⟨small, Nat.zero_le _⟩)
  have exponent := exponent_bounds leading below (size ▸ Nat.one_le_cast.2 positive)
    (size ▸ by exact_mod_cast small)
  have width : (m * hidden).log2 = 104 := by
    rw [show hidden = 2 ^ 52 from rfl, log2_mul_two_pow mPositive.ne', log2_eq leading below]
  have product := isNormal_mul mPositive onePositive e (-52) (Nat.le_mul_of_pos_left _ mPositive)
    (by omega) (by omega)
  have exact : (nearestNat (m * hidden) : ℚ) * 2 ^ (e + -52) = n := by
    have scaled : nearestNat (m * hidden) = nearestNat m * 2 ^ 52 := nearestNat_scale leading 52
    rw [scaled, nearestNat_of_lt below, ← size, zpow_add₀ two_ne_zero]
    push_cast
    ring
  rwa [converted, product.unpack_pack, ← exact]

theorem ofNat_large (large : 2 * hidden ≤ n) : ∃ positive,
    (Float.ofNat n).toModel = Float.Model.pack (UnpackedFloat.mul Format.binary64
      (.finite .positive (n <<< 53) (-53) positive) (.finite .positive 1 0 one_pos)) := by
  have nonzero : n ≠ 0 := by unfold hidden at large; omega
  have slow : Float.ofNat n = Float.ofModel (Float.Model.ofScientific n 0) :=
    dif_neg fun fast => absurd fast.1 (not_lt.2 large)
  have limit : ¬ (0 : Int) < -((2 ^ Format.binary64.exponentBits : Int) + n.log2) := by
    have : (0 : Int) ≤ (2 ^ Format.binary64.exponentBits : Int) + n.log2 := by positivity
    omega
  have product : UnpackedFloat.ofScientific Format.binary64 n 0 =
      UnpackedFloat.mul Format.binary64
        (.finite .positive (n <<< 53) (-53) (by simp [Nat.pos_iff_ne_zero, nonzero]))
        (.finite .positive 1 0 one_pos) := by
    rw [UnpackedFloat.ofScientific, dif_neg nonzero, if_neg (by decide), if_neg limit,
      if_pos le_rfl]
    rfl
  exact ⟨_, (congrArg Float.toModel slow).trans (congrArg Float.Model.pack product)⟩

/-- An integer becomes the nearest float. -/
theorem isNormal_ofNat (positive : 0 < n) (bound : n < 2 ^ 64) :
    IsNormal (Float.ofNat n).toModel.unpack .positive (nearestNat n) := by
  rcases lt_or_ge n (2 * hidden) with small | large
  · rw [nearestNat_of_lt small]
    exact isNormal_ofNat_small positive small
  · have leading : hidden ≤ n := by omega
    have width : n.log2 < 64 := (Nat.log2_lt positive.ne').2 bound
    have factor : n <<< 53 * 1 = n * 2 ^ 53 := by rw [Nat.mul_one, Nat.shiftLeft_eq]
    have scaledWidth : (n * 2 ^ 53).log2 = n.log2 + 53 := log2_mul_two_pow positive.ne' 53
    obtain ⟨scaledPositive, converted⟩ := ofNat_large large
    have product := isNormal_mul scaledPositive one_pos (-53) 0 (by omega) (by decide)
      (by rw [factor, scaledWidth]; omega)
    have exact : (nearestNat (n <<< 53 * 1) : ℚ) * 2 ^ (-53 + 0 : Int) = nearestNat n := by
      rw [factor, nearestNat_scale leading]
      exact scale_back (nearestNat n) 53
    rwa [converted, product.unpack_pack, ← exact]

/-- The float of an integer stands for the nearest integer with 53 significant bits. -/
theorem ofInt_value {n : Int} (bound : n.natAbs < 2 ^ 64) :
    ∃ b, FloatClass.of (Float.ofInt n) = .finite b ∧ b.value = nearest n := by
  cases n with
  | ofNat n =>
    rcases Nat.eq_zero_or_pos n with rfl | positive
    · exact ⟨⟨false, 0, -1074⟩, by rfl, by rw [value_zero]; rfl⟩
    · obtain ⟨b, finite, value⟩ := (isNormal_ofNat positive bound).value
      refine ⟨b, finite, value.trans ?_⟩
      rw [nearest, Int.sign_eq_one_of_pos (by simpa using positive), one_mul]
      rfl
  | negSucc n =>
    have converted : (Float.ofInt (.negSucc n)).toModel =
      Float.Model.pack (Float.ofNat (n + 1)).toModel.unpack.neg := rfl
    have normal := (isNormal_ofNat n.succ_pos bound).neg
    have parts : IsNormal (Float.ofInt (.negSucc n)).toModel.unpack .negative
        (nearestNat (n + 1)) := by
      rw [converted, normal.unpack_pack]
      exact normal
    obtain ⟨b, finite, value⟩ := parts.value
    refine ⟨b, finite, value.trans ?_⟩
    change -(nearestNat (n + 1) : ℚ) = _
    rw [nearest, Int.sign_negSucc, Int.natAbs_negSucc, neg_one_mul]
    push_cast
    rfl

end TaskGraph.Binary
