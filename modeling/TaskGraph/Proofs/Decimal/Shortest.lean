import TaskGraph.Decimal.Layout
import TaskGraph.Proofs.Decimal.Value

/-! The decimals of floats. The shortest decimal of a float is one of the numbers that are near to
it, and numbers near to different floats are ordered as the floats are. Which power of ten a float
is written with can therefore be told from the float. -/

namespace TaskGraph

namespace Binary

open Decimal (reachBelow)

variable {b c : Binary} {q r : ℚ}

/-- The least number that is near to a float: half way to the next smaller float. -/
def low (b : Binary) : ℚ := (4 * b.mantissa - reachBelow b : Nat) * 2 ^ (b.exponent - 2)

/-- The greatest number that is near to a float: half way to the next greater float. -/
def high (b : Binary) : ℚ := (4 * b.mantissa + 2 : Nat) * 2 ^ (b.exponent - 2)

/-- No other float is nearer. -/
def Near (b : Binary) (q : ℚ) : Prop := b.low ≤ q ∧ q ≤ b.high

theorem size_eq (b : Binary) : b.size = (4 * b.mantissa : Nat) * 2 ^ (b.exponent - 2) := by
  rw [size, zpow_sub₀ two_ne_zero]
  push_cast
  ring

theorem reachBelow_bounds (b : Binary) : 1 ≤ reachBelow b ∧ reachBelow b ≤ 2 := by
  unfold reachBelow
  split <;> decide

theorem quarter_le {m n : Nat} (le : m ≤ n) (e : Int) : (m * 2 ^ e : ℚ) ≤ n * 2 ^ e :=
  mul_le_mul_of_nonneg_right (by exact_mod_cast le) (zpow_nonneg zero_le_two _)

theorem low_pos (positive : 0 < b.mantissa) : 0 < b.low := by
  have reach := reachBelow_bounds b
  refine mul_pos ?_ (zpow_pos two_pos _)
  rw [Nat.cast_pos]
  omega

/-- Nearness does not mix the order of floats up. At a power of two the floats below are nearer than
those above, and the reach is shorter there. -/
theorem high_le_low (left : b.Normal) (right : c.Normal) (lt : b.size < c.size) :
    b.high ≤ c.low := by
  have exponents : b.exponent ≤ c.exponent := by
    by_contra greater
    exact lt.not_gt (size_lt_of_exponent_lt right left (not_le.1 greater))
  have reach := reachBelow_bounds c
  rcases exponents.lt_or_eq with less | same
  · have leading : hidden ≤ c.mantissa := by
      rcases right.leading with leading | least
      · exact leading
      · have := left.exponent_ge
        omega
    have least : 4 * hidden - 1 ≤ 4 * c.mantissa - reachBelow c := by
      by_cases power : c.mantissa = hidden
      · have short : reachBelow c = 1 := by
          have := left.exponent_ge
          rw [reachBelow, if_pos ⟨power, by omega⟩]
        omega
      · omega
    have greatest : 4 * b.mantissa + 2 ≤ 2 * (4 * hidden - 1) := by
      have := left.mantissa_lt
      unfold hidden at *
      omega
    calc b.high
        ≤ (2 * (4 * hidden - 1) : Nat) * 2 ^ (b.exponent - 2) := quarter_le greatest _
      _ = (4 * hidden - 1 : Nat) * 2 ^ (b.exponent - 2 + 1) := by
          rw [zpow_add_one₀ two_ne_zero]
          push_cast
          ring
      _ ≤ (4 * hidden - 1 : Nat) * 2 ^ (c.exponent - 2) :=
          mul_le_mul_of_nonneg_left (zpow_le_zpow_right₀ one_le_two (by omega)) (Nat.cast_nonneg _)
      _ ≤ c.low := quarter_le least _
  · have mantissas : b.mantissa < c.mantissa := by
      rw [size, size, same] at lt
      exact_mod_cast lt_of_mul_lt_mul_right lt (zpow_nonneg zero_le_two _)
    unfold high low
    rw [same]
    exact quarter_le (by omega) _

/-- Different floats stand for different numbers. -/
theorem parts_eq_of_size_eq (left : b.Normal) (right : c.Normal) (same : b.size = c.size) :
    b.mantissa = c.mantissa ∧ b.exponent = c.exponent := by
  have compares := (compares_size left right).eq_eq.2 same
  rw [Ordering.then_eq_eq, compare_eq_iff_eq, compare_eq_iff_eq] at compares
  exact compares.symm

end Binary

namespace Decimal

open Binary (Near)

variable {d : Decimal} {b c : Binary} {tie : Tie} {step power : Int} {a n : Nat}

/-- The number that a decimal stands for. -/
def value (d : Decimal) : ℚ := d.coefficient * 10 ^ d.exponent

theorem coefficient_pos (positive : 0 < d.value) : 0 < d.coefficient := by
  rw [Nat.pos_iff_ne_zero]
  intro zero
  simp [value, zero] at positive

theorem value_stripZeros (fuel : Nat) (d : Decimal) : (stripZeros fuel d).value = d.value := by
  induction fuel generalizing d with
  | zero => rfl
  | succ fuel ih =>
    unfold stripZeros
    split
    · rename_i trailing
      obtain ⟨k, multiple⟩ := Nat.dvd_of_mod_eq_zero trailing.2
      rw [ih, value, value, multiple, Nat.mul_div_cancel_left k (by decide),
        zpow_add_one₀ (by norm_num)]
      push_cast
      ring
    · rfl

theorem toDigits_bounds (positive : 0 < n) :
    10 ^ ((Nat.toDigits 10 n).length - 1) ≤ n ∧ n < 10 ^ (Nat.toDigits 10 n).length := by
  have some : 0 < (Nat.toDigits 10 n).length := Nat.length_toDigits_pos
  constructor
  · by_cases single : (Nat.toDigits 10 n).length = 1
    · rw [single]
      exact positive
    · rw [← not_lt, ← Nat.length_toDigits_le_iff (by decide) (by omega)]
      omega
  · rw [← Nat.length_toDigits_le_iff (by decide) some]

theorem pow_mul_zpow (n : Nat) (step : Int) : ((10 ^ n : Nat) : ℚ) * 10 ^ step = 10 ^ (n + step) := by
  rw [zpow_add₀ (by norm_num), zpow_natCast]
  push_cast
  rfl

/-- The power of ten of the leading digit is the greatest one that is not above the number. -/
theorem le_leading_iff (positive : 0 < d.coefficient) :
    power ≤ d.leading ↔ 10 ^ power ≤ d.value := by
  obtain ⟨least, greatest⟩ := toDigits_bounds positive
  have some : 0 < (Nat.toDigits 10 d.coefficient).length := Nat.length_toDigits_pos
  have step : (0 : ℚ) < 10 ^ d.exponent := zpow_pos (by norm_num) _
  have atLeast : (10 : ℚ) ^ d.leading ≤ d.value := by
    have scaled : (10 ^ ((Nat.toDigits 10 d.coefficient).length - 1) : Nat) * 10 ^ d.exponent ≤
        d.value := mul_le_mul_of_nonneg_right (by exact_mod_cast least) step.le
    rw [pow_mul_zpow] at scaled
    rwa [leading, digits, show d.exponent + (Nat.toDigits 10 d.coefficient).length - 1 =
      ((Nat.toDigits 10 d.coefficient).length - 1 : Nat) + d.exponent by omega]
  have below : d.value < (10 : ℚ) ^ (d.leading + 1) := by
    have scaled : d.value < (10 ^ (Nat.toDigits 10 d.coefficient).length : Nat) * 10 ^ d.exponent :=
      mul_lt_mul_of_pos_right (by exact_mod_cast greatest) step
    rw [pow_mul_zpow] at scaled
    rwa [leading, digits, sub_add_cancel, add_comm]
  constructor
  · intro le
    exact (zpow_le_zpow_right₀ (by norm_num) le).trans atLeast
  · intro le
    have lt := (zpow_lt_zpow_iff_right₀ (by norm_num : (1 : ℚ) < 10)).1 (le.trans_lt below)
    omega

/-! The search goes over grids. On each of them it compares integers: the numbers around the float in
quarters of its unit, and the points of the grid, both brought to a common scale. -/

def gridScale (b : Binary) (step : Int) : Nat :=
  Nat.pow 2 (b.exponent - 2).toNat * Nat.pow 10 (-step).toNat

def gridUnit (b : Binary) (step : Int) : Nat :=
  Nat.pow 2 (-(b.exponent - 2)).toNat * Nat.pow 10 step.toNat

theorem zpow_toNat {x : ℚ} (nonzero : x ≠ 0) (k : Int) : x ^ k.toNat = x ^ (-k).toNat * x ^ k := by
  rw [← zpow_natCast, ← zpow_natCast, ← zpow_add₀ nonzero]
  congr 1
  omega

theorem gridScale_mul (b : Binary) (step : Int) :
    (gridScale b step : ℚ) * 10 ^ step = gridUnit b step * 2 ^ (b.exponent - 2) := by
  have twos := zpow_toNat two_ne_zero (b.exponent - 2)
  have tens := zpow_toNat (x := 10) (by norm_num) step
  simp only [gridScale, gridUnit, Nat.pow_eq, Nat.cast_mul, Nat.cast_pow, Nat.cast_ofNat]
  rw [twos, tens]
  ring

theorem gridUnit_pos (b : Binary) (step : Int) : 0 < gridUnit b step :=
  Nat.mul_pos (Nat.pow_pos two_pos) (Nat.pow_pos (by decide))

/-- Comparing on the common scale is comparing the numbers. -/
theorem grid_compare (b : Binary) (step : Int) (a n : Nat) :
    (a * gridScale b step ≤ n * gridUnit b step ↔
      (a * 2 ^ (b.exponent - 2) : ℚ) ≤ n * 10 ^ step) ∧
    (n * gridUnit b step ≤ a * gridScale b step ↔
      (n * 10 ^ step : ℚ) ≤ a * 2 ^ (b.exponent - 2)) := by
  have ten : (0 : ℚ) < 10 ^ step := zpow_pos (by norm_num) _
  have unit : (0 : ℚ) < gridUnit b step := Nat.cast_pos.2 (gridUnit_pos b step)
  have left : (a * gridScale b step : ℚ) * 10 ^ step =
      a * 2 ^ (b.exponent - 2) * gridUnit b step := by
    rw [mul_assoc, gridScale_mul]
    ring
  have right : (n * gridUnit b step : ℚ) * 10 ^ step = n * 10 ^ step * gridUnit b step := by
    ring
  constructor
  · rw [← Nat.cast_le (α := ℚ), ← mul_le_mul_iff_of_pos_right ten]
    push_cast
    rw [left, right, mul_le_mul_iff_of_pos_right unit]
  · rw [← Nat.cast_le (α := ℚ), ← mul_le_mul_iff_of_pos_right ten]
    push_cast
    rw [left, right, mul_le_mul_iff_of_pos_right unit]

/-- The point of a grid that is not above a float. -/
def gridBelow (b : Binary) (step : Int) : Nat := 4 * b.mantissa * gridScale b step / gridUnit b step

/-- The neighbours of a float on a grid are within its reach, or they are not. -/
theorem onGrid?_cases (tie : Tie) (b : Binary) (step : Int) :
    let least := (4 * b.mantissa - reachBelow b) * gridScale b step
    let greatest := (4 * b.mantissa + 2) * gridScale b step
    let below := gridBelow b step * gridUnit b step
    let above := (gridBelow b step + 1) * gridUnit b step
    (onGrid? tie b step = some (gridBelow b step) ∧ least ≤ below) ∨
    (onGrid? tie b step = some (gridBelow b step + 1) ∧ above ≤ greatest) ∨
    (onGrid? tie b step = none ∧ below ≤ least ∧ greatest ≤ above) := by
  intro least greatest below above
  by_cases belowFits : least < below ∨ b.mantissa % 2 = 0 ∧ least = below
  · have reached : least ≤ below := belowFits.elim Nat.le_of_lt fun closed => closed.2.le
    by_cases aboveFits : above < greatest ∨ b.mantissa % 2 = 0 ∧ above = greatest
    · have reachedAbove : above ≤ greatest := aboveFits.elim Nat.le_of_lt fun closed => closed.2.le
      have nearer : onGrid? tie b step = _ := (if_pos belowFits).trans (if_pos aboveFits)
      rw [nearer]
      split
      · exact .inl ⟨rfl, reached⟩
      · exact .inr (.inl ⟨rfl, reachedAbove⟩)
      · cases tie with
        | away => exact .inr (.inl ⟨rfl, reachedAbove⟩)
        | toEven =>
          dsimp only
          split
          · exact .inl ⟨rfl, reached⟩
          · exact .inr (.inl ⟨rfl, reachedAbove⟩)
    · exact .inl ⟨(if_pos belowFits).trans (if_neg aboveFits), reached⟩
  · by_cases aboveFits : above < greatest ∨ b.mantissa % 2 = 0 ∧ above = greatest
    · have reached : above ≤ greatest := aboveFits.elim Nat.le_of_lt fun closed => closed.2.le
      exact .inr (.inl ⟨(if_neg belowFits).trans (if_pos aboveFits), reached⟩)
    · refine .inr (.inr ⟨(if_neg belowFits).trans (if_neg aboveFits), ?_, ?_⟩)
      · exact not_lt.1 fun lt => belowFits (.inl lt)
      · exact not_lt.1 fun lt => aboveFits (.inl lt)

theorem gridBelow_bounds (b : Binary) (step : Int) :
    gridBelow b step * gridUnit b step ≤ 4 * b.mantissa * gridScale b step ∧
    4 * b.mantissa * gridScale b step < (gridBelow b step + 1) * gridUnit b step :=
  ⟨Nat.div_mul_le_self _ _, (Nat.div_lt_iff_lt_mul (gridUnit_pos b step)).1 (Nat.lt_succ_self _)⟩

/-- A point that is found on a grid is near to the float. -/
theorem onGrid?_near (found : onGrid? tie b step = some n) : Near b (n * 10 ^ step) := by
  have least : (4 * b.mantissa - reachBelow b) * gridScale b step ≤
      4 * b.mantissa * gridScale b step := Nat.mul_le_mul_right _ (Nat.sub_le _ _)
  have greatest : 4 * b.mantissa * gridScale b step ≤ (4 * b.mantissa + 2) * gridScale b step :=
    Nat.mul_le_mul_right _ (Nat.le_add_right _ _)
  obtain ⟨below, above⟩ := gridBelow_bounds b step
  have compared := grid_compare b step
  rcases onGrid?_cases tie b step with ⟨chosen, fits⟩ | ⟨chosen, fits⟩ | ⟨none, -, -⟩
  · obtain ⟨⟩ := found.symm.trans chosen
    exact ⟨(compared _ _).1.1 fits, (compared _ _).2.1 (below.trans greatest)⟩
  · obtain ⟨⟩ := found.symm.trans chosen
    exact ⟨(compared _ _).1.1 (least.trans above.le), (compared _ _).2.1 fits⟩
  · cases found.symm.trans none

/-- A grid that is finer than the reach of a float has a point near to it. -/
theorem exists_onGrid? (tie : Tie) (positive : 0 < b.mantissa)
    (fine : (10 : ℚ) ^ step < (2 + reachBelow b : Nat) * 2 ^ (b.exponent - 2)) :
    ∃ n, onGrid? tie b step = some n := by
  rcases onGrid?_cases tie b step with ⟨chosen, -⟩ | ⟨chosen, -⟩ | ⟨-, below, above⟩
  · exact ⟨_, chosen⟩
  · exact ⟨_, chosen⟩
  · -- Otherwise the whole reach lies between two points of the grid.
    have reach := Binary.reachBelow_bounds b
    have wide : (2 + reachBelow b) * gridScale b step ≤ 1 * gridUnit b step := by
      have split : 4 * b.mantissa + 2 = 4 * b.mantissa - reachBelow b + (2 + reachBelow b) := by
        omega
      have next := Nat.add_one_mul (gridBelow b step) (gridUnit b step)
      rw [split, Nat.add_mul] at above
      omega
    have coarse := (grid_compare b step _ _).1.1 wide
    rw [Nat.cast_one, one_mul] at coarse
    exact absurd coarse (not_le.2 fine)

/-- A quotient, compared with a power of ten by counting digits. -/
theorem zpow_mul_le_of_digits {num den : Nat} (numPos : 0 < num) (denPos : 0 < den) :
    (10 : ℚ) ^ (((Nat.toDigits 10 num).length : Int) - (Nat.toDigits 10 den).length - 1) * den ≤
      num := by
  have least := (toDigits_bounds numPos).1
  have greatest := (toDigits_bounds denPos).2.le
  have some : 0 < (Nat.toDigits 10 num).length := Nat.length_toDigits_pos
  generalize (Nat.toDigits 10 num).length = k at *
  generalize (Nat.toDigits 10 den).length = l at *
  calc (10 : ℚ) ^ ((k : Int) - l - 1) * den
      ≤ 10 ^ ((k : Int) - l - 1) * (10 ^ l : Nat) :=
        mul_le_mul_of_nonneg_left (by exact_mod_cast greatest) (zpow_nonneg (by norm_num) _)
    _ = (10 ^ (k - 1) : Nat) := by
        rw [mul_comm, pow_mul_zpow, Nat.cast_pow, Nat.cast_ofNat, ← zpow_natCast]
        congr 1
        omega
    _ ≤ num := by exact_mod_cast least

theorem zpow_mul_le_of_scaled {num den : Nat} {k : Int}
    (scaled : den * Nat.pow 10 k.toNat ≤ num * Nat.pow 10 (-k).toNat) :
    (10 : ℚ) ^ k * den ≤ num := by
  have tens := zpow_toNat (x := 10) (by norm_num) k
  have positive : (0 : ℚ) < 10 ^ (-k).toNat := by positivity
  rw [← Nat.cast_le (α := ℚ)] at scaled
  simp only [Nat.pow_eq, Nat.cast_mul, Nat.cast_pow, Nat.cast_ofNat] at scaled
  rw [tens] at scaled
  refine le_of_mul_le_mul_right ?_ positive
  linarith

/-- A float is no less than the power of ten of its first digit. -/
theorem zpow_magnitude_le (positive : 0 < b.mantissa) : 10 ^ (magnitude b - 1) ≤ b.size := by
  have denPos : 0 < Nat.pow 2 (-b.exponent).toNat := Nat.pow_pos two_pos
  have numPos : 0 < b.mantissa * Nat.pow 2 b.exponent.toNat :=
    Nat.mul_pos positive (Nat.pow_pos two_pos)
  have quotient : (b.mantissa * Nat.pow 2 b.exponent.toNat : Nat) =
      b.size * Nat.pow 2 (-b.exponent).toNat := by
    have twos := zpow_toNat two_ne_zero b.exponent
    simp only [Nat.pow_eq, Nat.cast_mul, Nat.cast_pow, Nat.cast_ofNat]
    rw [twos, Binary.size]
    ring
  refine le_of_mul_le_mul_right ?_ (Nat.cast_pos.2 denPos)
  rw [← quotient]
  unfold magnitude
  dsimp only
  split
  · exact zpow_mul_le_of_digits numPos denPos
  · rename_i notLess
    rw [add_sub_cancel_right]
    exact zpow_mul_le_of_scaled (not_lt.1 notLess)

/-- Seventeen digits are finer than the reach of any float. -/
theorem seventeen_digits (normal : b.Normal) (positive : 0 < b.mantissa) :
    (10 : ℚ) ^ (magnitude b - 17) < (2 + reachBelow b : Nat) * 2 ^ (b.exponent - 2) := by
  have quarter : (0 : ℚ) < 2 ^ (b.exponent - 2) := zpow_pos two_pos _
  have reach := Binary.reachBelow_bounds b
  have bound : 4 * b.mantissa < 10 ^ 16 * (2 + reachBelow b) := by
    by_cases power : b.mantissa = Binary.hidden
    · rw [power]
      unfold Binary.hidden
      omega
    · have far : reachBelow b = 2 := by
        rw [reachBelow, if_neg]
        exact fun both => power both.1
      have := normal.mantissa_lt
      unfold Binary.hidden at this
      omega
  refine lt_of_mul_lt_mul_left ?_ (by positivity : (0 : ℚ) ≤ 10 ^ (16 : Int))
  calc (10 : ℚ) ^ (16 : Int) * 10 ^ (magnitude b - 17)
      = 10 ^ (magnitude b - 1) := by
        rw [← zpow_add₀ (by norm_num)]
        congr 1
        omega
    _ ≤ (4 * b.mantissa : Nat) * 2 ^ (b.exponent - 2) := by
        rw [← Binary.size_eq]
        exact zpow_magnitude_le positive
    _ < (10 ^ 16 * (2 + reachBelow b) : Nat) * 2 ^ (b.exponent - 2) :=
        mul_lt_mul_of_pos_right (by exact_mod_cast bound) quarter
    _ = 10 ^ (16 : Int) * ((2 + reachBelow b : Nat) * 2 ^ (b.exponent - 2)) := by
        rw [Nat.cast_mul, mul_assoc]
        norm_num

/-- The shortest decimal of a float is near to it. -/
theorem shortest_near (tie : Tie) (normal : b.Normal) (positive : 0 < b.mantissa) :
    Near b (shortest tie b).value := by
  unfold shortest
  rw [if_neg positive.ne']
  dsimp only
  cases search : (List.range 17).findSome? fun n =>
      (onGrid? tie b (magnitude b - (n + 1 : Nat))).map fun c =>
        stripZeros 20 ⟨c, magnitude b - (n + 1 : Nat)⟩ with
  | none =>
    obtain ⟨n, found⟩ := exists_onGrid? tie positive (seventeen_digits normal positive)
    have missed := List.findSome?_eq_none_iff.1 search 16 (by decide)
    rw [Option.map_eq_none_iff] at missed
    cases missed.symm.trans found
  | some d =>
    obtain ⟨_, n, _, -, here, -⟩ := List.findSome?_eq_some_iff.1 search
    obtain ⟨c, found, rfl⟩ := Option.map_eq_some_iff.1 here
    change Near b (stripZeros 20 _).value
    rw [value_stripZeros]
    exact onGrid?_near found

theorem value_shortest_pos (tie : Tie) (normal : b.Normal) (positive : 0 < b.mantissa) :
    0 < (shortest tie b).value :=
  (Binary.low_pos positive).trans_le (shortest_near tie normal positive).1

/-- If a power of ten is the shortest decimal of a float, then the floats from that one on are those
whose leading digit has at least this power. -/
theorem le_leading_shortest_iff (left : b.Normal) (right : c.Normal) (positive : 0 < b.mantissa)
    (exact : shortest tie c = ⟨1, power⟩) (inside : c.low < 10 ^ power ∧ (10 : ℚ) ^ power ≤ c.high) :
    power ≤ (shortest tie b).leading ↔ c.size ≤ b.size := by
  rw [le_leading_iff (coefficient_pos (value_shortest_pos tie left positive))]
  obtain ⟨least, greatest⟩ := shortest_near tie left positive
  rcases lt_trichotomy b.size c.size with lt | same | gt
  · have below := Binary.high_le_low left right lt
    exact iff_of_false (not_le.2 (greatest.trans_lt (below.trans_lt inside.1))) (not_le.2 lt)
  · have alike : shortest tie b = shortest tie c := by
      obtain ⟨mantissa, exponent⟩ := Binary.parts_eq_of_size_eq left right same
      obtain ⟨_, m, e⟩ := b
      obtain ⟨_, m', e'⟩ := c
      obtain ⟨⟩ : m = m' := mantissa
      obtain ⟨⟩ : e = e' := exponent
      rfl
    rw [alike, exact, value]
    exact iff_of_true (by simp) same.ge
  · have above := Binary.high_le_low right left gt
    exact iff_of_true (inside.2.trans (above.trans least)) gt.le

end Decimal

end TaskGraph
