import TaskGraph.Proofs.Decimal.Nearest
import TaskGraph.Proofs.Expr.Equality
import TaskGraph.Proofs.Expr.Integers
import TaskGraph.Proofs.Json.Numbers

/-! Comparison of integers. Two that fit 64 signed bits are compared exactly. If one of two is above
them, their nearest floats are compared, so that integers close to each other count as equal. -/

namespace TaskGraph

/-- Integers that count as equal: equal ones, and those with the same nearest float that do not both
fit 64 signed bits. -/
def Coincide (a b : Int) : Prop :=
  a = b ∨ ¬ (fitsInt64 a ∧ fitsInt64 b) ∧ Binary.nearest a = Binary.nearest b

instance : DecidableRel Coincide := fun _ _ => instDecidableOr

variable {a b c : Int}

theorem IsJsonInteger.of_fitsInt64 (fits : fitsInt64 a) : IsJsonInteger a := by
  have := of_decide_eq_true fits
  exact ⟨this.1, this.2.trans (by decide)⟩

theorem IsJsonInteger.natAbs_lt (h : IsJsonInteger a) : a.natAbs < 2 ^ 64 := by
  obtain ⟨atLeast, below⟩ := h
  unfold int64Bound nat64Bound at *
  omega

theorem coincide_iff_eq (left : fitsInt64 a) (right : fitsInt64 b) : Coincide a b ↔ a = b :=
  or_iff_left fun h => h.1 ⟨left, right⟩

theorem Coincide.nearest_eq (h : Coincide a b) : Binary.nearest a = Binary.nearest b :=
  h.elim (congrArg _) And.right

theorem Coincide.symm (h : Coincide a b) : Coincide b a :=
  h.imp Eq.symm fun ⟨unfit, same⟩ => ⟨fun fit => unfit fit.symm, same.symm⟩

/-- Equality carries over an integer that fits 64 signed bits. -/
theorem Coincide.trans (fits : fitsInt64 b) (left : Coincide a b) (right : Coincide b c) :
    Coincide a c := by
  by_cases first : fitsInt64 a
  · rwa [(coincide_iff_eq first fits).1 left]
  · exact .inr ⟨fun both => first both.1, left.nearest_eq.trans right.nearest_eq⟩

/-- Integers that count as equal are close to each other. -/
theorem Coincide.close (left : IsJsonInteger a) (right : IsJsonInteger b) (h : Coincide a b) :
    |a - b| ≤ 2048 := by
  have first := abs_le.1 (Binary.nearest_error left.natAbs_lt)
  have second := abs_le.1 (Binary.nearest_error right.natAbs_lt)
  have same := h.nearest_eq
  rw [abs_le]
  omega

theorem nearest_lt_iff (h : Binary.nearest a ≠ Binary.nearest b) :
    Binary.nearest a < Binary.nearest b ↔ a < b := by
  constructor
  · intro lt
    exact lt_of_not_ge fun ge => absurd (Binary.nearest_mono ge) lt.not_ge
  · intro lt
    exact lt_of_le_of_ne (Binary.nearest_mono lt.le) h

theorem compare_nearest (h : Binary.nearest a ≠ Binary.nearest b) :
    compare (Binary.nearest a) (Binary.nearest b) = compare a b := by
  rcases lt_or_gt_of_ne h with lt | gt
  · rw [compare_lt_iff_lt.2 lt, compare_lt_iff_lt.2 ((nearest_lt_iff h).1 lt)]
  · rw [compare_gt_iff_gt.2 gt, compare_gt_iff_gt.2 ((nearest_lt_iff h.symm).1 gt)]

namespace JsonNumber

theorem compare?_fit (left : fitsInt64 a) (right : fitsInt64 b) :
    (int a).compare? (int b) = some (compare a b) := by
  simp only [compare?, toInt64?_of_fits left, toInt64?_of_fits right]

theorem compare?_unfit (left : IsJsonInteger a) (right : IsJsonInteger b)
    (unfit : ¬ (fitsInt64 a ∧ fitsInt64 b)) :
    (int a).compare? (int b) = some (compare (Binary.nearest a) (Binary.nearest b)) := by
  have floats : (int a).compare? (int b) =
      if Float.ofInt a < Float.ofInt b then some .lt
      else if Float.ofInt a == Float.ofInt b then some .eq
      else if Float.ofInt b < Float.ofInt a then some .gt
      else none := by
    unfold compare?
    split
    · rename_i fits fits'
      simp only [toInt64?, Option.ite_none_right_eq_some] at fits fits'
      exact absurd ⟨fits.1, fits'.1⟩ unfit
    · rfl
  obtain ⟨x, leftFinite, leftValue⟩ := Binary.ofInt_value left.natAbs_lt
  obtain ⟨y, rightFinite, rightValue⟩ := Binary.ofInt_value right.natAbs_lt
  have lt := FloatClass.lt_iff leftFinite rightFinite
  have gt := FloatClass.lt_iff rightFinite leftFinite
  have beq := FloatClass.beq_iff leftFinite rightFinite
  rw [leftValue, rightValue] at lt gt beq
  norm_cast at lt gt beq
  simp only [floats, lt, gt, beq]
  rcases lt_trichotomy (Binary.nearest a) (Binary.nearest b) with less | same | greater
  · rw [if_pos less, compare_lt_iff_lt.2 less]
  · rw [if_neg same.not_lt, if_pos same, compare_eq_iff_eq.2 same]
  · rw [if_neg greater.not_gt, if_neg greater.ne', if_pos greater, compare_gt_iff_gt.2 greater]

/-- Integers that do not count as equal are ordered exactly. -/
theorem compare?_int (left : IsJsonInteger a) (right : IsJsonInteger b) :
    (int a).compare? (int b) = some (if Coincide a b then .eq else compare a b) := by
  by_cases fit : fitsInt64 a ∧ fitsInt64 b
  · rw [compare?_fit fit.1 fit.2]
    split
    · rename_i coincide
      rw [compare_eq_iff_eq.2 ((coincide_iff_eq fit.1 fit.2).1 coincide)]
    · rfl
  · rw [compare?_unfit left right fit]
    split
    · rename_i coincide
      rw [compare_eq_iff_eq.2 coincide.nearest_eq]
    · rename_i apart
      rw [compare_nearest fun same => apart (.inr ⟨fit, same⟩)]

end JsonNumber

namespace Json

theorem same_int_iff (left : IsJsonInteger a) (right : IsJsonInteger b) :
    (int a).same (int b) ↔ Coincide a b := by
  have compared : (int a).same (int b) =
      ((JsonNumber.int a).compare? (.int b) == some .eq) := by
    simp only [int, same]
  rw [compared, JsonNumber.compare?_int left right]
  split
  · simpa
  · rename_i apart
    have : a ≠ b := fun same => apart (.inl same)
    simpa [apart, compare_eq_iff_eq] using this

/-- Equality of values is that of their shapes and of their integers. -/
theorem same_iff {x y : Json} (left : x.BuiltFrom IsJsonInteger)
    (right : y.BuiltFrom IsJsonInteger) : x.same y ↔ Corresponds Coincide x y :=
  same_iff_corresponds (fun _ _ => same_int_iff) left right

end Json

/-- What a comparison says of two integers. -/
def BinaryOp.holds (op : BinaryOp) (a b : Int) : Bool :=
  match op with
  | .eq => a = b
  | .ne => a ≠ b
  | .lt => a < b
  | .le => a ≤ b
  | .gt => b < a
  | .ge => b ≤ a
  | _ => false

namespace Expr

variable {scope : Scope} {l r : Expr} {op : BinaryOp}

/-- The operators that tell whether two values are equal or how they are ordered. -/
def comparisons : List BinaryOp := [.eq, .ne, .lt, .le, .gt, .ge]

/-- The answer to a comparison depends on the order that is found, whichever integers have it. -/
theorem applyBinary_of_order {m n : Int} (compares : op ∈ comparisons)
    (order : (JsonNumber.int a).compare? (.int b) = some (compare m n)) :
    applyBinary op (.int a) (.int b) = .ok (.bool (op.holds m n)) := by
  have equality : (Json.int a).same (.int b) = (some (compare m n) == some .eq) := by
    rw [← order]
    simp only [Json.int, Json.same]
  have found : compareValues? (.int a) (.int b) = some (compare m n) := order
  simp only [comparisons, List.mem_cons, List.not_mem_nil, or_false] at compares
  rcases lt_trichotomy m n with lt | rfl | gt
  · rw [compare_lt_iff_lt.2 lt] at equality found
    rcases compares with rfl | rfl | rfl | rfl | rfl | rfl <;>
      simp [applyBinary, comparison, equality, found, BinaryOp.holds, lt, lt.le, lt.ne, lt.not_gt,
        lt.not_ge]
  · rw [compare_eq_iff_eq.2 rfl] at equality found
    rcases compares with rfl | rfl | rfl | rfl | rfl | rfl <;>
      simp [applyBinary, comparison, equality, found, BinaryOp.holds]
  · rw [compare_gt_iff_gt.2 gt] at equality found
    rcases compares with rfl | rfl | rfl | rfl | rfl | rfl <;>
      simp [applyBinary, comparison, equality, found, BinaryOp.holds, gt, gt.le, gt.ne', gt.not_gt,
        gt.not_ge]

theorem applyBinary_comparison (compares : op ∈ comparisons) (left : IsJsonInteger a)
    (right : IsJsonInteger b) :
    applyBinary op (.int a) (.int b) =
      .ok (.bool (if Coincide a b then op.holds a a else op.holds a b)) := by
  have order := JsonNumber.compare?_int left right
  split
  · rename_i coincide
    rw [if_pos coincide, ← compare_eq_iff_eq.2 (rfl : a = a)] at order
    exact applyBinary_of_order compares order
  · rename_i apart
    rw [if_neg apart] at order
    exact applyBinary_of_order compares order

theorem applyBinary_in {items : List Int} (left : IsJsonInteger a)
    (right : ∀ b ∈ items, IsJsonInteger b) :
    applyBinary .in (.int a) (.arr (items.map .int)) =
      .ok (.bool (decide (∃ b ∈ items, Coincide a b))) := by
  have found : (items.map Json.int).any (Json.int a).same =
      decide (∃ b ∈ items, Coincide a b) := by
    rw [Bool.eq_iff_iff, decide_eq_true_iff, List.any_map, List.any_eq_true]
    refine exists_congr fun b => and_congr_right fun member => ?_
    exact Json.same_int_iff left (right b member)
  exact congrArg (fun v => Except.ok (Json.bool v)) found

/-- A comparison takes both operands. -/
theorem eval_of_operands {x y : Json} (strict : op ≠ .and ∧ op ≠ .or) (left : eval scope l = .ok x)
    (right : eval scope r = .ok y) : eval scope (.binary op l r) = applyBinary op x y := by
  rw [eval_binary strict.1 strict.2, left, right]
  rfl

/-- Operators order integers exactly, except that two integers count as equal if they do not both
fit 64 signed bits and have the same nearest float; these are at most `2048` apart. Equality of
values built from integers is reflexive and symmetric, it carries over a value whose integers fit 64
signed bits, and among such values it is equality proper. -/
theorem integers_compared :
    (∀ scope l r a b op, IsJsonInteger a → IsJsonInteger b → op ∈ comparisons →
      eval scope l = .ok (.int a) → eval scope r = .ok (.int b) →
      eval scope (.binary op l r) =
        .ok (.bool (if Coincide a b then op.holds a a else op.holds a b))) ∧
    (∀ scope l r a (items : List Int), IsJsonInteger a → (∀ b ∈ items, IsJsonInteger b) →
      eval scope l = .ok (.int a) → eval scope r = .ok (.arr (items.map .int)) →
      eval scope (.binary .in l r) = .ok (.bool (decide (∃ b ∈ items, Coincide a b)))) ∧
    (∀ scope l r x y, eval scope l = .ok x → eval scope r = .ok y →
      eval scope (.binary .eq l r) = .ok (.bool (x.same y)) ∧
      eval scope (.binary .ne l r) = .ok (.bool (!x.same y))) ∧
    (∀ a b, IsJsonInteger a → IsJsonInteger b → Coincide a b → |a - b| ≤ 2048) ∧
    (∀ x : Json, x.BuiltFrom IsJsonInteger → x.same x) ∧
    (∀ x y : Json, x.BuiltFrom IsJsonInteger → y.BuiltFrom IsJsonInteger → x.same y → y.same x) ∧
    (∀ x y z : Json, x.BuiltFrom IsJsonInteger → y.BuiltFrom (fitsInt64 ·) →
      z.BuiltFrom IsJsonInteger → x.same y → y.same z → x.same z) ∧
    ∀ x y : Json, x.BuiltFrom (fitsInt64 ·) → y.BuiltFrom (fitsInt64 ·) → (x.same y ↔ x = y) := by
  have widen {x : Json} (built : x.BuiltFrom (fitsInt64 ·)) : x.BuiltFrom IsJsonInteger :=
    built.imp fun _ => IsJsonInteger.of_fitsInt64
  refine ⟨?_, ?_, ?_, fun a b left right => Coincide.close left right, ?_, ?_, ?_, ?_⟩
  · intro scope l r a b op left right compares operand operand'
    have strict : op ≠ .and ∧ op ≠ .or := by
      constructor <;> rintro rfl <;> simp [comparisons] at compares
    rw [eval_of_operands strict operand operand', applyBinary_comparison compares left right]
  · intro scope l r a items left right operand operand'
    rw [eval_of_operands (by decide) operand operand', applyBinary_in left right]
  · intro scope l r x y operand operand'
    rw [eval_of_operands (by decide) operand operand',
      eval_of_operands (by decide) operand operand']
    exact ⟨rfl, rfl⟩
  · intro x built
    exact (Json.same_iff built built).2 (built.corresponds fun _ _ => .inl rfl)
  · intro x y left right same
    exact (Json.same_iff right left).2
      (((Json.same_iff left right).1 same).symm fun _ _ => Coincide.symm)
  · intro x y z left middle right first second
    exact (Json.same_iff left right).2
      (((Json.same_iff left (widen middle)).1 first).trans middle
        (fun _ _ _ => Coincide.trans) ((Json.same_iff (widen middle) right).1 second))
  · intro x y left right
    refine (Json.same_iff (widen left) (widen right)).trans ⟨fun same => ?_, ?_⟩
    · exact same.eq left right fun _ _ fits fits' => (coincide_iff_eq fits fits').1
    · rintro rfl
      exact (widen left).corresponds fun _ _ => .inl rfl

/-! Integers around `2 ^ 63`. -/

namespace Bounds

def bound : Scope := .ofList
  [("below", .int 9223372036854775806), ("greatest", .int 9223372036854775807),
    ("above", .int 9223372036854775808), ("next", .int 9223372036854777856)]

theorem operands :
    eval bound (.ident "below") = .ok (.int 9223372036854775806) ∧
    eval bound (.ident "greatest") = .ok (.int 9223372036854775807) ∧
    eval bound (.ident "above") = .ok (.int 9223372036854775808) ∧
    eval bound (.ident "next") = .ok (.int 9223372036854777856) := by
  refine ⟨?_, ?_, ?_, ?_⟩ <;> rfl

/-- An object that holds a list of one integer. -/
def held (n : Int) : Json := .ofDict (.ofList [("n", .arr [.int n])])

theorem held_built {p : Int → Prop} {n : Int} (fits : p n) : (held n).BuiltFrom p := by
  refine .ofDict _ fun field member => ?_
  obtain rfl := List.mem_singleton.1 member
  refine .arr _ fun j member => ?_
  obtain rfl := List.mem_singleton.1 member
  exact .int fits

end Bounds

/-- The greatest integer of 64 signed bits and the one above it count as equal, and equality does
not carry over the latter. -/
theorem bounds_count_as_equal :
    IsJsonInteger 9223372036854775807 ∧ IsJsonInteger 9223372036854775808 ∧
    eval Bounds.bound (.binary .eq (.ident "greatest") (.ident "above")) = .ok (.bool true) ∧
    eval Bounds.bound (.binary .lt (.ident "greatest") (.ident "above")) = .ok (.bool false) ∧
    eval Bounds.bound (.binary .eq (.ident "above") (.ident "below")) = .ok (.bool true) ∧
    eval Bounds.bound (.binary .eq (.ident "greatest") (.ident "below")) = .ok (.bool false) := by
  refine ⟨by decide, by decide, ?_, ?_, ?_, ?_⟩ <;> rfl

/-- Half way to the next float an integer is no longer equal to the greatest one of 64 signed
bits. -/
theorem integers_compared_bounds :
    eval Bounds.bound (.binary .lt (.ident "greatest") (.ident "next")) = .ok (.bool true) ∧
    eval Bounds.bound (.binary .le (.ident "above") (.ident "greatest")) = .ok (.bool true) ∧
    eval Bounds.bound (.binary .in (.ident "above") (.list [.ident "next", .ident "below"])) =
      .ok (.bool true) ∧
    eval Bounds.bound (.binary .ne (.ident "next") (.ident "above")) = .ok (.bool true) ∧
    |(9223372036854775806 : Int) - 9223372036854775808| ≤ 2048 ∧
    (Bounds.held 9223372036854775808).same (Bounds.held 9223372036854775808) ∧
    (Bounds.held 9223372036854775808).same (Bounds.held 9223372036854775807) ∧
    (Bounds.held 9223372036854775808).same (Bounds.held 9223372036854775809) ∧
    Bounds.held 9223372036854775806 ≠ Bounds.held 9223372036854775807 := by
  obtain ⟨below, greatest, above, next⟩ := Bounds.operands
  obtain ⟨order, membership, equality, close, reflexive, symmetric, carries, proper⟩ :=
    integers_compared
  refine ⟨?_, ?_, ?_, ?_, ?_, ?_, ?_, ?_, ?_⟩
  · exact (order _ _ _ _ _ .lt (by decide) (by decide) (by decide) greatest next).trans (by rfl)
  · exact (order _ _ _ _ _ .le (by decide) (by decide) (by decide) above greatest).trans (by rfl)
  · exact (membership _ _ _ _ [9223372036854777856, 9223372036854775806] (by decide) (by decide)
      above (by rfl)).trans (by rfl)
  · exact (equality _ _ _ _ _ next above).2.trans (by rfl)
  · exact close _ _ (by decide) (by decide) (by decide)
  · exact reflexive _ (Bounds.held_built (by decide))
  · exact symmetric _ _ (Bounds.held_built (by decide)) (Bounds.held_built (by decide)) (by rfl)
  · exact carries _ (Bounds.held 9223372036854775807) _ (Bounds.held_built (by decide))
      (Bounds.held_built (by decide)) (Bounds.held_built (by decide)) (by rfl) (by rfl)
  · exact fun same => absurd ((proper _ _ (Bounds.held_built (by decide))
      (Bounds.held_built (by decide))).2 same) (by decide)

end Expr

end TaskGraph
