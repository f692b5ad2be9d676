import TaskGraph.Proofs.Expr.Evaluation
import TaskGraph.Proofs.Result

/-! Arithmetic of integers. The operators compute as on unbounded integers as long as every result on
the way fits 64 signed bits, and fail otherwise: nothing wraps, and no integer turns into a float. -/

namespace TaskGraph

namespace JsonNumber

variable {n : Int}

theorem toInt64?_of_fits (fits : fitsInt64 n) : (int n).toInt64? = some n :=
  if_pos fits

theorem toInt64?_of_not_fits (unfit : ¬ fitsInt64 n) : (int n).toInt64? = none :=
  if_neg unfit

end JsonNumber

namespace Expr

/-- An operation on unbounded integers: its value, and the results on the way with the value among
them. A division truncates toward zero; a remainder has the sign of the dividend and is taken along
with its quotient. -/
inductive Operates : BinaryOp → (a b value : Int) → (results : List Int) → Prop where
  | add : Operates .add a b (a + b) [a + b]
  | sub : Operates .sub a b (a - b) [a - b]
  | mul : Operates .mul a b (a * b) [a * b]
  | div : b ≠ 0 → Operates .div a b (a.tdiv b) [a.tdiv b]
  | mod : b ≠ 0 → Operates .mod a b (a.tmod b) [a.tdiv b, a.tmod b]

/-- Evaluation over unbounded integers: the value, and all results on the way. An expression with a
divisor that is zero has none. -/
inductive Exact (scope : Scope) : Expr → (value : Int) → (results : List Int) → Prop where
  | int : Exact scope (.int n) n [n]
  | ident : scope.get? name = some (.int n) → Exact scope (.ident name) n [n]
  | neg : Exact scope e n results → Exact scope (.unary .neg e) (-n) (results ++ [-n])
  | binary : Exact scope left a leftResults → Exact scope right b rightResults →
      Operates op a b n results →
      Exact scope (.binary op left right) n (leftResults ++ rightResults ++ results)

/-- Expressions made of integers of 64 signed bits, literal or bound to a variable, negation and the
arithmetic operators. -/
inductive IsArithmetic (scope : Scope) : Expr → Prop where
  | int : fitsInt64 n → IsArithmetic scope (.int n)
  | ident : scope.get? name = some (.int n) → fitsInt64 n → IsArithmetic scope (.ident name)
  | neg : IsArithmetic scope e → IsArithmetic scope (.unary .neg e)
  | binary : op ∈ [.add, .sub, .mul, .div, .mod] → IsArithmetic scope left →
      IsArithmetic scope right → IsArithmetic scope (.binary op left right)

variable {scope : Scope} {e : Expr} {op : BinaryOp} {a b n : Int} {results : List Int} {j : Json}

theorem Operates.value_mem (h : Operates op a b n results) : n ∈ results := by
  cases h <;> simp

theorem Exact.value_mem (h : Exact scope e n results) : n ∈ results := by
  cases h with
  | int | ident => exact List.mem_singleton_self _
  | neg => simp
  | binary _ _ operates => exact List.mem_append_right _ operates.value_mem

theorem fitsInt64_iff : fitsInt64 n ↔ -int64Bound ≤ n ∧ n < int64Bound := by
  simp [fitsInt64]

theorem intResult_eq_some_iff {r : Int} : intResult n = some r ↔ fitsInt64 n ∧ r = n := by
  rw [intResult, Option.ite_none_right_eq_some, Option.some.injEq, @eq_comm _ n]

/-- A remainder by an integer that fits does so as well. -/
theorem fitsInt64_tmod (fits : fitsInt64 b) (nonzero : b ≠ 0) : fitsInt64 (a.tmod b) := by
  rw [fitsInt64_iff] at *
  have below : (a.tmod b).natAbs < b.natAbs := by
    rw [Int.natAbs_tmod]
    exact Nat.mod_lt _ (Int.natAbs_pos.2 nonzero)
  simp only [int64Bound] at *
  omega

/-- An operation gives its value exactly if all its results fit. -/
theorem intOperation_eq_some_iff (fits : fitsInt64 b) {r : Int} :
    intOperation op a b = some r ↔
      ∃ results, Operates op a b r results ∧ ∀ m ∈ results, fitsInt64 m := by
  constructor
  · intro h
    unfold intOperation at h
    split at h
    · obtain ⟨fits, rfl⟩ := intResult_eq_some_iff.1 h
      exact ⟨_, .add, by simpa using fits⟩
    · obtain ⟨fits, rfl⟩ := intResult_eq_some_iff.1 h
      exact ⟨_, .sub, by simpa using fits⟩
    · obtain ⟨fits, rfl⟩ := intResult_eq_some_iff.1 h
      exact ⟨_, .mul, by simpa using fits⟩
    · split at h
      · cases h
      · rename_i nonzero
        obtain ⟨fits, rfl⟩ := intResult_eq_some_iff.1 h
        exact ⟨_, .div nonzero, by simpa using fits⟩
    · split at h
      · cases h
      · rename_i nonzero
        obtain ⟨q, quotient, rfl⟩ := Option.map_eq_some_iff.1 h
        obtain ⟨quotientFits, rfl⟩ := intResult_eq_some_iff.1 quotient
        exact ⟨_, .mod nonzero, by simpa using ⟨quotientFits, fitsInt64_tmod fits nonzero⟩⟩
    · cases h
  · rintro ⟨results, operates, allFit⟩
    have valueFits := allFit r operates.value_mem
    cases operates with
    | add | sub | mul => exact intResult_eq_some_iff.2 ⟨valueFits, rfl⟩
    | div nonzero =>
      rw [intOperation, if_neg nonzero]
      exact intResult_eq_some_iff.2 ⟨valueFits, rfl⟩
    | mod nonzero =>
      rw [intOperation, if_neg nonzero, intResult, if_pos (allFit _ List.mem_cons_self)]
      rfl

theorem applyBinary_int_iff (arithmetic : op ∈ [.add, .sub, .mul, .div, .mod])
    (leftFits : fitsInt64 a) (rightFits : fitsInt64 b) :
    applyBinary op (.int a) (.int b) = .ok j ↔
      ∃ n results, Operates op a b n results ∧ (∀ m ∈ results, fitsInt64 m) ∧ j = .int n := by
  have computes : applyBinary op (.int a) (.int b) = numberOperation op (.int a) (.int b) := by
    simp only [List.mem_cons, List.not_mem_nil, or_false] at arithmetic
    rcases arithmetic with rfl | rfl | rfl | rfl | rfl <;> rfl
  rw [computes, numberOperation, JsonNumber.toInt64?_of_fits leftFits,
    JsonNumber.toInt64?_of_fits rightFits]
  dsimp only
  constructor
  · intro h
    split at h
    · rename_i r found
      obtain ⟨results, operates, allFit⟩ := (intOperation_eq_some_iff rightFits).1 found
      exact ⟨r, results, operates, allFit, (Except.ok.inj h).symm⟩
    · cases h
  · rintro ⟨r, results, operates, allFit, rfl⟩
    rw [(intOperation_eq_some_iff rightFits).2 ⟨results, operates, allFit⟩]

theorem applyUnary_neg_iff (fits : fitsInt64 a) :
    applyUnary .neg (.int a) = .ok j ↔ fitsInt64 (-a) ∧ j = .int (-a) := by
  rw [Json.int, applyUnary, JsonNumber.toInt64?_of_fits fits]
  dsimp only
  constructor
  · intro h
    split at h
    · rename_i r found
      obtain ⟨negated, rfl⟩ := intResult_eq_some_iff.1 found
      exact ⟨negated, (Except.ok.inj h).symm⟩
    · cases h
  · rintro ⟨negated, rfl⟩
    rw [intResult_eq_some_iff.2 ⟨negated, rfl⟩]

theorem eval_arithmetic_iff (arithmetic : IsArithmetic scope e) :
    eval scope e = .ok j ↔
      ∃ n results, Exact scope e n results ∧ (∀ m ∈ results, fitsInt64 m) ∧ j = .int n := by
  induction arithmetic generalizing j with
  | @int n fits =>
    rw [eval]
    constructor
    · intro h
      exact ⟨n, _, .int, by simpa using fits, (Except.ok.inj h).symm⟩
    · rintro ⟨_, _, ⟨⟩, _, rfl⟩
      rfl
  | @ident name n found fits =>
    rw [eval, found]
    constructor
    · intro h
      exact ⟨n, _, .ident found, by simpa using fits, (Except.ok.inj h).symm⟩
    · rintro ⟨_, _, evaluated, _, rfl⟩
      cases evaluated with
      | ident found' =>
        rw [found] at found'
        exact congrArg Except.ok (Option.some.inj found')
  | neg _ ih =>
    rw [eval, bind_eq_ok_iff]
    constructor
    · rintro ⟨x, operand, negated⟩
      obtain ⟨n, results, evaluated, allFit, rfl⟩ := ih.1 operand
      obtain ⟨fits, rfl⟩ := (applyUnary_neg_iff (allFit n evaluated.value_mem)).1 negated
      refine ⟨-n, _, .neg evaluated, ?_, rfl⟩
      exact List.forall_mem_append.2 ⟨allFit, by simpa using fits⟩
    · rintro ⟨_, _, evaluated, allFit, rfl⟩
      cases evaluated with
      | @neg _ n results operand =>
        obtain ⟨operandFits, fits⟩ := List.forall_mem_append.1 allFit
        refine ⟨.int n, ih.2 ⟨n, results, operand, operandFits, rfl⟩, ?_⟩
        exact (applyUnary_neg_iff (operandFits n operand.value_mem)).2
          ⟨fits _ List.mem_cons_self, rfl⟩
  | @binary op left right listed _ _ first second =>
    have strict : op ≠ .and ∧ op ≠ .or := by
      constructor <;> rintro rfl <;> simp at listed
    rw [eval_binary strict.1 strict.2, bind_eq_ok_iff]
    simp only [bind_eq_ok_iff]
    constructor
    · rintro ⟨x, leftValue, y, rightValue, operated⟩
      obtain ⟨a, leftResults, leftExact, leftFit, rfl⟩ := first.1 leftValue
      obtain ⟨b, rightResults, rightExact, rightFit, rfl⟩ := second.1 rightValue
      obtain ⟨n, results, operates, allFit, rfl⟩ :=
        (applyBinary_int_iff listed (leftFit a leftExact.value_mem)
          (rightFit b rightExact.value_mem)).1 operated
      refine ⟨n, _, .binary leftExact rightExact operates, ?_, rfl⟩
      simp only [List.forall_mem_append]
      exact ⟨⟨leftFit, rightFit⟩, allFit⟩
    · rintro ⟨n, _, evaluated, allFit, rfl⟩
      cases evaluated with
      | binary leftExact rightExact operates =>
        simp only [List.forall_mem_append] at allFit
        obtain ⟨⟨leftFit, rightFit⟩, allFit⟩ := allFit
        refine ⟨_, first.2 ⟨_, _, leftExact, leftFit, rfl⟩, _,
          second.2 ⟨_, _, rightExact, rightFit, rfl⟩, ?_⟩
        exact (applyBinary_int_iff listed (leftFit _ leftExact.value_mem)
          (rightFit _ rightExact.value_mem)).2 ⟨n, _, operates, allFit, rfl⟩

/-- An expression of integers gives an integer exactly if it has an exact value and all results on
the way to it fit 64 signed bits; the value is then the exact one. It fails in every other case. -/
theorem integer_expression_exact (arithmetic : IsArithmetic scope e) :
    (∀ j, eval scope e = .ok j ↔
      ∃ n results, Exact scope e n results ∧ (∀ m ∈ results, fitsInt64 m) ∧ j = .int n) ∧
    ((¬ ∃ n results, Exact scope e n results ∧ ∀ m ∈ results, fitsInt64 m) →
      ∃ error, eval scope e = .error error) := by
  have result (j : Json) : eval scope e = .ok j ↔
      ∃ n results, Exact scope e n results ∧ (∀ m ∈ results, fitsInt64 m) ∧ j = .int n :=
    eval_arithmetic_iff arithmetic
  refine ⟨result, fun none => ?_⟩
  cases value : eval scope e with
  | error error => exact ⟨error, rfl⟩
  | ok j =>
    obtain ⟨n, results, exact, allFit, _⟩ := (result j).1 value
    exact absurd ⟨n, results, exact, allFit⟩ none

/-! The least integer and its remainders. -/

namespace LeastInteger

def bound : Scope := .ofList [("low", .int (-9223372036854775808)), ("n", .int 7)]

theorem low_found : bound.get? "low" = some (.int (-9223372036854775808)) := by decide

theorem n_found : bound.get? "n" = some (.int 7) := by decide

/-- `-(n / -2) * 3 - low % 2` -/
def difference : Expr :=
  .binary .sub
    (.binary .mul (.unary .neg (.binary .div (.ident "n") (.int (-2)))) (.int 3))
    (.binary .mod (.ident "low") (.int 2))

theorem difference_arithmetic : IsArithmetic bound difference :=
  .binary (by decide)
    (.binary (by decide)
      (.neg (.binary (by decide) (.ident n_found (by decide)) (.int (by decide))))
      (.int (by decide)))
    (.binary (by decide) (.ident low_found (by decide)) (.int (by decide)))

/-- `low % -1` -/
def remainder : Expr := .binary .mod (.ident "low") (.int (-1))

theorem remainder_arithmetic : IsArithmetic bound remainder :=
  .binary (by decide) (.ident low_found (by decide)) (.int (by decide))

/-- The quotient of the least integer by `-1` is one more than the greatest. -/
theorem remainder_exceeds :
    ¬ ∃ n results, Exact bound remainder n results ∧ ∀ m ∈ results, fitsInt64 m := by
  rintro ⟨n, _, evaluated, allFit⟩
  cases evaluated with
  | binary left right operates =>
    cases left with
    | ident found =>
      cases right
      obtain ⟨⟩ := low_found.symm.trans found
      cases operates
      exact absurd (allFit _ (List.mem_append_right _ List.mem_cons_self)) (by decide)

end LeastInteger

/-- A quotient is cut off toward zero, and a remainder fails with its quotient although it would
fit. -/
theorem integer_expression_exact_least :
    IsArithmetic LeastInteger.bound LeastInteger.difference ∧
    eval LeastInteger.bound LeastInteger.difference = .ok (.int 9) ∧
    IsArithmetic LeastInteger.bound LeastInteger.remainder ∧
    ∃ error, eval LeastInteger.bound LeastInteger.remainder = .error error := by
  refine ⟨LeastInteger.difference_arithmetic, ?_, LeastInteger.remainder_arithmetic,
    (integer_expression_exact LeastInteger.remainder_arithmetic).2 LeastInteger.remainder_exceeds⟩
  refine ((integer_expression_exact LeastInteger.difference_arithmetic).1 _).2 ⟨9, _,
    .binary
      (.binary (.neg (.binary (.ident LeastInteger.n_found) .int (.div (by decide)))) .int .mul)
      (.binary (.ident LeastInteger.low_found) .int (.mod (by decide))) .sub, by decide, rfl⟩

end Expr

end TaskGraph
