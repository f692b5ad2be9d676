import TaskGraph.Expr.Eval
import TaskGraph.Proofs.SortedMap

/-! What an evaluation reads. Only the variables of an expression have a part in its evaluation, and
of these only the ones that are reached. A variable that is added to a scope therefore changes
nothing but a failure to find it. -/

namespace TaskGraph.Expr

/-- Induction over an expression, with what holds of its arguments, items and fields. -/
theorem induct {motive : Expr → Prop} (null : motive .null) (bool : ∀ b, motive (.bool b))
    (int : ∀ n, motive (.int n)) (double : ∀ x, motive (.double x))
    (string : ∀ s, motive (.string s)) (ident : ∀ name, motive (.ident name))
    (call : ∀ name args, (∀ e ∈ args, motive e) → motive (.call name args))
    (index : ∀ object subscript, motive object → motive subscript →
      motive (.index object subscript))
    (member : ∀ object property, motive object → motive (.member object property))
    (unary : ∀ op operand, motive operand → motive (.unary op operand))
    (binary : ∀ op left right, motive left → motive right → motive (.binary op left right))
    (ternary : ∀ condition yes no, motive condition → motive yes → motive no →
      motive (.ternary condition yes no))
    (list : ∀ items, (∀ e ∈ items, motive e) → motive (.list items))
    (map : ∀ fields, (∀ field ∈ fields, motive field.2) → motive (.map fields)) (e : Expr) :
    motive e :=
  @Expr.rec motive (fun items => ∀ e ∈ items, motive e)
    (fun fields => ∀ field ∈ fields, motive field.2) (fun field => motive field.2)
    null bool int double string ident call index member unary binary ternary list map
    (fun _ member => absurd member List.not_mem_nil)
    (fun _ _ first rest => List.forall_mem_cons.2 ⟨first, rest⟩)
    (fun _ member => absurd member List.not_mem_nil)
    (fun _ _ first rest => List.forall_mem_cons.2 ⟨first, rest⟩)
    (fun _ _ value => value) e

mutual

/-- The names of the variables in an expression. -/
def names : Expr → List String
  | .null | .bool _ | .int _ | .double _ | .string _ => []
  | .ident name => [name]
  | .call _ args => namesOfItems args
  | .index object subscript => names object ++ names subscript
  | .member object _ => names object
  | .unary _ operand => names operand
  | .binary _ left right => names left ++ names right
  | .ternary condition yes no => names condition ++ (names yes ++ names no)
  | .list items => namesOfItems items
  | .map fields => namesOfFields fields

def namesOfItems : List Expr → List String
  | [] => []
  | e :: rest => names e ++ namesOfItems rest

def namesOfFields : List (String × Expr) → List String
  | [] => []
  | (_, e) :: rest => names e ++ namesOfFields rest

end

/-- The second result is the first one, unless the first one is that a variable of those given is not
declared. -/
def Below {α : Type} (missing : String → Prop) (r r' : Except EvalError α) : Prop :=
  r' = r ∨ ∃ name, missing name ∧ r = .error (.undeclared name)

variable {scope scope' : Scope} {missing : String → Prop}

section Below

variable {α β : Type}

theorem Below.refl (r : Except EvalError α) : Below missing r r := .inl rfl

theorem Below.bind {r r' : Except EvalError α} {f f' : α → Except EvalError β}
    (first : Below missing r r') (next : ∀ x, Below missing (f x) (f' x)) :
    Below missing (r >>= f) (r' >>= f') := by
  rcases first with rfl | ⟨name, absent, rfl⟩
  · cases r' with
    | error e => exact .refl _
    | ok x => exact next x
  · exact .inr ⟨name, absent, rfl⟩

theorem Below.ite {c : Prop} [Decidable c] {r r' t t' : Except EvalError α}
    (yes : Below missing r r') (no : Below missing t t') :
    Below missing (if c then r else t) (if c then r' else t') := by
  split
  · exact yes
  · exact no

end Below

/-- The operators other than `&&` and `||` take both operands. -/
theorem eval_binary {op : BinaryOp} (notAnd : op ≠ .and) (notOr : op ≠ .or) (left right : Expr) :
    eval scope (.binary op left right) =
      eval scope left >>= fun a => eval scope right >>= fun b => applyBinary op a b := by
  rw [eval]
  · exact notAnd
  · exact notOr

theorem evalItems_below {items : List Expr}
    (each : ∀ e ∈ items, Below missing (eval scope e) (eval scope' e)) :
    Below missing (evalItems scope items) (evalItems scope' items) := by
  induction items with
  | nil => exact .refl _
  | cons e rest ih =>
    obtain ⟨first, others⟩ := List.forall_mem_cons.1 each
    rw [evalItems, evalItems]
    exact first.bind fun j => (ih others).bind fun _ => .refl _

theorem evalFields_below {fields : List (String × Expr)} (done : Dict Json)
    (each : ∀ field ∈ fields, Below missing (eval scope field.2) (eval scope' field.2)) :
    Below missing (evalFields scope done fields) (evalFields scope' done fields) := by
  induction fields generalizing done with
  | nil => exact .refl _
  | cons field rest ih =>
    obtain ⟨key, e⟩ := field
    obtain ⟨first, others⟩ := List.forall_mem_cons.1 each
    rw [evalFields, evalFields]
    exact first.bind fun j => ih (done.insert key j) others

theorem names_subset_items {e : Expr} {items : List Expr} (member : e ∈ items) :
    names e ⊆ namesOfItems items := by
  induction items with
  | nil => cases member
  | cons first rest ih =>
    rw [namesOfItems]
    rcases List.mem_cons.1 member with rfl | later
    · exact List.subset_append_left _ _
    · exact List.subset_append_of_subset_right _ (ih later)

theorem names_subset_fields {field : String × Expr} {fields : List (String × Expr)}
    (member : field ∈ fields) : names field.2 ⊆ namesOfFields fields := by
  induction fields with
  | nil => cases member
  | cons first rest ih =>
    obtain ⟨key, e⟩ := first
    rw [namesOfFields]
    rcases List.mem_cons.1 member with rfl | later
    · exact List.subset_append_left _ _
    · exact List.subset_append_of_subset_right _ (ih later)

/-- Where the second scope has all that the first one has of some names, an expression with no other
names has the same result, or it needs a name that the first scope does not declare. -/
theorem eval_below (known : String → Prop)
    (grows : ∀ name, known name → ∀ j, scope.get? name = some j → scope'.get? name = some j)
    (e : Expr) (within : ∀ name ∈ names e, known name) :
    Below (fun name => known name ∧ scope.get? name = none ∧ scope'.get? name ≠ none)
      (eval scope e) (eval scope' e) := by
  induction e using induct with
  | null | bool | int | double | string => exact .refl _
  | ident name =>
    have here : known name := within name (by simp [names])
    rw [eval, eval]
    cases found : scope.get? name with
    | some j =>
      rw [grows name here j found]
      exact .refl _
    | none =>
      cases found' : scope'.get? name with
      | none => exact .refl _
      | some j => exact .inr ⟨name, ⟨here, found, by simp [found']⟩, rfl⟩
  | call name args ih =>
    rw [names] at within
    rw [eval, eval]
    refine .bind (evalItems_below fun e member => ?_) fun _ => .refl _
    exact ih e member fun name inside => within name (names_subset_items member inside)
  | index object subscript first second =>
    rw [names, List.forall_mem_append] at within
    rw [eval, eval]
    exact (first within.1).bind fun _ => (second within.2).bind fun _ => .refl _
  | member object property ih =>
    rw [names] at within
    rw [eval, eval]
    exact (ih within).bind fun _ => .refl _
  | unary op operand ih =>
    rw [names] at within
    rw [eval, eval]
    exact (ih within).bind fun _ => .refl _
  | binary op left right first second =>
    rw [names, List.forall_mem_append] at within
    have left := first within.1
    have right := second within.2
    -- The second operand of `&&` and `||` has a part only where the first one leaves it open.
    by_cases isAnd : op = .and
    · subst isAnd
      rw [eval, eval]
      refine left.bind fun _ => .bind (.refl _) fun _ => .ite ?_ (.refl _)
      exact right.bind fun _ => .refl _
    by_cases isOr : op = .or
    · subst isOr
      rw [eval, eval]
      refine left.bind fun _ => .bind (.refl _) fun _ => .ite (.refl _) ?_
      exact right.bind fun _ => .refl _
    rw [eval_binary isAnd isOr, eval_binary isAnd isOr]
    exact left.bind fun _ => right.bind fun _ => .refl _
  | ternary condition yes no first second third =>
    rw [names, List.forall_mem_append, List.forall_mem_append] at within
    rw [eval, eval]
    refine (first within.1).bind fun _ => .bind (.refl _) fun _ => ?_
    exact .ite (second within.2.1) (third within.2.2)
  | list items ih =>
    rw [names] at within
    rw [eval, eval]
    refine .bind (evalItems_below fun e member => ?_) fun _ => .refl _
    exact ih e member fun name inside => within name (names_subset_items member inside)
  | map fields ih =>
    rw [names] at within
    rw [eval, eval]
    refine .bind (evalFields_below ∅ fun field member => ?_) fun _ => .refl _
    exact ih field member fun name inside => within name (names_subset_fields member inside)

/-- A scope that declares more gives the same result, unless a variable was not found. Scopes that
agree on the names in an expression give the same result. The second operand of `&&` and `||`, where
the first one decides, and the branch of a conditional that is not chosen have no part in it. -/
theorem evaluation_reads_needed :
    (∀ (scope scope' : Scope) (e : Expr),
      (∀ name j, scope.get? name = some j → scope'.get? name = some j) →
        (∀ j, eval scope e = .ok j → eval scope' e = .ok j) ∧
        ∀ error, eval scope e = .error error → (∀ name, error ≠ .undeclared name) →
          eval scope' e = .error error) ∧
    (∀ (scope scope' : Scope) (e : Expr),
      (∀ name ∈ names e, scope.get? name = scope'.get? name) → eval scope e = eval scope' e) ∧
    ∀ (scope : Scope) (decides other : Expr),
      (eval scope decides = .ok (.bool false) →
        eval scope (.binary .and decides other) = .ok (.bool false) ∧
        ∀ no, eval scope (.ternary decides other no) = eval scope no) ∧
      (eval scope decides = .ok (.bool true) →
        eval scope (.binary .or decides other) = .ok (.bool true) ∧
        ∀ yes, eval scope (.ternary decides yes other) = eval scope yes) := by
  refine ⟨fun scope scope' e grows => ?_, fun scope scope' e agree => ?_,
    fun scope decides other => ⟨fun fails => ⟨?_, fun no => ?_⟩, fun holds => ⟨?_, fun yes => ?_⟩⟩⟩
  · have below := eval_below (fun _ => True) (fun name _ => grows name) e fun _ _ => trivial
    constructor
    · intro j value
      rcases below with same | ⟨name, _, failed⟩
      · rw [same, value]
      · rw [failed] at value
        cases value
    · intro error failed other
      rcases below with same | ⟨name, _, undeclared⟩
      · rw [same, failed]
      · rw [undeclared] at failed
        cases failed
        exact absurd rfl (other name)
  · have grows : ∀ name, name ∈ names e → ∀ j, scope.get? name = some j →
        scope'.get? name = some j := fun name inside j found => by rw [← agree name inside, found]
    rcases eval_below (· ∈ names e) grows e fun _ inside => inside with
      same | ⟨name, ⟨inside, absent, found⟩, _⟩
    · exact same.symm
    · rw [← agree name inside] at found
      exact absurd absent found
  · rw [eval, fails]
    rfl
  · rw [eval, fails]
    rfl
  · rw [eval, holds]
    rfl
  · rw [eval, holds]
    rfl

/-! A scope that comes to know a name. -/

namespace Widened

def narrow : Scope := .ofList [("count", .int 3)]

def wide : Scope := narrow.insert "name" (.str "train")

def other : Scope := narrow.insert "name" .null

/-- `count == 3 || name > 2` -/
def settled : Expr :=
  .binary .or (.binary .eq (.ident "count") (.int 3)) (.binary .gt (.ident "name") (.int 2))

/-- `[count.size, name]` -/
def faulty : Expr := .list [.member (.ident "count") "size", .ident "name"]

/-- `-count` -/
def negated : Expr := .unary .neg (.ident "count")

theorem wide_get? {name : String} {j : Json} (found : narrow.get? name = some j) :
    wide.get? name = some j := by
  rw [wide, SortedMap.get?_insert]
  split
  · rename_i same
    rw [same] at found
    cases found
  · exact found

end Widened

/-- The name is looked up neither after a first operand that decides nor after a fault. -/
theorem evaluation_reads_needed_widened :
    (∀ name j, Widened.narrow.get? name = some j → Widened.wide.get? name = some j) ∧
    eval Widened.wide Widened.settled = .ok (.bool true) ∧
    eval Widened.wide Widened.faulty = .error (.cannotAccess "size" .number) ∧
    eval Widened.wide Widened.negated = eval Widened.other Widened.negated ∧
    eval Widened.narrow (.binary .or Widened.settled Widened.faulty) = .ok (.bool true) ∧
    eval Widened.narrow (.ternary (.bool false) Widened.faulty Widened.negated) =
      eval Widened.narrow Widened.negated := by
  obtain ⟨grows, agrees, decides⟩ := evaluation_reads_needed
  have agree : ∀ name ∈ names Widened.negated,
      Widened.wide.get? name = Widened.other.get? name := by
    intro name inside
    rw [List.mem_singleton.1 inside]
    decide
  refine ⟨fun _ _ => Widened.wide_get?, ?_, ?_, agrees _ _ _ agree, ?_, ?_⟩
  · exact (grows _ _ _ fun _ _ => Widened.wide_get?).1 _ (by rfl)
  · exact (grows _ _ _ fun _ _ => Widened.wide_get?).2 _ (by rfl) nofun
  · exact ((decides _ _ _).2 (by rfl)).1
  · exact ((decides _ (.bool false) _).1 rfl).2 _

end TaskGraph.Expr
