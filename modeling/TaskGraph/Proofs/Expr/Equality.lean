import Mathlib.Data.List.Perm.Subperm
import TaskGraph.Expr.Operators
import TaskGraph.Proofs.SortedMap

/-! Equality of values that are built from integers. It goes through lists and objects down to the
integers, and is reflexive, symmetric or transitive as far as their equality is. -/

namespace TaskGraph.Json

/-- Values made of integers with a property, null, booleans and texts, lists and sorted objects. -/
inductive BuiltFrom (p : Int → Prop) : Json → Prop where
  | null : BuiltFrom p .null
  | bool (b : Bool) : BuiltFrom p (.bool b)
  | str (s : String) : BuiltFrom p (.str s)
  | int : p n → BuiltFrom p (int n)
  | arr (list : List Json) : (∀ j ∈ list, BuiltFrom p j) → BuiltFrom p (.arr list)
  | ofDict (m : Dict Json) : (∀ field ∈ m.entries, BuiltFrom p field.2) → BuiltFrom p (ofDict m)

/-- Values of one shape whose integers are related pair by pair. -/
inductive Corresponds (r : Int → Int → Prop) : Json → Json → Prop where
  | null : Corresponds r .null .null
  | bool (b : Bool) : Corresponds r (.bool b) (.bool b)
  | str (s : String) : Corresponds r (.str s) (.str s)
  | int : r k l → Corresponds r (int k) (int l)
  | arr {xs ys : List Json} : xs.length = ys.length →
      (∀ (i : Nat) x y, xs[i]? = some x → ys[i]? = some y → Corresponds r x y) →
      Corresponds r (.arr xs) (.arr ys)
  | ofDict {m n : Dict Json} : m.keys = n.keys →
      (∀ key x y, m.get? key = some x → n.get? key = some y → Corresponds r x y) →
      Corresponds r (ofDict m) (ofDict n)

variable {p : Int → Prop} {r : Int → Int → Prop} {x y z : Json}

theorem BuiltFrom.fields {m : Dict Json} (h : BuiltFrom p (Json.ofDict m)) :
    ∀ field ∈ m.entries, BuiltFrom p field.2 := by
  generalize same : Json.ofDict m = j at h
  cases h with
  | ofDict n each =>
    obtain rfl := SortedMap.ext (Json.obj.inj same)
    exact each
  | _ => cases same

theorem Corresponds.fields {m : Dict Json} (h : Corresponds r (Json.ofDict m) z) :
    ∃ n : Dict Json, z = Json.ofDict n ∧ m.keys = n.keys ∧
      ∀ key x y, m.get? key = some x → n.get? key = some y → Corresponds r x y := by
  generalize same : Json.ofDict m = j at h
  cases h with
  | @ofDict m' n keys each =>
    obtain rfl := SortedMap.ext (Json.obj.inj same)
    exact ⟨n, rfl, keys, each⟩
  | _ => cases same

/-- Lists are equal if they have the same length and equal items. -/
theorem same_list_iff {xs ys : List Json} :
    (arr xs).same (.arr ys) ↔ xs.length = ys.length ∧
      ∀ (i : Nat) x y, xs[i]? = some x → ys[i]? = some y → x.same y := by
  have items : (arr xs).same (.arr ys) = sameItems xs ys := by simp only [same]
  rw [items]
  clear items
  induction xs generalizing ys with
  | nil => cases ys <;> simp [sameItems]
  | cons x xs ih =>
    cases ys with
    | nil => simp [sameItems]
    | cons y ys =>
      rw [sameItems, Bool.and_eq_true]
      refine (and_congr_right' ih).trans ?_
      constructor
      · rintro ⟨first, length, rest⟩
        refine ⟨congrArg Nat.succ length, fun i => ?_⟩
        cases i with
        | zero =>
          rintro _ _ ⟨⟩ ⟨⟩
          exact first
        | succ i => exact rest i
      · rintro ⟨length, each⟩
        exact ⟨each 0 x y rfl rfl, Nat.succ.inj length, fun i => each (i + 1)⟩

theorem sameFields_iff {fields others : List (String × Json)} :
    sameFields fields others ↔
      ∀ field ∈ fields, ∃ y, others.lookup field.1 = some y ∧ field.2.same y := by
  induction fields with
  | nil => simp [sameFields]
  | cons field fields ih =>
    obtain ⟨key, x⟩ := field
    rw [sameFields, Bool.and_eq_true, ih, List.forall_mem_cons]
    refine and_congr_left' ?_
    cases others.lookup key with
    | none => simp
    | some y => simp

/-- Objects are equal if they have the same keys and equal values under them. -/
theorem same_ofDict_iff {m n : Dict Json} :
    (ofDict m).same (ofDict n) ↔ m.keys = n.keys ∧
      ∀ key x y, m.get? key = some x → n.get? key = some y → x.same y := by
  have fields : (ofDict m).same (ofDict n) =
      (m.entries.length == n.entries.length && sameFields m.entries n.entries) := by
    simp only [ofDict, same]
  rw [fields, Bool.and_eq_true, beq_iff_eq, sameFields_iff]
  constructor
  · rintro ⟨length, each⟩
    have included : m.keys ⊆ n.keys := fun key member => by
      obtain ⟨x, found⟩ := SortedMap.mem_keys_iff.1 member
      obtain ⟨y, found', -⟩ := each _ (SortedMap.get?_eq_some_iff.1 found)
      exact SortedMap.mem_keys_iff.2 ⟨y, found'⟩
    have perm : m.keys.Perm n.keys :=
      (List.Nodup.subperm m.nodup_keys included).perm_of_length_le
        (by simp [SortedMap.keys, length])
    have sorted (m : Dict Json) : m.keys.Pairwise (· < ·) := List.pairwise_map.2 m.sorted
    refine ⟨perm.eq_of_pairwise (fun _ _ _ _ lt gt => absurd lt (Std.not_gt_of_lt gt))
      (sorted m) (sorted n), fun key x y found found' => ?_⟩
    obtain ⟨_, found'', same⟩ := each _ (SortedMap.get?_eq_some_iff.1 found)
    obtain ⟨⟩ := found'.symm.trans found''
    exact same
  · rintro ⟨keys, each⟩
    have length : m.keys.length = n.keys.length := congrArg _ keys
    refine ⟨by simpa [SortedMap.keys] using length, ?_⟩
    rintro ⟨key, x⟩ member
    have found := SortedMap.get?_eq_some_iff.2 member
    obtain ⟨y, found'⟩ := SortedMap.mem_keys_iff.1 (keys ▸ SortedMap.mem_keys_iff.2 ⟨x, found⟩)
    exact ⟨y, found', each key x y found found'⟩

theorem BuiltFrom.imp {q : Int → Prop} (h : BuiltFrom p x) (weaker : ∀ n, p n → q n) :
    BuiltFrom q x := by
  induction h with
  | null => exact .null
  | bool b => exact .bool b
  | str s => exact .str s
  | int fits => exact .int (weaker _ fits)
  | arr _ _ ih => exact .arr _ ih
  | ofDict _ _ ih => exact .ofDict _ ih

theorem same_kind (h : x.same y) : x.kind = y.kind := by
  cases x <;> cases y <;> simp_all [same, kind]

theorem corresponds_of_same (tells : ∀ m n, p m → p n → (int m).same (int n) → r m n)
    (left : BuiltFrom p x) (right : BuiltFrom p y) (h : x.same y) : Corresponds r x y := by
  induction left generalizing y with
  | null =>
    cases right with
    | null => exact .null
    | _ => cases same_kind h
  | bool b =>
    cases right with
    | bool c =>
      simp only [same, beq_iff_eq] at h
      exact h ▸ .bool b
    | _ => cases same_kind h
  | str s =>
    cases right with
    | str t =>
      simp only [same, beq_iff_eq] at h
      exact h ▸ .str s
    | _ => cases same_kind h
  | int fits =>
    cases right with
    | int fits' => exact .int (tells _ _ fits fits' h)
    | _ => cases same_kind h
  | arr xs _ ih =>
    cases right with
    | arr ys built =>
      obtain ⟨length, each⟩ := same_list_iff.1 h
      exact .arr length fun i x y found found' =>
        ih x (List.mem_of_getElem? found) (built y (List.mem_of_getElem? found'))
          (each i x y found found')
    | _ => cases same_kind h
  | ofDict m _ ih =>
    cases right with
    | ofDict n built =>
      obtain ⟨keys, each⟩ := same_ofDict_iff.1 h
      exact .ofDict keys fun key x y found found' =>
        ih _ (SortedMap.get?_eq_some_iff.1 found) (built _ (SortedMap.get?_eq_some_iff.1 found'))
          (each key x y found found')
    | _ => cases same_kind h

theorem same_of_corresponds (shows : ∀ m n, p m → p n → r m n → (int m).same (int n))
    (left : BuiltFrom p x) (right : BuiltFrom p y) (h : Corresponds r x y) : x.same y := by
  induction h with
  | null => simp only [same]
  | bool b => simp only [same, beq_self_eq_true]
  | str s => simp only [same, beq_self_eq_true]
  | int related =>
    cases left with
    | int fits =>
      cases right with
      | int fits' => exact shows _ _ fits fits' related
  | arr length _ ih =>
    cases left with
    | arr _ each =>
      cases right with
      | arr _ each' =>
        exact same_list_iff.2 ⟨length, fun i x y found found' => ih i x y found found'
          (each x (List.mem_of_getElem? found)) (each' y (List.mem_of_getElem? found'))⟩
  | ofDict keys _ ih =>
    exact same_ofDict_iff.2 ⟨keys, fun key x y found found' => ih key x y found found'
      (left.fields _ (SortedMap.get?_eq_some_iff.1 found))
      (right.fields _ (SortedMap.get?_eq_some_iff.1 found'))⟩

/-- Where equality of integers is a relation, equality of values is a relation of their shapes and of
their integers. -/
theorem same_iff_corresponds (tells : ∀ m n, p m → p n → ((int m).same (int n) ↔ r m n))
    (left : BuiltFrom p x) (right : BuiltFrom p y) : x.same y ↔ Corresponds r x y :=
  ⟨corresponds_of_same (fun m n fits fits' => (tells m n fits fits').1) left right,
    same_of_corresponds (fun m n fits fits' => (tells m n fits fits').2) left right⟩

theorem BuiltFrom.corresponds (built : BuiltFrom p x) (refl : ∀ n, p n → r n n) :
    Corresponds r x x := by
  induction built with
  | null => exact .null
  | bool b => exact .bool b
  | str s => exact .str s
  | int fits => exact .int (refl _ fits)
  | arr list _ ih =>
    refine .arr rfl fun i j k found found' => ?_
    obtain ⟨⟩ := found.symm.trans found'
    exact ih j (List.mem_of_getElem? found)
  | ofDict m _ ih =>
    refine .ofDict rfl fun key j k found found' => ?_
    obtain ⟨⟩ := found.symm.trans found'
    exact ih _ (SortedMap.get?_eq_some_iff.1 found)

theorem Corresponds.symm (symmetric : ∀ m n, r m n → r n m) (h : Corresponds r x y) :
    Corresponds r y x := by
  induction h with
  | null => exact .null
  | bool b => exact .bool b
  | str s => exact .str s
  | int related => exact .int (symmetric _ _ related)
  | arr length _ ih => exact .arr length.symm fun i y x found found' => ih i x y found' found
  | ofDict keys _ ih =>
    exact .ofDict keys.symm fun key y x found found' => ih key x y found' found

theorem Corresponds.trans (middle : BuiltFrom p y)
    (transitive : ∀ k m n, p m → r k m → r m n → r k n) (left : Corresponds r x y)
    (right : Corresponds r y z) : Corresponds r x z := by
  induction left generalizing z with
  | null | bool | str => exact right
  | int related =>
    cases middle with
    | int fits =>
      cases right with
      | int related' => exact .int (transitive _ _ _ fits related related')
  | @arr xs ys length _ ih =>
    cases middle with
    | arr _ built =>
      cases right with
      | arr length' each' =>
        refine .arr (length.trans length') fun i x z found found' => ?_
        have below := (List.getElem?_eq_some_iff.1 found).1
        have middle : ys[i]? = some ys[i] := List.getElem?_eq_getElem (length ▸ below)
        exact ih i x _ found middle (built _ (List.mem_of_getElem? middle))
          (each' i _ z middle found')
  | ofDict keys _ ih =>
    obtain ⟨n, rfl, keys', each'⟩ := right.fields
    refine .ofDict (keys.trans keys') fun key x z found found' => ?_
    obtain ⟨y, inMiddle⟩ :=
      SortedMap.mem_keys_iff.1 (keys ▸ SortedMap.mem_keys_iff.2 ⟨x, found⟩)
    exact ih key x y found inMiddle (middle.fields _ (SortedMap.get?_eq_some_iff.1 inMiddle))
      (each' key y z inMiddle found')

theorem Corresponds.eq (h : Corresponds r x y) (left : BuiltFrom p x) (right : BuiltFrom p y)
    (equal : ∀ m n, p m → p n → r m n → m = n) : x = y := by
  induction h with
  | null | bool | str => rfl
  | int related =>
    cases left with
    | int fits =>
      cases right with
      | int fits' => rw [equal _ _ fits fits' related]
  | arr length _ ih =>
    cases left with
    | arr _ built =>
      cases right with
      | arr _ built' =>
        refine congrArg _ (List.ext_getElem length fun i below below' => ?_)
        exact ih i _ _ (List.getElem?_eq_getElem below) (List.getElem?_eq_getElem below')
          (built _ (List.getElem_mem below)) (built' _ (List.getElem_mem below'))
  | @ofDict m n keys _ ih =>
    have built := left.fields
    have built' := right.fields
    refine congrArg _ (SortedMap.ext_get? fun key => ?_)
    have member : key ∈ m.keys ↔ key ∈ n.keys := by rw [keys]
    rw [SortedMap.mem_keys_iff, SortedMap.mem_keys_iff] at member
    cases found : m.get? key with
    | none =>
      cases found' : n.get? key with
      | none => rfl
      | some y => exact absurd (member.2 ⟨y, found'⟩) (by simp [found])
    | some x =>
      obtain ⟨y, found'⟩ := member.1 ⟨x, found⟩
      rw [found', ih key x y found found' (built _ (SortedMap.get?_eq_some_iff.1 found))
        (built' _ (SortedMap.get?_eq_some_iff.1 found'))]

end TaskGraph.Json
