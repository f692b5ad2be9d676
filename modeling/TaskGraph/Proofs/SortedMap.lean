import Mathlib.Data.List.Forall2
import TaskGraph.SortedMap

/-! Sorted maps through their lookup. A map is determined by what it holds under
each key, and every operation on maps is described by what it does to a lookup. -/

namespace TaskGraph.SortedMap

section Lookup

variable {κ α β : Type} [DecidableEq κ]

theorem lookup_cons_ite (k k' : κ) (v : α) (es : List (κ × α)) :
    ((k', v) :: es).lookup k = if k = k' then some v else es.lookup k := by
  rw [List.lookup_cons]
  by_cases same : k = k'
  · simp [same]
  · rw [if_neg same, beq_eq_false_iff_ne.2 same]

/-- What a lookup finds is an entry. -/
theorem mem_of_lookup {es : List (κ × α)} {k : κ} {v : α} (found : es.lookup k = some v) :
    (k, v) ∈ es := by
  obtain ⟨before, after, split, -⟩ := List.lookup_eq_some_iff.1 found
  simp [split]

/-- Where no key occurs twice, a lookup finds every entry. -/
theorem lookup_eq_some_iff {es : List (κ × α)} (distinct : es.Pairwise (fun a b => a.1 ≠ b.1))
    (k : κ) (v : α) : es.lookup k = some v ↔ (k, v) ∈ es := by
  induction es with
  | nil => simp
  | cons e rest ih =>
    obtain ⟨k', v'⟩ := e
    obtain ⟨other, tail⟩ := List.pairwise_cons.1 distinct
    rw [lookup_cons_ite]
    by_cases same : k = k'
    · subst same
      have absent : (k, v) ∉ rest := fun member => other _ member rfl
      simp [absent, eq_comm]
    · simp [same, ih tail]

/-- A key that has one value only is found with it. -/
theorem lookup_of_unique {es : List (κ × α)} {k : κ} {v : α} (member : (k, v) ∈ es)
    (unique : ∀ v', (k, v') ∈ es → v' = v) : es.lookup k = some v := by
  induction es with
  | nil => cases member
  | cons e rest ih =>
    obtain ⟨k', v'⟩ := e
    rw [lookup_cons_ite]
    by_cases same : k = k'
    · subst same
      rw [if_pos rfl, unique v' List.mem_cons_self]
    · rw [if_neg same]
      refine ih ?_ fun v'' member => unique v'' (List.mem_cons_of_mem _ member)
      rcases List.mem_cons.1 member with here | later
      · exact absurd (congrArg Prod.fst here) same
      · exact later

/-- The order of entries does not matter to a lookup if no key occurs twice. -/
theorem lookup_of_perm {es fs : List (κ × α)} (perm : es.Perm fs)
    (distinct : (fs.map Prod.fst).Nodup) (k : κ) : es.lookup k = fs.lookup k := by
  have others : (es.map Prod.fst).Nodup := (perm.map _).nodup_iff.2 distinct
  refine Option.ext fun v => ?_
  rw [lookup_eq_some_iff (List.pairwise_map.1 others),
    lookup_eq_some_iff (List.pairwise_map.1 distinct)]
  exact perm.mem_iff

theorem lookup_map (g : α → β) (es : List (κ × α)) (k : κ) :
    (es.map fun e => (e.1, g e.2)).lookup k = (es.lookup k).map g := by
  induction es with
  | nil => rfl
  | cons e rest ih =>
    obtain ⟨k', v⟩ := e
    rw [List.map_cons, lookup_cons_ite, lookup_cons_ite, ih]
    split <;> rfl

variable [LT κ]

@[simp] theorem get?_empty (k : κ) : (∅ : SortedMap κ α).get? k = none := rfl

omit [DecidableEq κ] in
@[simp] theorem keys_mapWithKey (f : κ → α → β) (m : SortedMap κ α) :
    (m.mapWithKey f).keys = m.keys := by
  simp [keys, mapWithKey]

variable [LE κ] [Std.LawfulOrderLT κ]

omit [DecidableEq κ] in
theorem distinct_of_sorted {es : List (κ × α)} (sorted : es.Pairwise (fun a b => a.1 < b.1)) :
    es.Pairwise (fun a b => a.1 ≠ b.1) := by
  refine sorted.imp fun {a b} lt same => ?_
  rw [same] at lt
  exact Std.lt_irrefl lt

omit [DecidableEq κ] in
theorem distinct (m : SortedMap κ α) : m.entries.Pairwise (fun a b => a.1 ≠ b.1) :=
  distinct_of_sorted m.sorted

omit [DecidableEq κ] in
theorem nodup_keys (m : SortedMap κ α) : (m.entries.map Prod.fst).Nodup :=
  List.pairwise_map.2 m.distinct

/-- The first key of a sorted list does not occur again. -/
theorem lookup_tail {k : κ} {v : α} {es : List (κ × α)}
    (sorted : ((k, v) :: es).Pairwise (fun a b => a.1 < b.1)) : es.lookup k = none := by
  rw [List.lookup_eq_none_iff]
  intro e member
  exact bne_iff_ne.2 ((List.pairwise_cons.1 (distinct_of_sorted sorted)).1 e member)

theorem get?_eq_some_iff {m : SortedMap κ α} {k : κ} {v : α} :
    m.get? k = some v ↔ (k, v) ∈ m.entries := lookup_eq_some_iff m.distinct k v

theorem mem_values_iff {m : SortedMap κ α} {v : α} : v ∈ m.values ↔ ∃ k, m.get? k = some v := by
  simp [values, get?_eq_some_iff]

theorem mem_keys_iff {m : SortedMap κ α} {k : κ} : k ∈ m.keys ↔ ∃ v, m.get? k = some v := by
  simp [keys, get?_eq_some_iff]

theorem lookup_reverse (m : SortedMap κ α) (k : κ) : m.entries.reverse.lookup k = m.get? k :=
  lookup_of_perm (List.reverse_perm m.entries) m.nodup_keys k

@[simp] theorem get?_mapWithKey (f : κ → α → β) (m : SortedMap κ α) (k : κ) :
    (m.mapWithKey f).get? k = (m.get? k).map (f k) := by
  ext v
  simp only [get?_eq_some_iff, Option.map_eq_some_iff, mapWithKey, List.mem_map, Prod.mk.injEq,
    Prod.exists]
  constructor
  · rintro ⟨k', w, member, rfl, rfl⟩
    exact ⟨w, member, rfl⟩
  · rintro ⟨w, member, rfl⟩
    exact ⟨k, w, member, rfl, rfl⟩

@[simp] theorem get?_map (f : α → β) (m : SortedMap κ α) (k : κ) :
    (m.map f).get? k = (m.get? k).map f := get?_mapWithKey _ m k

@[simp] theorem get?_filterMap (f : α → Option β) (m : SortedMap κ α) (k : κ) :
    (m.filterMap f).get? k = (m.get? k).bind f := by
  ext v
  simp only [get?_eq_some_iff, Option.bind_eq_some_iff, filterMap, List.mem_filterMap,
    Option.map_eq_some_iff, Prod.mk.injEq, Prod.exists]
  constructor
  · rintro ⟨k', v', member, x, found, rfl, rfl⟩
    exact ⟨v', member, found⟩
  · rintro ⟨v', member, found⟩
    exact ⟨k, v', member, v, found, rfl, rfl⟩

theorem get?_erase (m : SortedMap κ α) (k k' : κ) :
    (m.erase k).get? k' = if k' = k then none else m.get? k' := by
  ext v
  split <;> simp_all [get?_eq_some_iff, erase, filter]

variable [Std.IsLinearOrder κ]

/-- No key of a sorted list is below its first one. -/
theorem head_le_of_lookup {k l : κ} {v w : α} {es : List (κ × α)}
    (sorted : ((k, v) :: es).Pairwise (fun a b => a.1 < b.1))
    (found : ((k, v) :: es).lookup l = some w) : k ≤ l := by
  rw [lookup_cons_ite] at found
  split at found
  · rename_i same
    exact same ▸ Std.le_refl k
  · obtain ⟨above, tail⟩ := List.pairwise_cons.1 sorted
    exact Std.le_of_lt (above _ ((lookup_eq_some_iff (distinct_of_sorted tail) l w).1 found))

/-- Sorted lists are related entry by entry exactly if their lookups are related. -/
theorem forall₂_iff_lookup {r : α → β → Prop} {es : List (κ × α)} {fs : List (κ × β)}
    (left : es.Pairwise (fun a b => a.1 < b.1)) (right : fs.Pairwise (fun a b => a.1 < b.1)) :
    List.Forall₂ (fun a b => a.1 = b.1 ∧ r a.2 b.2) es fs ↔
      ∀ k, Option.Rel r (es.lookup k) (fs.lookup k) := by
  constructor
  · intro related k
    clear left right
    induction related with
    | nil => exact .none
    | @cons e f es fs head _ ih =>
      obtain ⟨k', v⟩ := e
      obtain ⟨_, u⟩ := f
      obtain ⟨rfl, value⟩ := head
      rw [lookup_cons_ite, lookup_cons_ite]
      split
      · exact .some value
      · exact ih
  · intro related
    induction es generalizing fs with
    | nil =>
      cases fs with
      | nil => exact .nil
      | cons f fs =>
        obtain ⟨l, u⟩ := f
        simpa [lookup_cons_ite] using related l
    | cons e es ih =>
      obtain ⟨k, v⟩ := e
      cases fs with
      | nil => simpa [lookup_cons_ite] using related k
      | cons f fs =>
        obtain ⟨l, u⟩ := f
        have same : k = l := by
          have atLeft := related k
          have atRight := related l
          rw [lookup_cons_ite, if_pos rfl] at atLeft
          rw [lookup_cons_ite l l u fs, if_pos rfl] at atRight
          cases inRight : ((l, u) :: fs).lookup k with
          | none => simp [inRight] at atLeft
          | some u' =>
          cases inLeft : ((k, v) :: es).lookup l with
          | none => simp [inLeft] at atRight
          | some v' =>
          exact Std.le_antisymm (head_le_of_lookup left inLeft) (head_le_of_lookup right inRight)
        subst same
        have value := related k
        rw [lookup_cons_ite, lookup_cons_ite, if_pos rfl, if_pos rfl] at value
        refine .cons ⟨rfl, Option.rel_some_some.1 value⟩
          (ih (List.pairwise_cons.1 left).2 (List.pairwise_cons.1 right).2 fun k' => ?_)
        by_cases first : k' = k
        · rw [first, lookup_tail left, lookup_tail right]
          exact .none
        · simpa [lookup_cons_ite, first] using related k'

theorem ext_get? {m n : SortedMap κ α} (same : ∀ k, m.get? k = n.get? k) : m = n := by
  have related : List.Forall₂ (fun a b => a.1 = b.1 ∧ a.2 = b.2) m.entries n.entries := by
    refine (forall₂_iff_lookup m.sorted n.sorted).2 fun k => ?_
    have here : m.entries.lookup k = n.entries.lookup k := same k
    rw [here]
    cases n.entries.lookup k with
    | none => exact .none
    | some v => exact .some rfl
  refine SortedMap.ext (List.forall₂_eq_eq_eq ▸ related.imp fun a b h => ?_)
  exact Prod.ext h.1 h.2

/-- Where related values are equal, so are maps whose lookups are related. -/
theorem forall_rel_get?_iff {r : α → α → Prop} (tells : ∀ x y, r x y ↔ x = y)
    {m n : SortedMap κ α} : (∀ k, Option.Rel r (m.get? k) (n.get? k)) ↔ m = n := by
  constructor
  · intro related
    refine ext_get? fun k => ?_
    have here := related k
    generalize m.get? k = x, n.get? k = y at here
    cases here with
    | some same => rw [(tells _ _).1 same]
    | none => rfl
  · rintro rfl k
    cases m.get? k with
    | none => exact .none
    | some x => exact .some ((tells x x).2 rfl)

end Lookup

section Insert

variable {κ α : Type} [LT κ] [LE κ] [DecidableEq κ] [DecidableLT κ] [Std.LawfulOrderLT κ]
  [Std.IsLinearOrder κ]

theorem lookup_insertEntry (k : κ) (v : α) (es : List (κ × α)) (k' : κ) :
    (insertEntry k v es).lookup k' = if k' = k then some v else es.lookup k' := by
  induction es with
  | nil => rw [insertEntry, lookup_cons_ite]
  | cons e rest ih =>
    obtain ⟨l, w⟩ := e
    simp only [insertEntry]
    split
    · rw [lookup_cons_ite]
    · split
      · rename_i later
        by_cases same : k' = l
        · subst same
          have apart : k' ≠ k := fun h => Std.lt_irrefl (h ▸ later)
          simp [apart]
        · simp [lookup_cons_ite, same, ih]
      · rename_i ge le
        have equal : k = l := Std.le_antisymm (Std.not_lt.1 le) (Std.not_lt.1 ge)
        subst equal
        by_cases same : k' = k <;> simp [lookup_cons_ite, same]

theorem get?_insert (m : SortedMap κ α) (k : κ) (v : α) (k' : κ) :
    (m.insert k v).get? k' = if k' = k then some v else m.get? k' :=
  lookup_insertEntry k v m.entries k'

@[simp] theorem get?_insert_self (m : SortedMap κ α) (k : κ) (v : α) :
    (m.insert k v).get? k = some v := by rw [get?_insert, if_pos rfl]

theorem insert_insert (m : SortedMap κ α) (k : κ) (v v' : α) :
    (m.insert k v).insert k v' = m.insert k v' := by
  refine ext_get? fun k' => ?_
  simp only [get?_insert]
  split <;> rfl

/-- An entry that is there already changes nothing. -/
theorem insert_of_get? {m : SortedMap κ α} {k : κ} {v : α} (found : m.get? k = some v) :
    m.insert k v = m := by
  refine ext_get? fun k' => ?_
  rw [get?_insert]
  split
  · rename_i same
    rw [same, found]
  · rfl

omit [DecidableEq κ] in
/-- A key above all others comes last. -/
theorem keys_insert_above {m : SortedMap κ α} {k : κ} (above : ∀ l ∈ m.keys, l < k) (v : α) :
    (m.insert k v).keys = m.keys ++ [k] := by
  obtain ⟨es, sorted⟩ := m
  simp only [keys, insert] at above ⊢
  clear sorted
  induction es with
  | nil => rfl
  | cons e rest ih =>
    obtain ⟨l, w⟩ := e
    have first : l < k := above l List.mem_cons_self
    have notBefore : ¬ k < l := fun before => Std.lt_irrefl (Std.lt_trans first before)
    rw [insertEntry, if_neg notBefore, if_pos first, List.map_cons, List.map_cons, List.cons_append]
    exact congrArg (l :: ·) (ih fun l' member => above l' (List.mem_cons_of_mem _ member))

/-- A key that is there already stays in its place. -/
theorem keys_insert_of_found {m : SortedMap κ α} {k : κ} {v : α} (found : m.get? k = some v)
    (v' : α) : (m.insert k v').keys = m.keys := by
  have listed := get?_eq_some_iff.1 found
  obtain ⟨es, sorted⟩ := m
  simp only [keys, insert] at listed ⊢
  clear found
  induction es with
  | nil => cases listed
  | cons e rest ih =>
    obtain ⟨l, w⟩ := e
    obtain ⟨before, tail⟩ := List.pairwise_cons.1 sorted
    rcases List.mem_cons.1 listed with here | later
    · obtain rfl : k = l := congrArg Prod.fst here
      simp [insertEntry, Std.lt_irrefl]
    · have first : l < k := before _ later
      have notBefore : ¬ k < l := fun above => Std.lt_irrefl (Std.lt_trans first above)
      rw [insertEntry, if_neg notBefore, if_pos first, List.map_cons, List.map_cons]
      exact congrArg (l :: ·) (ih tail later)

/-- Of several entries under one key the last stays. -/
theorem get?_insertAll (m : SortedMap κ α) (es : List (κ × α)) (k : κ) :
    (m.insertAll es).get? k = (es.reverse.lookup k).or (m.get? k) := by
  induction es generalizing m with
  | nil => simp [insertAll]
  | cons e rest ih =>
    obtain ⟨k', v⟩ := e
    have step : m.insertAll ((k', v) :: rest) = (m.insert k' v).insertAll rest := rfl
    rw [step, ih, get?_insert, List.reverse_cons, List.lookup_append]
    by_cases same : k = k' <;> simp [same, lookup_cons_ite]

theorem get?_ofList (es : List (κ × α)) (k : κ) : (ofList es).get? k = es.reverse.lookup k := by
  simp [ofList, get?_insertAll]

theorem get?_ofList_of_unique {es : List (κ × α)} {k : κ} {v : α} (member : (k, v) ∈ es)
    (unique : ∀ v', (k, v') ∈ es → v' = v) : (ofList es).get? k = some v := by
  rw [get?_ofList]
  exact lookup_of_unique (List.mem_reverse.2 member)
    fun v' member => unique v' (List.mem_reverse.1 member)

/-- A map is made again from its entries, whatever their order. -/
theorem ofList_of_perm {es : List (κ × α)} {m : SortedMap κ α} (perm : es.Perm m.entries) :
    ofList es = m := by
  refine ext_get? fun k => ?_
  have reversed : es.reverse.Perm m.entries := (List.reverse_perm es).trans perm
  rw [get?_ofList, lookup_of_perm reversed m.nodup_keys]
  rfl

theorem get?_union (m n : SortedMap κ α) (k : κ) :
    (m.union n).get? k = (n.get? k).or (m.get? k) := by
  rw [union, get?_insertAll, lookup_reverse]

@[simp] theorem empty_union (m : SortedMap κ α) : (∅ : SortedMap κ α).union m = m := by
  refine ext_get? fun k => ?_
  simp [get?_union]

end Insert

end TaskGraph.SortedMap
