import Mathlib.Data.List.Nodup
import TaskGraph.Proofs.Json.Text

/-! Layouts of JSON. A value may be laid out with the fields of its objects in one order or another,
as they were written or sorted by their names. What a record is read from does not depend on it. -/

namespace TaskGraph

namespace Json

/-- A value proper: the fields of every object in it are sorted and distinct. -/
def Proper (j : Json) : Prop := j.normalize = j

variable {fields : List (String × Json)} {names : List String} {values : List (Option Json)}

theorem normalizeFields_perm (distinct : (fields.map Prod.fst).Nodup) :
    (normalizeFields ∅ fields).entries.Perm (fields.map fun e => (e.1, e.2.normalize)) := by
  have keys : ((fields.map fun e => (e.1, e.2.normalize)).map Prod.fst).Nodup := by
    rw [List.map_map]
    exact distinct
  refine (List.perm_ext_iff_of_nodup (.of_map _ (SortedMap.nodup_keys _)) (.of_map _ keys)).2 ?_
  rintro ⟨key, j⟩
  have reversed : (fields.reverse.map Prod.fst).Nodup :=
    ((List.reverse_perm fields).map _).nodup_iff.2 distinct
  rw [← SortedMap.get?_eq_some_iff, get?_normalizeFields]
  simp only [SortedMap.get?_empty, Option.or_none, Option.map_eq_some_iff, List.mem_map,
    Prod.mk.injEq, Prod.exists]
  simp only [SortedMap.lookup_eq_some_iff (List.pairwise_map.1 reversed), List.mem_reverse]
  constructor
  · rintro ⟨value, member, rfl⟩
    exact ⟨key, value, member, rfl, rfl⟩
  · rintro ⟨_, value, member, rfl, rfl⟩
    exact ⟨value, member, rfl⟩

theorem normalize_normalize (j : Json) : j.normalize.normalize = j.normalize := by
  induction j using induct with
  | null | bool | num | str => rfl
  | arr items ih =>
    simp only [normalize, normalizeItems_eq, List.map_map, arr.injEq]
    exact List.map_congr_left ih
  | obj fields ih =>
    simp only [normalize, ofDict, obj.injEq]
    refine congrArg SortedMap.entries (SortedMap.ext_get? fun key => ?_)
    have again := get?_normalizeFields ∅ (normalizeFields ∅ fields).entries key
    rw [SortedMap.lookup_reverse] at again
    rw [again, get?_normalizeFields]
    simp only [SortedMap.get?_empty, Option.or_none, Option.map_map]
    cases found : fields.reverse.lookup key with
    | none => rfl
    | some j =>
      have member : (key, j) ∈ fields := List.mem_reverse.1 (SortedMap.mem_of_lookup found)
      exact congrArg some (ih (key, j) member)

theorem isNull_normalize (j : Json) : j.normalize.isNull = j.isNull := by
  cases j <;> rfl

/-- A way to lay out values: only the fields of objects may change their places. -/
structure Layout (f : Json → Json) : Prop where
  str : ∀ s, f (.str s) = .str s
  bool : ∀ b, f (.bool b) = .bool b
  arr : ∀ items, f (.arr items) = .arr (items.map f)
  obj : ∀ fields : List (String × Json), (fields.map Prod.fst).Nodup →
    ∃ placed, f (.obj fields) = .obj placed ∧ placed.Perm (fields.map fun e => (e.1, f e.2))
  normalize : ∀ j, (f j).normalize = j.normalize

namespace Layout

variable {f : Json → Json}

/-- As values are written. -/
theorem written : Layout id where
  str _ := rfl
  bool _ := rfl
  arr items := by simp
  obj fields _ := ⟨fields, rfl, by simp⟩
  normalize _ := rfl

/-- With sorted fields. -/
theorem sorted : Layout Json.normalize where
  str _ := rfl
  bool _ := rfl
  arr items := by rw [Json.normalize, normalizeItems_eq]
  obj fields distinct := ⟨_, rfl, normalizeFields_perm distinct⟩
  normalize := normalize_normalize

theorem isNull (layout : Layout f) (j : Json) : (f j).isNull = j.isNull := by
  rw [← isNull_normalize (f j), layout.normalize, isNull_normalize]

end Layout

/-- The fields of a record are distinct if their names are. -/
theorem ofRecord_keys (distinct : names.Nodup) (values : List (Option Json)) :
    (((names.zip values).filterMap fun (name, value) => value.map (name, ·)).map
      Prod.fst).Nodup := by
  refine List.Nodup.sublist ?_ distinct
  induction names generalizing values with
  | nil => exact List.Sublist.slnil
  | cons name names ih =>
    obtain ⟨-, others⟩ := List.nodup_cons.1 distinct
    cases values with
    | nil => exact List.nil_sublist _
    | cons value values =>
      cases value with
      | none => exact (ih others values).cons name
      | some j => exact (ih others values).cons_cons name

/-- The fields of a record are found by their names. -/
theorem ofRecord_lookup (distinct : names.Nodup) (length : values.length = names.length) :
    names.map (fun name => ((names.zip values).filterMap
      fun (name, value) => value.map (name, ·)).reverse.lookup name) = values := by
  induction names generalizing values with
  | nil => exact (List.length_eq_zero_iff.1 length).symm
  | cons name names ih =>
    obtain ⟨value, values, rfl⟩ := List.exists_cons_of_length_eq_add_one length
    obtain ⟨absent, others⟩ := List.nodup_cons.1 distinct
    simp only [lookup_record absent, List.map_cons, if_true, List.cons.injEq, true_and]
    refine Eq.trans (List.map_congr_left fun other member => ?_) (ih others (Nat.succ.inj length))
    have apart : other ≠ name := fun same => absent (same ▸ member)
    rw [if_neg apart]

/-- Where no name occurs twice, the fields of a record are found in an object. -/
theorem record?_obj (distinct : (fields.map Prod.fst).Nodup) (names : List String) :
    (Json.obj fields).record? names = some (names.map fun name => fields.lookup name) := by
  have once (name : String) : fields.countP (·.1 = name) ≤ 1 := by
    have count := List.nodup_iff_count_le_one.1 distinct name
    rw [List.count, List.countP_map] at count
    refine Nat.le_trans (Nat.le_of_eq (List.countP_congr fun e _ => ?_)) count
    simp
  rw [record?, if_neg]
  simp only [List.any_eq_true, decide_eq_true_eq, not_exists, not_and]
  intro name _ twice
  have single := once name
  omega

namespace Layout

variable {f : Json → Json}

/-- The fields of an object, laid out. -/
theorem obj_keys {placed : List (String × Json)} (distinct : (fields.map Prod.fst).Nodup)
    (perm : placed.Perm (fields.map fun e => (e.1, f e.2))) : (placed.map Prod.fst).Nodup := by
  refine (perm.map _).nodup_iff.2 ?_
  rw [List.map_map]
  exact distinct

/-- A record is read from any layout of what it is written as. -/
theorem record?_ofRecord (layout : Layout f) (distinct : names.Nodup)
    (length : values.length = names.length) :
    (f (ofRecord names values)).record? names = some (values.map (Option.map f)) := by
  obtain ⟨placed, laid, perm⟩ := layout.obj _ (ofRecord_keys distinct values)
  have keys := obj_keys (ofRecord_keys distinct values) perm
  have same : ((names.zip values).filterMap fun (name, value) => value.map (name, ·)).map
      (fun e => (e.1, f e.2)) = (names.zip (values.map (Option.map f))).filterMap
        fun (name, value) => value.map (name, ·) := by
    rw [List.map_filterMap, List.zip_map_right, List.filterMap_map]
    refine List.filterMap_congr fun ⟨name, value⟩ _ => ?_
    cases value <;> rfl
  rw [same] at perm
  have mapped : (values.map (Option.map f)).length = names.length := by
    rw [List.length_map, length]
  rw [ofRecord, laid, record?_obj keys]
  refine congrArg some (Eq.trans (List.map_congr_left fun name _ => ?_)
    (ofRecord_lookup distinct mapped))
  have back := (List.reverse_perm ((names.zip (values.map (Option.map f))).filterMap
    fun (name, value) => value.map (name, ·))).trans perm.symm
  exact (SortedMap.lookup_of_perm back keys name).symm

/-- What is built of the fields of a record is built of them again when the record is read. -/
theorem reads_record {α : Type} {build : List (Option Json) → Option α} {x : α}
    (layout : Layout f) (distinct : names.Nodup) (length : values.length = names.length)
    (built : build (values.map (Option.map f)) = some x) :
    ((f (ofRecord names values)).record? names >>= build) = some x := by
  rw [layout.record?_ofRecord distinct length]
  exact built

/-- An object with one field has one layout. -/
theorem obj_single (layout : Layout f) (name : String) (j : Json) :
    f (.obj [(name, j)]) = .obj [(name, f j)] := by
  obtain ⟨placed, laid, perm⟩ := layout.obj [(name, j)] (List.nodup_singleton name)
  rw [laid]
  exact congrArg Json.obj (List.perm_singleton.1 perm)

end Layout

end Json

end TaskGraph
