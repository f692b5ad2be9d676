import TaskGraph.Json.Codec
import TaskGraph.Proofs.Json.Numbers
import TaskGraph.Proofs.SortedMap

/-! When two JSON values are the same. Numbers are compared by their kind and their
text, and of an object only what its last field under each key holds. -/

namespace TaskGraph

namespace Json

mutual

/-- The same values, the fields of objects in the same order. -/
def Alike : Json → Json → Prop
  | .null, .null => True
  | .bool a, .bool b => a = b
  | .num a, .num b => a.Alike b
  | .str a, .str b => a = b
  | .arr as, .arr bs => AlikeItems as bs
  | .obj as, .obj bs => AlikeFields as bs
  | _, _ => False

def AlikeItems : List Json → List Json → Prop
  | [], [] => True
  | a :: as, b :: bs => Alike a b ∧ AlikeItems as bs
  | _, _ => False

def AlikeFields : List (String × Json) → List (String × Json) → Prop
  | [], [] => True
  | (k, a) :: as, (l, b) :: bs => (k = l ∧ Alike a b) ∧ AlikeFields as bs
  | _, _ => False

end

theorem alikeItems_iff {as bs : List Json} : AlikeItems as bs ↔ List.Forall₂ Alike as bs := by
  induction as generalizing bs with
  | nil => cases bs <;> simp [AlikeItems]
  | cons a as ih => cases bs <;> simp [AlikeItems, ih]

theorem alikeFields_iff {as bs : List (String × Json)} :
    AlikeFields as bs ↔ List.Forall₂ (fun a b => a.1 = b.1 ∧ Alike a.2 b.2) as bs := by
  induction as generalizing bs with
  | nil => cases bs <;> simp [AlikeFields]
  | cons a as ih => cases bs <;> simp [AlikeFields, ih]

/-- The same values, whatever the order of fields. -/
def Same (a b : Json) : Prop := Alike a.normalize b.normalize

theorem normalizeItems_eq (as : List Json) : normalizeItems as = as.map normalize := by
  induction as with
  | nil => rfl
  | cons a as ih => rw [normalizeItems, ih, List.map_cons]

theorem get?_normalizeFields (seen : Dict Json) (fields : List (String × Json)) (key : String) :
    (normalizeFields seen fields).get? key =
      ((fields.reverse.lookup key).map normalize).or (seen.get? key) := by
  induction fields generalizing seen with
  | nil => simp [normalizeFields]
  | cons field rest ih =>
    obtain ⟨k, j⟩ := field
    rw [normalizeFields, ih, SortedMap.get?_insert, List.reverse_cons, List.lookup_append,
      SortedMap.lookup_cons_ite]
    by_cases same : key = k <;> cases rest.reverse.lookup key <;> simp [same]

@[simp] theorem same_str_iff {s t : String} : Same (.str s) (.str t) ↔ s = t := by
  simp [Same, normalize, Alike]

theorem same_arr_iff {as bs : List Json} :
    Same (.arr as) (.arr bs) ↔ List.Forall₂ Same as bs := by
  simp only [Same, normalize, Alike, alikeItems_iff, normalizeItems_eq, List.forall₂_map_left_iff,
    List.forall₂_map_right_iff]
  rfl

/-- Objects are the same if their last fields under each key are. -/
theorem same_obj_iff {as bs : List (String × Json)} :
    Same (.obj as) (.obj bs) ↔
      ∀ key, Option.Rel Same (as.reverse.lookup key) (bs.reverse.lookup key) := by
  simp only [Same, normalize, ofDict, Alike, alikeFields_iff]
  rw [SortedMap.forall₂_iff_lookup (SortedMap.sorted _) (SortedMap.sorted _)]
  refine forall_congr' fun key => ?_
  change Option.Rel Alike ((normalizeFields ∅ as).get? key) ((normalizeFields ∅ bs).get? key) ↔ _
  rw [get?_normalizeFields, get?_normalizeFields]
  cases as.reverse.lookup key <;> cases bs.reverse.lookup key <;> simp [Same]

section Codec

variable {α : Type} [JsonCodec α]

/-- Values of a type, by their JSON form. -/
def SameForm (x y : α) : Prop := Same (JsonCodec.encode x) (JsonCodec.encode y)

@[simp] theorem sameForm_string {s t : String} : SameForm s t ↔ s = t := same_str_iff

theorem sameForm_list {xs ys : List α} : SameForm xs ys ↔ List.Forall₂ SameForm xs ys := by
  unfold SameForm
  change Same (.arr (xs.map JsonCodec.encode)) (.arr (ys.map JsonCodec.encode)) ↔ _
  rw [same_arr_iff, List.forall₂_map_left_iff, List.forall₂_map_right_iff]

theorem lookup_encode (m : Dict α) (key : String) :
    (m.entries.map fun (key, x) => (key, JsonCodec.encode x)).reverse.lookup key =
      (m.get? key).map JsonCodec.encode := by
  rw [← SortedMap.get?_map]
  exact SortedMap.lookup_reverse (m.map JsonCodec.encode) key

theorem sameForm_dict {m n : Dict α} :
    SameForm m n ↔ ∀ key, Option.Rel SameForm (m.get? key) (n.get? key) := by
  unfold SameForm
  change Same (.obj (m.entries.map _)) (.obj (n.entries.map _)) ↔ _
  rw [same_obj_iff]
  refine forall_congr' fun key => ?_
  rw [lookup_encode, lookup_encode]
  cases m.get? key <;> cases n.get? key <;> simp

/-- Where the forms of values tell them apart, so do those of maps and lists. -/
theorem sameForm_map_iff {β : Type} {f : β → α} (tells : ∀ x y, SameForm (f x) (f y) ↔ x = y)
    {m n : Dict β} : SameForm (m.map f) (n.map f) ↔ m = n := by
  rw [sameForm_dict, ← SortedMap.forall_rel_get?_iff tells]
  refine forall_congr' fun key => ?_
  rw [SortedMap.get?_map, SortedMap.get?_map]
  cases m.get? key <;> cases n.get? key <;> simp

theorem sameForm_listMap_iff {β : Type} {f : β → α} (tells : ∀ x y, SameForm (f x) (f y) ↔ x = y)
    {xs ys : List β} : SameForm (xs.map f) (ys.map f) ↔ xs = ys := by
  rw [sameForm_list, List.forall₂_map_left_iff, List.forall₂_map_right_iff]
  simp only [tells, List.forall₂_eq_eq_eq]

theorem sameForm_dict_eq (tells : ∀ x y : α, SameForm x y ↔ x = y) {m n : Dict α} :
    SameForm m n ↔ m = n := by
  rw [sameForm_dict, SortedMap.forall_rel_get?_iff tells]

theorem sameForm_list_eq (tells : ∀ x y : α, SameForm x y ↔ x = y) {xs ys : List α} :
    SameForm xs ys ↔ xs = ys := by
  simpa using sameForm_listMap_iff (f := id) tells

@[simp] theorem rel_present {x y : α} :
    Option.Rel Same (JsonCodec.present x) (JsonCodec.present y) ↔ SameForm x y :=
  Option.rel_some_some

end Codec

@[simp] theorem rel_unlessBlank {s t : String} :
    Option.Rel Same (JsonCodec.unlessBlank s) (JsonCodec.unlessBlank t) ↔ s = t := by
  unfold JsonCodec.unlessBlank JsonCodec.skipIf
  by_cases left : s = ""
  · by_cases right : t = ""
    · simp [left, right]
    · simp [left, right, Ne.symm right]
  · by_cases right : t = ""
    · simp [left, right]
    · simp only [String.isEmpty_iff, left, right, if_false]
      exact rel_present.trans sameForm_string

@[simp] theorem rel_unlessNone {s t : Option String} :
    Option.Rel Same (JsonCodec.unlessNone s) (JsonCodec.unlessNone t) ↔ s = t := by
  cases s with
  | none => cases t <;> simp [JsonCodec.unlessNone]
  | some s =>
    cases t with
    | none => simp [JsonCodec.unlessNone]
    | some t =>
      rw [Option.some.injEq]
      exact rel_present.trans sameForm_string

theorem lookup_absent {names : List String} {values : List (Option Json)} {name : String}
    (absent : name ∉ names) :
    ((names.zip values).filterMap fun (name, value) => value.map (name, ·)).reverse.lookup name =
      none := by
  rw [List.lookup_eq_none_iff]
  rintro ⟨key, j⟩ member
  simp only [List.mem_reverse, List.mem_filterMap, Prod.exists, Option.map_eq_some_iff,
    Prod.mk.injEq] at member
  obtain ⟨_, _, zipped, _, _, rfl, _⟩ := member
  exact bne_iff_ne.2 fun same => absent (same ▸ (List.of_mem_zip zipped).1)

theorem lookup_record {names : List String} {values : List (Option Json)} {name : String}
    {value : Option Json} (absent : name ∉ names) (key : String) :
    (((name :: names).zip (value :: values)).filterMap
        fun (name, value) => value.map (name, ·)).reverse.lookup key =
      if key = name then value
      else ((names.zip values).filterMap fun (name, value) => value.map (name, ·)).reverse.lookup
        key := by
  split
  · rename_i same
    subst same
    cases value <;> simp [List.lookup_append, lookup_absent absent]
  · rename_i apart
    cases value <;> simp [List.lookup_append, SortedMap.lookup_cons_ite, apart]

/-- Records with the same field names are the same field by field. -/
theorem same_ofRecord_iff {names : List String} (distinct : names.Nodup)
    {as bs : List (Option Json)} (left : as.length = names.length)
    (right : bs.length = names.length) :
    Same (ofRecord names as) (ofRecord names bs) ↔ List.Forall₂ (Option.Rel Same) as bs := by
  unfold ofRecord
  rw [same_obj_iff]
  induction names generalizing as bs with
  | nil =>
    rw [List.length_eq_zero_iff.1 left, List.length_eq_zero_iff.1 right]
    simp
  | cons name names ih =>
    obtain ⟨a, as, rfl⟩ := List.exists_cons_of_length_eq_add_one left
    obtain ⟨b, bs, rfl⟩ := List.exists_cons_of_length_eq_add_one right
    obtain ⟨absent, others⟩ := List.nodup_cons.1 distinct
    simp only [lookup_record absent, List.forall₂_cons]
    rw [← ih others (Nat.succ.inj left) (Nat.succ.inj right)]
    constructor
    · intro related
      refine ⟨by simpa using related name, fun key => ?_⟩
      by_cases same : key = name
      · rw [same, lookup_absent absent, lookup_absent absent]
        exact .none
      · simpa [same] using related key
    · rintro ⟨first, rest⟩ key
      split
      · exact first
      · exact rest key

end Json

end TaskGraph
