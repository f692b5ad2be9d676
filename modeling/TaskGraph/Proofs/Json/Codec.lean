import Mathlib.Data.List.Perm.Basic
import TaskGraph.Proofs.Json.Layout

/-! Faithful codecs. What a value is written as can be read back, however it is laid out, and what is
read can be written again. The fields of a record are written and read one by one, so a record has a
faithful codec if its fields have, and if what is left out is what a missing field is read as. -/

namespace TaskGraph

/-- All values of a map. -/
def SortedMap.Each {κ α : Type} [LT κ] [DecidableEq κ] (P : α → Prop) (m : SortedMap κ α) : Prop :=
  ∀ key x, m.get? key = some x → P x

theorem SortedMap.each_empty {κ α : Type} [LT κ] [DecidableEq κ] (P : α → Prop) :
    (∅ : SortedMap κ α).Each P := by
  intro key x found
  rw [get?_empty] at found
  cases found

/-- A value that may stand in an optional field, where null would mean that there is none. -/
structure Json.Given (j : Json) : Prop where
  proper : j.Proper
  notNull : j ≠ .null

namespace JsonCodec

/-- Values of a kind can be read from what they are written as, and only such values are read. -/
structure Faithful (α : Type) [JsonCodec α] (P : α → Prop) : Prop where
  reads : ∀ x, P x → ∀ f, Json.Layout f → decode? (f (encode x)) = some x
  proper : ∀ j x, decode? j = some x → P x

namespace Faithful

variable {α : Type} {codec : JsonCodec α} {P : α → Prop} {f : Json → Json}

theorem decode?_encode (faithful : Faithful α P) (layout : Json.Layout f) {x : α} (proper : P x) :
    decode? (f (encode x)) = some x :=
  faithful.reads x proper f layout

theorem string : Faithful String fun _ => True where
  reads s _ f layout := by
    change decode? (f (.str s)) = some s
    rw [layout.str]
    rfl
  proper _ _ _ := trivial

theorem bool : Faithful Bool fun _ => True where
  reads b _ f layout := by
    change decode? (f (.bool b)) = some b
    rw [layout.bool]
    rfl
  proper _ _ _ := trivial

/-- A value that is embedded as it is. -/
theorem json : Faithful Json Json.Proper where
  reads j proper f layout := by
    change some (f j).normalize = some j
    rw [layout.normalize, proper]
  proper j x read := by
    obtain rfl := Option.some.inj read
    exact j.normalize_normalize

theorem mapM_reads {β γ : Type} {write : β → γ} {read : γ → Option β} {xs : List β}
    (reads : ∀ x ∈ xs, read (write x) = some x) : (xs.map write).mapM read = some xs := by
  induction xs with
  | nil => rfl
  | cons x rest ih =>
    obtain ⟨first, others⟩ := List.forall_mem_cons.1 reads
    simp [List.mapM_cons, first, ih others]

theorem mapM_mem {β γ : Type} {read : γ → Option β} {xs : List γ} {ys : List β}
    (all : xs.mapM read = some ys) {y : β} (member : y ∈ ys) : ∃ x, read x = some y := by
  induction xs generalizing ys with
  | nil =>
    cases all
    cases member
  | cons x rest ih =>
    rw [List.mapM_cons] at all
    obtain ⟨first, one, all⟩ := Option.bind_eq_some_iff.1 all
    obtain ⟨others, more, all⟩ := Option.bind_eq_some_iff.1 all
    obtain rfl := Option.some.inj all
    rcases List.mem_cons.1 member with rfl | later
    · exact ⟨x, one⟩
    · exact ih more later

theorem list (faithful : Faithful α P) : Faithful (List α) fun xs => ∀ x ∈ xs, P x where
  reads xs each f layout := by
    change decode? (f (.arr (xs.map encode))) = some xs
    rw [layout.arr, List.map_map]
    exact mapM_reads fun x member => faithful.reads x (each x member) f layout
  proper j xs read := by
    intro x member
    cases j with
    | arr items =>
      obtain ⟨item, read⟩ := mapM_mem read member
      exact faithful.proper item x read
    | _ => cases read

/-- What is written of some values in another order is written of the values in another order. -/
theorem exists_of_perm_map {β γ : Type} {g : β → γ} {xs : List β} {ys : List γ}
    (perm : ys.Perm (xs.map g)) : ∃ zs : List β, zs.Perm xs ∧ ys = zs.map g := by
  have images : List.Forall₂ (fun y x => y = g x) (xs.map g) xs := by
    rw [List.forall₂_map_left_iff]
    exact List.forall₂_same.2 fun _ _ => rfl
  obtain ⟨zs, pairs, same⟩ := List.perm_comp_forall₂ perm images
  refine ⟨zs, same, ?_⟩
  rwa [← List.forall₂_map_right_iff, List.forall₂_eq_eq_eq] at pairs

theorem dict (faithful : Faithful α P) : Faithful (Dict α) fun m => m.Each P where
  reads m each f layout := by
    have distinct : ((m.entries.map fun e => (e.1, encode e.2)).map Prod.fst).Nodup := by
      rw [List.map_map]
      exact m.nodup_keys
    obtain ⟨placed, laid, perm⟩ := layout.obj _ distinct
    rw [List.map_map] at perm
    obtain ⟨entries, same, rfl⟩ := exists_of_perm_map perm
    change decode? (f (.obj (m.entries.map fun e => (e.1, encode e.2)))) = some m
    rw [laid]
    change (do
      let entries ← (entries.map _).mapM _
      return SortedMap.ofList entries) = some m
    rw [mapM_reads]
    · exact congrArg some (SortedMap.ofList_of_perm same)
    · rintro ⟨key, x⟩ member
      have stored := SortedMap.get?_eq_some_iff.2 (same.mem_iff.1 member)
      have read := faithful.reads x (each key x stored) f layout
      simp [read]
  proper j m read := by
    intro key x stored
    cases j with
    | obj fields =>
      obtain ⟨entries, all, made⟩ := Option.bind_eq_some_iff.1 read
      obtain rfl := Option.some.inj made
      rw [SortedMap.get?_ofList] at stored
      have member : (key, x) ∈ entries := List.mem_reverse.1 (SortedMap.mem_of_lookup stored)
      obtain ⟨⟨name, value⟩, one⟩ := mapM_mem all member
      obtain ⟨y, read, same⟩ := Option.bind_eq_some_iff.1 one
      obtain ⟨rfl, rfl⟩ := Prod.mk.inj (Option.some.inj same)
      exact faithful.proper value y read
    | _ => cases read

/-! Fields. -/

variable {x default : α} {o : Option α}

theorem field_present (faithful : Faithful α P) (layout : Json.Layout f) (proper : P x) :
    field default ((present x).map f) = some x :=
  faithful.reads x proper f layout

/-- A field that is left out if it has its default is read back. -/
theorem field_skipIf (faithful : Faithful α P) (layout : Json.Layout f) (proper : P x)
    {empty : α → Bool} (left : empty x = true → x = default) :
    field default ((skipIf empty x).map f) = some x := by
  unfold skipIf
  by_cases out : empty x = true
  · rw [if_pos out, left out]
    rfl
  · rw [if_neg out]
    exact faithful.reads x proper f layout

theorem nullable_unlessNone (faithful : Faithful α P) (layout : Json.Layout f)
    (proper : ∀ x, o = some x → P x) (present : ∀ x, o = some x → (encode x).isNull = false) :
    nullable ((unlessNone o).map f) = some o := by
  cases o with
  | none => rfl
  | some x =>
    have there : (f (encode x)).isNull = false := (layout.isNull _).trans (present x rfl)
    simp only [unlessNone, Option.map_some, nullable, there]
    rw [faithful.reads x (proper x rfl) f layout]
    rfl

theorem proper_field (faithful : Faithful α P) (proper : P default) {value : Option Json}
    (read : field default value = some x) : P x := by
  cases value with
  | none => exact Option.some.inj read ▸ proper
  | some j => exact faithful.proper j x read

/-- A field that is read as a value is there, and it is not null. -/
theorem nullable_eq_some {value : Option Json} (read : nullable value = some (some x)) :
    ∃ j, j.isNull = false ∧ decode? j = some x := by
  cases value with
  | none => cases read
  | some j =>
    simp only [nullable] at read
    split at read
    · cases read
    · rename_i there
      obtain ⟨y, decoded, same⟩ := Option.map_eq_some_iff.1 read
      obtain rfl := Option.some.inj same
      exact ⟨j, by simpa using there, decoded⟩

theorem proper_nullable (faithful : Faithful α P) {value : Option Json}
    (read : nullable value = some o) (own : o = some x) : P x := by
  subst own
  obtain ⟨j, -, decoded⟩ := nullable_eq_some read
  exact faithful.proper j x decoded

variable {m : Dict α} {s : String} {b : Bool}

theorem field_unlessEmpty (faithful : Faithful α P) (layout : Json.Layout f) (each : m.Each P) :
    field ∅ ((unlessEmpty m).map f) = some m :=
  faithful.dict.field_skipIf layout each fun empty => SortedMap.ext (List.isEmpty_iff.1 empty)

theorem each_field (faithful : Faithful α P) {value : Option Json}
    (read : field ∅ value = some m) : m.Each P :=
  faithful.dict.proper_field (SortedMap.each_empty P) read

theorem text (layout : Json.Layout f) (default : String) :
    field default ((present s).map f) = some s :=
  string.field_present layout trivial

theorem textUnlessBlank (layout : Json.Layout f) : field "" ((unlessBlank s).map f) = some s :=
  string.field_skipIf layout trivial String.isEmpty_iff.1

theorem textUnlessNone (layout : Json.Layout f) (o : Option String) :
    nullable ((unlessNone o).map f) = some o :=
  string.nullable_unlessNone layout (fun _ _ => trivial) fun _ _ => rfl

theorem flag (layout : Json.Layout f) : field false ((unlessFalse b).map f) = some b :=
  bool.field_skipIf layout trivial fun unset => by simpa using unset

/-- An embedded value is read back from an optional field, if it is not null. -/
theorem given {o : Option Json} (layout : Json.Layout f) (given : ∀ j, o = some j → j.Given) :
    nullable ((unlessNone o).map f) = some o := by
  refine json.nullable_unlessNone layout (fun j own => (given j own).proper) fun j own => ?_
  have there := (given j own).notNull
  change j.isNull = false
  cases j <;> first | rfl | exact absurd rfl there

theorem given_of_nullable {value : Option Json} {o : Option Json} {j : Json}
    (read : nullable value = some o) (own : o = some j) : j.Given := by
  subst own
  obtain ⟨source, there, decoded⟩ := nullable_eq_some read
  obtain rfl := Option.some.inj decoded
  refine ⟨source.normalize_normalize, fun null => ?_⟩
  rw [← source.isNull_normalize, null] at there
  cases there

end Faithful

end JsonCodec

end TaskGraph
