import TaskGraph.Proofs.Json.Layout
import TaskGraph.Proofs.Json.Reading

/-! Canonical texts. With all fields sorted, a value has one text, and no other value has it. The
text of a list, an object or a string shows where it ends, and a value without floats is read back
from its text. -/

namespace TaskGraph.Json

/-- Equality of values. Numbers are equal if they are of one kind and written alike, lists if they
are item by item, and objects if they have equal values under the same keys; of the fields under one
key the last counts. -/
inductive Equal : Json → Json → Prop
  | null : Equal .null .null
  | bool (b : Bool) : Equal (.bool b) (.bool b)
  | num {m n : JsonNumber} : m.Alike n → Equal (.num m) (.num n)
  | str (s : String) : Equal (.str s) (.str s)
  | arr {as bs : List Json} : List.Forall₂ Equal as bs → Equal (.arr as) (.arr bs)
  | obj {as bs : List (String × Json)} :
      (∀ key, Option.Rel Equal (as.reverse.lookup key) (bs.reverse.lookup key)) →
      Equal (.obj as) (.obj bs)

variable {a b : Json} {as bs : List Json} {fields fields' : List (String × Json)} {levels : Nat}
  {rest rest' : List Char}

theorem equal_arr_iff : Equal (.arr as) (.arr bs) ↔ List.Forall₂ Equal as bs :=
  ⟨fun | .arr same => same, .arr⟩

theorem equal_obj_iff : Equal (.obj fields) (.obj fields') ↔
    ∀ key, Option.Rel Equal (fields.reverse.lookup key) (fields'.reverse.lookup key) :=
  ⟨fun | .obj same => same, .obj⟩

theorem forall₂_congr_of_mem {r s : Json → Json → Prop} (each : ∀ a ∈ as, ∀ b, r a b ↔ s a b) :
    List.Forall₂ r as bs ↔ List.Forall₂ s as bs := by
  induction as generalizing bs with
  | nil => simp
  | cons a as ih =>
    obtain ⟨first, others⟩ := List.forall_mem_cons.1 each
    cases bs with
    | nil => simp
    | cons b bs => rw [List.forall₂_cons, List.forall₂_cons, first, ih others]

/-- Values are equal if they are the same with all fields sorted. -/
theorem equal_iff_same : Equal a b ↔ Same a b := by
  induction a using induct generalizing b with
  | null =>
    cases b with
    | null => exact iff_of_true .null trivial
    | _ => exact iff_of_false nofun id
  | bool x =>
    cases b with
    | bool y => exact ⟨fun | .bool _ => rfl, fun | rfl => .bool x⟩
    | _ => exact iff_of_false nofun id
  | num n =>
    cases b with
    | num m => exact ⟨fun | .num alike => alike, .num⟩
    | _ => exact iff_of_false nofun id
  | str s =>
    cases b with
    | str t => exact ⟨fun | .str _ => rfl, fun | rfl => .str s⟩
    | _ => exact iff_of_false nofun id
  | arr items ih =>
    cases b with
    | arr items' =>
      rw [equal_arr_iff, same_arr_iff]
      exact forall₂_congr_of_mem fun j member _ => ih j member
    | _ => exact iff_of_false nofun id
  | obj fields ih =>
    cases b with
    | obj fields' =>
      rw [equal_obj_iff, same_obj_iff]
      refine forall_congr' fun key => ?_
      cases left : fields.reverse.lookup key with
      | none => cases fields'.reverse.lookup key <;> simp
      | some j =>
        have member : (key, j) ∈ fields := List.mem_reverse.1 (SortedMap.mem_of_lookup left)
        cases fields'.reverse.lookup key <;> simp [ih (key, j) member]
    | _ => exact iff_of_false nofun id

/-- A value and what it is with all fields sorted are equal. -/
theorem equal_normalize (j : Json) : Equal j.normalize j := by
  rw [equal_iff_same, Same, normalize_normalize]
  exact text_eq_iff.1 rfl

/-- The text of a list, an object or a string shows where it ends. -/
theorem rest_eq_of_delimited (delimited : b.kind ∈ [.list, .struct, .string])
    (h : a.chars ++ rest = b.chars ++ rest') : rest = rest' := by
  have sameKind := kind_eq_of_append h
  cases b with
  | arr items' =>
    cases a with
    | arr items =>
      rw [chars_arr_append, chars_arr_append] at h
      exact (joined_append_inj (by decide) (lead_ne (by decide))
        (fun _ _ _ _ _ => chars_append_inj) (List.cons.inj h).2).2
    | _ => cases sameKind
  | obj fields' =>
    cases a with
    | obj fields =>
      rw [chars_obj_append, chars_obj_append] at h
      exact (joined_append_inj (by decide) (fun field => ⟨'"', _, rfl, by decide⟩)
        (fun _ _ _ _ _ => fieldChars_append_inj fun ends ends' h _ => chars_append_inj ends ends' h)
        (List.cons.inj h).2).2
    | _ => cases sameKind
  | str t =>
    cases a with
    | str s => exact (stringChars_append_inj h).2
    | _ => cases sameKind
  | _ => exact absurd delimited (by simp [kind])

/-- Sorting the fields of a value leaves it without floats and as deep as it was. -/
theorem Plain.normalize {j : Json} (plain : Plain levels j) : Plain levels j.normalize := by
  induction plain with
  | null => exact .null _
  | bool _ b => exact .bool _ b
  | int _ integer => exact .int _ integer
  | str _ s => exact .str _ s
  | arr _ ih =>
    rw [Json.normalize, normalizeItems_eq]
    exact .arr (List.forall_mem_map.2 ih)
  | @obj levels fields _ ih =>
    refine .obj ?_
    rintro ⟨key, j⟩ member
    have found := (SortedMap.get?_eq_some_iff (m := normalizeFields ∅ fields)).2 member
    rw [get?_normalizeFields, SortedMap.get?_empty, Option.or_none] at found
    obtain ⟨value, stored, rfl⟩ := Option.map_eq_some_iff.1 found
    exact ih (key, value) (List.mem_reverse.1 (SortedMap.mem_of_lookup stored))

theorem delimited_of_lead {c : Char} (opens : c ∈ ['[', '{', '"']) (lead : b.chars.head? = some c) :
    b.kind ∈ [.list, .struct, .string] := by
  obtain ⟨d, tail, form, kind⟩ := b.chars_lead
  rw [form, List.head?_cons, Option.some.injEq] at lead
  rw [lead] at kind
  simp only [List.mem_cons, List.not_mem_nil, or_false] at opens
  rcases opens with rfl | rfl | rfl
  · simp [← Option.some.inj kind]
  · simp [← Option.some.inj kind]
  · simp [← Option.some.inj kind]

/-- No text is a proper start of the text of a list, an object or a string. -/
theorem text_eq_of_start {c : Char} (opens : c ∈ ['[', '{', '"'])
    (lead : b.text.toList.head? = some c) (start : a.text.toList <+: b.text.toList) :
    a.text = b.text := by
  obtain ⟨rest, h⟩ := start
  rw [text, text, String.toList_ofList, String.toList_ofList] at h
  rw [text, String.toList_ofList] at lead
  have same : a.chars ++ rest = b.chars ++ [] := by rw [h, List.append_nil]
  obtain rfl := rest_eq_of_delimited (delimited_of_lead opens lead) same
  exact congrArg String.ofList (List.append_cancel_right same)

/-- Canonical texts are those of values with sorted fields. They are equal for equal values only,
one that starts with a bracket, a brace or a quote does not go on after another, and one without
floats is read as the value it was made of. Of a value that is no container it is the plain text. -/
theorem canonical_text_faithful :
    (∀ a b : Json, a.normalize.text = b.normalize.text ↔ Equal a b) ∧
    (∀ a b : Json, ∀ c ∈ ['[', '{', '"'], b.normalize.text.toList.head? = some c →
      a.normalize.text.toList <+: b.normalize.text.toList →
      a.normalize.text = b.normalize.text) ∧
    (∀ j : Json, Plain 127 j → parse? j.normalize.text = some j.normalize ∧
      Equal j.normalize j) ∧
    (∀ j : Json, j.kind ∉ [.list, .struct] → j.normalize.text = j.text) := by
  refine ⟨fun a b => ?_, fun a b c => text_eq_of_start, fun j plain => ⟨?_, equal_normalize j⟩,
    fun j single => ?_⟩
  · rw [text_eq_iff, equal_iff_same]
    rfl
  · rw [parse?, document?_text plain.normalize, Option.map_some, normalize_normalize]
  · cases j with
    | arr items => exact absurd (List.mem_cons_self ..) single
    | obj fields => exact absurd (List.mem_cons_of_mem _ (List.mem_singleton_self _)) single
    | _ => rfl

example : (obj [("b", int 1), ("a", obj [("d", arr [.bool true, .null]), ("c", .str "x")])]
    ).normalize.text =
      "\x7b\"a\":\x7b\"c\":\"x\",\"d\":[true,null]\x7d,\"b\":1\x7d" := by decide +kernel

end TaskGraph.Json
