import TaskGraph.Proofs.Json.Codec
import TaskGraph.Spec.Task

/-! The codecs of tasks. A task is read back from what it is written as. The source of an input has no
field of its own, so it is found among the fields of the input by its kind. -/

namespace TaskGraph

open JsonCodec Faithful

theorem ParameterType.faithful : Faithful ParameterType fun _ => True where
  reads t _ f layout := by
    change decode? (f (.str t.name)) = some t
    rw [layout.str]
    cases t <;> rfl
  proper _ _ _ := trivial

theorem ArtifactType.faithful : Faithful ArtifactType fun _ => True where
  reads t _ f layout := by
    refine layout.reads_record (by decide) rfl ?_
    simp only [List.map_cons, List.map_nil, textUnlessNone layout]
    rfl
  proper _ _ _ := trivial

/-- A record with a single field is as faithful as the field. -/
theorem JsonCodec.Faithful.wrapped {α : Type} [JsonCodec α] {P : α → Prop} {default : α}
    (faithful : Faithful α P) (proper : P default) (name : String) :
    @Faithful α (.wrapped name default) P :=
  @Faithful.mk α (.wrapped name default) P
    (fun x own f layout => by
      refine layout.reads_record (List.nodup_singleton name) rfl ?_
      simp only [List.map_cons, List.map_nil]
      exact faithful.field_present layout own)
    (fun j x read => by
      obtain ⟨values, -, read⟩ := Option.bind_eq_some_iff.1 read
      split at read
      · exact faithful.proper_field proper read
      · cases read)

theorem TaskOutput.faithful {keyField : String} (apart : "producerTask" ≠ keyField) :
    @Faithful TaskOutput (TaskOutput.codec keyField) fun _ => True :=
  @Faithful.mk TaskOutput (TaskOutput.codec keyField) _
    (fun o _ f layout => by
      refine layout.reads_record (by simpa using apart) rfl ?_
      simp only [List.map_cons, List.map_nil, text layout]
      rfl)
    fun _ _ _ => trivial

/-- A field that is known by its kind is found in any layout of the fields it stands among. -/
theorem Json.Layout.obj_flattened {f : Json → Json} (layout : Json.Layout f)
    {isKind : String → Bool} {source : Option (String × Json)} {others : List (String × Json)}
    (kind : ∀ e, source = some e → isKind e.1 = true) (rest : ∀ e ∈ others, isKind e.1 = false)
    (distinct : (others.map Prod.fst).Nodup) :
    ∃ placed, f (.obj (source.toList ++ others)) = .obj placed ∧ (placed.map Prod.fst).Nodup ∧
      placed.find? (fun e => isKind e.1) = source.map (fun e => (e.1, f e.2)) ∧
      ∀ name, isKind name = false → placed.lookup name = (others.lookup name).map f := by
  have keys : ((source.toList ++ others).map Prod.fst).Nodup := by
    cases source with
    | none => exact distinct
    | some e =>
      refine List.nodup_cons.2 ⟨fun member => ?_, distinct⟩
      obtain ⟨other, among, same⟩ := List.mem_map.1 member
      have own := kind e rfl
      rw [← same, rest other among] at own
      cases own
  obtain ⟨placed, laid, perm⟩ := layout.obj _ keys
  have placed_keys := Json.Layout.obj_keys keys perm
  refine ⟨placed, laid, placed_keys, ?_, fun name plain => ?_⟩
  · cases source with
    | none =>
      refine List.find?_eq_none.2 fun e member => ?_
      obtain ⟨other, among, rfl⟩ := List.mem_map.1 (perm.mem_iff.1 member)
      rw [rest other among]
      exact Bool.false_ne_true
    | some own =>
      have own_kind := kind own rfl
      cases found : placed.find? fun e => isKind e.1 with
      | none =>
        have absent := List.find?_eq_none.1 found _ (perm.mem_iff.2 List.mem_cons_self)
        exact absurd own_kind absent
      | some e =>
        have e_kind : isKind e.1 = true := by simpa using List.find?_some found
        have member := perm.mem_iff.1 (List.mem_of_find?_eq_some found)
        rcases List.mem_cons.1 member with rfl | later
        · rfl
        · obtain ⟨other, among, rfl⟩ := List.mem_map.1 later
          rw [rest other among] at e_kind
          cases e_kind
  · have same := SortedMap.lookup_of_perm perm.symm placed_keys name
    rw [← same, SortedMap.lookup_map]
    cases source with
    | none => rfl
    | some own =>
      have apart : name ≠ own.1 := by
        rintro rfl
        rw [kind own rfl] at plain
        cases plain
      exact congrArg (Option.map f) ((SortedMap.lookup_cons_ite ..).trans (if_neg apart))

namespace ParameterSource

theorem isKey_encode (s : ParameterSource) : isKey s.encode.1 = true := by
  cases s <;> rfl

theorem decode?_encode {s : ParameterSource} {f : Json → Json} (layout : Json.Layout f)
    (given : ∀ j, s = .runtimeValue (some j) → j.Given) :
    decode? (s.encode.1, f s.encode.2) = some s := by
  cases s with
  | componentInput name => simp only [encode, layout.str, decode?]
  | taskOutput output =>
    have read : outputCodec.decode? (f (outputCodec.encode output)) = some output :=
      (TaskOutput.faithful (by decide)).decode?_encode layout trivial
    simp only [encode, decode?, read, Option.map_some]
  | runtimeValue constant =>
    have value := Faithful.given layout fun j own => given j (congrArg runtimeValue own)
    refine layout.reads_record (by decide) rfl ?_
    simp only [List.map_cons, List.map_nil, value]
    rfl
  | taskFinalStatus task =>
    have read : statusCodec.decode? (f (statusCodec.encode task)) = some task :=
      (string.wrapped trivial _).decode?_encode layout trivial
    simp only [encode, decode?, read, Option.map_some]

theorem given_of_decode? {e : String × Json} {j : Json}
    (read : decode? e = some (.runtimeValue (some j))) : j.Given := by
  unfold decode? at read
  split at read
  · cases read
  · simp at read
  · obtain ⟨values, -, read⟩ := Option.bind_eq_some_iff.1 read
    split at read
    · obtain ⟨constant, read, same⟩ := Option.bind_eq_some_iff.1 read
      exact given_of_nullable read (runtimeValue.inj (Option.some.inj same))
    · cases read
  · simp at read
  · cases read

end ParameterSource

/-- A constant source is a value proper, and if it is there it is not null. -/
def InputParameterSpec.Proper (p : InputParameterSpec) : Prop :=
  ∀ j, p.source = some (.runtimeValue (some j)) → j.Given

def TaskInputs.Proper (i : TaskInputs) : Prop := i.parameters.Each InputParameterSpec.Proper

def TaskSpec.Proper (t : TaskSpec) : Prop := t.inputs.Proper

theorem InputParameterSpec.faithful : Faithful InputParameterSpec InputParameterSpec.Proper where
  reads p proper f layout := by
    let others : List (String × Json) :=
      if p.selector.isEmpty then [] else [("parameterExpressionSelector", .str p.selector)]
    let source := p.source.map ParameterSource.encode
    have kind : ∀ e, source = some e → ParameterSource.isKey e.1 = true := by
      intro e own
      obtain ⟨s, -, rfl⟩ := Option.map_eq_some_iff.1 own
      exact s.isKey_encode
    have rest : ∀ e ∈ others, ParameterSource.isKey e.1 = false := by
      intro e member
      simp only [others, List.mem_ite_nil_left, List.mem_singleton] at member
      rw [member.2]
      rfl
    have distinct : (others.map Prod.fst).Nodup := by
      simp only [others]
      split <;> simp
    obtain ⟨placed, laid, keys, found, looked⟩ := layout.obj_flattened kind rest distinct
    have selector : field "" (placed.lookup "parameterExpressionSelector") = some p.selector := by
      rw [looked _ rfl]
      by_cases blank : p.selector = ""
      · simp [others, blank, field]
      · have written : field "" (some (f (.str p.selector))) = some p.selector :=
          string.field_present layout trivial
        simpa [others, blank] using written
    have decoded : (placed.find? fun e => ParameterSource.isKey e.1).bind ParameterSource.decode? =
        p.source := by
      rw [found]
      cases own : p.source with
      | none => simp [source, own]
      | some s =>
        have read := s.decode?_encode layout fun j same => proper j (own.trans (congrArg some same))
        simpa [source, own] using read
    change decode? (f (.obj (source.toList ++ others))) = some p
    rw [laid]
    change ((Json.obj placed).record? _ >>= _) = some p
    rw [Json.record?_obj keys]
    simp only [List.map_cons, List.map_nil, Option.bind_eq_bind, Option.bind_some, selector, decoded]
    rfl
  proper j p read := by
    intro constant own
    cases j with
    | obj fields =>
      obtain ⟨values, -, read⟩ := Option.bind_eq_some_iff.1 read
      split at read
      · obtain ⟨selector, -, same⟩ := Option.bind_eq_some_iff.1 read
        obtain rfl := Option.some.inj same
        obtain ⟨e, -, decoded⟩ := Option.bind_eq_some_iff.1 own
        exact ParameterSource.given_of_decode? decoded
      · cases read
    | _ => cases read

namespace ArtifactSource

theorem isKey_encode (s : ArtifactSource) : isKey s.encode.1 = true := by
  cases s <;> rfl

theorem decode?_encode (s : ArtifactSource) {f : Json → Json} (layout : Json.Layout f) :
    decode? (s.encode.1, f s.encode.2) = some s := by
  cases s with
  | componentInput name => simp only [encode, layout.str, decode?]
  | taskOutput output =>
    have read : outputCodec.decode? (f (outputCodec.encode output)) = some output :=
      (TaskOutput.faithful (by decide)).decode?_encode layout trivial
    simp only [encode, decode?, read, Option.map_some]

end ArtifactSource

theorem InputArtifactSpec.faithful : Faithful InputArtifactSpec fun _ => True where
  reads a _ f layout := by
    let source := a.source.map ArtifactSource.encode
    have kind : ∀ e, source = some e → ArtifactSource.isKey e.1 = true := by
      intro e own
      obtain ⟨s, -, rfl⟩ := Option.map_eq_some_iff.1 own
      exact s.isKey_encode
    obtain ⟨placed, laid, -, found, -⟩ :=
      layout.obj_flattened kind (List.forall_mem_nil _) List.nodup_nil
    rw [List.append_nil] at laid
    have decoded : (placed.find? fun e => ArtifactSource.isKey e.1).bind ArtifactSource.decode? =
        a.source := by
      rw [found]
      cases own : a.source with
      | none => simp [source, own]
      | some s => simpa [source, own] using s.decode?_encode layout
    change decode? (f (.obj source.toList)) = some a
    rw [laid]
    exact congrArg (fun source => some (InputArtifactSpec.mk source)) decoded
  proper _ _ _ := trivial

theorem TaskInputs.faithful : Faithful TaskInputs TaskInputs.Proper where
  reads i proper f layout := by
    have artifacts : i.artifacts.Each fun _ => True := fun _ _ _ => trivial
    refine layout.reads_record (by decide) rfl ?_
    simp only [List.map_cons, List.map_nil, InputParameterSpec.faithful.field_unlessEmpty layout proper,
      InputArtifactSpec.faithful.field_unlessEmpty layout artifacts]
    rfl
  proper j i read := by
    obtain ⟨values, -, read⟩ := Option.bind_eq_some_iff.1 read
    split at read
    · obtain ⟨parameters, first, read⟩ := Option.bind_eq_some_iff.1 read
      obtain ⟨artifacts, -, same⟩ := Option.bind_eq_some_iff.1 read
      obtain rfl := Option.some.inj same
      exact InputParameterSpec.faithful.each_field first
    · cases read

theorem ParameterItems.faithful : Faithful ParameterItems fun _ => True where
  reads i _ f layout := by
    refine layout.reads_record (by decide) rfl ?_
    simp only [List.map_cons, List.map_nil, textUnlessNone layout]
    rfl
  proper _ _ _ := trivial

theorem ParameterIterator.faithful : Faithful ParameterIterator fun _ => True where
  reads i _ f layout := by
    refine layout.reads_record (by decide) rfl ?_
    simp only [List.map_cons, List.map_nil, ParameterItems.faithful.field_present layout trivial,
      text layout]
    rfl
  proper _ _ _ := trivial

theorem ArtifactIterator.faithful : Faithful ArtifactIterator fun _ => True where
  reads i _ f layout := by
    have items : @field _ itemsCodec "" ((some (itemsCodec.encode i.itemsArtifact)).map f) =
        some i.itemsArtifact := (string.wrapped trivial _).field_present layout trivial
    refine layout.reads_record (by decide) rfl ?_
    simp only [List.map_cons, List.map_nil, items, text layout]
    rfl
  proper _ _ _ := trivial

theorem TaskSpec.faithful : Faithful TaskSpec TaskSpec.Proper where
  reads t proper f layout := by
    have name (s : String) : @field _ nameCodec "" ((some (nameCodec.encode s)).map f) = some s :=
      (string.wrapped trivial _).field_present layout trivial
    have condition : @field _ conditionCodec "" ((some (conditionCodec.encode t.condition)).map f) =
        some t.condition := (string.wrapped trivial _).field_present layout trivial
    have cache : @field _ cacheCodec false ((some (cacheCodec.encode t.enableCache)).map f) =
        some t.enableCache := (bool.wrapped trivial _).field_present layout trivial
    have dependent : field [] ((unlessNil t.dependentTasks).map f) = some t.dependentTasks :=
      string.list.field_skipIf layout (fun _ _ => trivial) List.isEmpty_iff.1
    refine layout.reads_record (by decide) rfl ?_
    simp only [List.map_cons, List.map_nil, name, condition, cache, dependent,
      TaskInputs.faithful.field_present layout proper,
      ParameterIterator.faithful.nullable_unlessNone layout (fun _ _ => trivial) fun _ _ => rfl,
      ArtifactIterator.faithful.nullable_unlessNone layout (fun _ _ => trivial) fun _ _ => rfl]
    rfl
  proper j t read := by
    obtain ⟨values, -, read⟩ := Option.bind_eq_some_iff.1 read
    split at read
    · obtain ⟨name, -, read⟩ := Option.bind_eq_some_iff.1 read
      obtain ⟨inputs, second, read⟩ := Option.bind_eq_some_iff.1 read
      simp only [Option.bind_eq_bind, Option.bind_eq_some_iff] at read
      obtain ⟨_, -, _, -, _, -, _, -, _, -, _, -, same⟩ := read
      obtain rfl := Option.some.inj same
      have none : ({} : TaskInputs).Proper := SortedMap.each_empty _
      exact TaskInputs.faithful.proper_field none second
    · cases read

end TaskGraph
