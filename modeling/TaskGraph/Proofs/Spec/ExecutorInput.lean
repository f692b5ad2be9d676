import TaskGraph.Proofs.Spec.Component
import TaskGraph.Spec.ExecutorInput

/-! The codecs of executor inputs, and with them of all that a launcher is handed. -/

namespace TaskGraph

open JsonCodec Faithful

def RuntimeArtifact.Proper (a : RuntimeArtifact) : Prop := a.metadata.Each Json.Proper

def ArtifactList.Proper (l : ArtifactList) : Prop := ∀ a ∈ l.artifacts, a.Proper

structure ExecutorInputs.Proper (i : ExecutorInputs) : Prop where
  parameters : i.parameters.Each Json.Proper
  artifacts : i.artifacts.Each ArtifactList.Proper

def ExecutorOutputs.Proper (o : ExecutorOutputs) : Prop := o.artifacts.Each ArtifactList.Proper

structure ExecutorInput.Proper (i : ExecutorInput) : Prop where
  inputs : i.inputs.Proper
  outputs : ∀ o, i.outputs = some o → o.Proper

theorem RuntimeArtifact.faithful : Faithful RuntimeArtifact RuntimeArtifact.Proper where
  reads a proper f layout := by
    refine layout.reads_record (by decide) rfl ?_
    simp only [List.map_cons, List.map_nil, textUnlessBlank layout, text layout,
      ArtifactType.faithful.field_present layout trivial, json.field_unlessEmpty layout proper]
    rfl
  proper j a read := by
    obtain ⟨values, -, read⟩ := Option.bind_eq_some_iff.1 read
    split at read
    · simp only [Option.bind_eq_bind, Option.bind_eq_some_iff] at read
      obtain ⟨name, -, type, -, uri, -, metadata, fourth, same⟩ := read
      obtain rfl := Option.some.inj same
      exact json.each_field fourth
    · cases read

theorem ArtifactList.faithful : Faithful ArtifactList ArtifactList.Proper where
  reads l proper f layout := by
    refine layout.reads_record (by decide) rfl ?_
    simp only [List.map_cons, List.map_nil, RuntimeArtifact.faithful.list.field_present layout proper]
    rfl
  proper j l read := by
    obtain ⟨values, -, read⟩ := Option.bind_eq_some_iff.1 read
    split at read
    · obtain ⟨artifacts, first, same⟩ := Option.bind_eq_some_iff.1 read
      obtain rfl := Option.some.inj same
      exact RuntimeArtifact.faithful.list.proper_field (List.forall_mem_nil _) first
    · cases read

theorem ExecutorInputs.faithful : Faithful ExecutorInputs ExecutorInputs.Proper where
  reads i proper f layout := by
    refine layout.reads_record (by decide) rfl ?_
    simp only [List.map_cons, List.map_nil, json.dict.field_present layout proper.parameters,
      ArtifactList.faithful.field_unlessEmpty layout proper.artifacts]
    rfl
  proper j i read := by
    obtain ⟨values, -, read⟩ := Option.bind_eq_some_iff.1 read
    split at read
    · obtain ⟨parameters, first, read⟩ := Option.bind_eq_some_iff.1 read
      obtain ⟨artifacts, second, same⟩ := Option.bind_eq_some_iff.1 read
      obtain rfl := Option.some.inj same
      constructor
      · exact json.each_field first
      · exact ArtifactList.faithful.each_field second
    · cases read

theorem OutputParameter.faithful : Faithful OutputParameter fun _ => True where
  reads p _ f layout := by
    refine layout.reads_record (by decide) rfl ?_
    simp only [List.map_cons, List.map_nil, text layout]
    rfl
  proper _ _ _ := trivial

theorem ExecutorOutputs.faithful : Faithful ExecutorOutputs ExecutorOutputs.Proper where
  reads o proper f layout := by
    have parameters : o.parameters.Each fun _ => True := fun _ _ _ => trivial
    refine layout.reads_record (by decide) rfl ?_
    simp only [List.map_cons, List.map_nil, text layout,
      OutputParameter.faithful.field_unlessEmpty layout parameters,
      ArtifactList.faithful.field_unlessEmpty layout proper]
    rfl
  proper j o read := by
    obtain ⟨values, -, read⟩ := Option.bind_eq_some_iff.1 read
    split at read
    · obtain ⟨parameters, -, read⟩ := Option.bind_eq_some_iff.1 read
      obtain ⟨artifacts, second, read⟩ := Option.bind_eq_some_iff.1 read
      obtain ⟨outputFile, -, same⟩ := Option.bind_eq_some_iff.1 read
      obtain rfl := Option.some.inj same
      exact ArtifactList.faithful.each_field second
    · cases read

theorem ExecutorInput.faithful : Faithful ExecutorInput ExecutorInput.Proper where
  reads i proper f layout := by
    refine layout.reads_record (by decide) rfl ?_
    simp only [List.map_cons, List.map_nil,
      ExecutorInputs.faithful.field_present layout proper.inputs,
      ExecutorOutputs.faithful.nullable_unlessNone layout proper.outputs fun _ _ => rfl]
    rfl
  proper j i read := by
    obtain ⟨values, -, read⟩ := Option.bind_eq_some_iff.1 read
    split at read
    · obtain ⟨inputs, first, read⟩ := Option.bind_eq_some_iff.1 read
      obtain ⟨outputs, second, same⟩ := Option.bind_eq_some_iff.1 read
      obtain rfl := Option.some.inj same
      have none : ({} : ExecutorInputs).Proper := ⟨SortedMap.each_empty _, SortedMap.each_empty _⟩
      constructor
      · exact ExecutorInputs.faithful.proper_field none first
      · exact fun o own => ExecutorOutputs.faithful.proper_nullable second own
    · cases read

/-- A value is read back from what it is written as, field by field as it stands or with sorted
fields. -/
def JsonCodec.Survives {α : Type} [JsonCodec α] (x : α) : Prop :=
  decode? (encode x) = some x ∧ decode? (encode x).normalize = some x

theorem JsonCodec.Faithful.survives {α : Type} {codec : JsonCodec α} {P : α → Prop} {x : α}
    (faithful : Faithful α P) (proper : P x) : Survives x :=
  ⟨faithful.decode?_encode Json.Layout.written proper,
    faithful.decode?_encode Json.Layout.sorted proper⟩

/-- Tasks, components and executor inputs survive their JSON form. The values embedded in them have to
be values proper, and where one is optional it must not be null, which is read as its absence. What
is read from JSON, whatever it is, always is of this kind. -/
theorem specs_survive :
    ((∀ t : TaskSpec, t.Proper → Survives t) ∧
      ∀ j (t : TaskSpec), decode? j = some t → t.Proper ∧ Survives t) ∧
    ((∀ c : ComponentSpec, c.Proper → Survives c) ∧
      ∀ j (c : ComponentSpec), decode? j = some c → c.Proper ∧ Survives c) ∧
    (∀ i : ExecutorInput, i.Proper → Survives i) ∧
      ∀ j (i : ExecutorInput), decode? j = some i → i.Proper ∧ Survives i := by
  refine ⟨⟨?_, ?_⟩, ⟨?_, ?_⟩, ?_, ?_⟩
  · exact fun t proper => TaskSpec.faithful.survives proper
  · intro j t read
    have proper := TaskSpec.faithful.proper j t read
    exact ⟨proper, TaskSpec.faithful.survives proper⟩
  · exact fun c proper => ComponentSpec.faithful.survives proper
  · intro j c read
    have proper := ComponentSpec.faithful.proper j c read
    exact ⟨proper, ComponentSpec.faithful.survives proper⟩
  · exact fun i proper => ExecutorInput.faithful.survives proper
  · intro j i read
    have proper := ExecutorInput.faithful.proper j i read
    exact ⟨proper, ExecutorInput.faithful.survives proper⟩

/-- A component with a graph in it. -/
def ComponentSpec.nested : ComponentSpec where
  inputs := {
    parameters := .ofList [("rate", { type := .struct, defaultValue := some (.obj [("a", .null)]) })] }
  dag := some {
    tasks := .ofList [("train", {
      name := "train"
      inputs := {
        parameters := .ofList [("epochs", ⟨some (.runtimeValue (some (.int 3))), "epochs"⟩)] } })]
    outputs := { parameters := .ofList [("loss", .oneOf [⟨"train", "loss"⟩])] } }

theorem specs_survive_nested : ComponentSpec.nested.Proper ∧ Survives ComponentSpec.nested := by
  have read : decode? (encode ComponentSpec.nested) = some ComponentSpec.nested := by decide +kernel
  have proper := ComponentSpec.faithful.proper _ _ read
  exact ⟨proper, specs_survive.2.1.1 _ proper⟩

/-- A default that is null is gone. -/
example : decode? (encode ({ defaultValue := some .null } : InputParameterDefinition)) =
    some ({} : InputParameterDefinition) := by
  decide +kernel

end TaskGraph
