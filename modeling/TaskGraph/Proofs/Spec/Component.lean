import TaskGraph.Proofs.Spec.Task
import TaskGraph.Spec.Component

/-! The codecs of components, with the graphs in them. -/

namespace TaskGraph

open JsonCodec Faithful

/-- A default is a value proper, and if it is there it is not null. -/
def InputParameterDefinition.Proper (d : InputParameterDefinition) : Prop :=
  ∀ j, d.defaultValue = some j → j.Given

def ComponentInputs.Proper (i : ComponentInputs) : Prop :=
  i.parameters.Each InputParameterDefinition.Proper

def OutputArtifactDefinition.Proper (d : OutputArtifactDefinition) : Prop :=
  ∀ m, d.metadata = some m → m.Each Json.Proper

def ComponentOutputs.Proper (o : ComponentOutputs) : Prop :=
  o.artifacts.Each OutputArtifactDefinition.Proper

def DagSpec.Proper (d : DagSpec) : Prop := d.tasks.Each TaskSpec.Proper

structure ComponentSpec.Proper (c : ComponentSpec) : Prop where
  inputs : c.inputs.Proper
  outputs : c.outputs.Proper
  dag : ∀ d, c.dag = some d → d.Proper

theorem InputParameterDefinition.faithful :
    Faithful InputParameterDefinition InputParameterDefinition.Proper where
  reads d proper f layout := by
    refine layout.reads_record (by decide) rfl ?_
    simp only [List.map_cons, List.map_nil, ParameterType.faithful.field_present layout trivial,
      given layout proper, flag layout, textUnlessNone layout]
    rfl
  proper j d read := by
    intro value own
    obtain ⟨values, -, read⟩ := Option.bind_eq_some_iff.1 read
    split at read
    · obtain ⟨type, -, read⟩ := Option.bind_eq_some_iff.1 read
      obtain ⟨defaultValue, second, read⟩ := Option.bind_eq_some_iff.1 read
      simp only [Option.bind_eq_bind, Option.bind_eq_some_iff] at read
      obtain ⟨_, -, _, -, same⟩ := read
      obtain rfl := Option.some.inj same
      exact given_of_nullable second own
    · cases read

theorem InputArtifactDefinition.faithful : Faithful InputArtifactDefinition fun _ => True where
  reads d _ f layout := by
    refine layout.reads_record (by decide) rfl ?_
    simp only [List.map_cons, List.map_nil, ArtifactType.faithful.field_present layout trivial,
      flag layout]
    rfl
  proper _ _ _ := trivial

theorem ComponentInputs.faithful : Faithful ComponentInputs ComponentInputs.Proper where
  reads i proper f layout := by
    have artifacts : i.artifacts.Each fun _ => True := fun _ _ _ => trivial
    refine layout.reads_record (by decide) rfl ?_
    simp only [List.map_cons, List.map_nil,
      InputParameterDefinition.faithful.field_unlessEmpty layout proper,
      InputArtifactDefinition.faithful.field_unlessEmpty layout artifacts]
    rfl
  proper j i read := by
    obtain ⟨values, -, read⟩ := Option.bind_eq_some_iff.1 read
    split at read
    · obtain ⟨parameters, first, read⟩ := Option.bind_eq_some_iff.1 read
      obtain ⟨artifacts, -, same⟩ := Option.bind_eq_some_iff.1 read
      obtain rfl := Option.some.inj same
      exact InputParameterDefinition.faithful.each_field first
    · cases read

theorem OutputParameterDefinition.faithful : Faithful OutputParameterDefinition fun _ => True where
  reads d _ f layout := by
    refine layout.reads_record (by decide) rfl ?_
    simp only [List.map_cons, List.map_nil, ParameterType.faithful.field_present layout trivial]
    rfl
  proper _ _ _ := trivial

theorem OutputArtifactDefinition.faithful :
    Faithful OutputArtifactDefinition OutputArtifactDefinition.Proper where
  reads d proper f layout := by
    refine layout.reads_record (by decide) rfl ?_
    simp only [List.map_cons, List.map_nil, ArtifactType.faithful.field_present layout trivial,
      json.dict.nullable_unlessNone layout proper fun _ _ => rfl]
    rfl
  proper j d read := by
    intro m own
    obtain ⟨values, -, read⟩ := Option.bind_eq_some_iff.1 read
    split at read
    · obtain ⟨type, -, read⟩ := Option.bind_eq_some_iff.1 read
      obtain ⟨metadata, second, same⟩ := Option.bind_eq_some_iff.1 read
      obtain rfl := Option.some.inj same
      exact json.dict.proper_nullable second own
    · cases read

theorem ComponentOutputs.faithful : Faithful ComponentOutputs ComponentOutputs.Proper where
  reads o proper f layout := by
    have parameters : o.parameters.Each fun _ => True := fun _ _ _ => trivial
    refine layout.reads_record (by decide) rfl ?_
    simp only [List.map_cons, List.map_nil,
      OutputParameterDefinition.faithful.field_unlessEmpty layout parameters,
      OutputArtifactDefinition.faithful.field_unlessEmpty layout proper]
    rfl
  proper j o read := by
    obtain ⟨values, -, read⟩ := Option.bind_eq_some_iff.1 read
    split at read
    · obtain ⟨parameters, -, read⟩ := Option.bind_eq_some_iff.1 read
      obtain ⟨artifacts, second, same⟩ := Option.bind_eq_some_iff.1 read
      obtain rfl := Option.some.inj same
      exact OutputArtifactDefinition.faithful.each_field second
    · cases read

theorem OutputSelector.faithful {keyField : String} (apart : "producerSubtask" ≠ keyField) :
    @Faithful OutputSelector (OutputSelector.codec keyField) fun _ => True :=
  @Faithful.mk OutputSelector (OutputSelector.codec keyField) _
    (fun s _ f layout => by
      refine layout.reads_record (by simpa using apart) rfl ?_
      simp only [List.map_cons, List.map_nil, text layout]
      rfl)
    fun _ _ _ => trivial

theorem ParameterProducer.faithful : Faithful ParameterProducer fun _ => True where
  reads p _ f layout := by
    let codec := selectorCodec
    have faithful : Faithful OutputSelector fun _ => True := OutputSelector.faithful (by decide)
    cases p with
    | direct selector =>
      change decode? (f (.obj [("valueFromParameter", encode selector)])) = _
      rw [layout.obj_single]
      exact congrArg (Option.map direct) (faithful.decode?_encode layout trivial)
    | oneOf selectors =>
      have read : field [] ((present selectors).map f) = some selectors :=
        faithful.list.field_present layout fun _ _ => trivial
      change decode? (f (.obj [("valueFromOneof", .ofRecord listFields [present selectors])])) = _
      rw [layout.obj_single]
      refine layout.reads_record (by decide) rfl ?_
      simp only [List.map_cons, List.map_nil, read]
      rfl
  proper _ _ _ := trivial

theorem ArtifactProducer.faithful : Faithful ArtifactProducer fun _ => True where
  reads p _ f layout := by
    let codec := OutputSelector.codec "outputArtifactKey"
    have faithful : Faithful OutputSelector fun _ => True := OutputSelector.faithful (by decide)
    refine layout.reads_record (by decide) rfl ?_
    simp only [List.map_cons, List.map_nil, faithful.list.field_present layout fun _ _ => trivial]
    rfl
  proper _ _ _ := trivial

theorem DagOutputs.faithful : Faithful DagOutputs fun _ => True where
  reads o _ f layout := by
    have parameters : o.parameters.Each fun _ => True := fun _ _ _ => trivial
    have artifacts : o.artifacts.Each fun _ => True := fun _ _ _ => trivial
    refine layout.reads_record (by decide) rfl ?_
    simp only [List.map_cons, List.map_nil,
      ParameterProducer.faithful.field_unlessEmpty layout parameters,
      ArtifactProducer.faithful.field_unlessEmpty layout artifacts]
    rfl
  proper _ _ _ := trivial

theorem DagSpec.faithful : Faithful DagSpec DagSpec.Proper where
  reads d proper f layout := by
    refine layout.reads_record (by decide) rfl ?_
    simp only [List.map_cons, List.map_nil, TaskSpec.faithful.field_unlessEmpty layout proper,
      DagOutputs.faithful.field_present layout trivial]
    rfl
  proper j d read := by
    obtain ⟨values, -, read⟩ := Option.bind_eq_some_iff.1 read
    split at read
    · obtain ⟨tasks, first, read⟩ := Option.bind_eq_some_iff.1 read
      obtain ⟨outputs, -, same⟩ := Option.bind_eq_some_iff.1 read
      obtain rfl := Option.some.inj same
      exact TaskSpec.faithful.each_field first
    · cases read

theorem ComponentSpec.faithful : Faithful ComponentSpec ComponentSpec.Proper where
  reads c proper f layout := by
    refine layout.reads_record (by decide) rfl ?_
    simp only [List.map_cons, List.map_nil,
      ComponentInputs.faithful.field_present layout proper.inputs,
      ComponentOutputs.faithful.field_present layout proper.outputs, textUnlessNone layout,
      DagSpec.faithful.nullable_unlessNone layout proper.dag fun _ _ => rfl]
    rfl
  proper j c read := by
    obtain ⟨values, -, read⟩ := Option.bind_eq_some_iff.1 read
    split at read
    · obtain ⟨inputs, first, read⟩ := Option.bind_eq_some_iff.1 read
      obtain ⟨outputs, second, read⟩ := Option.bind_eq_some_iff.1 read
      obtain ⟨label, -, read⟩ := Option.bind_eq_some_iff.1 read
      obtain ⟨dag, fourth, same⟩ := Option.bind_eq_some_iff.1 read
      obtain rfl := Option.some.inj same
      have noInputs : ({} : ComponentInputs).Proper := SortedMap.each_empty _
      have noOutputs : ({} : ComponentOutputs).Proper := SortedMap.each_empty _
      constructor
      · exact ComponentInputs.faithful.proper_field noInputs first
      · exact ComponentOutputs.faithful.proper_field noOutputs second
      · exact fun d own => DagSpec.faithful.proper_nullable fourth own
    · cases read

end TaskGraph
