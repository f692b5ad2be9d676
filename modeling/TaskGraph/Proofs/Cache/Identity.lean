import TaskGraph.Cache.Key
import TaskGraph.Proofs.Json.Text

/-! What a fingerprint identifies. Two tasks have the same canonical text exactly if
they have the same command, image and inputs and declare outputs of the same types;
nothing else of the options or of the places of outputs goes into it. -/

namespace TaskGraph

open Json

theorem ParameterType.ofName?_name (t : ParameterType) : ofName? t.name = some t := by
  cases t <;> rfl

theorem ParameterType.name_injective {t t' : ParameterType} (h : t.name = t'.name) : t = t' := by
  have read := congrArg ofName? h
  rw [ofName?_name, ofName?_name] at read
  exact Option.some.inj read

theorem sameForm_parameterType (t t' : ParameterType) : SameForm t t' ↔ t = t' :=
  same_str_iff.trans ⟨ParameterType.name_injective, congrArg _⟩

theorem sameForm_artifactType (t t' : ArtifactType) : SameForm t t' ↔ t = t' := by
  refine (same_ofRecord_iff (by decide) rfl rfl).trans ?_
  cases t
  cases t'
  simp

namespace CacheKey

theorem sameForm_encodeArtifact (a b : InputArtifactKey) :
    SameForm (encodeArtifact a) (encodeArtifact b) ↔ a = b := by
  refine (same_ofRecord_iff (by decide) rfl rfl).trans ?_
  cases a
  cases b
  simp

variable {k k' : CacheKey}

/-- The canonical text shows all of the key, the parameters up to the order of fields and to what
numbers have the same text. -/
theorem canonical_eq_iff : k.canonical = k'.canonical ↔
    k.inputArtifacts = k'.inputArtifacts ∧ SameForm k.inputParameters k'.inputParameters ∧
    k.outputArtifacts = k'.outputArtifacts ∧ k.outputParameters = k'.outputParameters ∧
    k.image = k'.image ∧ k.command = k'.command := by
  have form (k : CacheKey) : k.encode = .ofRecord ["inputArtifacts", "inputParameterValues",
      "outputArtifactsSpec", "outputParametersSpec", "containerSpec"]
      [JsonCodec.present (k.inputArtifacts.map fun as => as.map encodeArtifact),
        JsonCodec.present k.inputParameters, JsonCodec.present k.outputArtifacts,
        JsonCodec.present k.outputParameters,
        some (.ofRecord ["image", "cmdArgs"]
          [JsonCodec.present k.image, JsonCodec.present k.command])] := rfl
  unfold canonical
  rw [text_eq_iff]
  change Same k.encode k'.encode ↔ _
  rw [form, form, same_ofRecord_iff (by decide) rfl rfl]
  rw [List.forall₂_cons, rel_present, sameForm_map_iff fun _ _ =>
    sameForm_listMap_iff sameForm_encodeArtifact]
  simp only [List.forall₂_cons, rel_present, Option.rel_some_some,
    sameForm_dict_eq sameForm_artifactType, sameForm_dict_eq sameForm_parameterType]
  rw [same_ofRecord_iff (by decide) rfl rfl]
  simp only [List.forall₂_cons, rel_present, sameForm_string,
    sameForm_list_eq fun _ _ => sameForm_string, List.forall₂_nil_left_iff, and_true]

end CacheKey

/-- The type of the first artifact of an output. -/
def ExecutorInput.outputType? (input : ExecutorInput) (name : String) : Option ArtifactType :=
  input.outputs.bind fun outputs =>
    (outputs.artifacts.get? name).bind fun list => list.first?.map RuntimeArtifact.type

/-- The type that an output parameter is declared with. -/
def Options.outputType? (o : Options) (name : String) : Option ParameterType :=
  o.component.bind fun component =>
    (component.outputs.parameters.get? name).map OutputParameterDefinition.type

/-- The artifacts of a list in their order, by name and place. -/
def ArtifactList.keys (list : ArtifactList) : List InputArtifactKey :=
  list.artifacts.map fun a => ⟨a.name, a.uri⟩

/-- The same input with the artifacts of its outputs at other places. -/
def ExecutorInput.moveOutputs (input : ExecutorInput) (place : String → RuntimeArtifact → String) :
    ExecutorInput :=
  { input with outputs := input.outputs.map fun outputs => { outputs with
      artifacts := outputs.artifacts.mapWithKey fun name list =>
        ⟨list.artifacts.map fun a => { a with uri := place name a }⟩ } }

/-- What two tasks have to agree on for one to stand in for the other. -/
structure Agree (o o' : Options) (c c' : ContainerSpec) (input input' : ExecutorInput) : Prop where
  inputArtifacts : ∀ name, (input.inputs.artifacts.get? name).map ArtifactList.keys =
    (input'.inputs.artifacts.get? name).map ArtifactList.keys
  inputParameters : ∀ name,
    Option.Rel Same (input.inputs.parameters.get? name) (input'.inputs.parameters.get? name)
  outputArtifacts : ∀ name, input.outputType? name = input'.outputType? name
  outputParameters : ∀ name, o.outputType? name = o'.outputType? name
  image : c.image = c'.image
  command : c.command ++ c.args = c'.command ++ c'.args

namespace CacheKey

variable {o o' : Options} {c c' : ContainerSpec} {input input' : ExecutorInput} {k k' : CacheKey}

/-- The parts of a task's key, each by what it holds under a name. -/
structure Describes (k : CacheKey) (o : Options) (c : ContainerSpec) (input : ExecutorInput) :
    Prop where
  inputArtifacts : ∀ name,
    k.inputArtifacts.get? name = (input.inputs.artifacts.get? name).map ArtifactList.keys
  inputParameters : k.inputParameters = input.inputs.parameters
  outputArtifacts : ∀ name, k.outputArtifacts.get? name = input.outputType? name
  outputParameters : ∀ name, k.outputParameters.get? name = o.outputType? name
  image : k.image = c.image
  command : k.command = c.command ++ c.args

theorem of_describes (container : o.container = some c) (input : ExecutorInput) :
    ∃ k, of o input = .ok k ∧ k.Describes o c input := by
  simp only [of, container, Except.ok.injEq, exists_eq_left']
  refine ⟨fun name => SortedMap.get?_map .., rfl, fun name => ?_, fun name => ?_, rfl, rfl⟩
  · cases outputs : input.outputs with
    | none => simp [ExecutorInput.outputType?, outputs]
    | some outputs' => simp [ExecutorInput.outputType?, outputs]
  · cases component : o.component with
    | none => simp [Options.outputType?, component]
    | some component' => simp [Options.outputType?, component]

theorem canonical_eq_iff_agree (left : k.Describes o c input) (right : k'.Describes o' c' input') :
    k.canonical = k'.canonical ↔ Agree o o' c c' input input' := by
  rw [canonical_eq_iff, sameForm_dict]
  constructor
  · rintro ⟨inputs, parameters, outputs, declared, image, command⟩
    refine ⟨fun name => ?_, fun name => ?_, fun name => ?_, fun name => ?_, ?_, ?_⟩
    · rw [← left.inputArtifacts, ← right.inputArtifacts, inputs]
    · rw [← left.inputParameters, ← right.inputParameters]
      exact parameters name
    · rw [← left.outputArtifacts, ← right.outputArtifacts, outputs]
    · rw [← left.outputParameters, ← right.outputParameters, declared]
    · rw [← left.image, ← right.image, image]
    · rw [← left.command, ← right.command, command]
  · intro agree
    refine ⟨SortedMap.ext_get? fun name => ?_, fun name => ?_, SortedMap.ext_get? fun name => ?_,
      SortedMap.ext_get? fun name => ?_, ?_, ?_⟩
    · rw [left.inputArtifacts, right.inputArtifacts, agree.inputArtifacts]
    · rw [left.inputParameters, right.inputParameters]
      exact agree.inputParameters name
    · rw [left.outputArtifacts, right.outputArtifacts, agree.outputArtifacts]
    · rw [left.outputParameters, right.outputParameters, agree.outputParameters]
    · rw [left.image, right.image, agree.image]
    · rw [left.command, right.command, agree.command]

/-- The places of outputs do not count. -/
theorem of_moveOutputs (place : String → RuntimeArtifact → String) :
    of o (input.moveOutputs place) = of o input := by
  have types (artifacts : Dict ArtifactList) :
      (artifacts.mapWithKey fun name list => ArtifactList.mk
          (list.artifacts.map fun a => { a with uri := place name a })).filterMap
        (fun list => list.first?.map RuntimeArtifact.type) =
      artifacts.filterMap fun list => list.first?.map RuntimeArtifact.type := by
    refine SortedMap.ext_get? fun name => ?_
    rw [SortedMap.get?_filterMap, SortedMap.get?_filterMap, SortedMap.get?_mapWithKey]
    cases artifacts.get? name with
    | none => rfl
    | some list =>
      obtain ⟨artifacts⟩ := list
      cases artifacts <;> rfl
  unfold of ExecutorInput.moveOutputs
  cases input.outputs with
  | none => rfl
  | some outputs => simp [types]

end CacheKey

/-- Tasks have the same canonical text, from which fingerprints are made, exactly if they agree. The
places of outputs, the run, the pipeline and the ids of executions have no part in it. -/
theorem canonical_identifies_task {o o' : Options} {c c' : ContainerSpec}
    (left : o.container = some c) (right : o'.container = some c')
    (input input' : ExecutorInput) :
    ∃ k k', CacheKey.of o input = .ok k ∧ CacheKey.of o' input' = .ok k' ∧
      fingerprint o input = .ok (Sha256.hex k.canonical) ∧
      fingerprint o' input' = .ok (Sha256.hex k'.canonical) ∧
      (k.canonical = k'.canonical ↔ Agree o o' c c' input input') ∧
      ∀ runId pipelineName dagExecutionId devExecutionId place,
        CacheKey.of { o with runId, pipelineName, dagExecutionId, devExecutionId }
          (input.moveOutputs place) = .ok k := by
  obtain ⟨k, of_left, describes⟩ := CacheKey.of_describes left input
  obtain ⟨k', of_right, describes'⟩ := CacheKey.of_describes right input'
  refine ⟨k, k', of_left, of_right, ?_, ?_,
    CacheKey.canonical_eq_iff_agree describes describes', ?_⟩
  · rw [fingerprint, of_left]
    rfl
  · rw [fingerprint, of_right]
    rfl
  · intro runId pipelineName dagExecutionId devExecutionId place
    rw [CacheKey.of_moveOutputs]
    exact of_left

namespace TwoRuns

def container (command args : List String) : ContainerSpec where
  image := "python:3"
  command := command
  args := args

def options (runId : String) (c : ContainerSpec) : Options where
  runId := runId
  container := some c

/-- A task whose settings are handed over in some order and whose output is kept at `uri`. -/
def input (settings : List (String × Json)) (uri : String) : ExecutorInput where
  inputs := { parameters := .ofList [("settings", .obj settings)] }
  outputs := some { artifacts := .ofList [("model", .single { name := "model", uri := uri })] }

def first : Options := options "first" (container ["sh", "-c"] ["train"])

def second : Options := options "second" (container ["sh"] ["-c", "train"])

def firstInput : ExecutorInput := input [("rate", .int 1), ("name", .str "a\"")] "s3://a"

def secondInput : ExecutorInput := input [("name", .str "a\""), ("rate", .int 1)] "s3://b"

end TwoRuns

/-- Two runs of a task agree, though one has its settings in another order, its command split in
another way and its output at another place. -/
theorem canonical_identifies_two_runs :
    TwoRuns.first.container = some (TwoRuns.container ["sh", "-c"] ["train"]) ∧
    TwoRuns.second.container = some (TwoRuns.container ["sh"] ["-c", "train"]) ∧
    ∃ k k', CacheKey.of TwoRuns.first TwoRuns.firstInput = .ok k ∧
      CacheKey.of TwoRuns.second TwoRuns.secondInput = .ok k' ∧ k.canonical = k'.canonical ∧
      Agree TwoRuns.first TwoRuns.second (TwoRuns.container ["sh", "-c"] ["train"])
        (TwoRuns.container ["sh"] ["-c", "train"]) TwoRuns.firstInput TwoRuns.secondInput := by
  have left : TwoRuns.first.container = some (TwoRuns.container ["sh", "-c"] ["train"]) := rfl
  have right : TwoRuns.second.container = some (TwoRuns.container ["sh"] ["-c", "train"]) := rfl
  obtain ⟨k, k', of_left, of_right, _, _, identifies, _⟩ :=
    canonical_identifies_task left right TwoRuns.firstInput TwoRuns.secondInput
  have same : k.canonical = k'.canonical := by
    cases of_left
    cases of_right
    rfl
  exact ⟨left, right, k, k', of_left, of_right, same, identifies.1 same⟩

end TaskGraph
