import TaskGraph.Pod.Patch
import TaskGraph.Parameter
import TaskGraph.Proofs.Json.Text
import TaskGraph.Proofs.Placeholder
import TaskGraph.Proofs.Pod.ModelCar
import TaskGraph.Proofs.Pod.Quantity
import TaskGraph.Proofs.Result
import TaskGraph.Proofs.SortedMap

/-! The pod of a task, field by field. Where it can be built, the image and the accelerator that a
container declares are in it, unless they come from input parameters that are no texts. -/

namespace TaskGraph

open Placeholder (fieldText value?)

theorem fieldText_eq_plainText {j : Json} (text : j.kind = .string) : fieldText j = j.plainText := by
  cases j with
  | str s => rfl
  | _ => cases text

theorem fieldText_eq_empty {j : Json} (other : j.kind ≠ .string) : fieldText j = "" := by
  cases j with
  | str s => exact absurd rfl other
  | _ => rfl

namespace Accelerator

variable {inputs : ExecutorInputs} {a : Accelerator}

/-- What is declared by a field with placeholders, if it is set, and else by what is fixed. -/
def declared? (inputs : ExecutorInputs) (field fixed : String) : Option Json :=
  if field.isEmpty then some (.str fixed) else value? inputs field

/-- The declared name of an accelerator. -/
def name? (inputs : ExecutorInputs) (a : Accelerator) : Option Json :=
  declared? inputs a.resourceType a.type

/-- The declared number of accelerators. A count that is not positive is none. -/
def count? (inputs : ExecutorInputs) (a : Accelerator) : Option Json :=
  declared? inputs a.resourceCount (if 0 < a.count then Json.intText a.count else "")

theorem resolved_of_declared {field fixed : String} {j : Json}
    (declared : declared? inputs field fixed = some j) :
    resolved inputs field fixed = .ok (fieldText j) := by
  unfold declared? at declared
  unfold resolved
  by_cases empty : field.isEmpty
  · rw [if_pos empty] at declared ⊢
    obtain ⟨⟩ := declared
    rfl
  · rw [if_neg empty] at declared ⊢
    exact Placeholder.resolve_eq_ok_iff.2 ⟨j, declared, rfl⟩

/-- An accelerator is left out if its name or its number is no text. -/
theorem quantity?_eq_ok_iff {name count : Json} {found : Option (String × String)}
    (named : a.name? inputs = some name) (counted : a.count? inputs = some count) :
    a.quantity? inputs = .ok found ↔
      if fieldText name = "" ∨ fieldText count = "" then found = none
      else ∃ quantity, Quantity.parse (fieldText count) = .ok quantity ∧
        found = some (fieldText name, quantity) := by
  have resolvedName := resolved_of_declared named
  have resolvedCount := resolved_of_declared counted
  unfold quantity?
  rw [resolvedName, ok_bind, resolvedCount, ok_bind]
  simp only [Bool.or_eq_true, String.isEmpty_iff]
  by_cases missing : fieldText name = "" ∨ fieldText count = ""
  · rw [if_pos missing, if_pos missing]
    exact Result.pure_eq_ok_iff.trans eq_comm
  · rw [if_neg missing, if_neg missing, bind_eq_ok_iff]
    exact exists_congr fun quantity =>
      and_congr_right fun _ => Result.pure_eq_ok_iff.trans eq_comm

end Accelerator

namespace ResourceSpec

variable {inputs : ExecutorInputs} {spec : ResourceSpec} {needs : ResourceRequirements}

/-- The amounts of memory and of processor time. -/
def amounts (memory cpu : Option String) : List (String × String) :=
  (memory.map ("memory", ·)).toList ++ (cpu.map ("cpu", ·)).toList

def accelerator? (inputs : ExecutorInputs) (spec : ResourceSpec) : Result (Option (String × String)) :=
  match spec.accelerator with
  | some a => a.quantity? inputs
  | none => .ok none

theorem requirements_eq (inputs : ExecutorInputs) (spec : ResourceSpec) :
    spec.requirements inputs = do
      let memoryLimit ← Quantity.resource? inputs spec.memoryLimitText spec.memoryLimit "G"
      let memoryRequest ← Quantity.resource? inputs spec.memoryRequestText spec.memoryRequest "G"
      let cpuLimit ← Quantity.resource? inputs spec.cpuLimitText spec.cpuLimit ""
      let cpuRequest ← Quantity.resource? inputs spec.cpuRequestText spec.cpuRequest ""
      let accelerator ← spec.accelerator? inputs
      return {
        limits := .ofList (amounts memoryLimit cpuLimit ++ accelerator.toList)
        requests := .ofList (amounts memoryRequest cpuRequest) } := by
  unfold requirements accelerator?
  cases spec.accelerator with
  | none => rfl
  | some a => rfl

theorem requirements_eq_ok_iff : spec.requirements inputs = .ok needs ↔
    ∃ memoryLimit memoryRequest cpuLimit cpuRequest accelerator,
      Quantity.resource? inputs spec.memoryLimitText spec.memoryLimit "G" = .ok memoryLimit ∧
      Quantity.resource? inputs spec.memoryRequestText spec.memoryRequest "G" = .ok memoryRequest ∧
      Quantity.resource? inputs spec.cpuLimitText spec.cpuLimit "" = .ok cpuLimit ∧
      Quantity.resource? inputs spec.cpuRequestText spec.cpuRequest "" = .ok cpuRequest ∧
      spec.accelerator? inputs = .ok accelerator ∧
      needs = {
        limits := .ofList (amounts memoryLimit cpuLimit ++ accelerator.toList)
        requests := .ofList (amounts memoryRequest cpuRequest) } := by
  rw [requirements_eq]
  simp only [bind_eq_ok_iff, Result.pure_eq_ok_iff]
  constructor
  · rintro ⟨_, h₁, _, h₂, _, h₃, _, h₄, _, h₅, rfl⟩
    exact ⟨_, _, _, _, _, h₁, h₂, h₃, h₄, h₅, rfl⟩
  · rintro ⟨_, _, _, _, _, h₁, h₂, h₃, h₄, h₅, rfl⟩
    exact ⟨_, h₁, _, h₂, _, h₃, _, h₄, _, h₅, rfl⟩

/-- A quantity of an accelerator is the last one under its name. -/
theorem limits_of_accelerator {name quantity : String} (ran : spec.requirements inputs = .ok needs)
    (counted : spec.accelerator? inputs = .ok (some (name, quantity))) :
    needs.limits.get? name = some quantity := by
  obtain ⟨_, _, _, _, _, -, -, -, -, same, rfl⟩ := requirements_eq_ok_iff.1 ran
  rw [counted] at same
  obtain ⟨⟩ := same
  rw [SortedMap.get?_ofList, Option.toList_some, List.reverse_append, List.reverse_singleton,
    List.singleton_append, List.lookup_cons_self]

theorem mem_amounts {memory cpu : Option String} {entry : String × String}
    (member : entry ∈ amounts memory cpu) : entry.1 = "memory" ∨ entry.1 = "cpu" := by
  simp only [amounts, List.mem_append, Option.mem_toList,
    Option.map_eq_some_iff] at member
  rcases member with ⟨quantity, -, rfl⟩ | ⟨quantity, -, rfl⟩
  · exact .inl rfl
  · exact .inr rfl

/-- Where no accelerator is found, there might as well be none. -/
theorem limits_of_no_accelerator (ran : spec.requirements inputs = .ok needs)
    (absent : spec.accelerator? inputs = .ok none) :
    { spec with accelerator := none }.requirements inputs = .ok needs ∧
    ∀ name, name ≠ "memory" → name ≠ "cpu" → needs.limits.get? name = none := by
  obtain ⟨memoryLimit, memoryRequest, cpuLimit, cpuRequest, _, h₁, h₂, h₃, h₄, same, rfl⟩ :=
    requirements_eq_ok_iff.1 ran
  rw [absent] at same
  obtain ⟨⟩ := same
  constructor
  · exact requirements_eq_ok_iff.2 ⟨_, _, _, _, none, h₁, h₂, h₃, h₄, rfl, rfl⟩
  · intro name notMemory notCpu
    rw [SortedMap.get?_ofList, Option.toList_none, List.append_nil, List.lookup_eq_none_iff]
    intro entry member
    rcases mem_amounts (List.mem_reverse.1 member) with memory | cpu
    · exact bne_iff_ne.2 (memory ▸ notMemory)
    · exact bne_iff_ne.2 (cpu ▸ notCpu)

theorem accelerator?_of_declared {a : Accelerator} (declared : spec.accelerator = some a) :
    spec.accelerator? inputs = a.quantity? inputs := by
  rw [accelerator?, declared]

/-- A requirement that can be met tells what its accelerator comes to. -/
theorem accelerator?_ok (ran : spec.requirements inputs = .ok needs) :
    ∃ found, spec.accelerator? inputs = .ok found := by
  obtain ⟨_, _, _, _, found, -, -, -, -, same, -⟩ := requirements_eq_ok_iff.1 ran
  exact ⟨found, same⟩

/-- An accelerator whose name and number are texts is among the limits, in its quantity. -/
theorem limits_of_texts {a : Accelerator} {name count : Json}
    (ran : spec.requirements inputs = .ok needs) (declared : spec.accelerator = some a)
    (named : a.name? inputs = some name) (counted : a.count? inputs = some count)
    (nameFull : fieldText name ≠ "") (countFull : fieldText count ≠ "") :
    needs.limits.get? (fieldText name) = some (Text.trim (fieldText count)) := by
  obtain ⟨found, eq⟩ := accelerator?_ok ran
  have here := eq
  rw [accelerator?_of_declared declared, Accelerator.quantity?_eq_ok_iff named counted,
    if_neg (not_or.2 ⟨nameFull, countFull⟩)] at here
  obtain ⟨quantity, parsed, rfl⟩ := here
  rw [limits_of_accelerator ran eq, (Quantity.parse_eq_ok_iff.1 parsed).2]

/-- An accelerator whose name or number is no text is left out. -/
theorem limits_of_no_text {a : Accelerator} {name count : Json}
    (ran : spec.requirements inputs = .ok needs) (declared : spec.accelerator = some a)
    (named : a.name? inputs = some name) (counted : a.count? inputs = some count)
    (missing : fieldText name = "" ∨ fieldText count = "") :
    { spec with accelerator := none }.requirements inputs = .ok needs ∧
    ∀ key, key ≠ "memory" → key ≠ "cpu" → needs.limits.get? key = none := by
  apply limits_of_no_accelerator ran
  rw [accelerator?_of_declared declared, Accelerator.quantity?_eq_ok_iff named counted,
    if_pos missing]

end ResourceSpec

namespace PatchRequest

variable {r : PatchRequest} {main : PodContainer} {pod : PodSpec}

/-- The main container of a pod, as far as it depends on the inputs. -/
structure Builds (r : PatchRequest) (main : PodContainer) : Prop where
  name : main.name = "main"
  unmounted : main.volumeMounts = []
  image : Placeholder.resolve r.executorInput.inputs r.container.image = .ok main.image
  resources : ∀ spec, r.container.resources = some spec →
    spec.requirements r.executorInput.inputs = .ok main.resources

/-- What the task asks for. One that asks for nothing gets nothing. -/
def needs (r : PatchRequest) : Result ResourceRequirements :=
  match r.container.resources with
  | some spec => spec.requirements r.executorInput.inputs
  | none => .ok {}

theorem mainContainer_eq (r : PatchRequest) : r.mainContainer = do
    let resources ← r.needs
    let image ← Placeholder.resolve r.executorInput.inputs r.container.image
    return {
      name := "main"
      image
      command := r.launcherCommand
      args := r.container.command ++ r.container.args
      env := r.env
      resources } := by
  unfold mainContainer needs
  cases r.container.resources with
  | none => rfl
  | some spec => rfl

theorem mainContainer_ok (ran : r.mainContainer = .ok main) : r.Builds main := by
  rw [mainContainer_eq] at ran
  obtain ⟨resources, met, ran⟩ := bind_eq_ok_iff.1 ran
  obtain ⟨image, found, ⟨⟩⟩ := bind_eq_ok_iff.1 ran
  refine ⟨rfl, rfl, found, fun spec asked => ?_⟩
  rw [needs, asked] at met
  exact met

/-- The pod is the main container with the models among the inputs. -/
theorem pod_eq_ok_iff : r.pod = .ok pod ↔ ∃ main, r.mainContainer = .ok main ∧
    pod = ModelCar.addImages r.env r.executorInput.inputs.artifacts { containers := [main] } := by
  rw [PatchRequest.pod, Result.within_eq_ok_iff, bind_eq_ok_iff]
  exact exists_congr fun main => and_congr_right fun _ => Result.pure_eq_ok_iff.trans eq_comm

end PatchRequest

/-- Where the pod can be built, an image that is named by an input parameter is that text, and a
declared accelerator is among the limits in its quantity, if these values are texts. A value that is
no text counts as empty: the image is empty then, and the accelerator might as well not be
declared. -/
theorem declared_texts_kept (r : PatchRequest) (pod : PodSpec) (ran : r.pod = .ok pod) :
    ∃ main sidecars, pod.containers = main :: sidecars ∧ main.name = "main" ∧
      (∀ parameter j, Placeholder.channel? r.container.image = some parameter →
        r.executorInput.inputs.parameters.get? parameter = some j → j.plainText ≠ "" →
        (j.kind = .string → main.image = j.plainText) ∧ (j.kind ≠ .string → main.image = "")) ∧
      ∀ spec a name count, r.container.resources = some spec → spec.accelerator = some a →
        a.name? r.executorInput.inputs = some name → a.count? r.executorInput.inputs = some count →
        name.plainText ≠ "" → count.plainText ≠ "" →
        (name.kind = .string → count.kind = .string →
          main.resources.limits.get? name.plainText = some (Text.trim count.plainText)) ∧
        (¬ (name.kind = .string ∧ count.kind = .string) →
          { spec with accelerator := none }.requirements r.executorInput.inputs =
            .ok main.resources ∧
          ∀ key, key ≠ "memory" → key ≠ "cpu" → main.resources.limits.get? key = none) := by
  obtain ⟨main, built, rfl⟩ := PatchRequest.pod_eq_ok_iff.1 ran
  have builds := PatchRequest.mainContainer_ok built
  rw [ModelCar.addImages_eq rfl]
  refine ⟨_, _, rfl, builds.name, fun parameter j found here _ => ?_, ?_⟩
  · have image : main.image = fieldText j := by
      have resolved := builds.image
      rw [Placeholder.resolve_of_channel found here] at resolved
      exact (Except.ok.inj resolved).symm
    constructor
    · intro text
      exact image.trans (fieldText_eq_plainText text)
    · intro other
      exact image.trans (fieldText_eq_empty other)
  · intro spec a name count asked declared named counted nameFull countFull
    have met := builds.resources spec asked
    constructor
    · intro nameText countText
      rw [← fieldText_eq_plainText nameText] at nameFull ⊢
      rw [← fieldText_eq_plainText countText] at countFull ⊢
      exact ResourceSpec.limits_of_texts met declared named counted nameFull countFull
    · intro notTexts
      apply ResourceSpec.limits_of_no_text met declared named counted
      by_cases nameText : name.kind = .string
      · right
        exact fieldText_eq_empty fun countText => notTexts ⟨nameText, countText⟩
      · left
        exact fieldText_eq_empty nameText

/-! A container with an accelerator whose number comes from the inputs. -/

namespace Trainer

def gpu (count : String) : Accelerator := { type := "nvidia.com/gpu", resourceCount := count }

def needs (count : String) : ResourceSpec := { accelerator := some (gpu count) }

def inputs : ExecutorInputs where
  parameters := .ofList
    [("image", .str "trainer:2"), ("text", .str " 2 "), ("gpus", .int 2), ("build", .int 7)]

/-- The image and the number of accelerators are named by input parameters. -/
def request (image count : String) : PatchRequest where
  container := {
    image := Placeholder.written image
    resources := some (needs (Placeholder.written count)) }
  executorInput := { inputs }

end Trainer

/-- Texts are kept, and the blanks around them are not. -/
theorem declared_texts_kept_trainer : ∃ pod main sidecars,
    (Trainer.request "image" "text").pod = .ok pod ∧ pod.containers = main :: sidecars ∧
    main.image = "trainer:2" ∧ main.resources.limits.get? "nvidia.com/gpu" = some "2" := by
  have ran : ∃ pod, (Trainer.request "image" "text").pod = .ok pod := ⟨_, rfl⟩
  obtain ⟨pod, ran⟩ := ran
  obtain ⟨main, sidecars, first, -, image, accelerator⟩ := declared_texts_kept _ pod ran
  refine ⟨pod, main, sidecars, ran, first, ?_, ?_⟩
  · exact (image "image" (.str "trainer:2") (by rfl) (by rfl) (by decide)).1 rfl
  · exact (accelerator _ _ (.str "nvidia.com/gpu") (.str " 2 ") rfl rfl (by rfl) (by rfl) (by decide)
      (by decide)).1 rfl rfl

/-- Numbers are dropped: there is no image and no accelerator. -/
theorem declared_numbers_dropped : ∃ pod main,
    (Trainer.request "build" "gpus").pod = .ok pod ∧ pod.containers = [main] ∧
    value? Trainer.inputs (Placeholder.written "build") = some (.int 7) ∧
    (Json.int 7).plainText = "7" ∧ main.image = "" ∧
    (Trainer.gpu (Placeholder.written "gpus")).name? Trainer.inputs = some (.str "nvidia.com/gpu") ∧
    (Trainer.gpu (Placeholder.written "gpus")).count? Trainer.inputs = some (.int 2) ∧
    (Json.int 2).plainText = "2" ∧ main.resources.limits.get? "nvidia.com/gpu" = none := by
  refine ⟨_, _, rfl, rfl, ?_⟩
  exact ⟨by rfl, by rfl, by rfl, by rfl, by rfl, by rfl, by rfl⟩

end TaskGraph
