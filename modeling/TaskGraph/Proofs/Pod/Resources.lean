import TaskGraph.Proofs.Pod.Amounts
import TaskGraph.Proofs.Pod.Patch

/-! What the main container is given. Each amount comes from a text with placeholders or else from a
number, an accelerator comes under its own name and before all else that has this name, and there is
nothing that is no quantity. -/

namespace TaskGraph

/-- What is given in amounts. -/
inductive Resource where
  | memory
  | cpu
  deriving DecidableEq

namespace Resource

def name : Resource → String
  | .memory => "memory"
  | .cpu => "cpu"

/-- The unit of numbers: memory is counted in gigabytes. -/
def unit : Resource → String
  | .memory => "G"
  | .cpu => ""

theorem unit_solid (resource : Resource) :
    ∀ c ∈ resource.unit.toList, Unicode.isBlank c = false := by
  cases resource with
  | memory =>
    simp [unit]
    decide
  | cpu => simp [unit]

end Resource

/-- An amount as it is declared. -/
structure Amount where
  text : String
  number : Float

/-- What a declared amount comes to: the text goes before the number, and a number that is zero
counts as none. -/
structure Amount.ComesTo (inputs : ExecutorInputs) (a : Amount) (unit : String)
    (found : Option String) : Prop where
  declared : found.isSome = true ↔ a.text ≠ "" ∨ (a.number == 0) = false
  ofText : a.text ≠ "" → ∃ text, Placeholder.resolve inputs a.text = .ok text ∧
    found = some (Text.trim text)
  ofNumber : a.text = "" → (a.number == 0) = false →
    found = some (Quantity.ofFloat a.number unit)

theorem Quantity.resource?_ok {inputs : ExecutorInputs} {a : Amount} {unit : String}
    {found : Option String} (solid : ∀ c ∈ unit.toList, Unicode.isBlank c = false)
    (ran : resource? inputs a.text a.number unit = .ok found) :
    a.ComesTo inputs unit found ∧ ∀ quantity ∈ found, WellFormed quantity.toList := by
  unfold resource? at ran
  by_cases empty : a.text = ""
  · rw [if_neg (by simp [empty])] at ran
    by_cases zero : (a.number == 0) = true
    · rw [if_pos zero] at ran
      obtain ⟨⟩ := ran
      exact ⟨⟨by simp [empty, zero], fun some => absurd empty some, by simp [zero]⟩, nofun⟩
    · rw [if_neg zero] at ran
      obtain ⟨quantity, parsed, ⟨⟩⟩ := bind_eq_ok_iff.1 ran
      obtain ⟨valid, rfl⟩ := parse_eq_ok_iff.1 parsed
      rw [trim_ofFloat a.number solid] at valid ⊢
      refine ⟨⟨by simp [Bool.eq_false_iff.2 zero], fun some => absurd empty some, fun _ _ => rfl⟩, ?_⟩
      rintro _ ⟨⟩
      exact isQuantity_iff.1 valid
  · rw [if_pos (by simp [empty])] at ran
    obtain ⟨text, resolved, ran⟩ := bind_eq_ok_iff.1 ran
    obtain ⟨quantity, parsed, ⟨⟩⟩ := bind_eq_ok_iff.1 ran
    obtain ⟨valid, rfl⟩ := parse_eq_ok_iff.1 parsed
    refine ⟨⟨by simp [empty], fun _ => ⟨text, Result.within_eq_ok_iff.1 resolved, rfl⟩,
      fun none => absurd none empty⟩, ?_⟩
    rintro _ ⟨⟩
    exact isQuantity_iff.1 valid

/-- An accelerator with a name and a number comes under its name, in that number. -/
def Accelerator.Adds (inputs : ExecutorInputs) (a : Accelerator) (name quantity : String) : Prop :=
  ∃ count, resolved inputs a.resourceType a.type = .ok name ∧
    resolved inputs a.resourceCount (if 0 < a.count then Json.intText a.count else "") = .ok count ∧
    name ≠ "" ∧ count ≠ "" ∧ quantity = Text.trim count

theorem Accelerator.quantity?_ok {inputs : ExecutorInputs} {a : Accelerator}
    {found : Option (String × String)} (ran : a.quantity? inputs = .ok found) :
    (∀ name quantity, a.Adds inputs name quantity ↔ found = some (name, quantity)) ∧
    ∀ name quantity, found = some (name, quantity) → Quantity.WellFormed quantity.toList := by
  unfold quantity? at ran
  obtain ⟨name, named, ran⟩ := bind_eq_ok_iff.1 ran
  obtain ⟨count, counted, ran⟩ := bind_eq_ok_iff.1 ran
  have only {name' quantity : String} (adds : a.Adds inputs name' quantity) :
      name' = name ∧ name ≠ "" ∧ count ≠ "" ∧ quantity = Text.trim count := by
    obtain ⟨count', named', counted', full, some, same⟩ := adds
    obtain ⟨⟩ := named.symm.trans named'
    obtain ⟨⟩ := counted.symm.trans counted'
    exact ⟨rfl, full, some, same⟩
  by_cases missing : name = "" ∨ count = ""
  · rw [if_pos (by simpa using missing)] at ran
    obtain ⟨⟩ := ran
    refine ⟨fun name' quantity => iff_of_false (fun adds => ?_) nofun, nofun⟩
    obtain ⟨-, full, some, -⟩ := only adds
    exact missing.elim full some
  · rw [if_neg (by simpa using missing)] at ran
    obtain ⟨quantity, parsed, ⟨⟩⟩ := bind_eq_ok_iff.1 ran
    obtain ⟨valid, rfl⟩ := Quantity.parse_eq_ok_iff.1 parsed
    obtain ⟨full, some⟩ := not_or.1 missing
    refine ⟨fun name' quantity => ⟨fun adds => ?_, ?_⟩, ?_⟩
    · obtain ⟨rfl, -, -, rfl⟩ := only adds
      rfl
    · rintro ⟨⟩
      exact ⟨count, named, counted, full, some, rfl⟩
    · rintro _ _ ⟨⟩
      exact Quantity.isQuantity_iff.1 valid

namespace ResourceSpec

variable {inputs : ExecutorInputs} {spec : ResourceSpec} {needs : ResourceRequirements}

/-- The declared limits. -/
def limit (spec : ResourceSpec) : Resource → Amount
  | .memory => ⟨spec.memoryLimitText, spec.memoryLimit⟩
  | .cpu => ⟨spec.cpuLimitText, spec.cpuLimit⟩

/-- The declared requests. -/
def request (spec : ResourceSpec) : Resource → Amount
  | .memory => ⟨spec.memoryRequestText, spec.memoryRequest⟩
  | .cpu => ⟨spec.cpuRequestText, spec.cpuRequest⟩

/-- What the accelerator adds to the limits. -/
def Accelerates (inputs : ExecutorInputs) (spec : ResourceSpec) (name quantity : String) : Prop :=
  ∃ a, spec.accelerator = some a ∧ a.Adds inputs name quantity

/-- What is declared, as a container is given it. What the accelerator adds goes before an amount of
the same name, and nothing else is given. -/
structure MetBy (inputs : ExecutorInputs) (spec : ResourceSpec) (needs : ResourceRequirements) :
    Prop where
  requests : ∀ resource, (spec.request resource).ComesTo inputs resource.unit
    (needs.requests.get? resource.name)
  limits : ∀ resource, (¬ ∃ quantity, spec.Accelerates inputs resource.name quantity) →
    (spec.limit resource).ComesTo inputs resource.unit (needs.limits.get? resource.name)
  accelerator : ∀ name quantity, spec.Accelerates inputs name quantity →
    needs.limits.get? name = some quantity
  requestNames : ∀ name quantity, needs.requests.get? name = some quantity →
    ∃ resource : Resource, name = resource.name
  limitNames : ∀ name quantity, needs.limits.get? name = some quantity →
    (∃ resource : Resource, name = resource.name) ∨ spec.Accelerates inputs name quantity
  quantities : ∀ name quantity, needs.limits.get? name = some quantity ∨
    needs.requests.get? name = some quantity → Quantity.WellFormed quantity.toList

/-- The found amount of a resource. -/
def pick (memory cpu : Option String) : Resource → Option String
  | .memory => memory
  | .cpu => cpu

theorem lookup_amounts (memory cpu : Option String) (resource : Resource) :
    (amounts memory cpu).reverse.lookup resource.name = pick memory cpu resource := by
  rw [amounts, List.reverse_append, List.lookup_append]
  cases resource <;> cases memory <;> cases cpu <;> rfl

/-- Amounts stand under the names of resources only. -/
theorem pick_of_lookup_amounts {memory cpu : Option String} {name quantity : String}
    (found : (amounts memory cpu).reverse.lookup name = some quantity) :
    ∃ resource : Resource, name = resource.name ∧ pick memory cpu resource = some quantity := by
  have member : (name, quantity) ∈ amounts memory cpu :=
    List.mem_reverse.1 (SortedMap.mem_of_lookup found)
  have named : ∃ resource : Resource, name = resource.name := by
    rcases mem_amounts member with memory | cpu
    · exact ⟨.memory, memory⟩
    · exact ⟨.cpu, cpu⟩
  obtain ⟨resource, rfl⟩ := named
  rw [lookup_amounts] at found
  exact ⟨resource, rfl, found⟩

/-- What is added goes before the amounts. -/
theorem get?_limits (memory cpu : Option String) (added : Option (String × String)) (name : String) :
    (SortedMap.ofList (amounts memory cpu ++ added.toList)).get? name =
      (added.toList.lookup name).or ((amounts memory cpu).reverse.lookup name) := by
  rw [SortedMap.get?_ofList, List.reverse_append, List.lookup_append]
  cases added with
  | none => rfl
  | some entry => rfl

theorem lookup_toList_eq_some_iff {added : Option (String × String)} {name quantity : String} :
    added.toList.lookup name = some quantity ↔ added = some (name, quantity) := by
  cases added with
  | none => simp
  | some entry =>
    obtain ⟨name', quantity'⟩ := entry
    rw [Option.toList_some, SortedMap.lookup_cons_ite, List.lookup_nil]
    by_cases same : name = name'
    · simp [same]
    · simp [same, Ne.symm same]

/-- The accelerator that is found is the declared one. -/
theorem accelerator?_adds {found : Option (String × String)}
    (ran : spec.accelerator? inputs = .ok found) :
    (∀ name quantity, spec.Accelerates inputs name quantity ↔ found = some (name, quantity)) ∧
    ∀ name quantity, found = some (name, quantity) → Quantity.WellFormed quantity.toList := by
  unfold accelerator? at ran
  unfold Accelerates
  cases declared : spec.accelerator with
  | none =>
    rw [declared] at ran
    obtain ⟨⟩ := ran
    simp
  | some a =>
    rw [declared] at ran
    simpa using a.quantity?_ok ran

/-- Every container whose requirements can be met is given them. -/
theorem metBy_of_requirements (ran : spec.requirements inputs = .ok needs) :
    spec.MetBy inputs needs := by
  obtain ⟨memoryLimit, memoryRequest, cpuLimit, cpuRequest, added, ranMemoryLimit,
    ranMemoryRequest, ranCpuLimit, ranCpuRequest, ranAdded, rfl⟩ := requirements_eq_ok_iff.1 ran
  have limits (resource : Resource) : (spec.limit resource).ComesTo inputs resource.unit
      (pick memoryLimit cpuLimit resource) ∧
      ∀ quantity ∈ pick memoryLimit cpuLimit resource, Quantity.WellFormed quantity.toList := by
    apply Quantity.resource?_ok resource.unit_solid
    cases resource with
    | memory => exact ranMemoryLimit
    | cpu => exact ranCpuLimit
  have requests (resource : Resource) : (spec.request resource).ComesTo inputs resource.unit
      (pick memoryRequest cpuRequest resource) ∧
      ∀ quantity ∈ pick memoryRequest cpuRequest resource, Quantity.WellFormed quantity.toList := by
    apply Quantity.resource?_ok resource.unit_solid
    cases resource with
    | memory => exact ranMemoryRequest
    | cpu => exact ranCpuRequest
  obtain ⟨adds, addedValid⟩ := accelerator?_adds ranAdded
  refine ⟨fun resource => ?_, fun resource absent => ?_, fun name quantity given => ?_,
    fun name quantity found => ?_, fun name quantity found => ?_, fun name quantity found => ?_⟩
  · rw [SortedMap.get?_ofList, lookup_amounts]
    exact (requests resource).1
  · have none : added.toList.lookup resource.name = none := by
      apply Option.eq_none_iff_forall_ne_some.2
      intro quantity found
      exact absent ⟨quantity, (adds _ _).2 (lookup_toList_eq_some_iff.1 found)⟩
    rw [get?_limits, none, Option.none_or, lookup_amounts]
    exact (limits resource).1
  · rw [get?_limits, lookup_toList_eq_some_iff.2 ((adds _ _).1 given), Option.some_or]
  · rw [SortedMap.get?_ofList] at found
    obtain ⟨resource, named, -⟩ := pick_of_lookup_amounts found
    exact ⟨resource, named⟩
  · rw [get?_limits, Option.or_eq_some_iff] at found
    rcases found with first | ⟨-, later⟩
    · exact .inr ((adds _ _).2 (lookup_toList_eq_some_iff.1 first))
    · obtain ⟨resource, named, -⟩ := pick_of_lookup_amounts later
      exact .inl ⟨resource, named⟩
  · rw [get?_limits, SortedMap.get?_ofList, Option.or_eq_some_iff] at found
    rcases found with (first | ⟨-, later⟩) | request
    · exact addedValid _ _ (lookup_toList_eq_some_iff.1 first)
    · obtain ⟨resource, -, picked⟩ := pick_of_lookup_amounts later
      exact (limits resource).2 quantity picked
    · obtain ⟨resource, -, picked⟩ := pick_of_lookup_amounts request
      exact (requests resource).2 quantity picked

end ResourceSpec

/-- Where the pod can be built, the main container is given what is declared. -/
theorem declared_resources_met (r : PatchRequest) (pod : PodSpec) (ran : r.pod = .ok pod) :
    ∃ main sidecars, pod.containers = main :: sidecars ∧ main.name = "main" ∧
      (r.container.resources = none → main.resources = {}) ∧
      ∀ spec, r.container.resources = some spec →
        spec.MetBy r.executorInput.inputs main.resources := by
  obtain ⟨main, built, rfl⟩ := PatchRequest.pod_eq_ok_iff.1 ran
  have builds := PatchRequest.mainContainer_ok built
  rw [ModelCar.addImages_eq rfl]
  refine ⟨_, _, rfl, builds.name, fun absent => ?_, fun spec asked => ?_⟩
  · rw [PatchRequest.mainContainer_eq, PatchRequest.needs, absent] at built
    obtain ⟨resources, ⟨⟩, built⟩ := bind_eq_ok_iff.1 built
    obtain ⟨image, -, ⟨⟩⟩ := bind_eq_ok_iff.1 built
    rfl
  · exact ResourceSpec.metBy_of_requirements (builds.resources spec asked)

namespace Trainer

/-- Memory comes from the inputs, and there is an accelerator of the name of a processor. -/
def mixed : ResourceSpec where
  memoryLimitText := Placeholder.written "text"
  memoryLimit := 16
  cpuLimitText := "1"
  cpuRequest := 0.5
  accelerator := some { type := "cpu", count := 4 }

def mixedRequest : PatchRequest where
  container := { image := "trainer:2", resources := some mixed }
  executorInput := { inputs }

end Trainer

/-- The text goes before the number and the accelerator before the amount of its name, and numbers
need no text. -/
theorem declared_resources_met_trainer : ∃ pod main sidecars,
    Trainer.mixedRequest.pod = .ok pod ∧ pod.containers = main :: sidecars ∧
    main.resources.limits.get? "memory" = some "2" ∧ main.resources.limits.get? "cpu" = some "4" ∧
    main.resources.requests.get? "cpu" = some "0.5" ∧
    main.resources.requests.get? "memory" = none := by
  have ran : ∃ pod, Trainer.mixedRequest.pod = .ok pod := ⟨_, rfl⟩
  obtain ⟨pod, ran⟩ := ran
  obtain ⟨main, sidecars, first, -, -, resources⟩ := declared_resources_met _ pod ran
  have met := resources Trainer.mixed rfl
  refine ⟨pod, main, sidecars, ran, first, ?_, ?_, ?_, ?_⟩
  · have other : ¬ ∃ quantity, Trainer.mixed.Accelerates Trainer.inputs "memory" quantity := by
      rintro ⟨quantity, _, ⟨⟩, count, named, -⟩
      exact absurd (Except.ok.inj named) (by decide)
    obtain ⟨text, ⟨⟩, same⟩ := (met.limits .memory other).ofText (by decide)
    exact same
  · exact met.accelerator "cpu" "4" ⟨_, rfl, "4", rfl, rfl, by decide, by decide, rfl⟩
  · exact (met.requests .cpu).ofNumber rfl (by rfl)
  · have undeclared : ¬ (main.resources.requests.get? Resource.memory.name).isSome := by
      rw [(met.requests .memory).declared, not_or]
      exact ⟨fun some => some rfl, by decide⟩
    exact Option.not_isSome_iff_eq_none.1 undeclared

end TaskGraph
