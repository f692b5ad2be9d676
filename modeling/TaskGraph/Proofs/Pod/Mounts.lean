import Mathlib.Data.List.Forall2
import Mathlib.Data.List.Nodup
import TaskGraph.Proofs.Pod.Patch

/-! Names and mounts in the pod of a task. All names are distinct and every mount has its volume. Only
the main container may mount two volumes at one place, where two images have one directory name. -/

namespace TaskGraph

/-- Whether no two mounts of a container are at one place. -/
def PodContainer.MountsApart (c : PodContainer) : Prop :=
  (c.volumeMounts.map VolumeMount.mountPath).Nodup

instance : DecidablePred PodContainer.MountsApart :=
  fun c => inferInstanceAs (Decidable (c.volumeMounts.map VolumeMount.mountPath).Nodup)

/-- A pod whose containers and volumes have names of their own, and whose mounts have a volume. -/
structure PodSpec.Named (pod : PodSpec) : Prop where
  containers : ((pod.containers ++ pod.initContainers).map PodContainer.name).Nodup
  volumes : (pod.volumes.map Volume.name).Nodup
  declared : ∀ c ∈ pod.containers ++ pod.initContainers, ∀ m ∈ c.volumeMounts,
    ∃ v ∈ pod.volumes, v.name = m.name

namespace ModelCar

/-- Characters that are the same in the name of a directory. -/
def Alike (a b : Char) : Prop := a = b ∨ a ∈ ['/', '_'] ∧ b ∈ ['/', '_']

instance : DecidableRel Alike :=
  fun a b => inferInstanceAs (Decidable (a = b ∨ a ∈ ['/', '_'] ∧ b ∈ ['/', '_']))

/-- Images that differ in slashes and underscores only, one in the place of the other. -/
def SameDirectory (a b : String) : Prop := List.Forall₂ Alike a.toList b.toList

instance : DecidableRel SameDirectory :=
  fun a b => inferInstanceAs (Decidable (List.Forall₂ Alike a.toList b.toList))

section Directories

variable {a b : String}

theorem alike_iff {c d : Char} :
    Alike c d ↔ (if c = '/' then '_' else c) = if d = '/' then '_' else d := by
  simp only [Alike, List.mem_cons, List.not_mem_nil, or_false]
  by_cases c = '/' <;> by_cases d = '/' <;> grind

theorem directory_eq_iff : directory a = directory b ↔ SameDirectory a b := by
  rw [directory, directory, String.ofList_inj, ← List.forall₂_eq_eq_eq, List.forall₂_map_left_iff,
    List.forall₂_map_right_iff]
  constructor
  · exact List.Forall₂.imp fun _ _ => alike_iff.2
  · exact List.Forall₂.imp fun _ _ => alike_iff.1

theorem mountPath_eq_iff : mountPath a = mountPath b ↔ SameDirectory a b := by
  rw [← directory_eq_iff]
  exact String.append_right_inj "/oci/"

end Directories

/-! The names of the added containers and volumes. -/

theorem toList_toString (i : Nat) : (toString i).toList = Nat.toDigits 10 i := by
  rw [Nat.toString_eq_ofList_toDigits, String.toList_ofList]

theorem numbered_injective (stem : String) :
    Function.Injective fun i : Nat => stem ++ toString i := by
  intro i j same
  have digits := congrArg String.toList ((String.append_right_inj stem).1 same)
  rw [toList_toString, toList_toString] at digits
  rw [← Nat.ofDigitChars_ten_toDigits (n := i), digits, Nat.ofDigitChars_ten_toDigits]

/-- No number begins with a letter. -/
theorem prepull_ne (i j : Nat) : "oci-prepull-" ++ toString i ≠ "oci-" ++ toString j := by
  intro same
  -- What follows the common beginning is a number, and it would contain the letter.
  have letter : 'p' ∈ Nat.toDigits 10 j := by
    have split : "oci-prepull-" = "oci-" ++ "prepull-" := rfl
    rw [split, String.append_assoc, String.append_right_inj] at same
    rw [← toList_toString, ← same, String.toList_append]
    exact List.mem_cons_self
  exact absurd (Nat.isDigit_of_mem_toDigits (by decide) (by decide) letter) (by decide)

theorem main_ne (rest : String) : "main" ≠ "oci-" ++ rest := by
  intro same
  have chars := congrArg String.toList same
  rw [String.toList_append] at chars
  cases chars

section Additions

variable {env : List EnvVar} {stem : String} {name : Parts → String}

/-- What is named by the number of its image. -/
theorem mem_map_parts (numbered : ∀ i image, name (parts env i image) = stem ++ toString i)
    {images : List String} {text : String} (member : text ∈ (images.mapIdx (parts env)).map name) :
    ∃ i : Nat, text = stem ++ toString i := by
  simp only [List.mem_map, List.mem_mapIdx] at member
  obtain ⟨_, ⟨i, _, rfl⟩, rfl⟩ := member
  exact ⟨i, numbered i _⟩

theorem nodup_map_parts (numbered : ∀ i image, name (parts env i image) = stem ++ toString i)
    (images : List String) : ((images.mapIdx (parts env)).map name).Nodup := by
  rw [List.Nodup, List.pairwise_iff_getElem]
  intro i j hi hj before same
  simp only [List.getElem_map, List.getElem_mapIdx, numbered] at same
  exact Nat.ne_of_lt before (numbered_injective stem same)

theorem mountPaths_parts (images : List String) :
    ((images.mapIdx (parts env)).map Parts.mount).map VolumeMount.mountPath =
      images.map mountPath := by
  apply List.ext_getElem
  · simp
  · intro i _ _
    simp [parts, mount]

end Additions

section Pods

variable {env : List EnvVar} {main : PodContainer} {images : List String}

/-- A pod of one container, with the parts for some images. -/
def podOf (env : List EnvVar) (main : PodContainer) (images : List String) : PodSpec :=
  withParts { containers := [main] } main [] (images.mapIdx (parts env))

theorem podOf_names_nodup (named : main.name = "main") :
    (((podOf env main images).containers ++ (podOf env main images).initContainers).map
      PodContainer.name).Nodup := by
  have names : ((podOf env main images).containers ++ (podOf env main images).initContainers).map
      PodContainer.name = "main" :: ((images.mapIdx (parts env)).map (fun p => p.sidecar.name) ++
        (images.mapIdx (parts env)).map fun p => p.prepull.name) := by
    simp [podOf, withParts, named, Function.comp_def]
  have sidecar (i : Nat) (image : String) :
      (parts env i image).sidecar.name = "oci-" ++ toString i := rfl
  have prepull (i : Nat) (image : String) :
      (parts env i image).prepull.name = "oci-prepull-" ++ toString i := rfl
  rw [names, List.nodup_cons, List.mem_append, List.nodup_append]
  refine ⟨?_, nodup_map_parts sidecar images, nodup_map_parts prepull images, ?_⟩
  · rintro (member | member)
    · obtain ⟨i, same⟩ := mem_map_parts sidecar member
      exact main_ne _ same
    · obtain ⟨i, same⟩ := mem_map_parts prepull member
      exact main_ne ("prepull-" ++ toString i) same
  · intro one here other there same
    obtain ⟨i, rfl⟩ := mem_map_parts sidecar here
    obtain ⟨j, rfl⟩ := mem_map_parts prepull there
    exact prepull_ne j i same.symm

/-- What runs for an image mounts its volume, or nothing. -/
theorem mounts_of_added {c : PodContainer}
    (member : c ∈ (images.mapIdx (parts env)).map Parts.sidecar ++
      (images.mapIdx (parts env)).map Parts.prepull) :
    c.volumeMounts = [] ∨ ∃ p ∈ images.mapIdx (parts env), c.volumeMounts = [p.mount] := by
  rcases List.mem_append.1 member with sidecar | prepull
  · obtain ⟨p, added, rfl⟩ := List.mem_map.1 sidecar
    obtain ⟨i, _, rfl⟩ := List.mem_mapIdx.1 added
    exact .inr ⟨_, added, (parts_fits env i _).mounted⟩
  · obtain ⟨p, added, rfl⟩ := List.mem_map.1 prepull
    obtain ⟨i, _, rfl⟩ := List.mem_mapIdx.1 added
    exact .inl rfl

theorem mountsApart_of_added {c : PodContainer}
    (member : c ∈ (images.mapIdx (parts env)).map Parts.sidecar ++
      (images.mapIdx (parts env)).map Parts.prepull) : c.MountsApart := by
  unfold PodContainer.MountsApart
  rcases mounts_of_added member with none | ⟨p, -, one⟩
  · rw [none]
    exact List.nodup_nil
  · rw [one]
    exact List.nodup_singleton _

theorem volume_of_mount {p : Parts} (added : p ∈ images.mapIdx (parts env)) :
    ∃ v ∈ (podOf env main images).volumes, v.name = p.mount.name := by
  obtain ⟨i, _, rfl⟩ := List.mem_mapIdx.1 added
  refine ⟨_, ?_, (parts_fits env i _).mount_name.symm⟩
  exact List.mem_append_right _ (List.mem_map_of_mem added)

theorem podOf_named (named : main.name = "main") (unmounted : main.volumeMounts = []) :
    (podOf env main images).Named where
  containers := podOf_names_nodup named
  volumes := by
    have volume (i : Nat) (image : String) :
        (parts env i image).volume.name = "oci-" ++ toString i := rfl
    simpa [podOf, withParts, Function.comp_def] using nodup_map_parts volume images
  declared := by
    intro c member m mounted
    -- The main container mounts one volume for each image, a sidecar that of its own.
    rcases List.mem_cons.1 member with rfl | added
    · rw [unmounted, List.nil_append] at mounted
      obtain ⟨p, added, rfl⟩ := List.mem_map.1 mounted
      exact volume_of_mount added
    · rcases mounts_of_added added with none | ⟨p, added, one⟩
      · rw [none] at mounted
        cases mounted
      · rw [one, List.mem_singleton] at mounted
        exact mounted ▸ volume_of_mount added

theorem mountPaths_nodup_iff :
    (images.map mountPath).Nodup ↔ images.Pairwise fun a b => ¬ SameDirectory a b := by
  rw [List.Nodup, List.pairwise_map]
  simp only [ne_eq, mountPath_eq_iff]

end Pods

end ModelCar

/-- The pod of a task is one of its main container, which mounts nothing else, and the images among
the input artifacts. -/
theorem PatchRequest.pod_eq_podOf {r : PatchRequest} {pod : PodSpec} (ran : r.pod = .ok pod) :
    ∃ main, r.Builds main ∧
      pod = ModelCar.podOf r.env main (ModelCar.cars r.executorInput.inputs.artifacts).values := by
  obtain ⟨main, built, rfl⟩ := PatchRequest.pod_eq_ok_iff.1 ran
  exact ⟨main, PatchRequest.mainContainer_ok built, ModelCar.addImages_eq rfl _⟩

/-- The pod of a task names its containers and its volumes apart, and has a volume for each mount. Only
its main container may mount two volumes at one place. It does so if there are two images that differ
in slashes and underscores only, or not at all. -/
theorem mounts_apart_iff (r : PatchRequest) (pod : PodSpec) (ran : r.pod = .ok pod) : pod.Named ∧
    ∃ main sidecars, pod.containers = main :: sidecars ∧ main.name = "main" ∧
      (∀ c ∈ sidecars ++ pod.initContainers, c.MountsApart) ∧
      (main.MountsApart ↔ (ModelCar.cars r.executorInput.inputs.artifacts).values.Pairwise
        fun a b => ¬ ModelCar.SameDirectory a b) := by
  obtain ⟨main, builds, rfl⟩ := PatchRequest.pod_eq_podOf ran
  refine ⟨ModelCar.podOf_named builds.name builds.unmounted, _, _, rfl, builds.name, ?_, ?_⟩
  · intro c member
    exact ModelCar.mountsApart_of_added member
  · rw [PodContainer.MountsApart, builds.unmounted, List.nil_append, ModelCar.mountPaths_parts]
    exact ModelCar.mountPaths_nodup_iff

/-! Tasks that read models. -/

namespace Reader

/-- A task with one input artifact for each place, the first named by the first letter and so on. -/
def request (uris : List String) : PatchRequest where
  executorInput.inputs.artifacts := .ofList (["a", "b", "c"].zip (uris.map ModelCar.Garage.artifact))

end Reader

theorem mounts_apart_iff_three : ∃ pod main sidecars,
    (Reader.request ["oci://team/a", "oci://team/b", "oci://team_a/b"]).pod = .ok pod ∧
    pod.containers = main :: sidecars ∧ pod.Named ∧ main.MountsApart := by
  have ran : ∃ pod, (Reader.request ["oci://team/a", "oci://team/b", "oci://team_a/b"]).pod =
    .ok pod := ⟨_, rfl⟩
  obtain ⟨pod, ran⟩ := ran
  obtain ⟨named, main, sidecars, first, -, -, apart⟩ := mounts_apart_iff _ pod ran
  exact ⟨pod, main, sidecars, ran, first, named, apart.2 (by decide)⟩

/-- One image that comes with two artifacts is mounted twice at one place. -/
theorem images_mounted_together : ∃ pod main sidecars,
    (Reader.request ["oci://team/model", "oci://team/model"]).pod = .ok pod ∧
    pod.containers = main :: sidecars ∧ ¬ main.MountsApart := by
  have ran : ∃ pod, (Reader.request ["oci://team/model", "oci://team/model"]).pod = .ok pod :=
    ⟨_, rfl⟩
  obtain ⟨pod, ran⟩ := ran
  obtain ⟨main, builds, eq⟩ := PatchRequest.pod_eq_podOf ran
  refine ⟨pod, _, _, ran, congrArg PodSpec.containers eq, fun apart => ?_⟩
  rw [PodContainer.MountsApart, builds.unmounted, List.nil_append, ModelCar.mountPaths_parts,
    ModelCar.mountPaths_nodup_iff] at apart
  exact absurd apart (by decide)

end TaskGraph
