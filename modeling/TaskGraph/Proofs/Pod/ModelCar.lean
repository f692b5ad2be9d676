import TaskGraph.Pod.ModelCar
import TaskGraph.Proofs.SortedMap

/-! Pods with models in images. Each image adds a container that pulls it, a volume, a sidecar and a
mount of the main container; they are numbered in the order of the artifacts' names. -/

namespace TaskGraph

theorem Text.stripLead?_eq_some_iff {lead s tail : String} :
    stripLead? lead s = some tail ↔ s = lead ++ tail := by
  have dropped (after : List Char) : (lead.toList ++ after).drop lead.length = after := by
    rw [← String.length_toList, List.drop_left]
  simp only [stripLead?, startsWith, List.isPrefixOf_iff_prefix]
  constructor
  · intro h
    split at h
    · rename_i leads
      obtain ⟨after, split⟩ := leads
      obtain ⟨⟩ := h
      apply String.toList_inj.1
      rw [← split, dropped, String.toList_append, String.toList_ofList]
    · cases h
  · rintro rfl
    rw [String.toList_append, dropped, String.ofList_toList, if_pos (List.prefix_append _ _)]

namespace ModelCar

/-- The images among the artifacts, by the names of the artifacts. -/
def cars (artifacts : Dict ArtifactList) : Dict String :=
  artifacts.filterMap fun list => list.first?.bind fun a => image? a.uri

/-- What one image adds to a pod. -/
structure Parts where
  prepull : PodContainer
  volume : Volume
  sidecar : PodContainer
  mount : VolumeMount

def parts (env : List EnvVar) (index : Nat) (image : String) : Parts where
  prepull := prepull env index image
  volume := ⟨s!"oci-{index}", true⟩
  sidecar := sidecar env index image
  mount := mount index image

/-- A pod with the parts after its own ones. The main container comes first. -/
def withParts (pod : PodSpec) (main : PodContainer) (rest : List PodContainer)
    (added : List Parts) : PodSpec :=
  { pod with
    initContainers := pod.initContainers ++ added.map Parts.prepull
    containers := { main with volumeMounts := main.volumeMounts ++ added.map Parts.mount } ::
      (rest ++ added.map Parts.sidecar)
    volumes := pod.volumes ++ added.map Parts.volume
    shareProcessNamespace := if added = [] then pod.shareProcessNamespace else some true }

section Additions

variable {env : List EnvVar} {pod : PodSpec} {main : PodContainer} {rest : List PodContainer}
  {artifacts : Dict ArtifactList}

theorem image?_eq_some_iff {uri image : String} : image? uri = some image ↔ uri = scheme ++ image :=
  Text.stripLead?_eq_some_iff

theorem get?_cars {name image : String} :
    (cars artifacts).get? name = some image ↔ ∃ list a,
      artifacts.get? name = some list ∧ list.first? = some a ∧ a.uri = scheme ++ image := by
  simp only [cars, SortedMap.get?_filterMap, Option.bind_eq_some_iff, image?_eq_some_iff]
  constructor
  · rintro ⟨list, found, a, first, uri⟩
    exact ⟨list, a, found, first, uri⟩
  · rintro ⟨list, a, found, first, uri⟩
    exact ⟨list, found, a, first, uri⟩

theorem images_eq (artifacts : Dict ArtifactList) : images artifacts = (cars artifacts).values := by
  simp only [images, cars, SortedMap.values, SortedMap.filterMap, List.filterMap_map,
    List.map_filterMap]
  congr 1
  funext entry
  simp [Option.map_map, Function.comp_def]

theorem withParts_nil (first : pod.containers = main :: rest) : withParts pod main rest [] = pod := by
  simp [withParts, ← first]

/-- An image adds its parts after those of the images before it. -/
theorem addImage_withParts (added : List Parts) (index : Nat) (image : String) :
    addImage env (withParts pod main rest added) index image =
      withParts pod main rest (added ++ [parts env index image]) := by
  simp [addImage, withParts, parts]

-- The induction keeps what was added so far, since the pod is always one with such parts.
theorem foldl_addImage (images : List (String × Nat)) (added : List Parts) :
    images.foldl (fun pod (image, index) => addImage env pod index image)
        (withParts pod main rest added) =
      withParts pod main rest (added ++ images.map fun (image, index) => parts env index image) := by
  induction images generalizing added with
  | nil => simp
  | cons first images ih =>
    obtain ⟨image, index⟩ := first
    rw [List.foldl_cons]
    simp only [addImage_withParts, ih, List.append_assoc]
    rfl

theorem addImages_eq (first : pod.containers = main :: rest) (artifacts : Dict ArtifactList) :
    addImages env artifacts pod =
      withParts pod main rest ((cars artifacts).values.mapIdx (parts env)) := by
  have added := @foldl_addImage env pod main rest (images artifacts).zipIdx []
  rw [withParts_nil first, List.nil_append, ← List.mapIdx_eq_zipIdx_map, images_eq] at added
  rw [addImages, images_eq]
  exact added

/-- The parts for one image belong to its number and fit together: the main container and the sidecar
mount the same volume, the sidecar links the model there and waits there for the task to end. -/
structure Fits (env : List EnvVar) (index : Nat) (image : String) (p : Parts) : Prop where
  prepull_name : p.prepull.name = s!"oci-prepull-{index}"
  volume_name : p.volume.name = s!"oci-{index}"
  sidecar_name : p.sidecar.name = s!"oci-{index}"
  prepull_image : p.prepull.image = image
  sidecar_image : p.sidecar.image = image
  prepull_env : p.prepull.env = env
  sidecar_env : p.sidecar.env = env
  empty : p.volume.emptyDir
  mounted : p.sidecar.volumeMounts = [p.mount]
  mount_name : p.mount.name = p.volume.name
  model : localPath? (scheme ++ image) = some (p.mount.mountPath ++ "/models")
  command : p.sidecar.command = ["sh", "-c",
    "ln -s /proc/$$$$/root/models " ++ Text.enclosed (p.mount.mountPath ++ "/models") ++ " && " ++
      "echo \"Running Modelcar container...\" && " ++
      ("until [ -f " ++ Text.enclosed (p.mount.mountPath ++ "/launcher-complete") ++
        " ]; do sleep 1; done")]

theorem parts_fits (env : List EnvVar) (index : Nat) (image : String) :
    Fits env index image (parts env index image) where
  prepull_name := rfl
  volume_name := rfl
  sidecar_name := rfl
  prepull_image := rfl
  sidecar_image := rfl
  prepull_env := rfl
  sidecar_env := rfl
  empty := rfl
  mounted := rfl
  mount_name := rfl
  model := by
    rw [localPath?, image?_eq_some_iff.2 rfl]
    rfl
  command := rfl

/-- The images are the first artifacts whose place is one, by name. Each adds its parts after those
of the images before it, and nothing else of the pod changes. -/
theorem addImages_complete (env : List EnvVar) (artifacts : Dict ArtifactList) (pod : PodSpec)
    (main : PodContainer) (rest : List PodContainer) (first : pod.containers = main :: rest) :
    (∀ name image, (cars artifacts).get? name = some image ↔ ∃ list a,
      artifacts.get? name = some list ∧ list.first? = some a ∧ a.uri = scheme ++ image) ∧
    ∃ added : List Parts, added.length = (cars artifacts).size ∧
      addImages env artifacts pod = withParts pod main rest added ∧
      ((cars artifacts).size = 0 → addImages env artifacts pod = pod) ∧
      ∀ i name image, (cars artifacts).entries[i]? = some (name, image) →
        ∃ p, added[i]? = some p ∧ Fits env i image p := by
  refine ⟨fun name image => get?_cars, (cars artifacts).values.mapIdx (parts env), ?_,
    addImages_eq first artifacts, fun none => ?_, fun i name image listed => ?_⟩
  · simp [SortedMap.values, SortedMap.size]
  · have empty : (cars artifacts).values = [] := by
      simpa [SortedMap.values, SortedMap.size] using none
    rw [addImages_eq first, empty, List.mapIdx_nil, withParts_nil first]
  · refine ⟨parts env i image, ?_, parts_fits env i image⟩
    simp [SortedMap.values, listed]

end Additions

/-! Two models and two other artifacts. -/

namespace Garage

def artifact (uri : String) : ArtifactList := .single { uri }

def artifacts : Dict ArtifactList := .ofList
  [("b", artifact "oci://registry/b:1"), ("a", artifact "oci://registry/team/a:1"),
    ("data", artifact "s3://bucket/data.csv"), ("none", {})]

def main : PodContainer := { name := "main" }

def helper : PodContainer := { name := "helper" }

def pod : PodSpec := { containers := [main, helper] }

end Garage

theorem addImages_complete_two : ∃ p q,
    addImages [] Garage.artifacts Garage.pod =
      withParts Garage.pod Garage.main [Garage.helper] [p, q] ∧
    Fits [] 0 "registry/team/a:1" p ∧ Fits [] 1 "registry/b:1" q := by
  obtain ⟨-, added, size, eq, -, fits⟩ :=
    addImages_complete [] Garage.artifacts Garage.pod Garage.main [Garage.helper] rfl
  obtain ⟨p, here, first⟩ := fits 0 "a" "registry/team/a:1" (by rfl)
  obtain ⟨q, there, second⟩ := fits 1 "b" "registry/b:1" (by rfl)
  have both : added = [p, q] := by
    have two : added.length = 2 := size
    refine List.ext_getElem? fun i => ?_
    match i with
    | 0 => exact here
    | 1 => exact there
    | i + 2 => simp [two]
  exact ⟨p, q, both ▸ eq, first, second⟩

end ModelCar

end TaskGraph
