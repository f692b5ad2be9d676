import TaskGraph.Spec.Container

/-!
# Pods

The part of a pod that a task decides: its containers with what they need, the volumes they share
and the nodes it may run on.
-/

namespace TaskGraph

open JsonCodec

/-- Quantities by the name of the resource. -/
structure ResourceRequirements where
  limits : Dict String := ∅
  requests : Dict String := ∅
  deriving DecidableEq

structure VolumeMount where
  name : String := ""
  mountPath : String := ""
  subPath : String := ""
  deriving DecidableEq

structure Volume where
  name : String := ""
  /-- Whether the volume starts empty and lives as long as the pod. -/
  emptyDir : Bool := false
  deriving DecidableEq

structure PodContainer where
  name : String := ""
  image : String := ""
  command : List String := []
  args : List String := []
  env : List EnvVar := []
  resources : ResourceRequirements := {}
  volumeMounts : List VolumeMount := []
  imagePullPolicy : String := ""
  terminationMessagePolicy : String := ""
  deriving DecidableEq

structure PodSpec where
  initContainers : List PodContainer := []
  containers : List PodContainer := []
  volumes : List Volume := []
  shareProcessNamespace : Option Bool := none
  nodeSelector : Dict String := ∅
  deriving DecidableEq

instance ResourceRequirements.codec : JsonCodec ResourceRequirements :=
  let fields := ["limits", "requests"]
  { encode := fun r => .ofRecord fields [unlessEmpty r.limits, unlessEmpty r.requests]
    decode? := fun j => do
      let [limits, requests] ← j.record? fields | none
      return ⟨← field ∅ limits, ← field ∅ requests⟩ }

instance VolumeMount.codec : JsonCodec VolumeMount :=
  let fields := ["name", "mountPath", "subPath"]
  { encode := fun m => .ofRecord fields [present m.name, present m.mountPath, unlessBlank m.subPath]
    decode? := fun j => do
      let [name, mountPath, subPath] ← j.record? fields | none
      return ⟨← field "" name, ← field "" mountPath, ← field "" subPath⟩ }

namespace Volume

def fields : List String := ["name", "emptyDir"]

/-- An empty directory has no settings; it is written as an empty object. -/
def emptyDir? : Option Json → Option Bool
  | none | some .null => some false
  | some (.obj _) | some (.arr []) => some true
  | _ => none

instance : JsonCodec Volume where
  encode v := .ofRecord fields [present v.name, if v.emptyDir then some (.obj []) else none]
  decode? j := do
    let [name, emptyDir] ← j.record? fields | none
    return ⟨← field "" name, ← emptyDir? emptyDir⟩

end Volume

instance PodContainer.codec : JsonCodec PodContainer :=
  let fields := ["name", "image", "command", "args", "env", "resources", "volumeMounts",
    "imagePullPolicy", "terminationMessagePolicy"]
  { encode := fun c => .ofRecord fields
      [present c.name, unlessBlank c.image, unlessNil c.command, unlessNil c.args, unlessNil c.env,
        present c.resources, unlessNil c.volumeMounts, unlessBlank c.imagePullPolicy,
        unlessBlank c.terminationMessagePolicy]
    decode? := fun j => do
      let [name, image, command, args, env, resources, volumeMounts, imagePullPolicy,
        terminationMessagePolicy] ← j.record? fields | none
      return ⟨← field "" name, ← field "" image, ← field [] command, ← field [] args,
        ← field [] env, ← field {} resources, ← field [] volumeMounts, ← field "" imagePullPolicy,
        ← field "" terminationMessagePolicy⟩ }

instance PodSpec.codec : JsonCodec PodSpec :=
  let fields := ["initContainers", "containers", "volumes", "shareProcessNamespace", "nodeSelector"]
  { encode := fun p => .ofRecord fields
      [unlessNil p.initContainers, present p.containers, unlessNil p.volumes,
        unlessNone p.shareProcessNamespace, unlessEmpty p.nodeSelector]
    decode? := fun j => do
      let [initContainers, containers, volumes, share, nodeSelector] ← j.record? fields | none
      return ⟨← field [] initContainers, ← field [] containers, ← field [] volumes,
        ← nullable share, ← field ∅ nodeSelector⟩ }

end TaskGraph
