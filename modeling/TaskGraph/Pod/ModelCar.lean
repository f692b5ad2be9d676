import TaskGraph.Pod.Spec
import TaskGraph.Spec.ExecutorInput
import TaskGraph.Text.Basic

/-!
# Models in images

An input artifact may be an image that holds a model. Such an image runs beside the task as a
sidecar, and the two share a volume in which the sidecar links its own model directory.
-/

namespace TaskGraph.ModelCar

def scheme : String := "oci://"

/-- The image of an artifact that is one. -/
def image? (uri : String) : Option String := Text.stripLead? scheme uri

/-- An image in the form of one directory name. -/
def directory (image : String) : String :=
  String.ofList (image.toList.map fun c => if c = '/' then '_' else c)

/-- Where the volume of an image is mounted. -/
def mountPath (image : String) : String := s!"/oci/{directory image}"

/-- Where a task finds the model of an image. -/
def modelPath (image : String) : String := mountPath image ++ "/models"

def localPath? (uri : String) : Option String := (image? uri).map modelPath

def shell (script : String) : List String := ["sh", "-c", script]

/-- Pulls the image ahead of the task and checks that there is a model in it. -/
def prepullScript (image : String) : String :=
  s!"echo 'Pre-fetching modelcar {image}: ' && [ -d /models ] && " ++
    "[ \"$$(ls -A /models)\" ] && echo 'OK ... Prefetched and valid (/models exists)' || " ++
    "(echo 'NOK ... Prefetched but modelcar is invalid " ++
    "(/models does not exist or is empty)' &&  exit 1)"

/-- Links the model, then waits for the task to end. The shell sees its own process in the doubled
dollar signs. -/
def sidecarScript (image : String) : String :=
  let complete := mountPath image ++ "/launcher-complete"
  s!"ln -s /proc/$$$$/root/models {Text.enclosed (modelPath image)} && " ++
    "echo \"Running Modelcar container...\" && " ++
    s!"until [ -f {Text.enclosed complete} ]; do sleep 1; done"

def fallbackToLogs : String := "FallbackToLogsOnError"

def mount (index : Nat) (image : String) : VolumeMount where
  name := s!"oci-{index}"
  mountPath := mountPath image
  subPath := directory image

def prepull (env : List EnvVar) (index : Nat) (image : String) : PodContainer where
  name := s!"oci-prepull-{index}"
  image := image
  command := shell (prepullScript image)
  env := env
  terminationMessagePolicy := fallbackToLogs

def sidecar (env : List EnvVar) (index : Nat) (image : String) : PodContainer where
  name := s!"oci-{index}"
  image := image
  command := shell (sidecarScript image)
  env := env
  volumeMounts := [mount index image]
  imagePullPolicy := "IfNotPresent"
  terminationMessagePolicy := fallbackToLogs

/-- The images among the input artifacts, in the order of the artifacts' names. Only the first
artifact of a list counts. -/
def images (artifacts : Dict ArtifactList) : List String :=
  artifacts.values.filterMap fun list => list.first?.bind fun a => image? a.uri

/-- Adds what one image needs. The first container is the task's own. -/
def addImage (env : List EnvVar) (pod : PodSpec) (index : Nat) (image : String) : PodSpec where
  initContainers := pod.initContainers ++ [prepull env index image]
  containers := pod.containers.modifyHead
      (fun main => { main with volumeMounts := main.volumeMounts ++ [mount index image] }) ++
    [sidecar env index image]
  volumes := pod.volumes ++ [⟨s!"oci-{index}", true⟩]
  shareProcessNamespace := some true
  nodeSelector := pod.nodeSelector

def addImages (env : List EnvVar) (artifacts : Dict ArtifactList) (pod : PodSpec) : PodSpec :=
  (images artifacts).zipIdx.foldl (fun pod (image, index) => addImage env pod index image) pod

end TaskGraph.ModelCar
