import TaskGraph.Spec.Component
import TaskGraph.Spec.ExecutorInput
import TaskGraph.Text.Basic

/-!
# Places for outputs

A task that runs is told where to put each of its outputs. A salt in the place of an artifact keeps
the runs of one task apart.
-/

namespace TaskGraph

/-- A path under a pipeline root, without the root's query and trailing slashes. -/
def outputUri (root : String) (path : List String) : String :=
  let bare := Text.dropEnd (· = '/') (root.toList.takeWhile (· ≠ '?'))
  String.ofList bare ++ "/" ++ Text.join "/" path

/-- The artifact that logs are kept in. -/
def logsArtifact : String := "executor-logs"

/-- The artifacts a task makes: the declared ones, and its logs if they are published. -/
def outputArtifacts (outputs : ComponentOutputs) (publishLogs : String) :
    Dict OutputArtifactDefinition :=
  if publishLogs = "true" then
    outputs.artifacts.insert logsArtifact ⟨{ schemaTitle := some "system.Artifact" }, none⟩
  else outputs.artifacts

def provisionOutputs (root task : String) (outputs : ComponentOutputs) (salt publishLogs : String) :
    ExecutorOutputs where
  parameters := outputs.parameters.mapWithKey fun name _ => ⟨s!"/tmp/kfp/outputs/{name}"⟩
  artifacts := (outputArtifacts outputs publishLogs).mapWithKey fun name definition =>
    .single {
      type := definition.type
      uri := outputUri root [task, salt, name]
      metadata := definition.metadata.getD ∅ }
  outputFile := outputMetadataFile

end TaskGraph
