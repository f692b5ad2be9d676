import TaskGraph.Invoke.Basic

/-!
# The root graph

The first invocation of a run sets up the pipeline and the execution of its outermost graph.
-/

namespace TaskGraph.Options

/-- The pipeline of the run, with its root and the session that opens it. -/
def rootQuery (o : Options) (runtime : RuntimeConfig) (launcher : LauncherConfig) :
    Result PipelineQuery := do
  let root :=
    if runtime.outputDirectory.isEmpty then launcher.defaultRoot else runtime.outputDirectory
  let session ← launcher.session root
  return ⟨o.pipelineName, o.runId, o.nspace, root, session.text⟩

/-- Nothing but the id is given back: the tasks find their inputs in the store. -/
def runRootDag (o : Options) : Plan Execution :=
  Plan.within (.rootDag o.info) do
    o.validateRootDag
    let some runtime := o.runtimeConfig | .fail (.required "runtime config")
    let launcher ← .perform .launcher
    let query ← o.rootQuery runtime (launcher.getD {})
    let pipeline ← .perform (.pipeline query)
    let config : ExecutionConfig := {
      displayName := s!"run/{o.runId}"
      type := dagType
      inputParameters := runtime.parameters }
    let record ← o.createExecution pipeline config
    let runName := if o.runName.isEmpty then config.displayName else o.runName
    o.registerRun pipeline runName none record.id (runParameters runtime.parameters)
    return { id := record.id }

end TaskGraph.Options
