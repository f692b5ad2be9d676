import TaskGraph.Invoke.Basic

/-!
# Graphs within graphs

An invocation for a task that is a graph stores the execution of that graph: how many iterations it
fans out to, and which of its tasks make its outputs.
-/

namespace TaskGraph

namespace ParameterIterator

/-- The items of a fan-out: a list in JSON text, or the value of an input. -/
def itemsFrom (i : ParameterIterator) (parameters : Dict Json) : Result (List Json) :=
  match i.items.raw.filter fun raw => !raw.isEmpty with
  | some raw => (Json.str raw).iterationItems
  | none =>
    let name := i.itemsInput?.getD i.itemInput
    match parameters.get? name with
    | some value => value.iterationItems
    | none => .fail (.noItemsInput name)

end ParameterIterator

namespace Options

/-- The number of iterations, if the invocation fans out. An iteration does not fan out again. -/
def iterationCount? (o : Options) (task : TaskSpec) (willTrigger : Bool) (parameters : Dict Json) :
    Result (Option Nat) :=
  match task.parameterIterator with
  | none => .ok none
  | some iterator =>
    if willTrigger && o.iteration?.isNone then
      return some (← iterator.itemsFrom parameters).length
    else .ok none

def runDag (o : Options) : Plan Execution :=
  Plan.within (.dag o.info) do
    o.validateDag
    let some task := o.task | .fail (.required "task spec")
    let some component := o.component | .fail (.required "component spec")
    let pipeline ← .perform (.pipeline o.pipelineQuery)
    let dag ← .perform (.dag o.dagExecutionId)
    let inputs ← TaskScope.inputs ⟨dag, pipeline, o⟩
    let condition ← task.evaluateCondition inputs
    let execution : Execution := { executorInput := some { inputs }, condition }
    if task.artifactIterator.isSome then Plan.fail .artifactIterator
    let count ← o.iterationCount? task execution.willTrigger inputs.parameters
    let record ← o.createExecution pipeline {
      taskName := task.name
      type := dagType
      parent := dag.id
      iterationIndex := o.recordedIteration
      iterationCount := count
      notTriggered := !execution.willTrigger
      inputParameters := inputs.parameters
      inputArtifacts := inputs.artifacts
      parameterProducers := component.dag.map fun d => d.outputs.parameterProducers
      artifactProducers := component.dag.map fun d => d.outputs.artifactProducers }
    return { execution with id := record.id, iterationCount := count }

end Options

end TaskGraph
