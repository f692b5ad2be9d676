import TaskGraph.Expr.Eval
import TaskGraph.Parameter
import TaskGraph.Placeholder
import TaskGraph.Resolve.Producers

/-!
# Inputs of a task

The inputs of a task come from the graph it is in, from other tasks of that graph, or from
constants. An iteration takes the inputs of its graph, with one item in the place of the list. Then
selectors are applied and the values are checked against the types that the component declares.
-/

namespace TaskGraph

/-- What inputs are resolved against: the graph, its pipeline and the options of the invocation. -/
structure TaskScope where
  dag : ExecutionRecord
  pipeline : Pipeline
  options : Options

/-- The value of one input parameter. A null from the graph's own inputs is a fault of its own kind
and gets no layer, so that a caller can tell it apart. -/
def TaskScope.parameter (scope : TaskScope) (spec : InputParameterSpec) : Plan Json :=
  match spec.source with
  | some (.componentInput name) =>
    if name.isEmpty then (Plan.fail .emptyComponentInput).within (.parameter spec)
    else
      match scope.dag.inputParameters.get? name with
      | none => (Plan.fail (.noDagParameter name)).within (.parameter spec)
      | some .null => .fail (.resolvedNull name)
      | some value => return value
  | some (.taskOutput output) =>
    (producedParameter scope.pipeline.runId scope.dag output).within (.parameter spec)
  | some (.runtimeValue (some constant)) =>
    return Placeholder.resolveConstant scope.options constant
  | some (.runtimeValue none) =>
    (Plan.fail (.emptyRuntimeValue spec)).within (.parameter spec)
  | some (.taskFinalStatus _) | none =>
    (Plan.fail (.parameterSource spec)).within (.parameter spec)

/-- The value of a parameter that has to be a text and not empty. -/
def TaskScope.textParameter (scope : TaskScope) (spec : InputParameterSpec) : Plan String := do
  match ← scope.parameter spec with
  | .str text => if text.isEmpty then .fail (.emptyText spec) else return text
  | value => .fail (.notText spec value.kind)

/-- The value of a parameter that has to be a struct of texts. -/
def TaskScope.textsParameter (scope : TaskScope) (spec : InputParameterSpec) :
    Plan (Dict String) := do
  let value ← (scope.parameter spec).within .platformParameter
  match JsonCodec.decode? value with
  | some texts => return texts
  | none => (Plan.fail .malformedJson).within .platformResource

def TaskScope.artifact (scope : TaskScope) (dagArtifacts : Dict ArtifactList) (name : String)
    (spec : InputArtifactSpec) : Plan ArtifactList :=
  Plan.within (.artifact name spec) <|
    match spec.source with
    | some (.componentInput key) =>
      if key.isEmpty then .fail .emptyArtifactKey
      else
        match dagArtifacts.get? key with
        | some list => return list
        | none => .fail (.noDagArtifact key)
    | some (.taskOutput output) => producedArtifact scope.pipeline.runId scope.dag output
    | none => .fail (.artifactSource spec)

namespace ComponentSpec

/-- Whether an input parameter may be left out. -/
def isOptional (c : ComponentSpec) (name : String) : Bool :=
  (c.inputs.parameters.get? name).any InputParameterDefinition.isOptional

end ComponentSpec

/-- An input parameter, or none if it resolved to null and may be left out. -/
def TaskScope.parameterOrNone (scope : TaskScope) (component : ComponentSpec) (name : String)
    (spec : InputParameterSpec) : Plan (Option Json) := do
  match ← (scope.parameter spec).attempt with
  | .ok value => return some value
  | .error e =>
    if e.kind = .resolvedNull && component.isOptional name then return none
    else .done (.error e)

/-- The inputs of a task that is no iteration. -/
def TaskScope.taskInputs (scope : TaskScope) (task : TaskSpec) (component : ComponentSpec)
    (dagArtifacts : Dict ArtifactList) : Plan ExecutorInputs := do
  let parameters ← task.inputs.parameters.entries.filterMapM fun (name, spec) => do
    return (← scope.parameterOrNone component name spec).map (name, ·)
  let artifacts ← task.inputs.artifacts.entries.mapM fun (name, spec) => do
    return (name, ← scope.artifact dagArtifacts name spec)
  return ⟨.ofList parameters, .ofList artifacts⟩

namespace ParameterIterator

/-- The input parameter that holds the items, if one is named. -/
def itemsInput? (i : ParameterIterator) : Option String :=
  i.items.inputParameter.filter fun name => !name.isEmpty

end ParameterIterator

/-- The inputs of one iteration. -/
def iterationInputs (dag : ExecutionRecord) (task : TaskSpec) (index : Nat)
    (dagArtifacts : Dict ArtifactList) : Result ExecutorInputs := do
  if task.artifactIterator.isSome then .fail .artifactIterator
  else
    match task.parameterIterator with
    | none => .fail .iterationWithoutIterator
    | some iterator =>
      let source := iterator.itemsInput?.getD iterator.itemInput
      if source.isEmpty then .fail .noIteratorInput
      else
        let items ← ((dag.inputParameters.get? source).getD .null).iterationItems
        match items[index]? with
        | none => .fail (.itemOutOfRange items.length index)
        | some item =>
          return ⟨(dag.inputParameters.erase source).insert iterator.itemInput item, dagArtifacts⟩

/-- Applies the selector of one input parameter, if it has one. -/
def applySelector (parameters : Dict Json) (name : String) (spec : InputParameterSpec) :
    Result (Dict Json) :=
  if spec.selector.isEmpty then .ok parameters
  else
    Result.within (.selector name spec.selector) <|
      match parameters.get? name with
      | none => .fail .selectorWithoutValue
      | some value =>
        match Expr.select value spec.selector with
        | .ok selected => .ok (parameters.insert name selected)
        | .error e => .fail (.expression e)

def applySelectors (task : TaskSpec) (parameters : Dict Json) : Result (Dict Json) :=
  task.inputs.parameters.entries.foldlM (fun ps (name, spec) => applySelector ps name spec)
    parameters

namespace ParameterType

/-- The types a value of each kind may have. A text fits no type but the one of texts, which takes
any value. -/
def accepts : ParameterType → Json.Kind → Bool
  | .string, _ => true
  | .numberDouble, .number | .numberInteger, .number => true
  | .boolean, .bool => true
  | .list, .list => true
  | .struct, .struct => true
  | _, _ => false

end ParameterType

/-- Whether a declared parameter is not checked: the item outside of iterations, and the list of
items inside. -/
def isExempt (task : TaskSpec) (iteration : Bool) (name : String) : Bool :=
  task.parameterIterator.any fun i =>
    if iteration then i.items.inputParameter = some name else i.itemInput = name

/-- A value as a component takes it: where it takes a text, the text of the value. -/
def checkValue (name : String) (type : ParameterType) (value : Json) : Result Json :=
  if type = .string then .ok (.str value.plainText)
  else if value.isNull then .fail (.nullValue name)
  else if type.accepts value.kind then .ok value
  else .fail (.typeMismatch name type value.kind)

/-- Checks one declared parameter. -/
def checkParameter (parameters : Dict Json) (name : String)
    (definition : InputParameterDefinition) : Result (Dict Json) := do
  match parameters.get? name with
  | some value => return parameters.insert name (← checkValue name definition.type value)
  | none =>
    if definition.isOptional || definition.defaultValue.isSome then return parameters
    else .fail (.missingValue name)

def checkParameters (task : TaskSpec) (component : ComponentSpec) (iteration : Bool)
    (parameters : Dict Json) : Result (Dict Json) :=
  component.inputs.parameters.entries.foldlM
    (fun ps (name, definition) =>
      if isExempt task iteration name then .ok ps else checkParameter ps name definition)
    parameters

/-- The inputs that the task of an invocation is handed. -/
def TaskScope.inputs (scope : TaskScope) : Plan ExecutorInputs :=
  Plan.within .inputs do
    let some task := scope.options.task | .fail (.required "task spec")
    let some component := scope.options.component | .fail (.required "component spec")
    let dagArtifacts ← .perform (.inputArtifacts scope.dag.id)
    let iteration := scope.options.iteration?
    let inputs ← match iteration with
      | some index => liftM (iterationInputs scope.dag task index dagArtifacts)
      | none => scope.taskInputs task component dagArtifacts
    let parameters ← applySelectors task inputs.parameters
    let parameters ← checkParameters task component iteration.isSome parameters
    return { inputs with parameters }

end TaskGraph
