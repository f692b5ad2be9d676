import TaskGraph.Expr.Error
import TaskGraph.Spec.Task
import TaskGraph.Spec.Types

/-!
# Why a task cannot be driven

An error is a fault and the layers of context it passed through. The kind of an error is the kind of
its fault, whatever the layers.
-/

namespace TaskGraph

/-- Outputs are parameters or artifacts. -/
inductive OutputSide where
  | parameter
  | artifact
  deriving DecidableEq, Repr

inductive ErrorKind where
  | validation
  | resolution
  | resolvedNull
  | infrastructure
  | notImplemented
  deriving DecidableEq, Repr

def ErrorKind.name : ErrorKind → String
  | .validation => "validation"
  | .resolution => "resolution"
  | .resolvedNull => "resolved-null"
  | .infrastructure => "infrastructure"
  | .notImplemented => "not-implemented"

inductive Fault where
  -- options and configuration
  | required (what : String)
  | unnecessary (what : String)
  | unrecognizedRoot (path : String)
  | unsupportedBucket (path : String)
  | malformedProviders
  | invalidProvider (provider problem : String)
  | unknownProvider (name : String)
  | providerRefused (reason : String)
  | cacheWithoutExecution
  -- inputs
  | resolvedNull (name : String)
  | malformedJson
  | notIterable (kind : Json.Kind)
  | iterationWithoutIterator
  | noIteratorInput
  | itemOutOfRange (count index : Nat)
  | noItemsInput (name : String)
  | selectorWithoutValue
  | expression (error : Expr.Error)
  | missingValue (name : String)
  | nullValue (name : String)
  | typeMismatch (name : String) (expected : ParameterType) (actual : Json.Kind)
  | emptyComponentInput
  | noDagParameter (name : String)
  | emptyText (spec : InputParameterSpec)
  | notText (spec : InputParameterSpec) (actual : Json.Kind)
  | emptyArtifactKey
  | noDagArtifact (key : String)
  | missingChannelParameter
  -- outputs of other tasks
  | emptyProducerTask (side : OutputSide)
  | emptyOutputKey (side : OutputSide)
  | unknownProducer (side : OutputSide) (task : String)
  | noOutput (side : OutputSide) (key task : String)
  | nestingTooDeep (dag : Int)
  | visitedTwice (dag : Int)
  | noProducers (side : OutputSide) (task : String)
  | noSubtask
  | unknownSubtask (name : String)
  | noSuccessfulTask
  | chainTooLong (task : String)
  -- pods and platform operations
  | invalidQuantity (text : String)
  | artifactNotCached (name : String)
  | platformFailure (reason : String)
  -- stores and services
  | executionNotFound (id : Int)
  | notDag (id : Int) (type : String)
  | duplicateTask (name : String) (first second : Int)
  | unavailable (service : String)
  | malformedYaml
  | unreadableConfig (path reason : String)
  -- what is left out on purpose
  | artifactIterator
  | emptyRuntimeValue (spec : InputParameterSpec)
  | parameterSource (spec : InputParameterSpec)
  | artifactSource (spec : InputArtifactSpec)
  deriving DecidableEq

/-- The deepest nesting of graphs, and the longest chain of producers, that is followed. -/
def maxDagDepth : Nat := 64

def InputParameterSpec.text (spec : InputParameterSpec) : String := (JsonCodec.encode spec).text

def InputArtifactSpec.text (spec : InputArtifactSpec) : String := (JsonCodec.encode spec).text

/-- The property of a stored graph that names the producers of its outputs. -/
def OutputSide.property : OutputSide → String
  | .parameter => "parameter_producer_task"
  | .artifact => "artifact_producer_task"

/-- What a resource quantity has to look like. -/
def quantityPattern : String :=
  "^[+-]?(?:[0-9]+(?:\\.[0-9]*)?|\\.[0-9]+)(?:[eE][+-]?[0-9]+|[KMGTPE]i|[numkMGTPE])?$"

namespace Fault

def kind : Fault → ErrorKind
  | .required _ | .unnecessary _ | .unrecognizedRoot _ | .unsupportedBucket _
  | .malformedProviders | .invalidProvider .. | .unknownProvider _ | .providerRefused _
  | .cacheWithoutExecution => .validation
  | .resolvedNull _ => .resolvedNull
  | .executionNotFound _ | .notDag .. | .duplicateTask .. | .unavailable _ | .malformedYaml
  | .unreadableConfig .. => .infrastructure
  | .artifactIterator | .emptyRuntimeValue _ | .parameterSource _ | .artifactSource _ =>
    .notImplemented
  | _ => .resolution

open Text in
def message : Fault → String
  | .required what => s!"{what} is required"
  | .unnecessary what => s!"{what} is unnecessary"
  | .unrecognizedRoot path =>
    s!"parse bucket config failed: unrecognized pipeline root format: {quoted path}"
  | .unsupportedBucket path =>
    s!"parse bucket config failed: unsupported Cloud bucket: {quoted path}"
  | .malformedProviders =>
    "failed to unmarshall kfp bucket providers, " ++
      s!"ensure that providers config is well formed: {Expr.detail}"
  | .invalidProvider provider problem => s!"invalid provider config: {provider}.{problem}"
  | .unknownProvider name => s!"unsupported metadata provider: {name}"
  | .providerRefused reason => reason
  | .cacheWithoutExecution => "cannot record cache entry: execution id is required"
  | .resolvedNull name => s!"the resolved input parameter is null: {name}"
  | .malformedJson => s!"JSON error: {Expr.detail}"
  | .notIterable kind => s!"value of type {kind.name} cannot be iterated"
  | .iterationWithoutIterator => "bug: iteration_index>=0, but task iterator is empty"
  | .noIteratorInput => "cannot retrieve parameter iterator"
  | .itemOutOfRange count index => s!"bug: {count} items found, but getting index {index}"
  | .noItemsInput name => s!"failed to get items input {name}"
  | .selectorWithoutValue => "value not found in inputs"
  | .expression e => e.message
  | .missingValue name =>
    s!"neither value nor default value provided for non-optional parameter {quoted name}"
  | .nullValue name => s!"got null for input parameter {quoted name}"
  | .typeMismatch name expected actual =>
    s!"input parameter {quoted name} type mismatch: expect {expected.name}, got {actual.name}"
  | .emptyComponentInput => "empty component input"
  | .noDagParameter name => s!"parent DAG does not have input parameter {name}"
  | .emptyText spec =>
    s!"resolving input parameter with spec {spec.text}. Expected a non-empty string."
  | .notText spec actual =>
    s!"resolving input parameter with spec {spec.text}. Expected a string but got: {actual.name}"
  | .emptyArtifactKey => "component input artifact key is empty"
  | .noDagArtifact key => s!"parent DAG does not have input artifact {key}"
  | .missingChannelParameter =>
    "executorInput did not contain container Image input parameter"
  | .emptyProducerTask .parameter => "producerTaskName is empty"
  | .emptyProducerTask .artifact => "producer task is empty"
  | .emptyOutputKey .parameter => "output parameter key is empty"
  | .emptyOutputKey .artifact => "output artifact key is empty"
  | .unknownProducer .parameter task => s!"producer task, {task}, not in tasks"
  | .unknownProducer .artifact task => s!"cannot find producer task {quoted task}"
  | .noOutput .parameter key task =>
    s!"cannot find output parameter key {quoted key} in producer task {quoted task}"
  | .noOutput .artifact key task =>
    s!"cannot find output artifact key {quoted key} in producer task {quoted task}"
  | .nestingTooDeep dag =>
    s!"DAG nesting under execution {Json.intText dag} exceeds depth {maxDagDepth}"
  | .visitedTwice dag =>
    s!"DAG execution {Json.intText dag} visited twice while collecting tasks"
  | .noProducers side task => s!"task, {task}, does not have a {side.property} custom property"
  | .noSubtask => "producer_subtask not in outputParams"
  | .unknownSubtask name => s!"subTaskName, {name}, not in tasks"
  | .noSuccessfulTask => "processing OneOf: No successful task found"
  | .chainTooLong task => s!"producer chain of task {task} exceeds depth {maxDagDepth}"
  | .invalidQuantity text =>
    s!"quantities must match the regular expression '{quantityPattern}', got {quoted text}"
  | .artifactNotCached name => s!"unable to find artifact with name {name} in output artifacts"
  | .platformFailure reason => reason
  | .executionNotFound id => s!"execution {Json.intText id} not found"
  | .notDag id type =>
    s!"execution {Json.intText id} is not a DAG execution, got type {quoted type}"
  | .duplicateTask name first second =>
    s!"two tasks have the same task name {quoted name}, " ++
      s!"id1={Json.intText first} id2={Json.intText second}"
  | .unavailable service => s!"{service} unavailable"
  | .malformedYaml => s!"YAML error: {Expr.detail}"
  | .unreadableConfig path reason => s!"failed to read driver config {path}: {reason}"
  | .artifactIterator => "artifact iterator not implemented yet"
  | .emptyRuntimeValue spec => s!"param runtime value spec of type {spec.text} not implemented"
  | .parameterSource spec => s!"parameter spec of type {spec.text} not implemented yet"
  | .artifactSource spec => s!"artifact spec of type {spec.text} not implemented yet"

end Fault

/-- What was being done when a fault arose. -/
inductive Layer where
  | rootDag (options : String)
  | dag (options : String)
  | container (options : String)
  | rootDagArgs
  | dagArgs
  | containerArgs
  | inputs
  | parameter (spec : InputParameterSpec)
  | selector (name text : String)
  | artifact (name : String) (spec : InputArtifactSpec)
  | platformParameter
  | platformResource
  | nodeSelector
  | fingerprint
  | cacheLookup
  | cacheRecord
  | publishCached
  | cachedExecution (id : Int)
  | cachedArtifacts (id : Int)
  | collectCached
  | podPatch
  | podResource
  | platformOperation (image : String)
  deriving DecidableEq

open Text in
def Layer.message : Layer → String
  | .rootDag options => s!"driver.RootDAG({options}) failed"
  | .dag options => s!"driver.DAG({options}) failed"
  | .container options => s!"driver.Container({options}) failed"
  | .rootDagArgs => "invalid root DAG driver args"
  | .dagArgs => "invalid DAG driver args"
  | .containerArgs => "invalid container driver args"
  | .inputs => "failed to resolve inputs"
  | .parameter spec => s!"resolving input parameter with spec {spec.text}"
  | .selector name text =>
    s!"resolving parameter {quoted name}: " ++
      s!"evaluation of parameter expression selector {quoted text} failed"
  | .artifact name spec => s!"failed to resolve input artifact {name} with spec {spec.text}"
  | .platformParameter => "failed to resolve k8s parameter"
  | .platformResource =>
    "failed to unmarshal k8s Resource json " ++
      "ensure that k8s Resource json correctly adheres to its respective k8s spec"
  | .nodeSelector => "failed to parse nodeSelector config"
  | .fingerprint => "failure while getting fingerPrint"
  | .cacheLookup => "failure while getting executionCache"
  | .cacheRecord => "failed to create task in the cache"
  | .publishCached => "failed to publish cached execution"
  | .cachedExecution id =>
    s!"failure while getting execution of cached execution {Json.intText id}"
  | .cachedArtifacts id => s!"failed to get output artifacts by executionId {Json.intText id}"
  | .collectCached => "failed collect output artifact metadata from cache"
  | .podPatch => "failed to init podSpecPatch"
  | .podResource => "failed to resolve executor input when retrieving pod resource"
  | .platformOperation image => s!"platform operation {image} failed"

/-- A fault with its layers, the outermost first. -/
structure Error where
  layers : List Layer := []
  fault : Fault
  deriving DecidableEq

namespace Error

def kind (e : Error) : ErrorKind := e.fault.kind

def within (layer : Layer) (e : Error) : Error := { e with layers := layer :: e.layers }

def message (e : Error) : String :=
  e.layers.foldr (fun layer rest => s!"{layer.message}: {rest}") e.fault.message

end Error

instance : Coe Fault Error := ⟨fun fault => ⟨[], fault⟩⟩

abbrev Result (α : Type) := Except Error α

namespace Result

def fail (fault : Fault) : Result α := .error fault

/-- Adds a layer to a failure. -/
def within (layer : Layer) (r : Result α) : Result α := r.mapError (Error.within layer)

end Result

end TaskGraph
