import TaskGraph.Options
import TaskGraph.Json.Reader
import TaskGraph.Service.Template

/-!
# Options from a request

Each input parameter of a template sets one option. Specs are given as JSON text.
-/

namespace TaskGraph

/-- Why a request is not understood. -/
inductive RequestFault where
  | noPlugin
  | otherPlugin
  | malformed (what : String)
  | malformedPlatformConfig
  | integer (name : String) (problem : Text.IntegerError)
  | cacheFlag (text : String)
  | noNamespace
  | unknownDriverType (name : String)
  deriving DecidableEq

/-- The plugin that a template has to be for. -/
def pluginName : String := "driver-argo-executor"

namespace RequestFault

def message : RequestFault → String
  | .noPlugin => "plugin was empty"
  | .otherPlugin => s!"plugin object value is missing required '{pluginName}' field"
  | .malformed what => s!"failed to unmarshal {what} json: {Expr.detail}"
  | .malformedPlatformConfig => s!"encountered issues when parsing kube config: {Expr.detail}"
  | .integer name problem => s!"failed to parse {name}: {problem.message}"
  | .cacheFlag text => s!"failed to parse cache_disabled: invalid syntax {Text.quoted text}"
  | .noNamespace => "encountered issue when fetching pod namespace"
  | .unknownDriverType name => s!"Unknown driver type: {name}"

end RequestFault

/-- Options as far as they are set. The name of the driver type is looked at in the end. -/
structure OptionsDraft where
  options : Options := {}
  driverType : String := ""

namespace OptionsDraft

/-- Reads a spec from JSON text. -/
def spec [JsonCodec α] (fault : RequestFault) (text : String) : Except RequestFault α :=
  match Json.ofText? text with
  | some x => .ok x
  | none => .error fault

/-- Reads a spec unless the text is empty, which leaves the option as it is. -/
def specOr [JsonCodec α] (unchanged : Option α) (fault : RequestFault) (text : String) :
    Except RequestFault (Option α) := do
  if text.isEmpty then return unchanged else return some (← spec fault text)

def integer (name text : String) : Except RequestFault Int :=
  (Text.readInt64 (Text.trim text)).mapError (.integer name)

def flag? : String → Option Bool
  | "1" | "t" | "T" | "true" | "TRUE" | "True" => some true
  | "0" | "f" | "F" | "false" | "FALSE" | "False" => some false
  | _ => none

def flag (text : String) : Except RequestFault Bool :=
  match flag? text with
  | some b => .ok b
  | none => .error (.cacheFlag text)

/-- Sets what a parameter stands for; unknown parameters are ignored. -/
def set (d : OptionsDraft) (name value : String) : Except RequestFault OptionsDraft := do
  let o := d.options
  match name with
  | "component" =>
    return { d with options.component := some (← spec (.malformed "component") value) }
  | "runtime-config" =>
    return { d with
      options.runtimeConfig := ← specOr o.runtimeConfig (.malformed "runtime config") value }
  | "task" => return { d with options.task := ← specOr o.task (.malformed "task") value }
  | "container" =>
    return { d with options.container := some (← spec (.malformed "container") value) }
  | "kubernetes-config" =>
    return { d with
      options.platformConfig := ← specOr o.platformConfig .malformedPlatformConfig value }
  | "parent-dag-id" => return { d with options.dagExecutionId := ← integer name value }
  | "iteration-index" => return { d with options.iterationIndex := ← integer name value }
  | "driver-type" => return { d with driverType := value }
  | "pipeline_name" => return { d with options.pipelineName := value }
  | "run_id" => return { d with options.runId := value }
  | "run_name" => return { d with options.runName := value }
  | "run_display_name" => return { d with options.runDisplayName := value }
  | "experiment_id" => return { d with options.experimentId := value }
  | "http_proxy" => return { d with options.proxy.httpProxy := value }
  | "https_proxy" => return { d with options.proxy.httpsProxy := value }
  | "no_proxy" => return { d with options.proxy.noProxy := value }
  | "cache_disabled" => return { d with options.cacheDisabled := ← flag value }
  | "log_level" => return { d with options.logLevel := value }
  | "publish_logs" => return { d with options.publishLogs := value }
  | _ => return d

/-- The finished options, in the namespace that this process runs in. -/
def finish (d : OptionsDraft) (namespaceFile : Option String) :
    Except RequestFault (Options × DriverType) :=
  match namespaceFile with
  | none => .error .noNamespace
  | some content =>
    match DriverType.ofName? d.driverType with
    | none => .error (.unknownDriverType d.driverType)
    | some t =>
      .ok ({ d.options with nspace := Text.trim content, driverType := some t }, t)

end OptionsDraft

/-- The options that a request asks for, and their driver type. `namespaceFile` is the content of
the file that holds the namespace, if there is one. -/
def TemplateRequest.options (r : TemplateRequest) (namespaceFile : Option String) :
    Except RequestFault (Options × DriverType) := do
  let some plugin := r.template.plugin | throw .noPlugin
  if plugin.contains pluginName then
    let draft ← r.template.parameters.foldlM
      (fun (d : OptionsDraft) p => d.set p.name p.valueText) {}
    draft.finish namespaceFile
  else throw .otherPlugin

end TaskGraph
