import TaskGraph.Invoke.Execute
import TaskGraph.Service.Request

/-!
# Replies

The outcome of an invocation as output parameters of the template, in a fixed order.
-/

namespace TaskGraph

namespace Execution

/-- An output parameter that is present only with a value. -/
def output (name : String) (value : Option String) : List TemplateParameter :=
  (value.map (TemplateParameter.ofText name)).toList

def boolText (b : Bool) : String := if b then "true" else "false"

/-- A root graph is reported without iterations, and what has no condition is reported so unless it
is a graph. -/
def outputParameters (e : Execution) (t : DriverType) : List TemplateParameter :=
  output "execution-id" (if e.id = 0 then none else some (Json.intText e.id)) ++
    output "iteration-count"
      (match e.iterationCount with
        | some count => some (Json.intText count)
        | none => if t = .rootDag then some "0" else none) ++
    output "cached-decision" (e.cached.map boolText) ++
    output "condition"
      (match e.condition with
        | some holds => some (boolText holds)
        | none => if t = .dag then none else some "nil") ++
    output "pod-spec-patch" (if e.podSpecPatch.isEmpty then none else some e.podSpecPatch)

end Execution

/-- Why a request has no reply. -/
inductive ServiceFault where
  | request (fault : RequestFault)
  | driver (error : Error)
  deriving DecidableEq

namespace ServiceFault

/-- Whether the request is at fault, and not the service. -/
def isInvalidRequest : ServiceFault → Bool
  | .request _ => true
  | .driver e => e.kind = .validation

def message : ServiceFault → String
  | .request fault => fault.message
  | .driver e => s!"Driver execution failed: {e.message}"

end ServiceFault

/-- Carries out a request. -/
def Driver.reply (d : Driver) (namespaceFile : Option String) (r : TemplateRequest) :
    Plan (Except ServiceFault TemplateReply) :=
  match r.options namespaceFile with
  | .error fault => return .error (.request fault)
  | .ok (options, t) => do
    match ← (d.execute options).attempt with
    | .error e => return .error (.driver e)
    | .ok execution =>
      let message := s!"Driver call for driver type {t.name} completed successfully. " ++
        s!"Execution ID: {Json.intText execution.id}"
      return .ok (.succeeded message (execution.outputParameters t))

end TaskGraph
