import TaskGraph.Json.Printer
import TaskGraph.Spec.Types

/-!
# Template requests

The workflow engine asks for an invocation by naming a template and its input parameters, and is
answered with the outcome of the node.
-/

namespace TaskGraph

open JsonCodec

structure ObjectMeta where
  name : String := ""
  nspace : String := ""
  uid : String := ""
  deriving DecidableEq

/-- A parameter of a template. Its value is a text as a rule, but may be any JSON. -/
structure TemplateParameter where
  name : String := ""
  value : Option Json := none
  deriving DecidableEq

structure Template where
  name : String := ""
  parameters : List TemplateParameter := []
  /-- Settings by the name of the plugin they are for. -/
  plugin : Option (Dict Json) := none
  deriving DecidableEq

structure TemplateRequest where
  workflow : Option ObjectMeta := none
  template : Template := {}
  deriving DecidableEq

structure TemplateReply where
  phase : String
  message : String
  outputs : Option (List TemplateParameter) := none
  deriving DecidableEq

namespace ObjectMeta

instance codec : JsonCodec ObjectMeta :=
  let fields := ["name", "namespace", "uid"]
  { encode := fun m => .ofRecord fields [present m.name, present m.nspace, present m.uid]
    decode? := fun j => do
      let [name, nspace, uid] ← j.record? fields | none
      return ⟨← field "" name, ← field "" nspace, ← field "" uid⟩
    shape := .ofRecord fields [.text, .text, .text] }

/-- A workflow holds nothing but its metadata. -/
abbrev workflowCodec : JsonCodec ObjectMeta where
  encode m := .obj [("metadata", encode m)]
  decode? j := do
    let [m] ← j.record? ["metadata"] | none
    field {} m
  shape := .ofRecord ["metadata"] [shape ObjectMeta]

end ObjectMeta

namespace TemplateParameter

instance codec : JsonCodec TemplateParameter :=
  let fields := ["name", "value"]
  { encode := fun p => .ofRecord fields [present p.name, unlessNone p.value]
    decode? := fun j => do
      let [name, value] ← j.record? fields | none
      return ⟨← field "" name, ← nullable value⟩
    shape := .ofRecord fields [.text, .optional .any] }

def ofText (name value : String) : TemplateParameter := ⟨name, some (.str value)⟩

/-- The value as text: nothing for null, and JSON text for what is no string. -/
def valueText (p : TemplateParameter) : String :=
  match p.value with
  | none | some .null => ""
  | some (.str s) => s
  | some j => j.text

end TemplateParameter

namespace Template

/-- The parameters stand in an object of their own. -/
abbrev inputsCodec : JsonCodec (List TemplateParameter) where
  encode ps := .obj [("parameters", JsonCodec.encode ps)]
  decode? j := do
    let [ps] ← j.record? ["parameters"] | none
    field [] ps
  shape := .ofRecord ["parameters"] [shape (List TemplateParameter)]

def fields : List String := ["name", "inputs", "plugin"]

instance : JsonCodec Template where
  encode t := .ofRecord fields
    [present t.name, some (inputsCodec.encode t.parameters), unlessNone t.plugin]
  decode? j := do
    let [name, inputs, plugin] ← j.record? fields | none
    return ⟨← field "" name, ← @field _ inputsCodec [] inputs, ← nullable plugin⟩
  shape := .ofRecord fields [.text, inputsCodec.shape, .optional (shape (Dict Json))]

end Template

namespace TemplateRequest

def fields : List String := ["workflow", "template"]

instance : JsonCodec TemplateRequest where
  encode r := .ofRecord fields
    [some ((r.workflow.map ObjectMeta.workflowCodec.encode).getD .null), present r.template]
  decode? j := do
    let [workflow, template] ← j.record? fields | none
    return ⟨← @nullable _ ObjectMeta.workflowCodec workflow, ← field {} template⟩
  shape := .ofRecord fields [.optional ObjectMeta.workflowCodec.shape, shape Template]

end TemplateRequest

namespace TemplateReply

def succeeded (message : String) (parameters : List TemplateParameter) : TemplateReply :=
  ⟨"Succeeded", message, some parameters⟩

def failed (message : String) : TemplateReply := ⟨"Failed", message, none⟩

def encode (r : TemplateReply) : Json :=
  .obj [("node", .ofRecord ["phase", "message", "outputs"]
    [present r.phase, present r.message, r.outputs.map Template.inputsCodec.encode])]

end TemplateReply

end TaskGraph
