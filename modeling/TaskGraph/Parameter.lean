import TaskGraph.Error
import TaskGraph.Json.Parser
import TaskGraph.Text.Basic

/-!
# Parameter values

The text of a value, the items of a fan-out, and the parameters a run is logged with.
-/

namespace TaskGraph

/-- A string as it is, any other value as JSON. -/
def Json.plainText : Json → String
  | .str s => s
  | j => j.text

/-- The items of a fan-out: a list, or a string that holds one in JSON text. -/
def Json.iterationItems : Json → Result (List Json)
  | .arr items => .ok items
  | .str text =>
    match Json.parse? text with
    | none => .fail .malformedJson
    | some (.arr items) => .ok items
    | some j => .fail (.notIterable j.kind)
  | j => .fail (.notIterable j.kind)

/-- Parameters that pass between tasks carry this before their name. -/
def channelLead : String := "pipelinechannel--"

/-- The name of a logged parameter without the lead, unless nothing is left of it. -/
def channelName? (name : String) : Option String :=
  (Text.stripLead? channelLead name).filter fun rest => !rest.isEmpty

/-- A parameter as it is logged: the fields of a struct that passes between tasks are logged one by
one. -/
def loggedTexts (name : String) (value : Json) : List (String × String) :=
  match channelName? name, value with
  | some channel, .obj fields =>
    fields.map fun (field, inner) => (s!"{channel}.{field}", inner.plainText)
  | some channel, value => [(channel, value.plainText)]
  | none, value => [(name, value.plainText)]

def runParameters (parameters : Dict Json) : List (String × String) :=
  parameters.entries.flatMap fun (name, value) => loggedTexts name value

end TaskGraph
