import TaskGraph.Options
import TaskGraph.Spec.ExecutorInput

/-!
# Placeholders

Texts that stand for something only known when a task runs: an input parameter, or an attribute of
the run.
-/

namespace TaskGraph.Placeholder

/-- What follows `lead`, if `s` starts with it. -/
def afterLead? (lead s : List Char) : Option (List Char) :=
  if lead.isPrefixOf s then some (s.drop lead.length) else none

/-- The shortest name before a closing `']`, and what follows it. A name has at least one character
and does not leave its line. -/
def nameBeforeClose? : List Char → Option (List Char × List Char)
  | [] => none
  | c :: rest =>
    if c = '\n' then none
    else
      match rest with
      | '\'' :: ']' :: after => some ([c], after)
      | _ => (nameBeforeClose? rest).map fun (name, after) => (c :: name, after)

/-- A separator inside a placeholder may be any character but the end of a line. -/
def afterSeparator? : List Char → Option (List Char)
  | [] => none
  | c :: rest => if c = '\n' then none else some rest

/-- The name in a placeholder `$.inputs.parameters['name']` at the start, and what follows. -/
def channelAtStart? (s : List Char) : Option (List Char × List Char) := do
  let s ← afterLead? ['$'] s
  let s ← afterSeparator? s
  let s ← afterLead? "inputs".toList s
  let s ← afterSeparator? s
  let s ← afterLead? "parameters['".toList s
  nameBeforeClose? s

/-- The names of the placeholders in a text, from left to right; they do not overlap. The first
`skip` characters belong to a placeholder that was found before. -/
def channelsFrom (skip : Nat) : List Char → List (List Char)
  | [] => []
  | c :: rest =>
    match skip with
    | skip + 1 => channelsFrom skip rest
    | 0 =>
      match channelAtStart? (c :: rest) with
      | some (name, after) => name :: channelsFrom (rest.length - after.length) rest
      | none => channelsFrom 0 rest

/-- The input parameter a text stands for: it has exactly one placeholder. -/
def channel? (text : String) : Option String :=
  match channelsFrom 0 text.toList with
  | [name] => some (String.ofList name)
  | _ => none

/-- A text with the input parameter in its place. A value that is no text counts as empty. -/
def resolve (inputs : ExecutorInputs) (text : String) : Result String :=
  match channel? text with
  | none => .ok text
  | some name =>
    match inputs.parameters.get? name with
    | some (.str s) => .ok s
    | some _ => .ok ""
    | none => .fail .missingChannelParameter

/-- The attribute of an invocation that a text names. -/
def attribute? (o : Options) : String → Option String
  | "\x7b\x7b$.pipeline_job_name\x7d\x7d" => some o.runDisplayName
  | "\x7b\x7b$.pipeline_job_resource_name\x7d\x7d" => some o.runName
  | "\x7b\x7b$.pipeline_job_uuid\x7d\x7d" => some o.runId
  | "\x7b\x7b$.pipeline_task_name\x7d\x7d" => some o.taskName
  | "\x7b\x7b$.pipeline_task_uuid\x7d\x7d" => some (Json.intText o.dagExecutionId)
  | _ => none

/-- A constant, with an attribute of the invocation in the place of its name. -/
def resolveConstant (o : Options) : Json → Json
  | .str text => .str ((attribute? o text).getD text)
  | j => j

end TaskGraph.Placeholder
