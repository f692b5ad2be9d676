import TaskGraph.Cache.Sha256
import TaskGraph.Service.Reply

/-!
# The command line

The command `execute` carries out one request from a file. Progress goes to the error stream, in
colour; the reply goes to the output as JSON.
-/

namespace TaskGraph

structure Command where
  config : Option String := none
  request : String
  namespaceFile : Option String := none
  deriving DecidableEq

inductive UsageFault where
  | unknown (argument : String)
  | noValue (option : String)
  | noCommand
  | noRequest
  deriving DecidableEq

def UsageFault.message : UsageFault → String
  | .unknown argument => s!"error: unexpected argument '{argument}' found"
  | .noValue option => s!"error: a value is required for '{option}' but none was supplied"
  | .noCommand => "error: 'pipeline-driver' requires a subcommand but one was not provided"
  | .noRequest => "error: the following required arguments were not provided: <REQUEST>"

/-- How a command ends. -/
inductive Outcome where
  /-- Nothing was carried out, for the reason given. -/
  | report (message : String)
  | finished (exit : Nat) (output errors : String)
  deriving DecidableEq

namespace Command

/-- The arguments as far as they were read. -/
structure Draft where
  config : Option String := none
  execute : Bool := false
  request : Option String := none
  namespaceFile : Option String := none

def readArguments (d : Draft) : List String → Except UsageFault Draft
  | [] => .ok d
  | "--config" :: path :: rest => readArguments { d with config := some path } rest
  | "--log-level" :: _ :: rest => readArguments d rest
  | "--namespace-file" :: path :: rest =>
    if d.execute then readArguments { d with namespaceFile := some path } rest
    else .error (.unknown "--namespace-file")
  | argument :: rest =>
    if ["--config", "--log-level", "--namespace-file"].contains argument then
      .error (.noValue argument)
    else if argument = "execute" && !d.execute then readArguments { d with execute := true } rest
    else if d.execute && d.request.isNone && !Text.startsWith argument "-" then
      readArguments { d with request := some argument } rest
    else .error (.unknown argument)

def parse (arguments : List String) : Except UsageFault Command := do
  let d ← readArguments {} arguments
  if d.execute then
    match d.request with
    | some request => return ⟨d.config, request, d.namespaceFile⟩
    | none => throw .noRequest
  else throw .noCommand

/-- The text of a configuration file, or why it cannot be read. -/
def loadConfig (path : String) (content : Except String String) : Result DriverConfig :=
  match content with
  | .ok text => DriverConfig.parse text
  | .error reason => .fail (.unreadableConfig path reason)

/-- The driver of a configuration. Its run registration has to be available. -/
def buildDriver (config : DriverConfig) : Result Driver := do
  ProviderRegistry.builtIn.create config.runProvider .null
  return { config }

/-- A fault before anything was carried out. Of a malformed file only the detail is told. -/
def reportOf (e : Error) : String :=
  match e.fault with
  | .malformedYaml => Expr.detail
  | _ => e.message

/-- The driver for a command, with `config` as the content of the configuration file. -/
def driver (c : Command) (config : Except String String) : Except String Driver :=
  Except.mapError reportOf do
    let config ← match c.config with
      | some path => loadConfig path config
      | none => pure {}
    buildDriver config

def alignRight (width : Nat) (s : String) : String :=
  String.ofList (List.replicate (width - s.length) ' ') ++ s

def colored (style text : String) : String := s!"\x1b[{style}m{text}\x1b[0m"

def statusLine (action message : String) : String :=
  colored "1;36" (alignRight 12 action) ++ s!" {message}\n"

def successLine (message : String) : String := colored "1;32" "  ✓" ++ s!" {message}\n"

def errorLine (message : String) : String := colored "1;31" "error:" ++ s!" {message}\n"

/-- How much of a parameter's value is shown. -/
def shownLength : Nat := 96

def parameterLine (p : TemplateParameter) : String :=
  let value := p.valueText
  let shown :=
    if shownLength < value.length then
      String.ofList (value.toList.take shownLength) ++ "..."
    else value
  colored "36" ("  " ++ alignRight 16 p.name) ++ s!" {shown}\n"

def outcome (request : String) : Except ServiceFault TemplateReply → Outcome
  | .ok reply =>
    let parameters := (reply.outputs.getD []).map parameterLine
    .finished 0 (reply.encode.pretty ++ "\n") <|
      Text.join "" (statusLine "Executing" request :: successLine reply.message :: parameters)
  | .error fault =>
    .finished 1 "" (statusLine "Executing" request ++ errorLine fault.message)

/-- Carries out a command, given the contents of the request and of the namespace file. -/
def execute (c : Command) (d : Driver) (request namespaceFile : Option String) : Plan Outcome :=
  match request with
  | none => return .report s!"Request file not found: {c.request}"
  | some text =>
    match (Json.ofText? text : Option TemplateRequest) with
    | none => return .report Expr.detail
    | some request => do return outcome c.request (← d.reply namespaceFile request)

end Command

/-- The text of a version 4 identifier made of sixteen random bytes. -/
def identifierText (bytes : List UInt8) : String :=
  let byte (i : Nat) : UInt8 :=
    let b := bytes.getD i 0
    if i = 6 then b &&& 0x0f ||| 0x40 else if i = 8 then b &&& 0x3f ||| 0x80 else b
  let part (start size : Nat) : String :=
    String.ofList ((List.range size).flatMap fun i => Sha256.hexByte (byte (start + i)))
  Text.join "-" [part 0 4, part 4 2, part 6 2, part 8 2, part 10 6]

end TaskGraph
