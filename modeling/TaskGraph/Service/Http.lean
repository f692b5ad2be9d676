import TaskGraph.Service.MediaType
import TaskGraph.Service.Reply

/-!
# The HTTP endpoint

One path takes template requests as JSON. What is wrong with a request is told in a reply of the
same form as that of a success.
-/

namespace TaskGraph

structure HttpRequest where
  method : String := "POST"
  path : String
  contentType : Option String := none
  body : String := ""

structure HttpResponse where
  status : Nat
  body : Option Json := none

namespace HttpRequest

def isSchemeChar (c : Char) : Bool := c.isAlphanum || c = '+' || c = '-' || c = '.'

def executePath : String := "/api/v1/template.execute"

/-- The path that an address asks for, without query and fragment. An address with a host is one
with a scheme, and asks for the root if nothing follows the host. -/
def route (r : HttpRequest) : String :=
  let place := r.path.toList.takeWhile fun c => c ≠ '?' && c ≠ '#'
  match place.span isSchemeChar with
  | (_ :: _, ':' :: '/' :: '/' :: rest) =>
    let path := rest.dropWhile (· ≠ '/')
    String.ofList (if path.isEmpty then ['/'] else path)
  | _ => String.ofList place

inductive BodyFault where
  | contentType
  | notJson
  | shape
  deriving DecidableEq, Repr

def BodyFault.message (f : BodyFault) : String :=
  "Failed to decode request body: " ++
    match f with
    | .contentType => "Expected request with `Content-Type: application/json`"
    | .notJson => s!"Failed to parse the request body as JSON: {Expr.detail}"
    | .shape => s!"Failed to deserialize the JSON body into the target type: {Expr.detail}"

/-- Reads the value at the start of the body; nothing after it is looked at. -/
def decode (r : HttpRequest) : Except BodyFault TemplateRequest :=
  if (r.contentType.bind MediaType.parse?).any MediaType.isJson then
    match Json.leading TemplateRequest r.body with
    | .ok (request, _) => .ok request
    | .error .grammar => .error .notJson
    | .error .shape => .error .shape
  else .error .contentType

end HttpRequest

namespace HttpResponse

def failed (status : Nat) (message : String) : HttpResponse :=
  ⟨status, some (TemplateReply.failed message).encode⟩

def ofReply : Except ServiceFault TemplateReply → HttpResponse
  | .ok reply => ⟨200, some reply.encode⟩
  | .error fault => failed (if fault.isInvalidRequest then 400 else 500) fault.message

end HttpResponse

/-- Answers a request to the endpoint. -/
def Driver.respond (d : Driver) (namespaceFile : Option String) (r : HttpRequest) :
    Plan HttpResponse :=
  if r.route ≠ HttpRequest.executePath then return ⟨404, none⟩
  else if r.method ≠ "POST" then return ⟨405, none⟩
  else
    match r.decode with
    | .error fault => return .failed 400 fault.message
    | .ok request => do return .ofReply (← d.reply namespaceFile request)

end TaskGraph
