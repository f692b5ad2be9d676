import TaskGraph.Error
import TaskGraph.Text.Basic
import TaskGraph.Yaml.Parser

/-!
# Configuration of the driver
-/

namespace TaskGraph

open JsonCodec

/-- Proxies handed to the containers of tasks. -/
structure ProxyConfig where
  httpProxy : String := ""
  httpsProxy : String := ""
  noProxy : String := ""
  deriving DecidableEq

namespace ProxyConfig

def fields : List String := ["http_proxy", "https_proxy", "no_proxy"]

instance : JsonCodec ProxyConfig where
  encode p := .ofRecord fields [present p.httpProxy, present p.httpsProxy, present p.noProxy]
  decode? j := do
    let [http, https, no] ← j.record? fields | none
    return ⟨← field "" http, ← field "" https, ← field "" no⟩

def ofYaml? (y : Yaml) : Option ProxyConfig := do
  let [http, https, no] ← y.record? fields | none
  let read := Yaml.field Yaml.string? ""
  return ⟨← read http, ← read https, ← read no⟩

/-- The variables of the settings that are set, each in upper and in lower case. -/
def envVars (p : ProxyConfig) : List (String × String) :=
  [("HTTP_PROXY", "http_proxy", p.httpProxy), ("HTTPS_PROXY", "https_proxy", p.httpsProxy),
    ("NO_PROXY", "no_proxy", p.noProxy)].flatMap fun (upper, lower, value) =>
      if value.isEmpty then [] else [(upper, value), (lower, value)]

end ProxyConfig

/-- The provider of run registration that is always there. -/
def memoryProvider : String := "memory"

structure DriverConfig where
  httpPort : Nat := 8080
  launcherPath : String := "/kfp-launcher/launch"
  /-- Images that stand for operations of the platform and have no container of their own. -/
  dummyImages : List String := ["argostub/createpvc", "argostub/deletepvc"]
  launcherConfigDir : String := "/etc/kfp-launcher"
  namespaceFile : String := "/var/run/secrets/kubernetes.io/serviceaccount/namespace"
  runProvider : String := memoryProvider
  proxy : ProxyConfig := {}
  deriving DecidableEq

namespace DriverConfig

def fields : List String :=
  ["port", "launcher_path", "dummy_images", "launcher_config_dir", "namespace_file",
    "run_registration_provider", "proxy"]

def encode (c : DriverConfig) : Json :=
  .ofRecord fields [some (.int c.httpPort), present c.launcherPath, present c.dummyImages,
    present c.launcherConfigDir, present c.namespaceFile, present c.runProvider, present c.proxy]

def ofYaml? (y : Yaml) : Option DriverConfig := do
  let [httpPort, launcherPath, dummyImages, launcherConfigDir, namespaceFile, runProvider, proxy] ←
    y.record? fields | none
  let base : DriverConfig := {}
  return ⟨← Yaml.field Yaml.uint16? base.httpPort httpPort,
    ← Yaml.field Yaml.string? base.launcherPath launcherPath,
    ← Yaml.field (Yaml.list? Yaml.string?) base.dummyImages dummyImages,
    ← Yaml.field Yaml.string? base.launcherConfigDir launcherConfigDir,
    ← Yaml.field Yaml.string? base.namespaceFile namespaceFile,
    ← Yaml.field Yaml.string? base.runProvider runProvider,
    ← Yaml.field ProxyConfig.ofYaml? base.proxy proxy⟩

/-- Reads a configuration; what is absent keeps its default. -/
def parse (text : String) : Result DriverConfig :=
  if (Text.trim text).isEmpty then .ok {}
  else
    match (Yaml.parse? text).bind ofYaml? with
    | some c => .ok c
    | none => .fail .malformedYaml

def isDummyImage (c : DriverConfig) (image : String) : Bool := c.dummyImages.contains image

end DriverConfig

/-- The providers of run registration, by name. Building one from its configuration may fail. -/
structure ProviderRegistry where
  factories : Dict (Json → Result Unit)

namespace ProviderRegistry

def empty : ProviderRegistry := ⟨∅⟩

def withProvider (r : ProviderRegistry) (name : String) (build : Json → Result Unit) :
    ProviderRegistry := ⟨r.factories.insert name build⟩

def builtIn : ProviderRegistry := empty.withProvider memoryProvider fun _ => .ok ()

def names (r : ProviderRegistry) : List String := r.factories.keys

def create (r : ProviderRegistry) (name : String) (config : Json) : Result Unit :=
  match r.factories.get? name with
  | some build => build config
  | none => .fail (.unknownProvider name)

def display (r : ProviderRegistry) : String :=
  let names := Text.join ", " (r.names.map Text.quoted)
  s!"ProviderRegistry \x7b providers: [{names}] \x7d"

end ProviderRegistry

end TaskGraph
