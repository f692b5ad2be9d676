import TaskGraph.Storage.Session

/-!
# Configuration of the launcher

The entries of a config map: the default root of pipelines and the storage providers.
-/

namespace TaskGraph

structure LauncherConfig where
  entries : Dict String := ∅
  deriving DecidableEq

namespace LauncherConfig

/-- An entry that is not empty. -/
def get? (c : LauncherConfig) (key : String) : Option String :=
  (c.entries.get? key).filter fun value => !value.isEmpty

/-- The config map behind a mounted directory: its files, those apart whose names start with a
point. Names that end with a slash are directories. -/
def ofFiles (files : Dict String) : LauncherConfig :=
  ⟨files.filter fun name _ => !(Text.startsWith name "." || Text.endsWith name "/")⟩

def builtInRoot : String := "minio://mlpipeline/v2/artifacts"

def defaultRoot (c : LauncherConfig) : String :=
  (c.get? "defaultPipelineRoot").getD builtInRoot

def providers (c : LauncherConfig) : Result (Option BucketProviders) :=
  match c.get? "providers" with
  | some text => (BucketProviders.parse text).map some
  | none => .ok none

def session (c : LauncherConfig) (root : String) : Result SessionInfo := do
  SessionInfo.ofRoot root (← c.providers)

end LauncherConfig

end TaskGraph
