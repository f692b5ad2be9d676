import TaskGraph.Options

/-!
# The cache index

Finished executions by fingerprint, for each pipeline and namespace apart.
-/

namespace TaskGraph

structure CacheEntry where
  fingerprint : String
  pipelineKey : String
  nspace : String
  runId : String
  executionId : Int
  deriving DecidableEq

/-- What an entry is found by. -/
structure CacheAddress where
  fingerprint : String
  pipelineKey : String
  nspace : String
  deriving DecidableEq

structure CacheIndex where
  entries : List CacheEntry := []
  deriving DecidableEq

namespace CacheIndex

def address (e : CacheEntry) : CacheAddress := ⟨e.fingerprint, e.pipelineKey, e.nspace⟩

/-- The key of a pipeline's entries. -/
def pipelineKey (name : String) : String := s!"pipeline/{name}"

def lookup? (c : CacheIndex) (a : CacheAddress) : Option Int :=
  (c.entries.find? (address · = a)).map CacheEntry.executionId

/-- Adds an entry, in place of an earlier one under the same address. -/
def add (c : CacheIndex) (e : CacheEntry) : CacheIndex :=
  ⟨c.entries.filter (address · ≠ address e) ++ [e]⟩

/-- The entry of a finished execution. -/
def entryOf (o : Options) (executionId : Int) (fingerprint : String) : Result CacheEntry :=
  if executionId = 0 then .fail .cacheWithoutExecution
  else .ok ⟨fingerprint, pipelineKey o.pipelineName, o.nspace, o.runId, executionId⟩

/-- The entries in the order of their executions. -/
def listed (c : CacheIndex) : List CacheEntry :=
  c.entries.mergeSort fun a b => a.executionId ≤ b.executionId

end CacheIndex

end TaskGraph
