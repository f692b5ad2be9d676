import TaskGraph.Cache.Index
import TaskGraph.Config.Launcher
import TaskGraph.Spec.ExecutorInput
import TaskGraph.Store.Record
import TaskGraph.Store.Registry

/-!
# Plans

A plan is what an invocation does, step by step: a result, or a call to one of the services around
it and what follows from each answer. Calls may fail; a plan sees the failure and may go on.
-/

namespace TaskGraph

inductive StoreOperation where
  | getPipeline
  | getDag
  | getTasks
  | getInputArtifacts
  | getOutputArtifacts
  | createExecution
  | publishExecution
  | getExecution
  deriving DecidableEq, Repr

/-- What is asked of the services. Each call is answered at once, in one step. -/
inductive Call where
  | pipeline (query : PipelineQuery)
  | dag (id : Int)
  | tasks (runId : String) (parent : Option Int)
  | inputArtifacts (id : Int)
  | outputArtifacts (id : Int)
  | create (pipeline : Pipeline) (config : ExecutionConfig)
  | publish (id : Int) (parameters : Dict Json) (artifacts : List OutputArtifact)
      (state : ExecutionState)
  | execution (id : Int)
  | launcher
  | cached (address : CacheAddress)
  | cacheEntry (entry : CacheEntry)
  | registerRun (own : Bool) (request : RunRequest)
  | logParameter (own : Bool) (parameter : LoggedParameter)
  | platform (image : String) (options : Options) (input : ExecutorInput)
  | salt

namespace Call

/-- What a call is answered with. -/
abbrev Reply : Call → Type
  | .pipeline _ => Pipeline
  | .dag _ | .create .. | .execution _ => ExecutionRecord
  | .tasks .. => Dict ExecutionRecord
  | .inputArtifacts _ => Dict ArtifactList
  | .outputArtifacts _ => Dict OutputArtifact
  | .publish .. | .cacheEntry _ | .registerRun .. | .logParameter .. => Unit
  | .launcher => Option LauncherConfig
  | .cached _ => Option Int
  | .platform .. => Dict Json
  | .salt => String

/-- The store operation behind a call, if there is one. -/
def operation? : Call → Option StoreOperation
  | .pipeline _ => some .getPipeline
  | .dag _ => some .getDag
  | .tasks .. => some .getTasks
  | .inputArtifacts _ => some .getInputArtifacts
  | .outputArtifacts _ => some .getOutputArtifacts
  | .create .. => some .createExecution
  | .publish .. => some .publishExecution
  | .execution _ => some .getExecution
  | _ => none

end Call

inductive Plan (α : Type) where
  | done (result : Result α)
  | call (c : Call) (next : Result c.Reply → Plan α)

namespace Plan

variable {α β : Type}

def bind : Plan α → (α → Plan β) → Plan β
  | .done (.ok x), f => f x
  | .done (.error e), _ => .done (.error e)
  | .call c next, f => .call c fun reply => (next reply).bind f

instance : Monad Plan where
  pure x := .done (.ok x)
  bind := bind

instance : MonadLift (Except Error) Plan where
  monadLift := .done

def fail (fault : Fault) : Plan α := .done (.fail fault)

/-- Makes one call and fails if it does. -/
def perform (c : Call) : Plan c.Reply := .call c .done

/-- Hands on the outcome of a plan, be it a failure. -/
def attempt : Plan α → Plan (Result α)
  | .done r => .done (.ok r)
  | .call c next => .call c fun reply => (next reply).attempt

/-- Adds a layer to the failure of a plan. -/
def within (layer : Layer) : Plan α → Plan α
  | .done r => .done (r.within layer)
  | .call c next => .call c fun reply => (next reply).within layer

end Plan

end TaskGraph
