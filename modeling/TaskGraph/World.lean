import TaskGraph.Plan
import TaskGraph.Store.Basic

/-!
# The services of an invocation

Everything an invocation can change is held in a world; what is fixed around it, faults included, is
given by the services. Running a plan answers its calls one after the other.
-/

namespace TaskGraph

structure World where
  store : Store := {}
  cache : CacheIndex := {}
  registry : RunRegistry := {}
  /-- The registry that an invocation may carry in place of the shared one. -/
  ownRegistry : RunRegistry := {}
  /-- The number of salts that were drawn. -/
  salts : Nat := 0

structure Services where
  storeFault : StoreOperation → Option Fault := fun _ => none
  cacheFault : Option Fault := none
  /-- The fault of registering a run in the shared registry. -/
  runFault : Option Fault := none
  /-- The fault of logging a parameter in the shared registry. -/
  parameterFault : Option Fault := none
  launcher : Result (Option LauncherConfig) := .ok none
  /-- What an operation of the platform gives, by its image. -/
  platform : String → Options → ExecutorInput → Result (Dict Json) := fun _ _ _ => .ok ∅
  /-- The texts that tell the places of outputs apart, one for each run. -/
  salt : Nat → String := toString

namespace Services

/-- Why a call cannot be answered at all. -/
def fault? (s : Services) : Call → Option Fault
  | .cached _ | .cacheEntry _ => s.cacheFault
  | .registerRun false _ => s.runFault
  | .logParameter false _ => s.parameterFault
  | c => c.operation?.bind s.storeFault

end Services

namespace World

/-- Changes the registry that a call is for. -/
def updateRegistry (w : World) (own : Bool) (f : RunRegistry → RunRegistry) : World :=
  if own then { w with ownRegistry := f w.ownRegistry } else { w with registry := f w.registry }

/-- Answers a call that can be answered. -/
def serve (s : Services) (w : World) : (c : Call) → Result c.Reply × World
  | .pipeline q =>
    let (p, store) := w.store.pipeline q
    (.ok p, { w with store })
  | .dag id => (w.store.dag id, w)
  | .tasks runId parent => (w.store.tasks runId parent, w)
  | .inputArtifacts id => (.ok (w.store.inputArtifactsOf id), w)
  | .outputArtifacts id => (.ok (w.store.outputArtifactsOf id), w)
  | .create p config =>
    let (e, store) := w.store.create p config
    (.ok e, { w with store })
  | .publish id parameters artifacts state =>
    match w.store.publish id parameters artifacts state with
    | .ok store => (.ok (), { w with store })
    | .error e => (.error e, w)
  | .execution id => (w.store.execution id, w)
  | .launcher => (s.launcher, w)
  | .cached address => (.ok (w.cache.lookup? address), w)
  | .cacheEntry entry => (.ok (), { w with cache := w.cache.add entry })
  | .registerRun own request => (.ok (), w.updateRegistry own (·.addRun request))
  | .logParameter own parameter => (.ok (), w.updateRegistry own (·.addParameter parameter))
  | .platform image options input => (s.platform image options input, w)
  | .salt => (.ok (s.salt w.salts), { w with salts := w.salts + 1 })

def answer (s : Services) (w : World) (c : Call) : Result c.Reply × World :=
  match s.fault? c with
  | some fault => (.fail fault, w)
  | none => w.serve s c

end World

/-- Runs a plan to its end. -/
def Plan.run (s : Services) : Plan α → World → Result α × World
  | .done r, w => (r, w)
  | .call c next, w =>
    let (reply, w) := w.answer s c
    (next reply).run s w

end TaskGraph
