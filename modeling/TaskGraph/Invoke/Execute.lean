import TaskGraph.Invoke.Container
import TaskGraph.Invoke.Dag
import TaskGraph.Invoke.Root

/-!
# Executing options
-/

namespace TaskGraph

/-- The invocation that the options ask for. -/
def Driver.execute (d : Driver) (o : Options) : Plan Execution :=
  match o.driverType with
  | some .rootDag => o.runRootDag
  | some .dag => o.runDag
  | some .container => o.runContainer d
  | none => .fail (.required "driver type")

end TaskGraph
