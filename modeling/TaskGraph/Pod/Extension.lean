import TaskGraph.Pod.Spec
import TaskGraph.Resolve.Inputs

/-!
# Extensions of pods

A task may carry settings for the platform it runs on. An extension merges them into the task's pod.
-/

namespace TaskGraph

abbrev PodExtension : Type := TaskScope → PodSpec → Plan PodSpec

namespace PodExtension

def none : PodExtension := fun _ pod => return pod

end PodExtension

/-- Labels that a node needs: fixed ones, or the value of an input parameter instead. -/
structure NodeSelector where
  labels : Dict String := ∅
  parameter : Option InputParameterSpec := none
  deriving DecidableEq

namespace NodeSelector

def decode? (j : Json) : Option NodeSelector := do
  let [labels, parameter] ← j.record? ["labels", "nodeSelectorJson"] | none
  return ⟨← JsonCodec.field ∅ labels, ← JsonCodec.nullable parameter⟩

def resolve (scope : TaskScope) (s : NodeSelector) : Plan (Dict String) :=
  match s.parameter with
  | some spec => scope.textsParameter spec
  | none => return s.labels

/-- Adds the labels of the entry `nodeSelector`, if there is one. -/
def extension : PodExtension := fun scope pod =>
  match scope.options.platformConfig.bind (·.get? "nodeSelector") with
  | none => return pod
  | some entry =>
    match decode? entry with
    | none => (Plan.fail .malformedJson).within .nodeSelector
    | some selector => do
      let labels ← selector.resolve scope
      return { pod with nodeSelector := pod.nodeSelector.union labels }

end NodeSelector

end TaskGraph
