import TaskGraph.Spec.Component

/-!
# Producers of outputs

A stored graph names, for each of its outputs, the task inside it that makes the output, or several
of which the first that succeeded counts.
-/

namespace TaskGraph

open JsonCodec

inductive OutputProducer where
  | direct (selector : OutputSelector)
  | oneOf (selectors : List OutputSelector)
  deriving DecidableEq

namespace OutputProducer

def ofParameter : ParameterProducer → OutputProducer
  | .direct selector => .direct selector
  | .oneOf selectors => .oneOf selectors

/-- An artifact with one selector comes from it directly. -/
def ofArtifact (p : ArtifactProducer) : OutputProducer :=
  match p.selectors with
  | [only] => .direct only
  | selectors => .oneOf selectors

def encodeSelector (s : OutputSelector) : List (String × Json) :=
  [("subtask", .str s.subtask), ("key", .str s.key)]

/-- Both names have to be there. -/
def decodeSelector? (j : Json) : Option OutputSelector := do
  let [some (.str subtask), some (.str key)] ← j.record? ["subtask", "key"] | none
  return ⟨subtask, key⟩

def decodeBody? (kind body : Json) : Option OutputProducer := do
  match ← kind.enumName? with
  | "direct" => return .direct (← decodeSelector? body)
  | "one_of" =>
    let [some (.arr selectors)] ← body.record? ["selectors"] | none
    return .oneOf (← selectors.mapM decodeSelector?)
  | _ => none

/-- The kind is written among the other fields. -/
instance : JsonCodec OutputProducer where
  encode
    | .direct s => .obj (("kind", .str "direct") :: encodeSelector s)
    | .oneOf selectors =>
      .obj [("kind", .str "one_of"), ("selectors", .arr (selectors.map (.obj ∘ encodeSelector)))]
  decode?
    | .obj fields => do
      let kind ← fields.lookup "kind"
      decodeBody? kind (.obj (fields.filter (·.1 ≠ "kind")))
    | .arr (kind :: rest) => decodeBody? kind (.arr rest)
    | _ => none

end OutputProducer

namespace DagOutputs

def parameterProducers (o : DagOutputs) : Dict OutputProducer :=
  o.parameters.map OutputProducer.ofParameter

def artifactProducers (o : DagOutputs) : Dict OutputProducer :=
  o.artifacts.map OutputProducer.ofArtifact

end DagOutputs

end TaskGraph
