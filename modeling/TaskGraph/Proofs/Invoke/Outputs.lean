import TaskGraph.Invoke.Outputs
import TaskGraph.Proofs.SortedMap
import TaskGraph.Proofs.Text

/-! Places of outputs. A name stands at the end of its place and a salt between two slashes before
it, so neither two names of one run nor two runs share a place, whatever characters the names
have. -/

namespace TaskGraph

variable {root task salt salt' name name' publishLogs publishLogs' uri : String}
  {outputs outputs' : ComponentOutputs}

/-- The logs take the place of a declared artifact of their name. -/
theorem outputArtifacts_get? (outputs : ComponentOutputs) (publishLogs name : String) :
    (outputArtifacts outputs publishLogs).get? name =
      if name = logsArtifact ∧ publishLogs = "true" then
        some ⟨{ schemaTitle := some "system.Artifact" }, none⟩
      else outputs.artifacts.get? name := by
  unfold outputArtifacts
  by_cases published : publishLogs = "true"
  · simp [published, SortedMap.get?_insert]
  · simp [published]

/-- Under one root and for one task a place is told by its salt and name. -/
theorem outputUri_eq_iff : outputUri root [task, salt, name] = outputUri root [task, salt', name'] ↔
    salt ++ "/" ++ name = salt' ++ "/" ++ name' := by
  have form (salt name : String) : outputUri root [task, salt, name] =
      outputUri root [task] ++ "/" ++ (salt ++ "/" ++ name) := by
    simp [outputUri, Text.join, String.intercalate_cons_cons, String.append_assoc]
  rw [form, form, String.append_right_inj]

theorem name_eq_of_outputUri
    (same : outputUri root [task, salt, name] = outputUri root [task, salt, name']) :
    name = name' :=
  (String.append_right_inj _).1 (outputUri_eq_iff.1 same)

/-- A salt without slashes ends at the slash after it. -/
theorem salt_cut (plain : '/' ∉ salt.toList) (name : String) :
    Text.Cut (· ≠ '/') (salt ++ "/" ++ name).toList salt.toList ('/' :: name.toList) where
  parts := by simp
  all c member := by simpa using fun slash : c = '/' => plain (slash ▸ member)
  stops c first := by
    obtain ⟨⟩ := first
    rfl

theorem salt_eq_of_outputUri (plain : '/' ∉ salt.toList) (plain' : '/' ∉ salt'.toList)
    (same : outputUri root [task, salt, name] = outputUri root [task, salt', name']) :
    salt = salt' := by
  have cut := salt_cut plain name
  rw [outputUri_eq_iff.1 same] at cut
  exact String.toList_injective (cut.takeWhile_eq.symm.trans (salt_cut plain' name').takeWhile_eq)

/-- The places that outputs are provisioned with for artifacts. -/
def ExecutorOutputs.Provides (o : ExecutorOutputs) (uri : String) : Prop :=
  ∃ name list a, o.artifacts.get? name = some list ∧ a ∈ list.artifacts ∧ a.uri = uri

/-- No two outputs have the same place. -/
structure ExecutorOutputs.Apart (o : ExecutorOutputs) : Prop where
  single : ∀ name list, o.artifacts.get? name = some list → ∃ a, list = .single a
  uris : ∀ name name' a a', o.artifacts.get? name = some (.single a) →
    o.artifacts.get? name' = some (.single a') → name ≠ name' → a.uri ≠ a'.uri
  files : ∀ name name' p p', o.parameters.get? name = some p → o.parameters.get? name' = some p' →
    name ≠ name' → p.outputFile ≠ p'.outputFile

theorem artifact_provisioned {list : ArtifactList} (found :
    (provisionOutputs root task outputs salt publishLogs).artifacts.get? name = some list) :
    ∃ a, list = .single a ∧ a.uri = outputUri root [task, salt, name] := by
  simp only [provisionOutputs, SortedMap.get?_mapWithKey, Option.map_eq_some_iff] at found
  obtain ⟨definition, -, rfl⟩ := found
  exact ⟨_, rfl, rfl⟩

theorem parameter_provisioned {p : OutputParameter}
    (found : (provisionOutputs root task outputs salt publishLogs).parameters.get? name = some p) :
    p.outputFile = "/tmp/kfp/outputs/" ++ name := by
  simp only [provisionOutputs, SortedMap.get?_mapWithKey, Option.map_eq_some_iff] at found
  obtain ⟨definition, -, rfl⟩ := found
  rfl

theorem provided_uri
    (provides : (provisionOutputs root task outputs salt publishLogs).Provides uri) :
    ∃ name, uri = outputUri root [task, salt, name] := by
  obtain ⟨name, list, a, found, member, rfl⟩ := provides
  obtain ⟨only, rfl, placed⟩ := artifact_provisioned found
  obtain rfl := List.mem_singleton.1 member
  exact ⟨name, placed⟩

theorem provisioned_apart (root task : String) (outputs : ComponentOutputs)
    (salt publishLogs : String) :
    (provisionOutputs root task outputs salt publishLogs).Apart where
  single name list found := by
    obtain ⟨a, single, -⟩ := artifact_provisioned found
    exact ⟨a, single⟩
  uris name name' a a' found found' apart same := by
    obtain ⟨_, ⟨⟩, placed⟩ := artifact_provisioned found
    obtain ⟨_, ⟨⟩, placed'⟩ := artifact_provisioned found'
    rw [placed, placed'] at same
    exact apart (name_eq_of_outputUri same)
  files name name' p p' found found' apart same := by
    rw [parameter_provisioned found, parameter_provisioned found'] at same
    exact apart ((String.append_right_inj _).1 same)

theorem mem_outputArtifacts : name ∈ (outputArtifacts outputs publishLogs).keys ↔
    name ∈ outputs.artifacts.keys ∨ publishLogs = "true" ∧ name = logsArtifact := by
  rw [SortedMap.mem_keys_iff, SortedMap.mem_keys_iff, outputArtifacts_get?]
  by_cases logs : name = logsArtifact ∧ publishLogs = "true"
  · simp [logs]
  · have none : ¬ (publishLogs = "true" ∧ name = logsArtifact) := fun both => logs both.symm
    rw [if_neg logs, or_iff_left none]

/-- Exactly the declared outputs have places, and the logs if they are published, and each has one
of its own. Runs with different salts share none, whatever they declare. -/
theorem outputs_never_collide (root task : String) (outputs : ComponentOutputs)
    (salt publishLogs : String) :
    let provisioned := provisionOutputs root task outputs salt publishLogs
    (∀ name, name ∈ provisioned.artifacts.keys ↔
      name ∈ outputs.artifacts.keys ∨ publishLogs = "true" ∧ name = "executor-logs") ∧
    (∀ name, name ∈ provisioned.parameters.keys ↔ name ∈ outputs.parameters.keys) ∧
    provisioned.Apart ∧
    ∀ salt' outputs' publishLogs', salt ≠ salt' → '/' ∉ salt.toList → '/' ∉ salt'.toList →
      ∀ uri, provisioned.Provides uri →
        ¬ (provisionOutputs root task outputs' salt' publishLogs').Provides uri := by
  refine ⟨fun name => ?_, fun name => ?_, provisioned_apart .., ?_⟩
  · rw [provisionOutputs, SortedMap.keys_mapWithKey]
    exact mem_outputArtifacts
  · rw [provisionOutputs, SortedMap.keys_mapWithKey]
  · intro salt' outputs' publishLogs' apart plain plain' uri provides provides'
    obtain ⟨name, placed⟩ := provided_uri provides
    obtain ⟨name', placed'⟩ := provided_uri provides'
    exact apart (salt_eq_of_outputUri plain plain' (placed.symm.trans placed'))

end TaskGraph
