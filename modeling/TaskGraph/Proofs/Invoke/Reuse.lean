import TaskGraph.Proofs.Invoke.Container
import TaskGraph.Proofs.Invoke.Outputs
import TaskGraph.Proofs.Json.Numbers
import TaskGraph.Proofs.Resolve.Scope

/-! Reused executions. Once an earlier execution stands in for a new one, what is traced to either of
them resolves alike, and the artifacts of the new one have the schemas that are declared now. -/

namespace TaskGraph

variable {side : OutputSide} {s : Services} {w w' : World} {runId : String}
  {dag : ExecutionRecord} {output : TaskOutput} {id : Int} {key : String}

/-- An output of a task is traced to the execution `id`, where it has the name `key`. -/
def TracedTo (side : OutputSide) (s : Services) (w : World) (runId : String) (dag : ExecutionRecord)
    (output : TaskOutput) (id : Int) (key : String) : Prop :=
  ∃ leaf v, (producedBy side runId dag output).run s w = (.ok (leaf, key), v) ∧ leaf.id = id

namespace TracedTo

theorem of_map (h : ((producedBy side runId dag output).run s w).1.toOption.map
    (fun found => (found.1.id, found.2)) = some (id, key)) :
    TracedTo side s w runId dag output id key := by
  obtain ⟨⟨leaf, name⟩, v, run, same⟩ := Plan.run_of_map h
  obtain ⟨rfl, rfl⟩ := Prod.mk.inj same
  exact ⟨leaf, v, run, rfl⟩

/-- A traced parameter is read from the record of the execution. -/
theorem parameter_run {record : ExecutionRecord} (keyed : w.store.Keyed)
    (traced : TracedTo .parameter s w runId dag output id key)
    (stored : w.store.executions.get? id = some record) (value : Json) :
    ((producedParameter runId dag output).run s w).1 = .ok value ↔
      record.outputParameters.get? key = some value := by
  obtain ⟨leaf, v, produced, rfl⟩ := traced
  obtain ⟨rfl, start, hops, way⟩ := producedBy_run keyed produced
  obtain rfl : record = leaf := by
    rw [way.leaf_stored] at stored
    exact (Option.some.inj stored).symm
  rw [producedParameter, Plan.run_bind, produced]
  dsimp only
  cases record.outputParameters.get? key <;> simp [Result.fail]

/-- A traced artifact is read from the artifacts of the execution, unless these cannot be read. -/
theorem artifact_run (keyed : w.store.Keyed)
    (traced : TracedTo .artifact s w runId dag output id key) {a : OutputArtifact}
    (found : (w.store.outputArtifactsOf id).get? key = some a) :
    ((producedArtifact runId dag output).run s w).1 =
      match s.storeFault .getOutputArtifacts with
      | none => .ok (.single a.toRuntime)
      | some fault => .fail fault := by
  obtain ⟨leaf, v, produced, rfl⟩ := traced
  obtain ⟨rfl, start, hops, way⟩ := producedBy_run keyed produced
  rw [producedArtifact, Plan.run_bind, produced]
  dsimp only
  rw [Plan.run_bind]
  simp only [Plan.perform, Plan.run, World.answer, Services.fault?, Call.operation?]
  cases fault : s.storeFault .getOutputArtifacts with
  | none => simp [fault, World.serve, found]
  | some fault' => simp [fault, Result.fail]

end TracedTo

/-- The artifacts for which a task gets places. -/
def ExecutorInput.provisioned (input : ExecutorInput) : Dict RuntimeArtifact :=
  match input.outputs with
  | none => ∅
  | some outputs => outputs.artifacts.filterMap ArtifactList.first?

theorem reusedArtifact_ok {stored : Dict OutputArtifact} {name : String} {a : OutputArtifact}
    {declared : RuntimeArtifact} (h : reusedArtifact stored name declared = .ok a) :
    ∃ b, stored.get? name = some b ∧ a = { b with schema := declared.type.schema } := by
  unfold reusedArtifact at h
  cases found : stored.get? name with
  | none => simp [found, Result.fail] at h
  | some b =>
    simp only [found, Except.ok.injEq] at h
    exact ⟨b, rfl, h.symm⟩

/-- Each artifact that is reused is one of those that are stored, with the schema that is declared
now, and each one that is provisioned is reused. -/
theorem reusedArtifacts_ok {stored : Dict OutputArtifact} {input : ExecutorInput}
    {artifacts : List OutputArtifact} (h : reusedArtifacts stored input = .ok artifacts)
    (named : ∀ name a, stored.get? name = some a → a.name = name) :
    (∀ a ∈ artifacts, ∃ declared b, input.provisioned.get? a.name = some declared ∧
      stored.get? a.name = some b ∧ a = { b with schema := declared.type.schema }) ∧
    (∀ name, (input.provisioned.get? name).isSome → ∃ a ∈ artifacts, a.name = name) := by
  unfold reusedArtifacts at h
  unfold ExecutorInput.provisioned
  cases outputs : input.outputs with
  | none =>
    simp only [outputs, Except.ok.injEq] at h
    simp [← h]
  | some places =>
    simp only [outputs] at h
    obtain ⟨back, forth⟩ := mapM_ok h
    constructor
    · intro a member
      obtain ⟨⟨name, declared⟩, listed, reused⟩ := back a member
      obtain ⟨b, found, rfl⟩ := reusedArtifact_ok reused
      obtain rfl := named name b found
      exact ⟨declared, b, SortedMap.get?_eq_some_iff.2 listed, found, rfl⟩
    · intro name provisioned
      obtain ⟨declared, found⟩ := Option.isSome_iff_exists.1 provisioned
      obtain ⟨a, member, reused⟩ := forth _ (SortedMap.get?_eq_some_iff.1 found)
      obtain ⟨b, found, rfl⟩ := reusedArtifact_ok reused
      exact ⟨_, member, named name b found⟩

/-- Once the artifacts of `x` are reused for `y`, which had none, `y` has those that are provisioned,
each like that of `x` but with the schema that is declared now. -/
theorem reusedArtifacts_published {base final : Store} {x y : Int} {input : ExecutorInput}
    {artifacts : List OutputArtifact}
    (published : final = artifacts.foldl (fun s a => s.addOutputArtifact y a) base)
    (h : reusedArtifacts (base.outputArtifactsOf x) input = .ok artifacts)
    (named : ∀ name a, (base.outputArtifactsOf x).get? name = some a → a.name = name)
    (empty : base.outputArtifactsOf y = ∅) :
    (∀ name a, (final.outputArtifactsOf y).get? name = some a → ∃ declared b,
      input.provisioned.get? name = some declared ∧
      (base.outputArtifactsOf x).get? name = some b ∧
      a = { b with id := a.id, schema := declared.type.schema }) ∧
    (∀ name, (input.provisioned.get? name).isSome → ∃ a b,
      (final.outputArtifactsOf y).get? name = some a ∧
      (final.outputArtifactsOf x).get? name = some b ∧ a.toRuntime = b.toRuntime) := by
  obtain ⟨each, all⟩ := reusedArtifacts_ok h named
  have origin (name : String) (a : OutputArtifact)
      (found : (final.outputArtifactsOf y).get? name = some a) : ∃ declared b,
      input.provisioned.get? name = some declared ∧
      (base.outputArtifactsOf x).get? name = some b ∧
      a = { b with id := a.id, schema := declared.type.schema } := by
    rw [published] at found
    rcases Store.addOutputArtifacts_found found with ⟨c, member, rfl, same⟩ | old
    · obtain ⟨declared, b, provisioned, stored, form⟩ := each c member
      exact ⟨declared, b, provisioned, stored, by rw [same, form]⟩
    · rw [empty] at old
      cases old
  refine ⟨origin, fun name provisioned => ?_⟩
  obtain ⟨a, member, rfl⟩ := all name provisioned
  have some : ((final.outputArtifactsOf y).get? a.name).isSome := by
    rw [published]
    exact Store.addOutputArtifacts_isSome (.inl ⟨a, member, rfl⟩)
  obtain ⟨c, found⟩ := Option.isSome_iff_exists.1 some
  obtain ⟨declared, b, _, known, form⟩ := origin _ c found
  -- `y` had nothing to reuse, so it is not `x`, which keeps what it has
  have other : x ≠ y := by
    rintro rfl
    rw [empty] at known
    cases known
  refine ⟨c, b, found, ?_, by rw [form]; rfl⟩
  rw [published, Store.addOutputArtifacts_other other]
  exact known

variable {o : Options} {d : Driver} {t : ContainerTask} {e : Execution}

/-- A run that reuses an execution has looked it up for its task. -/
theorem Options.runContainer_reuses (looks : d.extension.Looks) (creates : o.devMode = false)
    (h : (o.runContainer d).run s w = (.ok e, w')) (hit : e.cached = some true) :
    ∃ (t : ContainerTask) (v : World) (x : Int) (fingerprint : String) (u : World),
      (o.containerTask d).run s w = (.ok t, v) ∧ t.Prepared o d s w v ∧
      d.config.isDummyImage t.container.image = false ∧ t.willTrigger = true ∧
      t.LookedUp s v fingerprint (some x) ∧ u.store = (t.created v fingerprint (some x)).2 ∧
      e = { t.execution (t.created v fingerprint (some x)).1.id with cached := some true } ∧
      (reuseOutputs (t.created v fingerprint (some x)).1 t.input x).run s u = (.ok (), w') := by
  rw [Options.runContainer_eq, Plan.run_within_ok_iff] at h
  obtain ⟨t, v, prepares, ends⟩ := Plan.run_bind_ok_iff.1 h
  have prepared := Options.containerTask_ok prepares
  split at ends
  · obtain ⟨rfl, _⟩ := t.runPlatformOperation_ok (prepared.options ▸ creates) ends
    cases hit
  · rename_i operation
    obtain ⟨fingerprint, found, u, record, known, rfl, store, cache, runs, goesOn⟩ :=
      t.launch_ok (prepared.options ▸ creates) looks ends
    cases goesOn with
    | skip => cases hit
    | @reuse x _ triggers reused =>
      exact ⟨t, v, x, fingerprint, u, prepares, prepared, by simpa using operation, triggers, known,
        store, rfl, reused⟩
    | launch => cases hit

/-- The execution `y` stands in for `x`. What is traced to either of them resolves alike: parameters
under any name, artifacts under the names that `y` has places for. The artifacts of `y` have the
schemas that its component declares, and its logs have a schema of their own. -/
structure StandsIn (o : Options) (input : ExecutorInput) (w : World) (y x : Int) : Prop where
  parameters : ∀ s runId dag output runId' dag' output' key,
    TracedTo .parameter s w runId dag output y key →
    TracedTo .parameter s w runId' dag' output' x key →
    ∀ value, ((producedParameter runId dag output).run s w).1 = .ok value ↔
      ((producedParameter runId' dag' output').run s w).1 = .ok value
  artifacts : ∀ name, (input.provisioned.get? name).isSome → ∃ a b,
    (w.store.outputArtifactsOf y).get? name = some a ∧
    (w.store.outputArtifactsOf x).get? name = some b ∧ a.toRuntime = b.toRuntime
  resolved : ∀ name, (input.provisioned.get? name).isSome →
    ∀ s runId dag output runId' dag' output',
      TracedTo .artifact s w runId dag output y name →
      TracedTo .artifact s w runId' dag' output' x name →
      ((producedArtifact runId dag output).run s w).1 =
        ((producedArtifact runId' dag' output').run s w).1
  schemas : ∀ name a, (w.store.outputArtifactsOf y).get? name = some a →
    if name = logsArtifact ∧ o.publishLogs = "true" then a.schema = "system.Artifact"
    else ∃ component definition, o.component = some component ∧
      component.outputs.artifacts.get? name = some definition ∧ a.schema = definition.type.schema

theorem StandsIn.of_stored {input : ExecutorInput} {x y : Int} {record earlier : ExecutionRecord}
    (keyed : w.store.Keyed) (stored : w.store.executions.get? y = some record)
    (before : w.store.executions.get? x = some earlier)
    (outputs : record.outputParameters = earlier.outputParameters)
    (artifacts : ∀ name, (input.provisioned.get? name).isSome → ∃ a b,
      (w.store.outputArtifactsOf y).get? name = some a ∧
      (w.store.outputArtifactsOf x).get? name = some b ∧ a.toRuntime = b.toRuntime)
    (schemas : ∀ name a, (w.store.outputArtifactsOf y).get? name = some a →
      if name = logsArtifact ∧ o.publishLogs = "true" then a.schema = "system.Artifact"
      else ∃ component definition, o.component = some component ∧
        component.outputs.artifacts.get? name = some definition ∧
        a.schema = definition.type.schema) : StandsIn o input w y x where
  parameters s runId dag output runId' dag' output' key traced traced' value := by
    rw [traced.parameter_run keyed stored, traced'.parameter_run keyed before, outputs]
  artifacts
  resolved name provisioned s runId dag output runId' dag' output' traced traced' := by
    obtain ⟨a, b, here, there, same⟩ := artifacts name provisioned
    rw [traced.artifact_run keyed here, traced'.artifact_run keyed there, same]
  schemas

namespace ContainerTask.Prepared

variable {v : World}

theorem provisioned_type (prepared : t.Prepared o d s w v) (triggers : t.willTrigger = true)
    {name : String} {declared : RuntimeArtifact}
    (h : t.input.provisioned.get? name = some declared) :
    ∃ definition, (outputArtifacts t.component.outputs t.publishLogs).get? name = some definition ∧
      declared.type = definition.type := by
  rw [ExecutorInput.provisioned, prepared.outputs, if_pos triggers] at h
  simp only [provisioned, provisionOutputs, SortedMap.get?_filterMap, SortedMap.get?_mapWithKey]
    at h
  obtain ⟨list, mapped, first⟩ := Option.bind_eq_some_iff.1 h
  obtain ⟨definition, found, rfl⟩ := Option.map_eq_some_iff.1 mapped
  obtain ⟨⟩ := first
  exact ⟨definition, found, rfl⟩

/-- What is provisioned for a task has the types that its component declares, except for logs. -/
theorem provisioned_schema (prepared : t.Prepared o d s w v) (triggers : t.willTrigger = true)
    (operation : d.config.isDummyImage t.container.image = false) {name : String}
    {declared : RuntimeArtifact} (h : t.input.provisioned.get? name = some declared) :
    if name = logsArtifact ∧ o.publishLogs = "true" then declared.type.schema = "system.Artifact"
    else ∃ component definition, o.component = some component ∧
      component.outputs.artifacts.get? name = some definition ∧
      declared.type.schema = definition.type.schema := by
  obtain ⟨definition, found, same⟩ := prepared.provisioned_type triggers h
  have publishLogs : t.publishLogs = o.publishLogs := by simp [prepared.publishLogs, operation]
  rw [outputArtifacts_get?, publishLogs] at found
  rw [same]
  split at found
  · obtain rfl := Option.some.inj found
    rw [if_pos ‹_›]
    rfl
  · rw [if_neg ‹_›]
    exact ⟨t.component, definition, prepared.component, found, rfl⟩

/-- A task that ends with the outputs of an execution is stored with them beside it, even if that
execution is its own. -/
theorem ended_beside (prepared : t.Prepared o d s w v) (ordered : w.store.Ordered) {x : Int}
    {fingerprint : String} {earlier : ExecutionRecord} {final : Store}
    (before : (t.created v fingerprint (some x)).2.executions.get? x = some earlier)
    (executions : final.executions = v.store.executions.insert
      (t.created v fingerprint (some x)).1.id
      (t.ended v fingerprint (some x) .cached earlier.outputParameters)) :
    final.Keyed ∧ ∃ earlier', final.executions.get? (t.created v fingerprint (some x)).1.id =
        some (t.ended v fingerprint (some x) .cached earlier'.outputParameters) ∧
      final.executions.get? x = some earlier' := by
  refine ⟨(prepared.ordered ordered).keyed.insert ?_ executions, ?_⟩
  · rfl
  change (v.store.executions.insert (t.created v fingerprint (some x)).1.id _).get? x = _ at before
  rw [executions, SortedMap.get?_insert_self, SortedMap.get?_insert]
  by_cases own : x = (t.created v fingerprint (some x)).1.id
  · exact ⟨t.ended v fingerprint (some x) .cached earlier.outputParameters, rfl, if_pos own⟩
  · rw [SortedMap.get?_insert, if_neg own] at before
    exact ⟨earlier, rfl, (if_neg own).trans before⟩

/-- An execution that was reused for a task stands in for the one that it ends with. -/
theorem standsIn (prepared : t.Prepared o d s w v) (ordered : w.store.Ordered)
    (operation : d.config.isDummyImage t.container.image = false) (triggers : t.willTrigger = true)
    {x : Int} {fingerprint : String} {u : World}
    (store : u.store = (t.created v fingerprint (some x)).2)
    (reused : (reuseOutputs (t.created v fingerprint (some x)).1 t.input x).run s u =
      (.ok (), w')) :
    ∃ earlier, w'.store.executions.get? (t.created v fingerprint (some x)).1.id =
        some (t.ended v fingerprint (some x) .cached earlier.outputParameters) ∧
      w'.store.executions.get? x = some earlier ∧
      StandsIn o t.input w' (t.created v fingerprint (some x)).1.id x := by
  obtain ⟨earlier, artifacts, final, before, collected, published, rfl⟩ := reuseOutputs_ok reused
  rw [store] at before collected published
  replace published := publish_created published
  have named := ((prepared.ordered ordered).create t.scope.pipeline
    (t.config fingerprint (some x))).named x
  have empty := prepared.outputArtifactsOf ordered fingerprint (some x)
  obtain ⟨origin, handed⟩ := reusedArtifacts_published published collected named empty
  have executions : final.executions = v.store.executions.insert
      (t.created v fingerprint (some x)).1.id
      (t.ended v fingerprint (some x) .cached earlier.outputParameters) := by
    rw [published]
    exact Store.foldl_addOutputArtifact_executions ..
  obtain ⟨keyed, earlier', present, stored⟩ := prepared.ended_beside ordered before executions
  refine ⟨earlier', present, stored, .of_stored keyed present stored rfl handed ?_⟩
  intro name a found
  obtain ⟨declared, b, provisioned, _, form⟩ := origin name a found
  have declared := prepared.provisioned_schema triggers operation provisioned
  rw [form]
  exact declared

end ContainerTask.Prepared

/-- When a container invocation reuses an execution, that execution stands in for the new one: it is
the one that the cache holds, and whatever reads the outputs of one finds those of the other. -/
theorem cache_hit_observed (arises : w.store.Arises) (looks : d.extension.Looks)
    (creates : o.devMode = false) (h : (o.runContainer d).run s w = (.ok e, w'))
    (hit : e.cached = some true) :
    ∃ x record earlier input, e.executorInput = some input ∧
      w'.store.executions.get? e.id = some record ∧ record.state = .cached ∧
      w'.store.executions.get? x = some earlier ∧
      w.cache.lookup? ⟨record.fingerprint, CacheIndex.pipelineKey o.pipelineName, o.nspace⟩ =
        some x ∧ record.cachedExecutionId = Json.intText x ∧
      record.outputParameters = earlier.outputParameters ∧ StandsIn o input w' e.id x := by
  obtain ⟨t, v, x, fingerprint, u, _, prepared, operation, triggers, known, store, rfl, reused⟩ :=
    Options.runContainer_reuses looks creates h hit
  obtain ⟨earlier, stored, before, standsIn⟩ :=
    prepared.standsIn arises.ordered operation triggers store reused
  obtain ⟨_, _, _, holds⟩ := known.of_some rfl
  rw [prepared.cache, ContainerTask.address, prepared.options] at holds
  exact ⟨x, _, earlier, t.input, rfl, stored, rfl, before, holds, rfl, rfl, standsIn⟩

/-- The second run of a task reuses the first one, and what either of them made can be traced. -/
theorem cache_hit_observed_twice : ∃ e w' record earlier input,
    ((Twice.train "second" 3).runContainer {}).run {} Twice.again = (.ok e, w') ∧
    Twice.again.store.Arises ∧ PodExtension.none.Looks ∧
    (Twice.train "second" 3).devMode = false ∧ e.cached = some true ∧
    w'.store.executions.get? e.id = some record ∧ w'.store.executions.get? 2 = some earlier ∧
    record.outputParameters = earlier.outputParameters ∧
    StandsIn (Twice.train "second" 3) input w' e.id 2 ∧
    TracedTo .parameter {} w' "first" (Twice.graph 1) ⟨"train", "loss"⟩ 2 "loss" ∧
    TracedTo .parameter {} w' "second" (Twice.graph 3) ⟨"train", "loss"⟩ e.id "loss" ∧
    TracedTo .artifact {} w' "first" (Twice.graph 1) ⟨"train", "model"⟩ 2 "model" ∧
    TracedTo .artifact {} w' "second" (Twice.graph 3) ⟨"train", "model"⟩ e.id "model" := by
  obtain ⟨e, run, id, hit⟩ := Twice.ran_ok
  obtain ⟨_, known, _, first, second, firstModel, secondModel⟩ := Twice.ran_reuses
  obtain ⟨x, record, earlier, input, _, stored, _, before, _, own, outputs, standsIn⟩ :=
    cache_hit_observed Twice.again_arises PodExtension.none_looks rfl run hit
  rw [← id, stored, Option.map_some, own] at known
  obtain rfl : x = 2 := Json.intText_injective (Option.some.inj known)
  rw [← id] at second secondModel
  exact ⟨e, _, record, earlier, input, run, Twice.again_arises, PodExtension.none_looks, rfl, hit,
    stored, before, outputs, standsIn, .of_map first, .of_map second, .of_map firstModel,
    .of_map secondModel⟩

/-- Logs have a schema of their own, even if the component declares another one for them. -/
theorem cache_hit_observed_logs : ∃ e w' a definition,
    ((Twice.train "second" 3).runContainer {}).run {} Twice.again = (.ok e, w') ∧
    Twice.again.store.Arises ∧ PodExtension.none.Looks ∧
    (Twice.train "second" 3).devMode = false ∧ e.cached = some true ∧
    (w'.store.outputArtifactsOf e.id).get? logsArtifact = some a ∧
    Twice.component.outputs.artifacts.get? logsArtifact = some definition ∧
    a.schema ≠ definition.type.schema := by
  obtain ⟨e, run, id, hit⟩ := Twice.ran_ok
  obtain ⟨_, _, logs, _⟩ := Twice.ran_reuses
  rw [← id] at logs
  obtain ⟨a, found, schema⟩ := Option.map_eq_some_iff.1 logs
  exact ⟨e, _, a, _, run, Twice.again_arises, PodExtension.none_looks, rfl, hit, found, rfl, by
    rw [schema]
    decide⟩

end TaskGraph
