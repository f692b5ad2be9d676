import Mathlib.Data.List.Nodup
import TaskGraph.Proofs.Result
import TaskGraph.Service.Reply
import TaskGraph.World

/-! Requests read by name. Each parameter is read without regard to the others and sets a place of
its own, so the order of parameters does not matter. -/

namespace TaskGraph

/-- The places that parameters set, one for each name. -/
inductive OptionSlot where
  | component
  | runtimeConfig
  | task
  | container
  | platformConfig
  | dagExecutionId
  | iterationIndex
  | driverType
  | pipelineName
  | runId
  | runName
  | runDisplayName
  | experimentId
  | httpProxy
  | httpsProxy
  | noProxy
  | cacheDisabled
  | logLevel
  | publishLogs
  deriving DecidableEq

namespace OptionSlot

def name : OptionSlot → String
  | component => "component"
  | runtimeConfig => "runtime-config"
  | task => "task"
  | container => "container"
  | platformConfig => "kubernetes-config"
  | dagExecutionId => "parent-dag-id"
  | iterationIndex => "iteration-index"
  | driverType => "driver-type"
  | pipelineName => "pipeline_name"
  | runId => "run_id"
  | runName => "run_name"
  | runDisplayName => "run_display_name"
  | experimentId => "experiment_id"
  | httpProxy => "http_proxy"
  | httpsProxy => "https_proxy"
  | noProxy => "no_proxy"
  | cacheDisabled => "cache_disabled"
  | logLevel => "log_level"
  | publishLogs => "publish_logs"

def all : List OptionSlot :=
  [component, runtimeConfig, task, container, platformConfig, dagExecutionId, iterationIndex,
    driverType, pipelineName, runId, runName, runDisplayName, experimentId, httpProxy, httpsProxy,
    noProxy, cacheDisabled, logLevel, publishLogs]

abbrev Value : OptionSlot → Type
  | component => ComponentSpec
  | runtimeConfig => RuntimeConfig
  | task => TaskSpec
  | container => ContainerSpec
  | platformConfig => Dict Json
  | dagExecutionId | iterationIndex => Int
  | cacheDisabled => Bool
  | _ => String

def put (d : OptionsDraft) : (slot : OptionSlot) → slot.Value → OptionsDraft
  | component, c => { d with options.component := some c }
  | runtimeConfig, c => { d with options.runtimeConfig := some c }
  | task, t => { d with options.task := some t }
  | container, c => { d with options.container := some c }
  | platformConfig, c => { d with options.platformConfig := some c }
  | dagExecutionId, id => { d with options.dagExecutionId := id }
  | iterationIndex, i => { d with options.iterationIndex := i }
  | driverType, t => { d with driverType := t }
  | pipelineName, s => { d with options.pipelineName := s }
  | runId, s => { d with options.runId := s }
  | runName, s => { d with options.runName := s }
  | runDisplayName, s => { d with options.runDisplayName := s }
  | experimentId, s => { d with options.experimentId := s }
  | httpProxy, s => { d with options.proxy.httpProxy := s }
  | httpsProxy, s => { d with options.proxy.httpsProxy := s }
  | noProxy, s => { d with options.proxy.noProxy := s }
  | cacheDisabled, b => { d with options.cacheDisabled := b }
  | logLevel, s => { d with options.logLevel := s }
  | publishLogs, s => { d with options.publishLogs := s }

/-- A spec that is left as it is by an empty text. -/
def optionalSpec {α : Type} [JsonCodec α] (fault : RequestFault) (text : String) :
    Except RequestFault (Option α) :=
  if text.isEmpty then .ok none else (OptionsDraft.spec fault text).map some

/-- What a text sets a place to, if it changes it. -/
def read : (slot : OptionSlot) → String → Except RequestFault (Option slot.Value)
  | component, text => (OptionsDraft.spec (.malformed "component") text).map some
  | runtimeConfig, text => optionalSpec (.malformed "runtime config") text
  | task, text => optionalSpec (.malformed "task") text
  | container, text => (OptionsDraft.spec (.malformed "container") text).map some
  | platformConfig, text => optionalSpec .malformedPlatformConfig text
  | dagExecutionId, text => (OptionsDraft.integer "parent-dag-id" text).map some
  | iterationIndex, text => (OptionsDraft.integer "iteration-index" text).map some
  | cacheDisabled, text => (OptionsDraft.flag text).map some
  | driverType, text | pipelineName, text | runId, text | runName, text | runDisplayName, text
  | experimentId, text | httpProxy, text | httpsProxy, text | noProxy, text | logLevel, text
  | publishLogs, text => .ok (some text)

variable {d : OptionsDraft} {text : String}

theorem put_comm {slot slot' : OptionSlot} (apart : slot ≠ slot') (d : OptionsDraft)
    (v : slot.Value) (v' : slot'.Value) :
    slot'.put (slot.put d v) v' = slot.put (slot'.put d v') v := by
  cases slot <;> cases slot' <;> first | rfl | exact absurd rfl apart

theorem set_read {α : Type} (r : Except RequestFault α) (f : α → OptionsDraft) :
    (do return f (← r)) = (r.map some).map fun v => v.elim d f := by
  cases r <;> rfl

theorem set_optionalSpec {α : Type} [JsonCodec α] {unchanged : Option α} {fault : RequestFault}
    {f : Option α → OptionsDraft} (same : f unchanged = d) :
    (do return f (← OptionsDraft.specOr unchanged fault text)) =
      (optionalSpec fault text).map fun v => v.elim d fun x => f (some x) := by
  unfold OptionsDraft.specOr optionalSpec
  by_cases empty : text.isEmpty
  · rw [if_pos empty, if_pos empty, ← same]
    rfl
  · rw [if_neg empty, if_neg empty]
    cases OptionsDraft.spec (α := α) fault text <;> rfl

/-- A parameter sets the place of its name to what it reads. -/
theorem set_name (slot : OptionSlot) :
    d.set slot.name text = (slot.read text).map fun v => v.elim d (slot.put d) := by
  cases slot with
  | component => exact set_read _ _
  | container => exact set_read _ _
  | dagExecutionId => exact set_read _ _
  | iterationIndex => exact set_read _ _
  | cacheDisabled => exact set_read _ _
  | runtimeConfig => exact set_optionalSpec rfl
  | task => exact set_optionalSpec rfl
  | platformConfig => exact set_optionalSpec rfl
  | _ => rfl

theorem set_unknown {name : String} (unknown : ∀ slot : OptionSlot, slot.name ≠ name) :
    d.set name text = .ok d := by
  have absent : name ∉ all.map OptionSlot.name := by
    intro member
    obtain ⟨slot, -, same⟩ := List.mem_map.1 member
    exact unknown slot same
  unfold OptionsDraft.set
  split
  all_goals first | rfl | exact absurd (by decide) absent

end OptionSlot

namespace OptionsDraft

variable {d : OptionsDraft} {name name' text text' : String}

/-- Parameters of different names are set in either order. -/
theorem set_comm (apart : name ≠ name') :
    (d.set name text >>= (·.set name' text')).toOption =
      (d.set name' text' >>= (·.set name text)).toOption := by
  by_cases known : ∃ slot : OptionSlot, slot.name = name
  · by_cases known' : ∃ slot : OptionSlot, slot.name = name'
    · obtain ⟨slot, rfl⟩ := known
      obtain ⟨slot', rfl⟩ := known'
      have others : slot ≠ slot' := fun same => apart (congrArg OptionSlot.name same)
      simp only [OptionSlot.set_name]
      cases slot.read text with
      | error e => cases slot'.read text' <;> rfl
      | ok v =>
        cases slot'.read text' with
        | error e => rfl
        | ok v' =>
          cases v with
          | none => cases v' <;> rfl
          | some v =>
            cases v' with
            | none => rfl
            | some v' => exact congrArg some (OptionSlot.put_comm others d v v')
    · simp only [OptionSlot.set_unknown (not_exists.1 known'), ok_bind]
      cases d.set name text <;> rfl
  · simp only [OptionSlot.set_unknown (not_exists.1 known), ok_bind]
    cases d.set name' text' <;> rfl

end OptionsDraft

namespace TemplateParameter

variable {p : TemplateParameter}

/-- A parameter that sets nothing: an unknown one, or one without a text where that is allowed. -/
inductive Ignored (p : TemplateParameter) : Prop where
  | unknown (name : ∀ slot : OptionSlot, slot.name ≠ p.name)
  | empty (text : p.valueText = "")
      (name : p.name ∈ ["runtime-config", "task", "kubernetes-config"])

theorem Ignored.set (ignored : p.Ignored) (d : OptionsDraft) :
    d.set p.name p.valueText = .ok d := by
  cases ignored with
  | unknown name => exact OptionSlot.set_unknown name
  | empty text name =>
    rw [text]
    simp only [List.mem_cons, List.not_mem_nil, or_false] at name
    rcases name with name | name | name <;> rw [name] <;> rfl

end TemplateParameter

namespace TemplateRequest

variable {r : TemplateRequest} {file : Option String} {ps qs : List TemplateParameter}

def withParameters (r : TemplateRequest) (ps : List TemplateParameter) : TemplateRequest :=
  { r with template.parameters := ps }

/-- What the parameters set, one after the other. -/
def draft (ps : List TemplateParameter) : Except RequestFault OptionsDraft :=
  ps.foldlM (fun d p => d.set p.name p.valueText) {}

theorem options_withParameters (r : TemplateRequest) (file : Option String)
    (ps : List TemplateParameter) : (r.withParameters ps).options file =
      match r.template.plugin with
      | none => .error .noPlugin
      | some plugin =>
        if plugin.contains pluginName then draft ps >>= (·.finish file)
        else .error .otherPlugin := by
  unfold options withParameters draft
  cases r.template.plugin <;> rfl

/-- Options come from a plugin's request whose parameters can all be read. -/
theorem options_eq_ok_iff {o : Options × DriverType} :
    (r.withParameters ps).options file = .ok o ↔
      (∃ plugin, r.template.plugin = some plugin ∧ plugin.contains pluginName = true) ∧
      ∃ d, draft ps = .ok d ∧ d.finish file = .ok o := by
  rw [options_withParameters]
  cases r.template.plugin with
  | none => simp
  | some plugin =>
    by_cases known : plugin.contains pluginName
    · simp [known, bind_eq_ok_iff]
    · simp [known]

theorem draft_of_perm (perm : ps.Perm qs) (distinct : (ps.map (·.name)).Nodup) :
    (draft ps).toOption = (draft qs).toOption := by
  refine foldlM_toOption_of_perm perm (fun p hp q hq d => ?_) _
  by_cases same : p.name = q.name
  · rw [List.inj_on_of_nodup_map distinct hp hq same]
  · exact OptionsDraft.set_comm same

theorem draft_insert {p : TemplateParameter} (ignored : p.Ignored)
    (before after : List TemplateParameter) :
    draft (before ++ p :: after) = draft (before ++ after) := by
  simp only [draft, List.foldlM_append, List.foldlM_cons, ignored.set, ok_bind]

/-- Parameters count by their names: a request whose names are distinct gives the same options in
whatever order its parameters come, and parameters that set nothing may come and go. A request that
is refused is answered without a call to any service. -/
theorem options_by_name (r : TemplateRequest) (file : Option String) :
    ((r.template.parameters.map (·.name)).Nodup → ∀ ps, ps.Perm r.template.parameters →
      ∀ o, (r.withParameters ps).options file = .ok o ↔ r.options file = .ok o) ∧
    (∀ before p after, p.Ignored → (r.withParameters (before ++ p :: after)).options file =
      (r.withParameters (before ++ after)).options file) ∧
    ∀ fault, r.options file = .error fault → ∀ (d : Driver) s w,
      (d.reply file r).run s w = (.ok (.error (.request fault)), w) := by
  refine ⟨?_, ?_, ?_⟩
  · intro distinct ps perm o
    have own : r = r.withParameters r.template.parameters := rfl
    rw [options_eq_ok_iff, own, options_eq_ok_iff]
    simp only [← toOption_eq_some_iff (r := draft _), draft_of_perm perm.symm distinct]
    rfl
  · intro before p after ignored
    rw [options_withParameters, options_withParameters, draft_insert ignored]
  · intro fault refused d s w
    rw [Driver.reply, refused]
    rfl

namespace Nightly

def parameters : List TemplateParameter :=
  [.ofText "driver-type" "DAG", .ofText "pipeline_name" "nightly", .ofText "iteration-index" "3",
    .ofText "http_proxy" "proxy:3128", .ofText "no_proxy" "localhost",
    .ofText "cache_disabled" "true"]

def request : TemplateRequest where
  template := { parameters, plugin := some (.ofList [(pluginName, .null)]) }

end Nightly

/-- Six parameters set the same options from first to last and from last to first, and with an empty
task besides. Without a namespace the request is refused. -/
theorem options_by_name_reversed :
    (∃ o, Nightly.request.options (some "kubeflow") = .ok (o, .dag) ∧
      o.pipelineName = "nightly" ∧ o.iterationIndex = 3 ∧ o.cacheDisabled = true ∧
      o.proxy = { httpProxy := "proxy:3128", noProxy := "localhost" } ∧
      (Nightly.request.withParameters Nightly.parameters.reverse).options (some "kubeflow") =
        .ok (o, .dag)) ∧
    (Nightly.request.withParameters (.ofText "task" "" :: Nightly.parameters)).options
        (some "kubeflow") = Nightly.request.options (some "kubeflow") ∧
    ∀ (d : Driver) s w,
      (d.reply none Nightly.request).run s w = (.ok (.error (.request .noNamespace)), w) := by
  obtain ⟨reordered, ignored, -⟩ := options_by_name Nightly.request (some "kubeflow")
  refine ⟨⟨_, rfl, rfl, rfl, rfl, rfl, ?_⟩, ignored [] _ _ (.empty rfl (by decide)), ?_⟩
  · exact (reordered (by decide) _ (List.reverse_perm _) _).2 rfl
  · exact (options_by_name Nightly.request none).2.2 .noNamespace rfl

end TemplateRequest

end TaskGraph
