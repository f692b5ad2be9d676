import TaskGraph.Proofs.Growth

/-! The pipelines of runs. The first query for a run sets its pipeline up, and from then on every
query for the run finds the pipeline as it was set up. -/

namespace TaskGraph.Store

variable {s s' : Store} {name runId : String} {p : Pipeline} {q : PipelineQuery}

theorem pipeline_of_found (found : s.pipeline? q.name q.runId = some p) :
    s.pipeline q = (p, s) := by
  simp only [pipeline, found]

theorem pipeline_of_absent (absent : s.pipeline? q.name q.runId = none) :
    s.pipeline q =
      (⟨s.lastContext + 1, q.name, q.runId, q.nspace, q.root, q.session⟩,
        { s with
          lastContext := s.lastContext + 1
          pipelines := s.pipelines ++
            [⟨s.lastContext + 1, q.name, q.runId, q.nspace, q.root, q.session⟩] }) := by
  simp only [pipeline, absent]

/-- A query sets up the pipeline of its own run, if there was none, and leaves all others. -/
theorem pipeline?_pipeline (s : Store) (q : PipelineQuery) (name runId : String) :
    (s.pipeline q).2.pipeline? name runId = (s.pipeline? name runId).or
      (if q.name = name ∧ q.runId = runId then some (s.pipeline q).1 else none) := by
  cases known : s.pipeline? q.name q.runId with
  | some p =>
    rw [pipeline_of_found known]
    split
    · rename_i same
      rw [← same.1, ← same.2, known]
      rfl
    · simp
  | none =>
    rw [pipeline_of_absent known]
    simp only [pipeline?, List.find?_append]
    congr 1
    by_cases same : q.name = name ∧ q.runId = runId
    · simp [same]
    · rw [if_neg same]
      simpa using same

/-- The pipeline that a query is answered with is the one that is kept. -/
theorem pipeline?_pipeline_self (s : Store) (q : PipelineQuery) :
    (s.pipeline q).2.pipeline? q.name q.runId = some (s.pipeline q).1 := by
  rw [pipeline?_pipeline]
  cases known : s.pipeline? q.name q.runId with
  | some p => simp [pipeline_of_found known]
  | none => simp

theorem pipeline_again (s : Store) (q : PipelineQuery) :
    (s.pipeline q).2.pipeline q = ((s.pipeline q).1, (s.pipeline q).2) :=
  pipeline_of_found (s.pipeline?_pipeline_self q)

/-- A pipeline that was set up stays as it is. -/
theorem Takes.pipeline?_eq_some {c : Call} {reply : Result c.Reply} (takes : s.Takes c reply s')
    (known : s.pipeline? name runId = some p) : s'.pipeline? name runId = some p := by
  cases takes with
  | refused | other => exact known
  | pipeline q => rw [pipeline?_pipeline, known]; rfl
  | create p' config => exact known
  | publish h => rwa [pipeline?, publish_pipelines h]

end TaskGraph.Store
