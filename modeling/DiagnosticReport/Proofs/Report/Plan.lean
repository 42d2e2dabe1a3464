import DiagnosticReport.Proofs.Filter
import DiagnosticReport.Report

/-!
# Plans and their execution

A plan holds the jobs of a request in their order, each with the filter for its
checker (`map_snd_plan`, `filterFor_of_mem_plan`). Executing a request that has
jobs and a plan cannot fail, and gives what the results of the planned jobs give
one after another (`execute_eq`). A request for one job alone gives the result
of that job (`execute_only`).
-/

set_option autoImplicit false

namespace DiagnosticReport

namespace ReportRequest

variable {request : ReportRequest} {config : Config} {plan : List (LevelFilter × Job)}

/-- A request for one job, with the format and the levels of this request. -/
def only (request : ReportRequest) (job : Job) : ReportRequest :=
  { request with
    typeScript := if job.checker = .typeScript then [job.input] else []
    vueTsc := if job.checker = .vueTsc then [job.input] else []
    esLint := if job.checker = .esLint then [job.input] else []
    vls := if job.checker = .vls then [job.input] else [] }

theorem jobs_only (request : ReportRequest) (job : Job) : (request.only job).jobs = [job] := by
  obtain ⟨checker, input⟩ := job
  cases checker with
  | typeScript => rfl
  | vueTsc => rfl
  | vls => rfl
  | esLint => rfl

/-- A job is planned with the filter for its checker, or not at all. -/
theorem planned_of_mapM {jobs : List Job}
    (accepted : jobs.mapM (fun job => do
      let filter ← request.filterFor config job.checker
      return (filter, job)) = Except.ok plan) :
    plan.map Prod.snd = jobs ∧
      ∀ planned ∈ plan, request.filterFor config planned.2.checker = .ok planned.1 := by
  have each := mapM_eq_ok_iff.mp accepted
  clear accepted
  induction each with
  | nil => exact ⟨rfl, by simp⟩
  | cons first _ ih =>
      obtain ⟨filter, filtered, same⟩ := bind_eq_ok_iff.mp first
      cases same
      exact ⟨by rw [List.map_cons, ih.1], List.forall_mem_cons.mpr ⟨filtered, ih.2⟩⟩

theorem map_snd_plan (accepted : request.plan config = .ok plan) :
    plan.map Prod.snd = request.jobs :=
  (planned_of_mapM accepted).1

theorem filterFor_of_mem_plan (accepted : request.plan config = .ok plan)
    {planned : LevelFilter × Job} (member : planned ∈ plan) :
    request.filterFor config planned.2.checker = .ok planned.1 :=
  (planned_of_mapM accepted).2 planned member

theorem plan_only {planned : LevelFilter × Job}
    (filtered : request.filterFor config planned.2.checker = .ok planned.1) :
    (request.only planned.2).plan config = .ok [planned] := by
  have sameFilter : (request.only planned.2).filterFor config planned.2.checker =
      .ok planned.1 := filtered
  rw [plan, jobs_only, List.mapM_cons, sameFilter]
  rfl

end ReportRequest

/-! ## Counts -/

namespace Counts

theorem zero_add (counts : Counts) : Counts.add {} counts = counts := by
  simp [Counts.add]

theorem add_zero (counts : Counts) : counts.add {} = counts := rfl

/-- A summand that counts nothing can be left out. -/
theorem foldl_add_eraseIdx {counts : List Counts} {index : Nat} (nothing : counts[index]? = some {})
    (start : Counts) : (counts.eraseIdx index).foldl add start = counts.foldl add start := by
  induction counts generalizing index start with
  | nil => rfl
  | cons first counts ih =>
      cases index with
      | zero =>
          cases nothing
          rw [List.eraseIdx_cons_zero, List.foldl_cons, add_zero]
      | succ index =>
          rw [List.eraseIdx_cons_succ, List.foldl_cons, List.foldl_cons]
          exact ih nothing (start.add first)

end Counts

/-! ## Execution -/

namespace Report

variable {surroundings : Surroundings} {request : ReportRequest}
  {plan : List (LevelFilter × Job)}

/-- What a planned job posts and counts. -/
def resultOf (surroundings : Surroundings) (format : OutputFormat)
    (planned : LevelFilter × Job) : JobResult :=
  planned.2.run surroundings format planned.1

theorem execute_eq (asked : request.jobs ≠ [])
    (accepted : request.plan surroundings.config = .ok plan) (writer : Writer) :
    execute surroundings request writer =
      .ok (collect writer
        ((plan.map (resultOf surroundings request.format)).flatMap JobResult.messages)
        (totalCounts (plan.map (resultOf surroundings request.format)))) := by
  have notEmpty : request.jobs.isEmpty = false := List.isEmpty_eq_false_iff.mpr asked
  rw [execute, notEmpty, accepted]
  rfl

/-- A job alone gives its own result. -/
theorem execute_only {planned : LevelFilter × Job}
    (filtered : request.filterFor surroundings.config planned.2.checker = .ok planned.1)
    (writer : Writer) :
    execute surroundings (request.only planned.2) writer =
      .ok (collect writer (resultOf surroundings request.format planned).messages
        (resultOf surroundings request.format planned).counts) := by
  have asked : (request.only planned.2).jobs ≠ [] := by
    rw [ReportRequest.jobs_only]
    exact List.cons_ne_nil planned.2 []
  rw [execute_eq asked (ReportRequest.plan_only filtered) writer, List.map_singleton,
    List.flatMap_singleton, totalCounts, List.map_singleton, List.foldl_cons, List.foldl_nil,
    Counts.zero_add]
  rfl

/-- A job that fails says so in one line, and counts nothing. -/
theorem resultOf_of_error {format : OutputFormat} {planned : LevelFilter × Job} {error : JobError}
    (fails : planned.2.read surroundings.tree = .error error) :
    resultOf surroundings format planned =
      ⟨[.console (Job.failureLine surroundings.colors planned.2.checker error)], {}⟩ := by
  rw [resultOf, Job.run, fails]

end Report

end DiagnosticReport
