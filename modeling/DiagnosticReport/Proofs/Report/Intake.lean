import DiagnosticReport.Proofs.Filter
import DiagnosticReport.Proofs.Report.Schedule

/-!
# Level names come before any work

A report is taken in job by job: each job gets the filter for its checker, and
only when all have one do the workers start. `Intake` is a report from its
request on, with this first part; the workers and the coordinator then take the
steps of a report under way.

The first unknown level name ends a report (`plan_eq_error_iff`). Whatever was
done before that, no worker has started, nothing was posted and nothing was
written (`Intake.Planning.untouched`), and nothing can be done any more. A report
whose names are all known comes to its workers (`Intake.exists_planned`).
-/

set_option autoImplicit false

namespace DiagnosticReport

/-! ## The names that a report reads -/

namespace ReportRequest

/-- The level names for a checker: those of the request, or else those of the
configuration. -/
def namesFor (request : ReportRequest) (config : Config) (checker : Checker) : List String :=
  request.levels.getD (config.levels.namesFor checker)

/-- All level names that a report reads, job by job. -/
def namesRead (request : ReportRequest) (config : Config) : List String :=
  request.jobs.flatMap fun job => request.namesFor config job.checker

/-- Jobs with their filters. -/
def planOf (request : ReportRequest) (config : Config) (jobs : List Job) :
    Except UnknownLevel (List (LevelFilter × Job)) :=
  jobs.mapM fun job => do
    let filter ← request.filterFor config job.checker
    return (filter, job)

variable {request : ReportRequest} {config other : Config} {unknown : UnknownLevel}

theorem filterFor_eq (request : ReportRequest) (config : Config) (checker : Checker) :
    request.filterFor config checker = LevelFilter.ofNames (request.namesFor config checker) := by
  rw [filterFor, namesFor]
  cases request.levels with
  | none => rfl
  | some names => rfl

/-- A job is refused for the first unknown name of its own list. -/
theorem planned_eq_error_iff (job : Job) (unknown : UnknownLevel) :
    (do let filter ← request.filterFor config job.checker; return (filter, job)) =
        (Except.error unknown : Except UnknownLevel (LevelFilter × Job)) ↔
      FirstUnknown (request.namesFor config job.checker) unknown := by
  rw [bind_eq_error_iff, filterFor_eq, LevelFilter.ofNames_eq_error_iff]
  simp [pure, Except.pure]

/-- Some name that a report reads is unknown exactly if the request has jobs, and
names itself an unknown level, or names no levels and leaves a job to a list of
the configuration with an unknown level. -/
theorem exists_unknown_read_iff :
    (∃ name ∈ request.namesRead config, Level.NamesNone name) ↔
      request.jobs ≠ [] ∧
        ((∃ names, request.levels = some names ∧ ∃ name ∈ names, Level.NamesNone name) ∨
          request.levels = none ∧ ∃ job ∈ request.jobs,
            ∃ name ∈ config.levels.namesFor job.checker, Level.NamesNone name) := by
  have read : ∀ name, name ∈ request.namesRead config ↔
      ∃ job ∈ request.jobs, name ∈ request.namesFor config job.checker := by
    intro name
    exact List.mem_flatMap
  simp only [read, namesFor]
  constructor
  · rintro ⟨name, ⟨job, member, listed⟩, unknown⟩
    refine ⟨List.ne_nil_of_mem member, ?_⟩
    cases levels : request.levels with
    | none =>
        rw [levels] at listed
        exact .inr ⟨rfl, job, member, name, listed, unknown⟩
    | some names =>
        rw [levels] at listed
        exact .inl ⟨names, rfl, name, listed, unknown⟩
  · rintro ⟨asked, ⟨names, levels, name, listed, unknown⟩ | ⟨levels, job, member, name, listed, unknown⟩⟩
    · obtain ⟨job, member⟩ := List.exists_mem_of_ne_nil _ asked
      rw [levels]
      exact ⟨name, ⟨job, member, listed⟩, unknown⟩
    · rw [levels]
      exact ⟨name, ⟨job, member, listed⟩, unknown⟩

/-- **There is no plan exactly if some name is unknown**, and the first such name
is reported. -/
theorem plan_eq_error_iff :
    request.plan config = .error unknown ↔ FirstUnknown (request.namesRead config) unknown :=
  mapM_eq_error_iff_firstUnknown planned_eq_error_iff

/-- Only the lists of checkers that have a job are read, and none if the request
has names of its own. -/
theorem plan_congr
    (same : request.levels = none → ∀ job ∈ request.jobs,
      other.levels.namesFor job.checker = config.levels.namesFor job.checker) :
    request.plan other = request.plan config := by
  refine mapM_congr fun job member => ?_
  have filters : request.filterFor other job.checker = request.filterFor config job.checker := by
    rw [filterFor_eq, filterFor_eq, namesFor, namesFor]
    cases levels : request.levels with
    | none => rw [same levels job member]
    | some names => rfl
  rw [filters]

theorem planOf_cons {job : Job} {filter : LevelFilter}
    (filtered : request.filterFor config job.checker = .ok filter) (jobs : List Job) :
    request.planOf config (job :: jobs) = (request.planOf config jobs).map ((filter, job) :: ·) := by
  rw [planOf, List.mapM_cons, filtered, ← planOf]
  rfl

/-- Jobs that have their filters are planned with them. -/
theorem planOf_eq_ok {plan : List (LevelFilter × Job)}
    (filters : ∀ planned ∈ plan, request.filterFor config planned.2.checker = .ok planned.1) :
    request.planOf config (plan.map Prod.snd) = .ok plan := by
  induction plan with
  | nil => rfl
  | cons planned plan ih =>
      obtain ⟨here, others⟩ := List.forall_mem_cons.mp filters
      rw [List.map_cons, planOf_cons here, ih others]
      rfl

end ReportRequest

namespace Report

/-! ## From request to workers -/

/-- A report from its request on. -/
structure Intake where
  /-- The jobs that have no filter yet. -/
  unplanned : List Job
  /-- The unknown level for which the report was refused. -/
  refused : Option UnknownLevel
  /-- The workers and what they have done. -/
  state : State

/-- The writer of a report that is about to start; a report without jobs has said
so. -/
def openingWriter (surroundings : Surroundings) (request : ReportRequest) (writer : Writer) :
    Writer :=
  if request.jobs.isEmpty then writer.print (noJobsLine surroundings.colors) else writer

/-- The report when nothing has been done. A report without jobs says so. -/
def Intake.initial (surroundings : Surroundings) (request : ReportRequest) (writer : Writer) :
    Intake :=
  ⟨request.jobs, none, .initial [] (openingWriter surroundings request writer)⟩

/-- The report with one more job that waits for its worker. -/
def Intake.enlist (intake : Intake) (planned : LevelFilter × Job) (unplanned : List Job) : Intake :=
  { intake with
    unplanned
    state := { intake.state with waiting := intake.state.waiting ++ [planned] } }

section

variable (surroundings : Surroundings) (request : ReportRequest)

/-- One action. -/
inductive Intake.Step : Intake → Intake → Prop where
  /-- The next job gets its filter. -/
  | plan {intake : Intake} {job : Job} {unplanned : List Job} {filter : LevelFilter}
      (accepted : intake.refused = none) (next : intake.unplanned = job :: unplanned)
      (filtered : request.filterFor surroundings.config job.checker = .ok filter) :
      Step intake (intake.enlist (filter, job) unplanned)
  /-- The next job has an unknown level name. -/
  | refuse {intake : Intake} {job : Job} {unplanned : List Job} {unknown : UnknownLevel}
      (accepted : intake.refused = none) (next : intake.unplanned = job :: unplanned)
      (failed : request.filterFor surroundings.config job.checker = .error unknown) :
      Step intake { intake with refused := some unknown }
  /-- All jobs have their filters, and a worker or the coordinator acts. -/
  | work {intake : Intake} {later : State} (accepted : intake.refused = none)
      (planned : intake.unplanned = [])
      (step : Report.Step surroundings request.format intake.state later) :
      Step intake { intake with state := later }

/-- Any number of actions. -/
abbrev Intake.Steps : Intake → Intake → Prop :=
  Relation.ReflTransGen (Intake.Step surroundings request)

end

/-- Nothing was written, no worker has started and nothing was posted. -/
structure Untouched (writer : Writer) (state : State) : Prop where
  written : state.writer = writer
  noWorkers : state.workers = []
  nothingPosted : state.channel = []
  nothingArrived : state.arrived = []
  noEnvelopes : state.envelopes = []

variable {surroundings : Surroundings} {request : ReportRequest} {writer : Writer}
  {intake : Intake} {unknown : UnknownLevel}

/-- A report whose workers have not started: some jobs have their filters, and if
it was refused then for the next one. -/
structure Intake.Planning (surroundings : Surroundings) (request : ReportRequest)
    (writer : Writer) (intake : Intake) : Prop where
  jobs : intake.state.waiting.map Prod.snd ++ intake.unplanned = request.jobs
  filters : ∀ planned ∈ intake.state.waiting,
    request.filterFor surroundings.config planned.2.checker = .ok planned.1
  untouched : Untouched writer intake.state
  refused : ∀ unknown, intake.refused = some unknown → ∃ job unplanned,
    intake.unplanned = job :: unplanned ∧
      request.filterFor surroundings.config job.checker = .error unknown

namespace Intake

theorem Planning.eq_initial (planning : Planning surroundings request writer intake) :
    intake.state = .initial intake.state.waiting writer := by
  obtain ⟨written, noWorkers, nothingPosted, nothingArrived, noEnvelopes⟩ := planning.untouched
  obtain ⟨unplanned, refused, ⟨waiting, workers, channel, arrived, other, envelopes⟩⟩ := intake
  simp only at written noWorkers nothingPosted nothingArrived noEnvelopes
  rw [written, noWorkers, nothingPosted, nothingArrived, noEnvelopes]
  rfl

theorem Planning.initial (surroundings : Surroundings) (request : ReportRequest) (writer : Writer) :
    Planning surroundings request (openingWriter surroundings request writer)
      (initial surroundings request writer) where
  jobs := rfl
  filters := by
    intro planned member
    cases member
  untouched := ⟨rfl, rfl, rfl, rfl, rfl⟩
  refused := by
    intro unknown refused
    cases refused

/-- A job that gets its filter moves to the jobs that wait for their workers. -/
theorem Planning.plan {job : Job} {unplanned : List Job} {filter : LevelFilter}
    (planning : Planning surroundings request writer intake) (accepted : intake.refused = none)
    (next : intake.unplanned = job :: unplanned)
    (filtered : request.filterFor surroundings.config job.checker = .ok filter) :
    Planning surroundings request writer (intake.enlist (filter, job) unplanned) where
  jobs := by
    have jobs := planning.jobs
    rw [next] at jobs
    rw [enlist, List.map_append, List.append_assoc]
    exact jobs
  filters := by
    rw [enlist, List.forall_mem_append]
    exact ⟨planning.filters, List.forall_mem_singleton.mpr filtered⟩
  untouched := ⟨planning.untouched.written, planning.untouched.noWorkers,
    planning.untouched.nothingPosted, planning.untouched.nothingArrived,
    planning.untouched.noEnvelopes⟩
  refused := by
    intro unknown refused
    rw [enlist, accepted] at refused
    cases refused

/-- When every job has its filter, the jobs with their filters are the plan. -/
theorem Planning.plan_eq (planning : Planning surroundings request writer intake)
    (planned : intake.unplanned = []) :
    request.plan surroundings.config = .ok intake.state.waiting := by
  have jobs := planning.jobs
  rw [planned, List.append_nil] at jobs
  have plan := ReportRequest.planOf_eq_ok planning.filters
  rw [jobs] at plan
  exact plan

/-- A report that was refused has no plan. -/
theorem Planning.plan_eq_error (planning : Planning surroundings request writer intake)
    (refused : intake.refused = some unknown) :
    request.plan surroundings.config = .error unknown := by
  obtain ⟨job, unplanned, next, failed⟩ := planning.refused unknown refused
  refine mapM_eq_error_iff.mpr ⟨intake.state.waiting.map Prod.snd, job, unplanned, ?_, ?_, ?_⟩
  · rw [← planning.jobs, next]
  · intro earlier member
    obtain ⟨planned, waits, rfl⟩ := List.mem_map.mp member
    exact ⟨planned, by rw [planning.filters planned waits]; rfl⟩
  · rw [failed]
    rfl

/-- **Filters first.** A report is still at its filters, untouched, or it has a plan
and its workers are under way. -/
theorem Steps.cases (run : Steps surroundings request (initial surroundings request writer) intake) :
    Planning surroundings request (openingWriter surroundings request writer) intake ∨
      ∃ plan, request.plan surroundings.config = .ok plan ∧ intake.refused = none ∧
        intake.unplanned = [] ∧
        Report.Steps surroundings request.format
          (.initial plan (openingWriter surroundings request writer)) intake.state := by
  induction run with
  | refl => exact .inl (.initial surroundings request writer)
  | @tail intake later _ step ih =>
      cases step with
      | plan accepted next filtered =>
          obtain planning | ⟨-, -, -, planned, -⟩ := ih
          · exact .inl (planning.plan accepted next filtered)
          · rw [planned] at next
            cases next
      | @refuse job unplanned unknown accepted next failed =>
          obtain planning | ⟨-, -, -, planned, -⟩ := ih
          · refine .inl ⟨planning.jobs, planning.filters, planning.untouched, ?_⟩
            rintro other ⟨rfl⟩
            exact ⟨job, unplanned, next, failed⟩
          · rw [planned] at next
            cases next
      | work accepted planned step =>
          refine .inr ?_
          obtain planning | ⟨plan, hasPlan, -, -, run⟩ := ih
          · rw [planning.eq_initial] at step
            exact ⟨_, planning.plan_eq planned, accepted, planned, .single step⟩
          · exact ⟨plan, hasPlan, accepted, planned, run.tail step⟩

/-- A report that was refused does nothing more. -/
theorem not_step_of_refused (refused : intake.refused = some unknown) (later : Intake) :
    ¬ Step surroundings request intake later := by
  intro step
  have accepted : intake.refused = none := by
    cases step with
    | plan accepted next filtered => exact accepted
    | refuse accepted next failed => exact accepted
    | work accepted planned step => exact accepted
  rw [refused] at accepted
  cases accepted

/-- The jobs get their filters one after another, up to the one that is refused. -/
theorem exists_refused {unplanned : List Job} (accepted : intake.refused = none)
    (next : intake.unplanned = unplanned)
    (fails : request.planOf surroundings.config unplanned = .error unknown) :
    ∃ final, Steps surroundings request intake final ∧ final.refused = some unknown := by
  induction unplanned generalizing intake with
  | nil => cases fails
  | cons job unplanned ih =>
      cases filtered : request.filterFor surroundings.config job.checker with
      | error other =>
          rw [ReportRequest.planOf, List.mapM_cons, filtered] at fails
          cases fails
          exact ⟨_, .single (.refuse accepted next filtered), rfl⟩
      | ok filter =>
          rw [ReportRequest.planOf_cons filtered] at fails
          cases others : request.planOf surroundings.config unplanned with
          | ok plan =>
              rw [others] at fails
              cases fails
          | error other =>
              rw [others] at fails
              cases fails
              obtain ⟨final, run, refused⟩ :=
                @ih (intake.enlist (filter, job) unplanned) accepted rfl others
              exact ⟨final, .head (.plan accepted next filtered) run, refused⟩

/-- The jobs get their filters one after another, if they all have one. -/
theorem exists_planned {unplanned : List Job} {plan : List (LevelFilter × Job)}
    (accepted : intake.refused = none) (next : intake.unplanned = unplanned)
    (planned : request.planOf surroundings.config unplanned = .ok plan) :
    Steps surroundings request intake
      ⟨[], none, { intake.state with waiting := intake.state.waiting ++ plan }⟩ := by
  induction unplanned generalizing intake plan with
  | nil =>
      obtain rfl : [] = plan := Except.ok.inj planned
      rw [List.append_nil, ← next, ← accepted]
  | cons job unplanned ih =>
      cases filtered : request.filterFor surroundings.config job.checker with
      | error other =>
          rw [ReportRequest.planOf, List.mapM_cons, filtered] at planned
          cases planned
      | ok filter =>
          rw [ReportRequest.planOf_cons filtered] at planned
          cases others : request.planOf surroundings.config unplanned with
          | error other =>
              rw [others] at planned
              cases planned
          | ok rest =>
              rw [others] at planned
              cases planned
              have run := @ih (intake.enlist (filter, job) unplanned) rest accepted rfl others
              simp only [enlist, List.append_assoc, List.singleton_append] at run
              exact .head (.plan accepted next filtered) run

/-- The jobs behind those that have their filters are the reason why there is no
plan. -/
theorem Planning.exists_refused (planning : Planning surroundings request writer intake)
    (noPlan : request.plan surroundings.config = .error unknown) :
    ∃ final, Steps surroundings request intake final ∧ final.refused = some unknown := by
  cases refused : intake.refused with
  | some other =>
      have same := planning.plan_eq_error refused
      rw [noPlan] at same
      cases same
      exact ⟨intake, .refl, refused⟩
  | none =>
      have whole : request.planOf surroundings.config
          (intake.state.waiting.map Prod.snd ++ intake.unplanned) = .error unknown := by
        rw [planning.jobs]
        exact noPlan
      obtain early | ⟨-, late⟩ := mapM_append_eq_error_iff.mp whole
      · have planned := ReportRequest.planOf_eq_ok planning.filters
        rw [ReportRequest.planOf, early] at planned
        cases planned
      · exact Intake.exists_refused refused rfl late

end Intake

/-! ## What is settled before any work -/

/-- Without a plan a report fails, and with one it does not. -/
theorem execute_eq_error_iff :
    execute surroundings request writer = .error unknown ↔
      request.plan surroundings.config = .error unknown := by
  by_cases asked : request.jobs = []
  · rw [execute, ReportRequest.plan, asked]
    simp [pure, Except.pure]
  · rw [execute, if_neg (by rwa [List.isEmpty_iff]), bind_eq_error_iff]
    simp [pure, Except.pure]

/-- The level names of a report settle, before any work, whether there is any. -/
structure SettledFirst (surroundings : Surroundings) (request : ReportRequest)
    (writer : Writer) : Prop where
  /-- A report fails exactly if it has jobs and reads an unknown name: one of its
  own names, or, if it has none, one that the configuration lists for the checker
  of some job. -/
  fails_iff : (∃ unknown, execute surroundings request writer = .error unknown) ↔
    request.jobs ≠ [] ∧
      ((∃ names, request.levels = some names ∧ ∃ name ∈ names, Level.NamesNone name) ∨
        request.levels = none ∧ ∃ job ∈ request.jobs,
          ∃ name ∈ surroundings.config.levels.namesFor job.checker, Level.NamesNone name)
  /-- The error is the first unknown name, job by job. -/
  reports_first : ∀ unknown, execute surroundings request writer = .error unknown ↔
    FirstUnknown (request.namesRead surroundings.config) unknown
  /-- A report that fails touches nothing, whatever is done, and comes to a stand
  when it is refused. -/
  no_effect : ∀ unknown, execute surroundings request writer = .error unknown →
    ∀ intake,
      Intake.Steps surroundings request (.initial surroundings request writer) intake →
        Untouched writer intake.state ∧
          ∃ final, Intake.Steps surroundings request intake final ∧
            final.refused = some unknown ∧
            ∀ later, ¬ Intake.Step surroundings request final later
  /-- Only a report that fails is refused. -/
  refused_only : ∀ intake unknown,
    Intake.Steps surroundings request (.initial surroundings request writer) intake →
      intake.refused = some unknown → execute surroundings request writer = .error unknown
  /-- A report that does not fail comes to its workers, with all its jobs planned. -/
  starts : ∀ outcome, execute surroundings request writer = .ok outcome →
    ∃ plan, request.plan surroundings.config = .ok plan ∧
      Intake.Steps surroundings request (.initial surroundings request writer)
        ⟨[], none, .initial plan (openingWriter surroundings request writer)⟩
  /-- Names that are not read make no difference. -/
  unread : ∀ levels : LevelNames,
    (request.levels = none → ∀ job ∈ request.jobs,
      levels.namesFor job.checker = surroundings.config.levels.namesFor job.checker) →
    execute { surroundings with config := { surroundings.config with levels } } request writer =
      execute surroundings request writer
  /-- A report without jobs says so, and counts nothing. -/
  no_jobs : request.jobs = [] → execute surroundings request writer =
    .ok (writer.print (noJobsLine surroundings.colors), ⟨⟨0, 0⟩, []⟩)

/-- **Level names are settled before any work, and a refusal has no effect.** -/
theorem level_names_settled_first (surroundings : Surroundings) (request : ReportRequest)
    (writer : Writer) : SettledFirst surroundings request writer where
  fails_iff := by
    simp only [execute_eq_error_iff, ReportRequest.plan_eq_error_iff, exists_firstUnknown_iff]
    exact ReportRequest.exists_unknown_read_iff
  reports_first := by
    intro unknown
    rw [execute_eq_error_iff, ReportRequest.plan_eq_error_iff]
  no_effect := by
    intro unknown fails intake run
    have noPlan := execute_eq_error_iff.mp fails
    obtain planning | ⟨plan, hasPlan, -⟩ := run.cases
    · have asked : request.jobs ≠ [] := by
        intro nothingAsked
        rw [ReportRequest.plan, nothingAsked] at noPlan
        cases noPlan
      rw [openingWriter, if_neg (by rwa [List.isEmpty_iff])] at planning
      obtain ⟨final, rest, refused⟩ := planning.exists_refused noPlan
      exact ⟨planning.untouched, final, rest, refused, Intake.not_step_of_refused refused⟩
    · rw [noPlan] at hasPlan
      cases hasPlan
  refused_only := by
    intro intake unknown run refused
    obtain planning | ⟨-, -, accepted, -⟩ := run.cases
    · exact execute_eq_error_iff.mpr (planning.plan_eq_error refused)
    · rw [refused] at accepted
      cases accepted
  starts := by
    intro outcome succeeds
    cases hasPlan : request.plan surroundings.config with
    | error unknown =>
        rw [execute_eq_error_iff.mpr hasPlan] at succeeds
        cases succeeds
    | ok plan =>
        exact ⟨plan, rfl, Intake.exists_planned rfl rfl hasPlan⟩
  unread := by
    intro levels same
    have plans : request.plan { surroundings.config with levels } =
        request.plan surroundings.config := ReportRequest.plan_congr same
    rw [execute, execute, plans]
    rfl
  no_jobs := by
    intro nothingAsked
    rw [execute, nothingAsked]
    rfl

/-- The second job lists two unknown names, and the language server, which has no
job, a third. -/
example : execute
    ⟨⟨[], []⟩, { Config.default with levels := { LevelNames.default with
        esLint := ["error", " FATAL", "worst"], vls := ["none"] } }, false⟩
    { typeScript := ["a.json"], esLint := ["b.json"] } {} = .error ⟨"fatal"⟩ := by decide

end Report

end DiagnosticReport
