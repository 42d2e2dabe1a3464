import DiagnosticReport.Proofs.Colors
import DiagnosticReport.Proofs.Report.Schedule

/-!
# All interleavings of a report

The messages of the jobs arrive in some order. `every_interleaving_merges` says
what all orders have in common: a report always ends, and then it has written
and returned a merge of what its jobs give when they run alone. The counts are
the same in every case. Each merge is the outcome of some run, and executing the
jobs one after another is one of them.

A job that fails brings one line. Without that job there is a run in which all
other messages arrive in the same order, with the same counts and envelopes.
-/

set_option autoImplicit false

namespace DiagnosticReport.Report

/-- The messages that a planned job posts. -/
def messagesOf (surroundings : Surroundings) (format : OutputFormat)
    (plan : List (LevelFilter × Job)) : List (List WorkerMessage) :=
  (plan.map (resultOf surroundings format)).map JobResult.messages

/-- A run of a plan from its start to its end. -/
structure Completes (surroundings : Surroundings) (format : OutputFormat)
    (plan : List (LevelFilter × Job)) (writer : Writer) (final : State) : Prop where
  run : Steps surroundings format (.initial plan writer) final
  finished : final.Finished

variable {surroundings : Surroundings} {format : OutputFormat}
  {plan : List (LevelFilter × Job)} {writer : Writer} {state later final : State}

theorem Completes.invariant (completes : Completes surroundings format plan writer final) :
    Invariant surroundings format plan writer final :=
  (Invariant.initial surroundings format plan writer).steps completes.run

theorem Completes.isMerge (completes : Completes surroundings format plan writer final) :
    IsMerge (messagesOf surroundings format plan) final.arrived :=
  completes.invariant.isMerge completes.finished

/-! ## Every merge happens -/

/-- What has arrived stays. -/
theorem Steps.arrived_prefix (run : Steps surroundings format state later) :
    state.arrived <+: later.arrived := by
  induction run with
  | refl => exact List.prefix_rfl
  | tail _ step ih =>
      cases step with
      | start next => exact ih
      | post found sending next => exact ih
      | leave found sending done => exact ih
      | receive started next => exact ih.trans (List.prefix_append _ _)

/-- The main thread may start all workers before anything else happens. -/
theorem exists_started (surroundings : Surroundings) (format : OutputFormat)
    (waiting : List (LevelFilter × Job)) {state : State} (waits : state.waiting = waiting)
    (sending : ∀ worker ∈ state.workers, worker.sending = true) :
    ∃ later, Steps surroundings format state later ∧ later.waiting = [] ∧
      later.channel = state.channel ∧ later.arrived = state.arrived ∧
      ∀ worker ∈ later.workers, worker.sending = true := by
  induction waiting generalizing state with
  | nil => exact ⟨state, .refl, waits, rfl, rfl, sending⟩
  | cons planned waiting ih =>
      have stillSending : ∀ worker ∈
          state.workers ++ [.ofResult (resultOf surroundings format planned)],
          worker.sending = true := by
        intro worker member
        obtain old | new := List.mem_append.mp member
        · exact sending worker old
        · rw [List.mem_singleton.mp new]
          rfl
      obtain ⟨later, run, started, channel, arrived, still⟩ :=
        @ih { state with
          waiting
          workers := state.workers ++ [.ofResult (resultOf surroundings format planned)] }
          rfl stillSending
      exact ⟨later, .head (.start waits) run, started, channel, arrived, still⟩

/-- When the channel is empty, the next message of a worker may arrive. -/
theorem exists_delivered {index : Nat} {worker : Worker} {message : WorkerMessage}
    {pending : List WorkerMessage} (started : state.waiting = []) (drained : state.channel = [])
    (sending : ∀ worker ∈ state.workers, worker.sending = true)
    (found : state.workers[index]? = some worker) (next : worker.pending = message :: pending) :
    ∃ later, Steps surroundings format state later ∧ later.waiting = [] ∧ later.channel = [] ∧
      later.arrived = state.arrived ++ [⟨index, message⟩] ∧
      ∀ worker ∈ later.workers, worker.sending = true := by
  have holds := sending worker (List.mem_of_getElem? found)
  have post : Step surroundings format state
      { state with
        workers := state.workers.set index { worker with pending }
        channel := state.channel ++ [⟨index, message⟩] } := .post found holds next
  rw [drained, List.nil_append] at post
  refine ⟨_, (Relation.ReflTransGen.single post).tail (.receive started rfl), ?_, rfl, rfl, ?_⟩
  · rw [State.handle_waiting]
    exact started
  · intro other member
    rw [State.handle_workers] at member
    obtain old | same := List.mem_or_eq_of_mem_set member
    · exact sending other old
    · rw [same]
      exact holds

/-- The messages may arrive in the order of any merge. -/
theorem exists_arrived {postings : List Posting}
    (invariant : Invariant surroundings format plan writer state)
    (started : state.waiting = []) (drained : state.channel = [])
    (sending : ∀ worker ∈ state.workers, worker.sending = true)
    (merge : IsMerge (messagesOf surroundings format plan) (state.arrived ++ postings)) :
    ∃ later, Steps surroundings format state later ∧ later.arrived = state.arrived ++ postings := by
  induction postings generalizing state with
  | nil => exact ⟨state, .refl, (List.append_nil _).symm⟩
  | cons posting postings ih =>
      have accounts := invariant.accounts
      rw [drained, List.append_nil] at accounts
      -- The merge decides whose turn it is, and the accounts that this worker
      -- has the message at hand.
      have next := accounts.next_of_isMerge merge
      rw [State.left, started, List.map_nil, List.append_nil, List.getElem?_map] at next
      obtain ⟨worker, found, pending⟩ := Option.map_eq_some_iff.mp next
      obtain ⟨between, run, stillStarted, stillDrained, arrived, stillSending⟩ :=
        @exists_delivered surroundings format _ _ _ _ _ started drained sending found pending
      rw [List.append_cons, ← arrived] at merge
      obtain ⟨later, rest, all⟩ :=
        ih (invariant.steps run) stillStarted stillDrained stillSending merge
      refine ⟨later, run.trans rest, ?_⟩
      rw [all, arrived, ← List.append_cons]

/-- **Every merge of the jobs' messages is the order of arrival of some run.** -/
theorem exists_completes {arrived : List Posting} (writer : Writer)
    (merge : IsMerge (messagesOf surroundings format plan) arrived) :
    ∃ final, Completes surroundings format plan writer final ∧ final.arrived = arrived := by
  have noWorkers : ∀ worker ∈ (State.initial plan writer).workers, worker.sending = true := by
    intro worker member
    cases member
  obtain ⟨ready, start, started, drained, nothing, sending⟩ :=
    exists_started surroundings format plan rfl noWorkers
  have invariant := (Invariant.initial surroundings format plan writer).steps start
  have toCome : IsMerge (messagesOf surroundings format plan) (ready.arrived ++ arrived) := by
    rw [nothing]
    exact merge
  obtain ⟨between, run, all⟩ := exists_arrived invariant started drained sending toCome
  rw [nothing] at all
  obtain ⟨final, rest, finished⟩ := exists_finished surroundings format between
  have completes : Completes surroundings format plan writer final :=
    ⟨(start.trans run).trans rest, finished⟩
  refine ⟨final, completes, ?_⟩
  -- Nothing can arrive behind a whole merge.
  obtain ⟨more, longer⟩ := Steps.arrived_prefix rest
  rw [all] at longer
  have nothingMore : more = [] := by
    refine merge.eq_nil_of_append ?_
    have whole := completes.isMerge
    rw [← longer] at whole
    exact whole
  rw [← longer, nothingMore]
  exact List.append_nil arrived

/-! ## One job less -/

theorem map_eraseIdx {α β : Type} (f : α → β) (values : List α) (index : Nat) :
    (values.eraseIdx index).map f = (values.map f).eraseIdx index := by
  rw [List.eraseIdx_eq_take_drop_succ, List.eraseIdx_eq_take_drop_succ, List.map_append,
    List.map_take, List.map_drop]

/-- A job that only prints can be left out without loss of an envelope. -/
theorem overlayEnvelopes_without {job : Nat} {postings : List Posting}
    (onlyPrints : overlayEnvelopes (messagesFrom job postings) = []) :
    overlayEnvelopes ((without job postings).map Posting.message) =
      overlayEnvelopes (postings.map Posting.message) := by
  induction postings with
  | nil => rfl
  | cons posting postings ih =>
      rw [messagesFrom_cons] at onlyPrints
      rw [List.map_cons, overlayEnvelopes_cons]
      by_cases dropped : posting.job = job
      · rw [if_pos dropped, overlayEnvelopes_cons] at onlyPrints
        obtain ⟨isText, others⟩ := List.append_eq_nil_iff.mp onlyPrints
        rw [without_cons_of_eq dropped, ih others, isText, List.nil_append]
      · rw [if_neg dropped] at onlyPrints
        rw [without_cons_of_ne dropped, List.map_cons, overlayEnvelopes_cons, ih onlyPrints]

/-- **A job that fails can be left out.** The messages of the others may arrive
in the same order, and the counts and the envelopes are the same. -/
theorem Completes.without {index : Nat} {planned : LevelFilter × Job} {error : JobError}
    (completes : Completes surroundings format plan writer final)
    (here : plan[index]? = some planned)
    (fails : planned.2.read surroundings.tree = .error error) :
    ∃ rest, Completes surroundings format (plan.eraseIdx index) writer rest ∧
      rest.arrived = without index final.arrived ∧ rest.outcome.2 = final.outcome.2 := by
  have result := @resultOf_of_error surroundings format planned error fails
  have merge := completes.isMerge.without index
  rw [messagesOf, ← map_eraseIdx, ← map_eraseIdx] at merge
  obtain ⟨rest, restCompletes, arrived⟩ := exists_completes writer merge
  refine ⟨rest, restCompletes, arrived, ?_⟩
  have onlyPrints : overlayEnvelopes (messagesFrom index final.arrived) = [] := by
    rw [completes.isMerge index, messagesOf, List.getD_eq_getElem?_getD, List.getElem?_map,
      List.getElem?_map, here, Option.map_some, Option.map_some, result]
    rfl
  have countsNothing : ((plan.map (resultOf surroundings format)).map JobResult.counts)[index]? =
      some {} := by
    rw [List.getElem?_map, List.getElem?_map, here, Option.map_some, Option.map_some, result]
  rw [restCompletes.invariant.outcome_eq restCompletes.finished,
    completes.invariant.outcome_eq completes.finished, collect, collect, arrived,
    overlayEnvelopes_without onlyPrints, totalCounts, totalCounts, map_eraseIdx, map_eraseIdx,
    Counts.foldl_add_eraseIdx countsNothing]

/-! ## What all interleavings have in common -/

/-- A finished report is a merge of what its jobs give when they run alone. -/
structure MergesJobs (surroundings : Surroundings) (request : ReportRequest)
    (plan : List (LevelFilter × Job)) (writer : Writer) (final : State) : Prop where
  /-- Texts are written and envelopes handed over as the messages arrived, and
  the counts are those of all jobs. -/
  outcome_eq : final.outcome = collect writer (final.arrived.map Posting.message)
    (totalCounts (plan.map (resultOf surroundings request.format)))
  /-- Every message is from one of the jobs. -/
  job_lt : ∀ posting ∈ final.arrived, posting.job < request.jobs.length
  /-- The messages of a job are those that it gives alone, in the same order. -/
  alone : ∀ index job, request.jobs[index]? = some job →
    ∃ result, (plan.map (resultOf surroundings request.format))[index]? = some result ∧
      ∀ other, execute surroundings (request.only job) other =
        .ok (collect other (messagesFrom index final.arrived) result.counts)
  /-- A job that fails brings one line, which says so, and counts nothing. -/
  failing : ∀ index job error, request.jobs[index]? = some job →
    job.read surroundings.tree = .error error →
      messagesFrom index final.arrived =
          [.console (Job.failureLine surroundings.colors job.checker error)] ∧
        Text.strip (Job.failureLine surroundings.colors job.checker error) =
          "  [" ++ job.checker.name ++ "] failed: " ++ Text.strip error.message ∧
        (plan.map (resultOf surroundings request.format))[index]?.map JobResult.counts =
          some {} ∧
        ∃ rest, Completes surroundings request.format (plan.eraseIdx index) writer rest ∧
          rest.arrived = without index final.arrived ∧ rest.outcome.2 = final.outcome.2

section

variable {request : ReportRequest}

/-- The job at a place of a request is planned at the same place. -/
theorem exists_planned (accepted : request.plan surroundings.config = .ok plan) {index : Nat}
    {job : Job} (here : request.jobs[index]? = some job) :
    ∃ filter, plan[index]? = some (filter, job) ∧
      request.filterFor surroundings.config job.checker = .ok filter := by
  rw [← ReportRequest.map_snd_plan accepted, List.getElem?_map] at here
  obtain ⟨⟨filter, planned⟩, found, rfl⟩ := Option.map_eq_some_iff.mp here
  exact ⟨filter, found, ReportRequest.filterFor_of_mem_plan accepted (List.mem_of_getElem? found)⟩

theorem Completes.mergesJobs (accepted : request.plan surroundings.config = .ok plan)
    (completes : Completes surroundings request.format plan writer final) :
    MergesJobs surroundings request plan writer final where
  outcome_eq := completes.invariant.outcome_eq completes.finished
  job_lt := by
    intro posting member
    have inside := completes.isMerge.job_lt member
    rw [messagesOf, List.length_map, List.length_map] at inside
    rw [← ReportRequest.map_snd_plan accepted, List.length_map]
    exact inside
  alone := by
    intro index job here
    obtain ⟨filter, planned, filtered⟩ := exists_planned accepted here
    refine ⟨resultOf surroundings request.format (filter, job), ?_, ?_⟩
    · rw [List.getElem?_map, planned]
      rfl
    · intro other
      rw [completes.isMerge index, messagesOf, List.getD_eq_getElem?_getD, List.getElem?_map,
        List.getElem?_map, planned]
      exact @execute_only surroundings request (filter, job) filtered other
  failing := by
    intro index job error here fails
    obtain ⟨filter, planned, -⟩ := exists_planned accepted here
    have result := @resultOf_of_error surroundings request.format (filter, job) error fails
    refine ⟨?_, Job.strip_failureLine surroundings.colors job.checker error, ?_,
      completes.without planned fails⟩
    · rw [completes.isMerge index, messagesOf, List.getD_eq_getElem?_getD, List.getElem?_map,
        List.getElem?_map, planned, Option.map_some, Option.map_some, result]
      rfl
    · rw [List.getElem?_map, planned, Option.map_some, result]
      rfl

/-- The jobs one after another are one of the runs. -/
theorem exists_completes_execute (asked : request.jobs ≠ [])
    (accepted : request.plan surroundings.config = .ok plan) (writer : Writer) :
    ∃ final, Completes surroundings request.format plan writer final ∧
      execute surroundings request writer = .ok final.outcome := by
  obtain ⟨final, completes, arrived⟩ :=
    exists_completes writer (isMerge_jobByJob (messagesOf surroundings request.format plan))
  refine ⟨final, completes, ?_⟩
  rw [execute_eq asked accepted, completes.invariant.outcome_eq completes.finished, arrived,
    map_message_jobByJob, messagesOf, List.flatMap_def]

/-- **Every interleaving of a report merges what its jobs give alone.** No report
goes on for ever or gets stuck before it is finished; a finished one is a merge
of its jobs; every merge is the order of arrival of some run; and the jobs one
after another are one of them. -/
theorem every_interleaving_merges (asked : request.jobs ≠ [])
    (accepted : request.plan surroundings.config = .ok plan) (writer : Writer) :
    (WellFounded fun later state => Step surroundings request.format state later) ∧
      (∀ state, Steps surroundings request.format (.initial plan writer) state →
        ∃ final, Steps surroundings request.format state final ∧ final.Finished) ∧
      (∀ final, Completes surroundings request.format plan writer final →
        MergesJobs surroundings request plan writer final) ∧
      (∀ arrived, IsMerge (messagesOf surroundings request.format plan) arrived ↔
        ∃ final, Completes surroundings request.format plan writer final ∧
          final.arrived = arrived) ∧
      ∃ final, Completes surroundings request.format plan writer final ∧
        execute surroundings request writer = .ok final.outcome := by
  refine ⟨step_wellFounded surroundings request.format, ?_, ?_, ?_,
    exists_completes_execute asked accepted writer⟩
  · intro state run
    exact exists_finished surroundings request.format state
  · intro final completes
    exact completes.mergesJobs accepted
  · intro arrived
    constructor
    · exact exists_completes writer
    · rintro ⟨final, completes, rfl⟩
      exact completes.isMerge

/-- A dump that is missing, and a dump without diagnostics. -/
def missingAndEmpty : ReportRequest where
  typeScript := ["a.json"]
  esLint := ["b.json"]
  levels := some ["error"]

/-- The files with the second dump only. -/
def secondDumpOnly : Surroundings where
  tree := ⟨[(["b.json"], .file [0x5B, 0x5D])], []⟩
  config := .default
  colors := false

def missingAndEmptyPlan : List (LevelFilter × Job) :=
  [(⟨[.error]⟩, ⟨.typeScript, "a.json"⟩), (⟨[.error]⟩, ⟨.esLint, "b.json"⟩)]

/-- The line of the job that fails may come last. -/
theorem failure_arrives_last :
    missingAndEmpty.jobs ≠ [] ∧
      missingAndEmpty.plan secondDumpOnly.config = .ok missingAndEmptyPlan ∧
      ∃ final, Completes secondDumpOnly .terminal missingAndEmptyPlan {} final ∧
        final.outcome.1.written = ["[ESLint] Found 0 error and 0 warning\n",
          "  [TypeScript] failed: read a.json: No such file or directory (os error 2)\n"] := by
  have asked : missingAndEmpty.jobs ≠ [] := by decide
  have accepted : missingAndEmpty.plan secondDumpOnly.config = .ok missingAndEmptyPlan := rfl
  obtain ⟨-, -, merges, happens, -⟩ := every_interleaving_merges asked accepted {}
  have posted : messagesOf secondDumpOnly .terminal missingAndEmptyPlan =
      [[.console "  [TypeScript] failed: read a.json: No such file or directory (os error 2)"],
        [.console "[ESLint] Found 0 error and 0 warning"]] := by decide
  have merge : IsMerge (messagesOf secondDumpOnly .terminal missingAndEmptyPlan)
      [⟨1, .console "[ESLint] Found 0 error and 0 warning"⟩, ⟨0, .console
        "  [TypeScript] failed: read a.json: No such file or directory (os error 2)"⟩] := by
    rw [posted]
    rintro (_ | _ | job)
    · rfl
    · rfl
    · rfl
  obtain ⟨final, completes, arrived⟩ := (happens _).mp merge
  refine ⟨asked, accepted, final, completes, ?_⟩
  rw [(merges final completes).outcome_eq, arrived]
  rfl

end

end DiagnosticReport.Report
