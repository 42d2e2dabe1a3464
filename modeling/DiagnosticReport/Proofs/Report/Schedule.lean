import DiagnosticReport.Proofs.Report.Merge
import DiagnosticReport.Proofs.Report.Plan
import Mathlib

/-!
# Workers and coordinator, step by step

Every job of a report runs on a worker of its own. The main thread starts the
workers one after another and then turns into the coordinator, which takes
messages from the channel until the channel is empty and the last sender is
gone. A step is one action of one of them, and no schedule is imposed: any
action that is possible may come next.

The files do not change during a report. What a job posts and counts is
therefore settled when its worker starts, whatever the others do meanwhile.

The results:

* `Step.workload_eq`: each step makes the work to be done smaller by one, so
  every run ends;
* `finished_iff`: a report stands still only when it is finished;
* `Invariant.step`: a step loses, doubles and reorders no message of a job;
* `Invariant.outcome_eq`: a finished report has written and handed over what
  arrived, and counts what all jobs count.
-/

set_option autoImplicit false

namespace DiagnosticReport

theorem consoleTexts_append (earlier later : List WorkerMessage) :
    consoleTexts (earlier ++ later) = consoleTexts earlier ++ consoleTexts later :=
  List.filterMap_append

theorem overlayEnvelopes_append (earlier later : List WorkerMessage) :
    overlayEnvelopes (earlier ++ later) = overlayEnvelopes earlier ++ overlayEnvelopes later :=
  List.filterMap_append

theorem overlayEnvelopes_cons (message : WorkerMessage) (later : List WorkerMessage) :
    overlayEnvelopes (message :: later) = overlayEnvelopes [message] ++ overlayEnvelopes later :=
  overlayEnvelopes_append [message] later

theorem Writer.printAll_append (writer : Writer) (earlier later : List String) :
    writer.printAll (earlier ++ later) = (writer.printAll earlier).printAll later :=
  List.foldl_append

namespace Report

/-- A worker that was started. -/
structure Worker where
  /-- The messages that it has still to post. -/
  pending : List WorkerMessage
  counts : Counts
  /-- Whether it still holds its sender. -/
  sending : Bool

/-- A report under way. -/
structure State where
  /-- The jobs whose workers were not started yet. -/
  waiting : List (LevelFilter × Job)
  /-- The workers, in the order in which they were started. -/
  workers : List Worker
  /-- The messages in the channel, the oldest first. -/
  channel : List Posting
  /-- The messages that the coordinator has taken, in the order of their
  arrival. -/
  arrived : List Posting
  writer : Writer
  envelopes : List Envelope

/-- The report at its start. -/
def State.initial (plan : List (LevelFilter × Job)) (writer : Writer) : State :=
  ⟨plan, [], [], [], writer, []⟩

/-- The worker of a job with this result. -/
def Worker.ofResult (result : JobResult) : Worker :=
  ⟨result.messages, result.counts, true⟩

/-- The coordinator prints a text or keeps an envelope. -/
def State.handle (state : State) : WorkerMessage → State
  | .console text => { state with writer := state.writer.print text }
  | .overlay envelope => { state with envelopes := state.envelopes ++ [envelope] }

/-- The workers are started, the channel is empty and has no sender left. -/
structure State.Finished (state : State) : Prop where
  started : state.waiting = []
  drained : state.channel = []
  closed : ∀ worker ∈ state.workers, worker.sending = false

/-- What is written and returned. The counts are those of the workers, in the
order in which they were started. -/
def State.outcome (state : State) : Writer × ReportOutcome :=
  (state.writer, ⟨(state.workers.map Worker.counts).foldl Counts.add {}, state.envelopes⟩)

section

variable (surroundings : Surroundings) (format : OutputFormat)

/-- One action. -/
inductive Step : State → State → Prop where
  /-- The main thread starts the next worker. -/
  | start {state : State} {planned : LevelFilter × Job} {waiting : List (LevelFilter × Job)}
      (next : state.waiting = planned :: waiting) :
      Step state
        { state with
          waiting
          workers := state.workers ++ [.ofResult (resultOf surroundings format planned)] }
  /-- A worker posts its next message. -/
  | post {state : State} {index : Nat} {worker : Worker} {message : WorkerMessage}
      {pending : List WorkerMessage} (found : state.workers[index]? = some worker)
      (sending : worker.sending = true) (next : worker.pending = message :: pending) :
      Step state
        { state with
          workers := state.workers.set index { worker with pending }
          channel := state.channel ++ [⟨index, message⟩] }
  /-- A worker that has posted everything ends, and drops its sender. -/
  | leave {state : State} {index : Nat} {worker : Worker}
      (found : state.workers[index]? = some worker) (sending : worker.sending = true)
      (done : worker.pending = []) :
      Step state
        { state with workers := state.workers.set index { worker with sending := false } }
  /-- The coordinator takes the oldest message from the channel. -/
  | receive {state : State} {posting : Posting} {channel : List Posting}
      (started : state.waiting = []) (next : state.channel = posting :: channel) :
      Step state
        { state.handle posting.message with
          channel
          arrived := state.arrived ++ [posting] }

/-- Any number of actions. -/
abbrev Steps : State → State → Prop := Relation.ReflTransGen (Step surroundings format)

/-- What the jobs have still to post, job by job. -/
def State.left (state : State) : List (List WorkerMessage) :=
  state.workers.map Worker.pending ++
    state.waiting.map fun planned => (resultOf surroundings format planned).messages

end

variable {surroundings : Surroundings} {format : OutputFormat}
  {plan : List (LevelFilter × Job)} {writer : Writer} {state later : State}

theorem State.handle_waiting (state : State) (message : WorkerMessage) :
    (state.handle message).waiting = state.waiting := by
  cases message with
  | console text => rfl
  | overlay envelope => rfl

theorem State.handle_workers (state : State) (message : WorkerMessage) :
    (state.handle message).workers = state.workers := by
  cases message with
  | console text => rfl
  | overlay envelope => rfl

theorem State.handle_writer (state : State) (message : WorkerMessage) :
    (state.handle message).writer = state.writer.printAll (consoleTexts [message]) := by
  cases message with
  | console text => rfl
  | overlay envelope => rfl

theorem State.handle_envelopes (state : State) (message : WorkerMessage) :
    (state.handle message).envelopes = state.envelopes ++ overlayEnvelopes [message] := by
  cases message with
  | console text => exact (List.append_nil state.envelopes).symm
  | overlay envelope => rfl

/-- A worker that is exchanged for one with the same value changes no value. -/
theorem map_set_worker {α : Type} {workers : List Worker} {index : Nat} {worker other : Worker}
    {value : Worker → α} (found : workers[index]? = some worker)
    (same : value other = value worker) :
    (workers.set index other).map value = workers.map value := by
  obtain ⟨bound, rfl⟩ := List.getElem?_eq_some_iff.mp found
  rw [List.map_set, same, ← List.getElem_map value]
  exact List.set_getElem_self (by rwa [List.length_map])

/-! ## Every run ends -/

/-- The actions that a worker and the coordinator spend on the worker's
messages, and the one in which it ends. -/
def Worker.workload (worker : Worker) : Nat :=
  2 * worker.pending.length + worker.sending.toNat

/-- How many actions there are still to come. -/
def State.workload (surroundings : Surroundings) (format : OutputFormat) (state : State) : Nat :=
  (state.waiting.map fun planned =>
      2 * (resultOf surroundings format planned).messages.length + 2).sum +
    (state.workers.map Worker.workload).sum + state.channel.length

/-- Exchanging one worker changes the sum by the difference of the two. -/
theorem sum_workload_set {workers : List Worker} {index : Nat} {worker : Worker}
    (found : workers[index]? = some worker) (other : Worker) :
    ((workers.set index other).map Worker.workload).sum + worker.workload =
      (workers.map Worker.workload).sum + other.workload := by
  induction workers generalizing index with
  | nil => cases found
  | cons first workers ih =>
      cases index with
      | zero =>
          cases found
          simp only [List.set_cons_zero, List.map_cons, List.sum_cons]
          omega
      | succ index =>
          have rest := ih found
          simp only [List.set_cons_succ, List.map_cons, List.sum_cons]
          omega

/-- Every action counts for exactly one. -/
theorem Step.workload_eq (step : Step surroundings format state later) :
    later.workload surroundings format + 1 = state.workload surroundings format := by
  cases step with
  | start next =>
      simp only [State.workload, next, List.map_cons, List.sum_cons, List.map_append,
        List.sum_append, List.map_nil, List.sum_nil, Worker.workload, Worker.ofResult,
        Bool.toNat_true]
      omega
  | @post index worker message pending found sending next =>
      have exchange := sum_workload_set found { worker with pending }
      have before : worker.workload = 2 * pending.length + 3 := by
        rw [Worker.workload, next, sending]
        rfl
      have after : { worker with pending }.workload = 2 * pending.length + 1 := by
        rw [Worker.workload, sending]
        rfl
      simp only [State.workload, List.length_append, List.length_singleton]
      omega
  | @leave index worker found sending done =>
      have exchange := sum_workload_set found { worker with sending := false }
      have before : worker.workload = 1 := by
        rw [Worker.workload, done, sending]
        rfl
      have after : { worker with sending := false }.workload = 0 := by
        rw [Worker.workload, done]
        rfl
      simp only [State.workload]
      omega
  | @receive posting channel started next =>
      simp only [State.workload, State.handle_waiting, State.handle_workers, next,
        List.length_cons]
      omega

/-- **A report cannot go on for ever.** -/
theorem step_wellFounded (surroundings : Surroundings) (format : OutputFormat) :
    WellFounded fun later state => Step surroundings format state later := by
  refine Subrelation.wf ?_ (measure (State.workload surroundings format)).wf
  intro later state step
  exact Nat.lt_of_succ_le (Nat.le_of_eq step.workload_eq)

/-- **A report stands still exactly when it is finished.** -/
theorem finished_iff (surroundings : Surroundings) (format : OutputFormat) (state : State) :
    state.Finished ↔ ∀ later, ¬ Step surroundings format state later := by
  constructor
  · intro finished later step
    cases step with
    | start next =>
        rw [finished.started] at next
        cases next
    | post found sending next =>
        rw [finished.closed _ (List.mem_of_getElem? found)] at sending
        cases sending
    | leave found sending done =>
        rw [finished.closed _ (List.mem_of_getElem? found)] at sending
        cases sending
    | receive started next =>
        rw [finished.drained] at next
        cases next
  · intro still
    have started : state.waiting = [] := by
      cases next : state.waiting with
      | nil => rfl
      | cons planned waiting => exact absurd (.start next) (still _)
    refine ⟨started, ?_, ?_⟩
    · cases next : state.channel with
      | nil => rfl
      | cons posting channel => exact absurd (.receive started next) (still _)
    · intro worker member
      obtain ⟨index, found⟩ := List.mem_iff_getElem?.mp member
      cases sending : worker.sending with
      | false => rfl
      | true =>
          cases next : worker.pending with
          | nil => exact absurd (.leave found sending next) (still _)
          | cons message pending => exact absurd (.post found sending next) (still _)

/-- **Whatever was done so far, the report can be finished.** -/
theorem exists_finished (surroundings : Surroundings) (format : OutputFormat) (state : State) :
    ∃ final, Steps surroundings format state final ∧ final.Finished := by
  induction state using (step_wellFounded surroundings format).induction with
  | h state ih =>
      by_cases finished : state.Finished
      · exact ⟨state, .refl, finished⟩
      · rw [finished_iff surroundings format] at finished
        obtain ⟨later, notStill⟩ := Classical.not_forall.mp finished
        have step := Classical.not_not.mp notStill
        obtain ⟨final, steps, done⟩ := ih later step
        exact ⟨final, .head step steps, done⟩

/-! ## What every step keeps -/

/-- What holds of every state of a report. -/
structure Invariant (surroundings : Surroundings) (format : OutputFormat)
    (plan : List (LevelFilter × Job)) (writer : Writer) (state : State) : Prop where
  /-- Arrived, in the channel or still to come: no message gets lost or doubled,
  and those of one job stay in order. -/
  accounts : Accounts ((plan.map (resultOf surroundings format)).map JobResult.messages)
    (state.arrived ++ state.channel) (state.left surroundings format)
  counted : state.workers.map Worker.counts ++
      (state.waiting.map (resultOf surroundings format)).map JobResult.counts =
    (plan.map (resultOf surroundings format)).map JobResult.counts
  written : state.writer = writer.printAll (consoleTexts (state.arrived.map Posting.message))
  handedOver : state.envelopes = overlayEnvelopes (state.arrived.map Posting.message)
  /-- Only a worker that has posted everything ends. -/
  silent : ∀ worker ∈ state.workers, worker.sending = false → worker.pending = []

namespace Invariant

theorem initial (surroundings : Surroundings) (format : OutputFormat)
    (plan : List (LevelFilter × Job)) (writer : Writer) :
    Invariant surroundings format plan writer (.initial plan writer) where
  accounts := by
    have nothingPosted := Accounts.initial
      ((plan.map (resultOf surroundings format)).map JobResult.messages)
    rwa [List.map_map] at nothingPosted ⊢
  counted := rfl
  written := rfl
  handedOver := rfl
  silent := by
    intro worker member
    cases member

/-- **No action loses, doubles or reorders messages of a job.** -/
theorem step (invariant : Invariant surroundings format plan writer state)
    (step : Step surroundings format state later) :
    Invariant surroundings format plan writer later := by
  cases step with
  | @start planned waiting next =>
      refine ⟨?_, ?_, invariant.written, invariant.handedOver, ?_⟩
      · have accounts := invariant.accounts
        rw [State.left, next] at accounts
        rw [State.left, List.map_append, List.append_assoc]
        exact accounts
      · have counted := invariant.counted
        rw [next] at counted
        rw [List.map_append, List.append_assoc]
        exact counted
      · intro worker member ended
        obtain old | new := List.mem_append.mp member
        · exact invariant.silent worker old ended
        · rw [List.mem_singleton.mp new] at ended
          cases ended
  | @post index worker message pending found sending next =>
      obtain ⟨bound, -⟩ := List.getElem?_eq_some_iff.mp found
      refine ⟨?_, ?_, invariant.written, invariant.handedOver, ?_⟩
      · -- The message moves from what is left to what was posted.
        have first : (state.left surroundings format)[index]? = some (message :: pending) := by
          rw [State.left, List.getElem?_append_left (by rwa [List.length_map]), List.getElem?_map,
            found, Option.map_some, next]
        have accounts := invariant.accounts.post first
        rw [State.left, List.set_append_left _ _ (by rwa [List.length_map]),
          List.append_assoc] at accounts
        rw [State.left, List.map_set]
        exact accounts
      · have same : (state.workers.set index { worker with pending }).map Worker.counts =
            state.workers.map Worker.counts := map_set_worker found rfl
        have counted := invariant.counted
        rw [← same] at counted
        exact counted
      · intro other member ended
        obtain old | same := List.mem_or_eq_of_mem_set member
        · exact invariant.silent other old ended
        · rw [same] at ended
          exact absurd (sending.symm.trans ended) Bool.noConfusion
  | @leave index worker found sending done =>
      refine ⟨?_, ?_, invariant.written, invariant.handedOver, ?_⟩
      · have same : (state.workers.set index { worker with sending := false }).map Worker.pending =
            state.workers.map Worker.pending := map_set_worker found rfl
        have accounts := invariant.accounts
        rw [State.left, ← same] at accounts
        exact accounts
      · have same : (state.workers.set index { worker with sending := false }).map Worker.counts =
            state.workers.map Worker.counts := map_set_worker found rfl
        have counted := invariant.counted
        rw [← same] at counted
        exact counted
      · intro other member ended
        obtain old | same := List.mem_or_eq_of_mem_set member
        · exact invariant.silent other old ended
        · rw [same]
          exact done
  | @receive posting channel started next =>
      refine ⟨?_, ?_, ?_, ?_, ?_⟩
      · -- The message moves from the channel to what has arrived.
        have accounts := invariant.accounts
        rw [State.left, next, List.append_cons] at accounts
        rw [State.left]
        simp only [State.handle_waiting, State.handle_workers]
        exact accounts
      · simp only [State.handle_waiting, State.handle_workers]
        exact invariant.counted
      · rw [List.map_append, consoleTexts_append, Writer.printAll_append, ← invariant.written]
        exact state.handle_writer posting.message
      · rw [List.map_append, overlayEnvelopes_append, ← invariant.handedOver]
        exact state.handle_envelopes posting.message
      · intro worker member
        rw [State.handle_workers] at member
        exact invariant.silent worker member

theorem steps (invariant : Invariant surroundings format plan writer state)
    (run : Steps surroundings format state later) :
    Invariant surroundings format plan writer later := by
  induction run with
  | refl => exact invariant
  | tail _ step ih => exact ih.step step

/-- In a finished report everything has arrived. -/
theorem isMerge (invariant : Invariant surroundings format plan writer state)
    (finished : state.Finished) :
    IsMerge ((plan.map (resultOf surroundings format)).map JobResult.messages) state.arrived := by
  have accounts := invariant.accounts
  rw [finished.drained, List.append_nil] at accounts
  refine accounts.isMerge ?_
  intro messages member
  rw [State.left, finished.started, List.map_nil, List.append_nil] at member
  obtain ⟨worker, found, rfl⟩ := List.mem_map.mp member
  exact invariant.silent worker found (finished.closed worker found)

/-- **What a finished report has written and what it returns.** The counts do
not depend on the order in which the messages arrived. -/
theorem outcome_eq (invariant : Invariant surroundings format plan writer state)
    (finished : state.Finished) :
    state.outcome = collect writer (state.arrived.map Posting.message)
      (totalCounts (plan.map (resultOf surroundings format))) := by
  have counted := invariant.counted
  rw [finished.started, List.map_nil, List.map_nil, List.append_nil] at counted
  rw [State.outcome, collect, totalCounts, counted, invariant.written, invariant.handedOver]

end Invariant

end Report

end DiagnosticReport
