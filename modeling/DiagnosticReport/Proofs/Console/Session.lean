import DiagnosticReport.Proofs.Console
import DiagnosticReport.Proofs.Report.Schedule

/-!
# The life of a coordinator

A session begins with a main logger, a coordinator and no worker. Workers are
created as long as the main thread holds its sender, they call their loggers and
they go. The coordinator waits until it runs; then it takes messages from the
channel until the channel is empty and the last sender is gone. It may also be
dropped before it runs, and the workers may go on calling.

A step is one action of one of them, and any action that is possible may come
next. `Steps` keeps the list of the actions, so that what is written can be
compared with what was called.

The results:

* `Invariant.step`: each action keeps the account of all calls;
* `Step.of_report`: a call of a worker lengthens the channel and does nothing
  else;
* `Session.exists_steps_returned`: without senders a coordinator that runs comes
  to its end.
-/

set_option autoImplicit false

namespace DiagnosticReport

/-- A writer that accepts prints one line for each text. -/
theorem Writer.printAll_of_accepts {writer : Writer} (accepts : writer.refuses = false)
    (texts : List String) : writer.printAll texts = writer.extend (texts.map (· ++ "\n")) := by
  induction texts generalizing writer with
  | nil => simp [printAll, extend]
  | cons text texts ih =>
      have later := @ih (writer.extend [text ++ "\n"]) accepts
      rw [printAll, List.foldl_cons, ← printAll, print_of_accepts accepts, later, extend_extend,
        List.singleton_append, List.map_cons]

/-- The line that the main logger prints for a call. -/
def WorkerMessage.mainLine : WorkerMessage → String
  | .console text => text
  | .overlay envelope => envelope.toJson.compact

namespace Office

/-- A call of a logger, which is given a text or an envelope. -/
def call (office : Office) (logger : Logger) : WorkerMessage → Office
  | .console text => office.log text logger
  | .overlay envelope => office.deliver envelope logger

theorem call_main (office : Office) (message : WorkerMessage) :
    office.call .main message =
      { office with mainWriter := office.mainWriter.print message.mainLine } := by
  cases message with
  | console text => rfl
  | overlay envelope => rfl

/-- A worker on the current channel posts what it is given. -/
theorem call_worker (office : Office) (message : WorkerMessage) :
    office.call (.worker office.channel) message =
      { office with posted := office.posted.map (· ++ [message]) } := by
  cases message with
  | console text => exact if_pos rfl
  | overlay envelope => exact if_pos rfl

end Office

/-! ## Actions -/

/-- How far the coordinator has come. -/
inductive Phase where
  | waiting
  /-- It runs, and has kept these envelopes. -/
  | running (kept : List Envelope)
  /-- It has run, and has handed over these envelopes. -/
  | returned (envelopes : List Envelope)
  /-- It was dropped before it ran. -/
  | dropped

/-- The loggers and their coordinator. -/
structure Session where
  office : Office
  phase : Phase
  /-- Whether the main thread holds a sender, from which workers are created. -/
  hiring : Bool

/-- What may happen. -/
inductive Action where
  /-- The main logger is called. -/
  | tell (message : WorkerMessage)
  /-- The logger of this worker is called. -/
  | report (worker : Nat) (message : WorkerMessage)
  | hire
  | leave (worker : Nat)
  /-- The main thread drops its sender. -/
  | close
  /-- The coordinator begins to run. -/
  | start
  | take
  | finish
  /-- The coordinator is dropped. -/
  | abandon

/-- The actions of a coordinator that runs. -/
def Action.OfCoordinator : Action → Prop
  | .start | .take | .finish => True
  | _ => False

/-- What the main logger was called with. -/
def mainCalls (actions : List Action) : List WorkerMessage :=
  actions.filterMap fun action =>
    match action with
    | .tell message => some message
    | _ => none

/-- What the loggers of the workers were called with. -/
def workerCalls (actions : List Action) : List WorkerMessage :=
  actions.filterMap fun action =>
    match action with
    | .report _ message => some message
    | _ => none

theorem mainCalls_append (earlier later : List Action) :
    mainCalls (earlier ++ later) = mainCalls earlier ++ mainCalls later :=
  List.filterMap_append

theorem workerCalls_append (earlier later : List Action) :
    workerCalls (earlier ++ later) = workerCalls earlier ++ workerCalls later :=
  List.filterMap_append

namespace Session

/-- The session before anything has happened. -/
def opening : Session := ⟨Office.unused, .waiting, true⟩

/-- No sender is left. -/
def Closed (session : Session) : Prop :=
  session.hiring = false ∧ ∀ worker ∈ session.office.workers, worker = none

/-- One action. -/
inductive Step : Session → Action → Session → Prop where
  | tell {session : Session} (message : WorkerMessage) :
      Step session (.tell message)
        { session with office := session.office.call .main message }
  | report {session : Session} {worker : Nat} {logger : Logger} (message : WorkerMessage)
      (found : session.office.logger? worker = some logger) :
      Step session (.report worker message)
        { session with office := session.office.call logger message }
  | hire {session : Session} (hiring : session.hiring = true) :
      Step session .hire { session with office := session.office.spawn }
  | leave {session : Session} (worker : Nat) :
      Step session (.leave worker) { session with office := session.office.dismiss worker }
  | close {session : Session} : Step session .close { session with hiring := false }
  | start {session : Session} (waiting : session.phase = .waiting) :
      Step session .start { session with phase := .running [] }
  /-- The coordinator takes the oldest message; it prints a text and keeps an
  envelope. -/
  | take {session : Session} {kept : List Envelope} {message : WorkerMessage}
      {posted : List WorkerMessage} (running : session.phase = .running kept)
      (next : session.office.posted = some (message :: posted)) :
      Step session .take
        { session with
          office := { session.office with
            writer := session.office.writer.printAll (consoleTexts [message])
            posted := some posted }
          phase := .running (kept ++ overlayEnvelopes [message]) }
  /-- The channel is empty and will stay so: the coordinator hands over what it
  has kept, and is gone. -/
  | finish {session : Session} {kept : List Envelope} (running : session.phase = .running kept)
      (drained : session.office.posted = some []) (closed : session.Closed) :
      Step session .finish
        { session with office := session.office.discard, phase := .returned kept }
  | abandon {session : Session} (waiting : session.phase = .waiting) :
      Step session .abandon
        { session with office := session.office.discard, phase := .dropped }

/-- Actions one after another. -/
inductive Steps (first : Session) : List Action → Session → Prop where
  | refl : Steps first [] first
  | tail {actions : List Action} {session later : Session} {action : Action}
      (steps : Steps first actions session) (step : Step session action later) :
      Steps first (actions ++ [action]) later

theorem Steps.single {session later : Session} {action : Action}
    (step : Step session action later) : Steps session [action] later :=
  Steps.refl.tail step

theorem Steps.trans {first session last : Session} {actions further : List Action}
    (steps : Steps first actions session) (others : Steps session further last) :
    Steps first (actions ++ further) last := by
  induction others with
  | refl => rwa [List.append_nil]
  | tail _ step ih =>
      rw [← List.append_assoc]
      exact ih.tail step

/-! ## The account of all calls -/

/-- Where the messages of the workers are: in the channel or, as far as it has
come, with the coordinator. -/
def Accounted (calls : List WorkerMessage) (posted : Option (List WorkerMessage))
    (writer : Writer) : Phase → Prop
  | .waiting => posted = some calls ∧ writer = {}
  | .running kept =>
      ∃ taken left, taken ++ left = calls ∧ posted = some left ∧
        writer = Writer.printAll {} (consoleTexts taken) ∧ kept = overlayEnvelopes taken
  | .returned envelopes =>
      posted = none ∧ writer = Writer.printAll {} (consoleTexts calls) ∧
        envelopes = overlayEnvelopes calls
  | .dropped => posted = none ∧ writer = {}

/-- What holds at every moment. -/
structure Invariant (actions : List Action) (session : Session) : Prop where
  mainWriter : session.office.mainWriter =
    Writer.printAll {} ((mainCalls actions).map WorkerMessage.mainLine)
  /-- The workers are those of this coordinator. -/
  workers : ∀ logger, some logger ∈ session.office.workers →
    logger = .worker session.office.channel
  accounted : Accounted (workerCalls actions) session.office.posted session.office.writer
    session.phase
  closed : ∀ envelopes, session.phase = .returned envelopes → session.Closed

theorem Invariant.opening : Invariant [] opening := by
  refine ⟨rfl, ?_, ⟨rfl, rfl⟩, ?_⟩
  · intro logger member
    simp [Session.opening, Office.unused] at member
  · intro envelopes returned
    cases returned

theorem mem_workers_of_logger? {office : Office} {worker : Nat} {logger : Logger}
    (found : office.logger? worker = some logger) : some logger ∈ office.workers :=
  List.mem_of_getElem? (Option.join_eq_some_iff.mp found)

variable {actions : List Action} {session later : Session}

/-- A call of a worker lengthens the channel and does nothing else. -/
theorem Step.of_report (invariant : Invariant actions session) {worker : Nat}
    {message : WorkerMessage} (step : Step session (.report worker message) later) :
    later = { session with
      office := { session.office with
        posted := session.office.posted.map (· ++ [message]) } } := by
  cases step with
  | report message found =>
      rw [invariant.workers _ (mem_workers_of_logger? found), Office.call_worker]

/-- A coordinator that has handed over its envelopes leaves no worker behind. -/
theorem Invariant.not_returned_of_logger? (invariant : Invariant actions session) {worker : Nat}
    {logger : Logger} (found : session.office.logger? worker = some logger)
    (envelopes : List Envelope) : session.phase ≠ .returned envelopes := by
  intro returned
  have gone := (invariant.closed envelopes returned).2 _ (mem_workers_of_logger? found)
  cases gone

/-- A message that is posted is behind all others. -/
theorem Accounted.post {calls : List WorkerMessage} {posted : Option (List WorkerMessage)}
    {writer : Writer} {phase : Phase} (accounted : Accounted calls posted writer phase)
    (under_way : ∀ envelopes, phase ≠ .returned envelopes) (message : WorkerMessage) :
    Accounted (calls ++ [message]) (posted.map (· ++ [message])) writer phase := by
  cases phase with
  | waiting =>
      obtain ⟨rfl, unwritten⟩ := accounted
      exact ⟨rfl, unwritten⟩
  | running kept =>
      obtain ⟨taken, left, rfl, rfl, written, kept⟩ := accounted
      exact ⟨taken, left ++ [message], by rw [List.append_assoc], rfl, written, kept⟩
  | returned envelopes => exact absurd rfl (under_way envelopes)
  | dropped =>
      obtain ⟨rfl, unwritten⟩ := accounted
      exact ⟨rfl, unwritten⟩

/-- The message that is taken was posted before all others in the channel. -/
theorem Accounted.take {calls posted : List WorkerMessage} {message : WorkerMessage}
    {writer : Writer} {kept : List Envelope}
    (accounted : Accounted calls (some (message :: posted)) writer (.running kept)) :
    Accounted calls (some posted) (writer.printAll (consoleTexts [message]))
      (.running (kept ++ overlayEnvelopes [message])) := by
  obtain ⟨taken, left, rfl, next, rfl, rfl⟩ := accounted
  cases next
  refine ⟨taken ++ [message], posted, by simp, rfl, ?_, ?_⟩
  · rw [consoleTexts_append, Writer.printAll_append]
  · rw [overlayEnvelopes_append]

/-- With an empty channel everything was taken. -/
theorem Accounted.finish {calls : List WorkerMessage} {writer : Writer} {kept : List Envelope}
    (accounted : Accounted calls (some []) writer (.running kept)) :
    Accounted calls none writer (.returned kept) := by
  obtain ⟨taken, left, rfl, drained, written, kept⟩ := accounted
  cases drained
  rw [List.append_nil]
  exact ⟨rfl, written, kept⟩

/-- **Each action keeps the account.** -/
theorem Invariant.step {action : Action} (invariant : Invariant actions session)
    (step : Step session action later) : Invariant (actions ++ [action]) later := by
  obtain ⟨mainWriter, workers, accounted, closed⟩ := id invariant
  -- Only calls have a part in the lists of the calls.
  have silent (quiet : mainCalls [action] = [] ∧ workerCalls [action] = []) :
      mainCalls (actions ++ [action]) = mainCalls actions ∧
        workerCalls (actions ++ [action]) = workerCalls actions := by
    rw [mainCalls_append, workerCalls_append, quiet.1, quiet.2, List.append_nil, List.append_nil]
    exact ⟨rfl, rfl⟩
  cases step with
  | tell message =>
      rw [Office.call_main]
      refine ⟨?_, workers, ?_, closed⟩
      · rw [mainCalls_append, List.map_append, Writer.printAll_append, ← mainWriter]
        rfl
      · rw [workerCalls_append]
        simpa [workerCalls] using accounted
  | @report worker logger message found =>
      rw [workers _ (mem_workers_of_logger? found), Office.call_worker]
      refine ⟨?_, workers, ?_, closed⟩
      · rw [mainCalls_append]
        simpa [mainCalls] using mainWriter
      · rw [workerCalls_append]
        exact accounted.post (invariant.not_returned_of_logger? found) message
  | hire hiring =>
      obtain ⟨noMain, noWorker⟩ := silent ⟨rfl, rfl⟩
      refine ⟨noMain ▸ mainWriter, ?_, noWorker ▸ accounted, ?_⟩
      · intro logger member
        rcases List.mem_append.mp member with former | new
        · exact workers logger former
        · exact Option.some.inj (List.mem_singleton.mp new)
      · intro envelopes returned
        exact absurd hiring (by simp [(closed envelopes returned).1])
  | leave worker =>
      obtain ⟨noMain, noWorker⟩ := silent ⟨rfl, rfl⟩
      refine ⟨noMain ▸ mainWriter, ?_, noWorker ▸ accounted, ?_⟩
      · intro logger member
        rcases List.mem_or_eq_of_mem_set member with former | gone
        · exact workers logger former
        · cases gone
      · intro envelopes returned
        refine ⟨(closed envelopes returned).1, ?_⟩
        intro other member
        rcases List.mem_or_eq_of_mem_set member with former | gone
        · exact (closed envelopes returned).2 other former
        · exact gone
  | close =>
      obtain ⟨noMain, noWorker⟩ := silent ⟨rfl, rfl⟩
      exact ⟨noMain ▸ mainWriter, workers, noWorker ▸ accounted,
        fun envelopes returned => ⟨rfl, (closed envelopes returned).2⟩⟩
  | start waiting =>
      obtain ⟨noMain, noWorker⟩ := silent ⟨rfl, rfl⟩
      rw [waiting] at accounted
      exact ⟨noMain ▸ mainWriter, workers,
        noWorker ▸ ⟨[], _, rfl, accounted.1, accounted.2, rfl⟩, nofun⟩
  | take running next =>
      obtain ⟨noMain, noWorker⟩ := silent ⟨rfl, rfl⟩
      rw [running, next] at accounted
      exact ⟨noMain ▸ mainWriter, workers, noWorker ▸ accounted.take, nofun⟩
  | finish running drained senders =>
      obtain ⟨noMain, noWorker⟩ := silent ⟨rfl, rfl⟩
      rw [running, drained] at accounted
      exact ⟨noMain ▸ mainWriter, workers, noWorker ▸ accounted.finish, fun _ _ => senders⟩
  | abandon waiting =>
      obtain ⟨noMain, noWorker⟩ := silent ⟨rfl, rfl⟩
      rw [waiting] at accounted
      exact ⟨noMain ▸ mainWriter, workers, noWorker ▸ ⟨rfl, accounted.2⟩, nofun⟩

theorem Invariant.steps (steps : Steps Session.opening actions session) : Invariant actions session := by
  induction steps with
  | refl => exact Invariant.opening
  | tail _ step ih => exact ih.step step

/-! ## The end of a run -/

/-- Without senders a coordinator that runs takes what is left in the channel and
comes to its end. -/
theorem exists_steps_returned {left : List WorkerMessage} {kept : List Envelope}
    (closed : session.Closed) (running : session.phase = .running kept)
    (posted : session.office.posted = some left) :
    ∃ coordination : List Action,
      (∀ action ∈ coordination, action.OfCoordinator) ∧
      Steps session coordination
        ⟨{ session.office with
            writer := session.office.writer.printAll (consoleTexts left)
            posted := none },
          .returned (kept ++ overlayEnvelopes left), false⟩ := by
  induction left generalizing session kept with
  | nil =>
      refine ⟨[.finish], by simp [Action.OfCoordinator], ?_⟩
      have last := Steps.single (Step.finish running posted closed)
      rw [closed.1] at last
      simpa [Office.discard, consoleTexts, overlayEnvelopes, Writer.printAll] using last
  | cons message left ih =>
      have first := Steps.single (Step.take running posted)
      obtain ⟨coordination, own, steps⟩ := @ih
        { session with
          office := { session.office with
            writer := session.office.writer.printAll (consoleTexts [message])
            posted := some left }
          phase := .running (kept ++ overlayEnvelopes [message]) }
        _ closed rfl rfl
      refine ⟨.take :: coordination, ?_, ?_⟩
      · rw [List.forall_mem_cons]
        exact ⟨trivial, own⟩
      · have whole := first.trans steps
        rw [← Writer.printAll_append, ← consoleTexts_append, List.append_assoc,
          ← overlayEnvelopes_append] at whole
        exact whole

/-- A coordinator that has not begun to run can still do so, and without senders
it returns what `Office.run` returns. -/
theorem exists_steps_run (closed : session.Closed) (waiting : session.phase = .waiting)
    {posted : List WorkerMessage} (unread : session.office.posted = some posted) :
    ∃ coordination : List Action,
      (∀ action ∈ coordination, action.OfCoordinator) ∧
      Steps session coordination
        ⟨session.office.run.1, .returned session.office.run.2, false⟩ := by
  have first := Steps.single (Step.start waiting)
  obtain ⟨coordination, own, steps⟩ :=
    @exists_steps_returned { session with phase := .running [] } posted [] closed rfl unread
  have workers : session.office.workers.map (fun _ => none) = session.office.workers := by
    conv_rhs => rw [← List.map_id session.office.workers]
    exact List.map_congr_left fun worker member => (closed.2 worker member).symm
  refine ⟨.start :: coordination, ?_, ?_⟩
  · rw [List.forall_mem_cons]
    exact ⟨trivial, own⟩
  · have whole := first.trans steps
    simpa only [Office.run, workers, unread, Option.getD_some, List.nil_append,
      List.singleton_append] using whole

/-! ## What is written and returned -/

/-- The texts of the calls, each with a line feed. -/
def linesOf (texts : List String) : List String := texts.map (· ++ "\n")

/-- What the two writers and the channel hold after a sequence of actions. -/
structure Kept (actions : List Action) (session : Session) : Prop where
  /-- The main writer holds the lines of the main logger, in the order of the
  calls. -/
  mainLines : session.office.mainWriter.written =
    linesOf ((mainCalls actions).map WorkerMessage.mainLine)
  /-- The coordinator writes nothing unless it runs. -/
  unwritten : session.phase = .waiting ∨ session.phase = .dropped →
    session.office.writer.written = []
  /-- A run ends with every text written and every envelope handed over, in the
  order of the calls. It ends only if no sender is left. -/
  returned : ∀ envelopes, session.phase = .returned envelopes →
    session.office.writer.written = linesOf (consoleTexts (workerCalls actions)) ∧
    envelopes = overlayEnvelopes (workerCalls actions) ∧
    session.Closed
  /-- If no sender is left, a coordinator that runs comes to its end. -/
  ends : session.Closed → ∀ kept, session.phase = .running kept →
    ∃ (coordination : List Action) (later : Session) (envelopes : List Envelope),
      (∀ action ∈ coordination, action.OfCoordinator) ∧
      Steps session coordination later ∧ later.phase = .returned envelopes
  /-- A coordinator that has not begun to run does so as a whole. -/
  run : session.phase = .waiting →
    session.office.run.1.writer.written = linesOf (consoleTexts (workerCalls actions)) ∧
    session.office.run.2 = overlayEnvelopes (workerCalls actions) ∧
    (session.Closed →
      ∃ coordination : List Action,
        (∀ action ∈ coordination, action.OfCoordinator) ∧
        Steps session coordination
          ⟨session.office.run.1, .returned session.office.run.2, false⟩)
  /-- A call of a worker lengthens the channel, if it is still there, and does
  nothing else. -/
  apart : ∀ (worker : Nat) (message : WorkerMessage) (later : Session),
    Step session (.report worker message) later →
      later = { session with
        office := { session.office with
          posted := session.office.posted.map (· ++ [message]) } }

/-- A fresh writer holds the lines of the texts that were printed. -/
theorem written_printAll (texts : List String) :
    (Writer.printAll {} texts).written = linesOf texts := by
  rw [Writer.printAll_of_accepts rfl]
  rfl

/-- **Nothing is lost, doubled, reordered or mixed up.** Whatever the loggers are
called with, in whatever order, and however the workers come and go. -/
theorem kept_of_steps (steps : Steps Session.opening actions session) :
    Kept actions session := by
  have invariant := Invariant.steps steps
  have accounted := invariant.accounted
  constructor
  case mainLines => rw [invariant.mainWriter, written_printAll]
  case unwritten =>
    rintro (waiting | dropped)
    · rw [waiting] at accounted
      rw [accounted.2]
    · rw [dropped] at accounted
      rw [accounted.2]
  case returned =>
    intro envelopes returned
    rw [returned] at accounted
    obtain ⟨-, written, handedOver⟩ := accounted
    rw [written, written_printAll]
    exact ⟨rfl, handedOver, invariant.closed envelopes returned⟩
  case ends =>
    intro closed kept running
    rw [running] at accounted
    obtain ⟨taken, left, -, posted, -⟩ := accounted
    obtain ⟨coordination, own, further⟩ := exists_steps_returned closed running posted
    exact ⟨coordination, _, _, own, further, rfl⟩
  case run =>
    intro waiting
    rw [waiting] at accounted
    obtain ⟨posted, unwritten⟩ := accounted
    refine ⟨?_, ?_, fun closed => exists_steps_run closed waiting posted⟩
    · rw [Office.run, posted, unwritten, Option.getD_some, written_printAll]
    · rw [Office.run, posted, Option.getD_some]
  case apart =>
    intro worker message later step
    exact Step.of_report invariant step

/-- Two workers whose calls are mixed with a call of the main logger. One of them is
gone before the coordinator runs, and the other still calls while it runs. -/
def mixedActions : List Action :=
  [.hire, .hire, .report 0 (.console "a"), .tell (.console "main"),
    .report 1 (.overlay (.ofPayloads .esLint [])), .leave 0, .close, .start, .take,
    .report 1 (.console "b"), .leave 1, .take, .take, .finish]

/-- The session after the mixed actions. -/
def mixedSession : Session :=
  ⟨{ mainWriter := ⟨["main\n"], false⟩
     writer := ⟨["a\n", "b\n"], false⟩
     posted := none
     workers := [none, none] },
    .returned [.ofPayloads .esLint []], false⟩

theorem kept_mixedSession :
    Steps Session.opening mixedActions mixedSession ∧ Kept mixedActions mixedSession := by
  have steps : Steps Session.opening mixedActions mixedSession :=
    (((((((((((((Steps.refl.tail (.hire rfl)).tail (.hire rfl)).tail (.report _ rfl)).tail
      (.tell _)).tail (.report _ rfl)).tail (.leave 0)).tail .close).tail (.start rfl)).tail
      (.take rfl rfl)).tail (.report _ rfl)).tail (.leave 1)).tail (.take rfl rfl)).tail
      (.take rfl rfl)).tail (.finish rfl rfl ⟨rfl, by decide⟩)
  exact ⟨steps, kept_of_steps steps⟩

end Session

end DiagnosticReport
