import DiagnosticReport.Report

/-!
# Merges of what several jobs post

All jobs of a report post to one channel. Here a message carries the number of
the job that posted it, so that the messages of one job can be told from those
of the others. The console and the overlay never see this number.

* `IsMerge` says that postings are a merge of lists of messages: each list is
  there, in its order, and nothing else is.
* `Accounts` is the same in the middle of a run: what was posted and what is
  still to come make up the lists.
* `jobByJob` is the merge in which the jobs come one after another.
-/

set_option autoImplicit false

namespace DiagnosticReport.Report

/-- A message and the number of the job that posted it. -/
structure Posting where
  job : Nat
  message : WorkerMessage
  deriving DecidableEq, Repr

/-- The messages of one job, in their order. -/
def messagesFrom (job : Nat) (postings : List Posting) : List WorkerMessage :=
  (postings.filter fun posting => posting.job == job).map Posting.message

/-- The postings are a merge of these lists of messages, one for each job. -/
def IsMerge (sources : List (List WorkerMessage)) (postings : List Posting) : Prop :=
  ∀ job, messagesFrom job postings = sources.getD job []

/-- What was posted and what is left to post make up the sources. -/
def Accounts (sources : List (List WorkerMessage)) (posted : List Posting)
    (left : List (List WorkerMessage)) : Prop :=
  ∀ job, messagesFrom job posted ++ left.getD job [] = sources.getD job []

variable {sources left : List (List WorkerMessage)} {posted later postings : List Posting}
  {job : Nat} {message : WorkerMessage} {rest : List WorkerMessage}

/-! ## The messages of one job -/

@[simp] theorem messagesFrom_nil : messagesFrom job [] = [] := rfl

theorem messagesFrom_append :
    messagesFrom job (posted ++ later) = messagesFrom job posted ++ messagesFrom job later := by
  rw [messagesFrom, List.filter_append, List.map_append]
  rfl

theorem messagesFrom_cons (posting : Posting) :
    messagesFrom job (posting :: later) =
      if posting.job = job then posting.message :: messagesFrom job later
      else messagesFrom job later := by
  by_cases same : posting.job = job
  · simp [messagesFrom, same]
  · simp [messagesFrom, same]

theorem messagesFrom_map_mk (other : Nat) (messages : List WorkerMessage) :
    messagesFrom job (messages.map (Posting.mk other)) =
      if other = job then messages else [] := by
  induction messages with
  | nil => simp
  | cons message messages ih =>
      rw [List.map_cons, messagesFrom_cons, ih]
      by_cases same : other = job
      · simp [same]
      · simp [same]

/-- A posting is among the messages of its job. -/
theorem mem_messagesFrom {posting : Posting} (member : posting ∈ postings) :
    posting.message ∈ messagesFrom posting.job postings := by
  refine List.mem_map_of_mem (List.mem_filter.mpr ⟨member, ?_⟩)
  exact beq_self_eq_true posting.job

/-! ## Accounts -/

theorem Accounts.initial (sources : List (List WorkerMessage)) : Accounts sources [] sources := by
  intro job
  rfl

/-- The next message of a job moves from what is left to what was posted. -/
theorem Accounts.post (accounts : Accounts sources posted left)
    (next : left[job]? = some (message :: rest)) :
    Accounts sources (posted ++ [⟨job, message⟩]) (left.set job rest) := by
  obtain ⟨bound, -⟩ := List.getElem?_eq_some_iff.mp next
  intro other
  rw [← accounts other, messagesFrom_append, messagesFrom_cons, List.append_assoc]
  congr 1
  rw [List.getD_eq_getElem?_getD, List.getD_eq_getElem?_getD]
  by_cases same : job = other
  · subst same
    rw [List.getElem?_set_self bound, next, if_pos rfl]
    rfl
  · rw [List.getElem?_set_ne same, if_neg same]
    rfl

/-- When nothing is left, everything was posted. -/
theorem Accounts.isMerge (accounts : Accounts sources posted left)
    (nothingLeft : ∀ messages ∈ left, messages = []) : IsMerge sources posted := by
  intro job
  rw [← accounts job, List.getD_eq_getElem?_getD]
  cases here : left[job]? with
  | none => simp
  | some messages =>
      have empty : messages = [] := nothingLeft messages (List.mem_of_getElem? here)
      simp [empty]

/-- If the postings can be completed to a merge, their next message is the next
one of its job. -/
theorem Accounts.next_of_isMerge (accounts : Accounts sources posted left)
    (merge : IsMerge sources (posted ++ ⟨job, message⟩ :: later)) :
    left[job]? = some (message :: messagesFrom job later) := by
  have whole := merge job
  rw [← accounts job, messagesFrom_append, messagesFrom_cons, if_pos rfl] at whole
  have here : left.getD job [] = message :: messagesFrom job later :=
    (List.append_cancel_left whole).symm
  rw [List.getD_eq_getElem?_getD] at here
  cases found : left[job]? with
  | none =>
      rw [found] at here
      cases here
  | some messages =>
      rw [found] at here
      rw [← here]
      rfl

/-! ## Merges -/

/-- A merge cannot be prolonged. -/
theorem IsMerge.eq_nil_of_append (merge : IsMerge sources posted)
    (longer : IsMerge sources (posted ++ later)) : later = [] := by
  cases later with
  | nil => rfl
  | cons posting later =>
      have same := (longer posting.job).trans (merge posting.job).symm
      rw [messagesFrom_append, messagesFrom_cons, if_pos rfl] at same
      have impossible := List.append_right_eq_self.mp same
      cases impossible

/-- Every posting of a merge comes from one of the jobs. -/
theorem IsMerge.job_lt (merge : IsMerge sources postings) {posting : Posting}
    (member : posting ∈ postings) : posting.job < sources.length := by
  have fromSource := mem_messagesFrom member
  rw [merge posting.job, List.getD_eq_getElem?_getD] at fromSource
  by_cases inside : posting.job < sources.length
  · exact inside
  · rw [List.getElem?_eq_none (Nat.le_of_not_lt inside)] at fromSource
    cases fromSource

/-- The jobs one after another, numbered from `first` on. -/
def jobByJob : Nat → List (List WorkerMessage) → List Posting
  | _, [] => []
  | first, messages :: sources =>
      messages.map (Posting.mk first) ++ jobByJob (first + 1) sources

theorem map_message_jobByJob (first : Nat) (sources : List (List WorkerMessage)) :
    (jobByJob first sources).map Posting.message = sources.flatten := by
  induction sources generalizing first with
  | nil => rfl
  | cons messages sources ih =>
      rw [jobByJob, List.map_append, List.map_map, ih, List.flatten_cons]
      congr 1
      exact List.map_id messages

theorem messagesFrom_jobByJob (first job : Nat) (sources : List (List WorkerMessage)) :
    messagesFrom job (jobByJob first sources) =
      if first ≤ job then sources.getD (job - first) [] else [] := by
  induction sources generalizing first with
  | nil => simp [jobByJob]
  | cons messages sources ih =>
      rw [jobByJob, messagesFrom_append, messagesFrom_map_mk, ih]
      obtain before | same | after := Nat.lt_trichotomy first job
      · have shift : job - first = (job - (first + 1)) + 1 := by omega
        rw [if_neg (Nat.ne_of_lt before), if_pos (show first + 1 ≤ job from before),
          if_pos (Nat.le_of_lt before), shift, List.getD_cons_succ]
        rfl
      · subst same
        rw [if_pos rfl, if_neg (by omega), if_pos (Nat.le_refl first), Nat.sub_self,
          List.getD_cons_zero, List.append_nil]
      · rw [if_neg (Nat.ne_of_gt after), if_neg (by omega), if_neg (by omega)]
        rfl

theorem isMerge_jobByJob (sources : List (List WorkerMessage)) :
    IsMerge sources (jobByJob 0 sources) := by
  intro job
  rw [messagesFrom_jobByJob, if_pos (Nat.zero_le job)]
  rfl

/-! ## One job less -/

/-- The postings without those of one job; the jobs behind it move up. -/
def without (job : Nat) (postings : List Posting) : List Posting :=
  (postings.filter fun posting => posting.job != job).map fun posting =>
    { posting with job := if posting.job < job then posting.job else posting.job - 1 }

theorem without_cons_of_eq {posting : Posting} (same : posting.job = job) :
    without job (posting :: later) = without job later := by
  simp [without, same]

theorem without_cons_of_ne {posting : Posting} (different : posting.job ≠ job) :
    without job (posting :: later) =
      { posting with job := if posting.job < job then posting.job else posting.job - 1 } ::
        without job later := by
  simp [without, different]

theorem messagesFrom_without (job other : Nat) (postings : List Posting) :
    messagesFrom other (without job postings) =
      messagesFrom (if other < job then other else other + 1) postings := by
  induction postings with
  | nil => rfl
  | cons posting postings ih =>
      rw [messagesFrom_cons, ← ih]
      by_cases dropped : posting.job = job
      · rw [without_cons_of_eq dropped, if_neg]
        split <;> omega
      · rw [without_cons_of_ne dropped, messagesFrom_cons]
        have renumbered : ((if posting.job < job then posting.job else posting.job - 1) = other) ↔
            posting.job = if other < job then other else other + 1 := by
          split <;> split <;> omega
        simp only [renumbered]

/-- Without one of the jobs, a merge is a merge of the others. -/
theorem IsMerge.without (merge : IsMerge sources postings) (job : Nat) :
    IsMerge (sources.eraseIdx job) (without job postings) := by
  intro other
  rw [messagesFrom_without, merge, List.getD_eq_getElem?_getD, List.getD_eq_getElem?_getD,
    List.getElem?_eraseIdx]
  by_cases before : other < job
  · rw [if_pos before, if_pos before]
  · rw [if_neg before, if_neg before]

end DiagnosticReport.Report
