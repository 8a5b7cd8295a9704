import PaymentProcessing.QueuedPayments

/-!
Jobs and their runs when no call fails, no job stalls and no process dies: an
active job has exactly one run, from its pick until the handler is over, so the
queue's bookkeeping at the end of a handler always finds the job it took, and a
job whose attempts are used up takes its payment with it.
-/
namespace JobHolding
open KeyedTable JobStore TransitionRuns PaymentStateMachine PaymentRepositories PaymentService
open PaymentTransactions PaymentSystem SystemSteps IdempotentCreation QueuedPayments

/-- No database or queue call fails, no process dies, and process(),
    recoverStalePayment and failPayment run only inside jobs and sweeps. A
    process reads MAX_PAYMENT_ATTEMPTS from config.js, where it is never 0. -/
def undisturbed : Action → Bool
  | .process _ _ | .expire _ | .stall _ | .recover _ | .failPayment _ _ => false
  | .api _ (.enqueue (some _)) | .api _ .crash => false
  | .worker _ (.claim (some _)) | .worker _ (.settle (some _)) => false
  | .worker _ (.failedHandler (some _)) | .worker _ .crash => false
  | .sweep _ (.recover (some _)) | .sweep _ (.remove (some _)) => false
  | .sweep _ (.enqueue (some _)) | .sweep _ .crash => false
  | .initiate _ config _ => 0 < config.maxPaymentAttempts
  | .reconcile _ config => 0 < config.maxPaymentAttempts
  | _ => true

def Undisturbed (_ : System) (a : Action) : Prop := undisturbed a = true

instance (s : System) (a : Action) : Decidable (Undisturbed s a) :=
  inferInstanceAs (Decidable (undisturbed a = true))

theorem calm_absurd {s : System} {a : Action} {P : Prop} (calm : Undisturbed s a)
    (disturbs : undisturbed a = false) : P := by
  rw [Undisturbed, disturbs] at calm
  simp at calm

theorem undisturbed_driven {s : System} {a : Action} (h : Undisturbed s a) : JobDriven s a := by
  cases a with
  | process run paymentId => exact calm_absurd h rfl
  | _ => trivial

def live : ProcessPhase → Bool
  | .failing _ | .closed | .crashed => false
  | _ => true

structure JobsHeld (runs : Nat → Option ProcessCall) (queue : PaymentQueue) : Prop where
  holds : ∀ run r, runs run = some r → live r.phase = true →
    ∃ jobId j, r.job = some jobId ∧ queue.job jobId = some j ∧ j.state = .active run ∧
      j.data.paymentId = r.paymentId
  held : ∀ jobId j run, queue.job jobId = some j → j.state = .active run →
    ∃ r, runs run = some r ∧ live r.phase = true ∧ r.job = some jobId

variable {runs : Nat → Option ProcessCall} {queue queue' : PaymentQueue}

theorem held_kept (h : JobsHeld runs queue)
    (forth : ∀ jobId j run, queue.job jobId = some j → j.state = .active run →
      queue'.job jobId = some j)
    (back : ∀ jobId j run, queue'.job jobId = some j → j.state = .active run →
      queue.job jobId = some j) : JobsHeld runs queue' := by
  constructor
  · intro run r present alive
    obtain ⟨jobId, j, mine, queued, active, same⟩ := h.holds run r present alive
    exact ⟨jobId, j, mine, forth jobId j run queued active, active, same⟩
  · intro jobId j run queued active
    exact h.held jobId j run (back jobId j run queued active) active

theorem held_added (h : JobsHeld runs queue) (config : Config) (pid : Nat) :
    JobsHeld runs (enqueuePayment queue config pid) := by
  apply held_kept h ?_ ?_
  · intro jobId j run queued _
    exact add_present _ _ queued
  · intro jobId j run present active
    rcases add_origin present with queued | ⟨-, -, rfl⟩
    · exact queued
    · simp at active

theorem held_removed (h : JobsHeld runs queue) {id : String} (removal : queue.remove id = some queue') :
    JobsHeld runs queue' := by
  apply held_kept h ?_ ?_
  · intro jobId j run queued active
    exact remove_kept removal queued active
  · intro jobId j run present active
    obtain ⟨-, gone, rest⟩ := remove_some removal
    have apart : jobId ≠ id := fresh_apart present gone
    rw [← rest jobId apart, present]

theorem held_picked (h : JobsHeld runs queue) {run : Nat} {jobId : String} {data : JobData}
    (fresh : runs run = none) (took : queue.take jobId run = some (data, queue')) :
    JobsHeld (set runs run ⟨data.paymentId, some jobId, .claiming⟩) queue' := by
  obtain ⟨j, queued, rfl, idle, rfl⟩ := take_some took
  have apart : ∀ id k holder, queue.job id = some k → k.state = .active holder → id ≠ jobId := by
    intro id k holder present active same
    rw [same, queued] at present
    obtain rfl := Option.some.inj present
    rcases idle with waiting | delayed
    · simp [active] at waiting
    · simp [active] at delayed
  constructor
  · intro other r present alive
    rcases set_some present with ⟨rfl, rfl⟩ | ⟨-, old⟩
    · exact ⟨jobId, { j with state := .active other }, rfl, put_own queued rfl, rfl, rfl⟩
    · obtain ⟨id, k, job, there, active, same⟩ := h.holds other r old alive
      have kept : (queue.put { j with state := .active run }).job id = queue.job id :=
        put_other queued rfl (apart id k other there active)
      exact ⟨id, k, job, kept.trans there, active, same⟩
  · intro id k holder present active
    by_cases same : id = jobId
    · subst same
      have own : k = { j with state := .active run } :=
        Option.some.inj (present.symm.trans (put_own queued rfl))
      obtain rfl : run = holder := by simpa [own] using active
      exact ⟨_, if_pos rfl, rfl, rfl⟩
    · have kept : (queue.put { j with state := .active run }).job id = queue.job id :=
        put_other queued rfl same
      obtain ⟨r, old, alive, job⟩ := h.held id k holder (kept.symm.trans present) active
      have ne : holder ≠ run := fresh_apart old fresh
      exact ⟨r, by rw [set_apply, if_neg ne, old], alive, job⟩

theorem held_continued (h : JobsHeld runs queue) {run : Nat} {r : ProcessCall}
    {phase : ProcessPhase} (present : runs run = some r) (before : live r.phase = true)
    (after : live phase = true) : JobsHeld (set runs run { r with phase }) queue := by
  constructor
  · intro other r' found alive
    rcases set_some found with ⟨rfl, rfl⟩ | ⟨-, old⟩
    · exact h.holds other r present before
    · exact h.holds other r' old alive
  · intro jobId j holder queued active
    obtain ⟨r', found, alive, job⟩ := h.held jobId j holder queued active
    by_cases same : holder = run
    · subst same
      obtain rfl := Option.some.inj (present.symm.trans found)
      exact ⟨_, if_pos rfl, after, job⟩
    · exact ⟨r', by rw [set_apply, if_neg same, found], alive, job⟩

theorem held_finished (h : JobsHeld runs queue) {run : Nat} {r : ProcessCall} {jobId : String}
    {phase : ProcessPhase} (present : runs run = some r) (before : live r.phase = true)
    (job : r.job = some jobId) (after : live phase = false)
    (others : ∀ id, id ≠ jobId → queue'.job id = queue.job id)
    (own : ∀ j holder, queue'.job jobId = some j → j.state ≠ .active holder) :
    JobsHeld (set runs run { r with phase }) queue' := by
  obtain ⟨jobId', mine, job', queued, active, -⟩ := h.holds run r present before
  obtain rfl : jobId = jobId' := Option.some.inj (job.symm.trans job')
  constructor
  · intro other r' found alive
    rcases set_some found with ⟨rfl, rfl⟩ | ⟨apart, old⟩
    · rw [after] at alive
      simp at alive
    · obtain ⟨id, j, theirs, there, activeOther, same⟩ := h.holds other r' old alive
      have elsewhere : id ≠ jobId := by
        intro eq
        rw [eq, queued] at there
        obtain rfl := Option.some.inj there
        rw [active] at activeOther
        exact apart (JobState.active.inj activeOther).symm
      exact ⟨id, j, theirs, (others id elsewhere).trans there, activeOther, same⟩
  · intro id j holder there activeOther
    by_cases eq : id = jobId
    · rw [eq] at there
      exact absurd activeOther (own j holder there)
    · rw [others id eq] at there
      obtain ⟨r', found, alive, theirs⟩ := h.held id j holder there activeOther
      have apart : holder ≠ run := by
        intro same
        rw [same, present] at found
        obtain rfl := Option.some.inj found
        exact eq (Option.some.inj (theirs.symm.trans job))
      exact ⟨r', by rw [set_apply, if_neg apart, found], alive, theirs⟩

theorem held_handled (h : JobsHeld runs queue) {run : Nat} {r : ProcessCall} {phase : ProcessPhase}
    (present : runs run = some r) (before : live r.phase = false) (after : live phase = false) :
    JobsHeld (set runs run { r with phase }) queue := by
  constructor
  · intro other r' found alive
    rcases set_some found with ⟨rfl, rfl⟩ | ⟨-, old⟩
    · rw [after] at alive
      simp at alive
    · exact h.holds other r' old alive
  · intro jobId j holder queued active
    obtain ⟨r', found, alive, job⟩ := h.held jobId j holder queued active
    have apart : holder ≠ run := by
      intro same
      rw [same, present] at found
      obtain rfl := Option.some.inj found
      rw [before] at alive
      simp at alive
    exact ⟨r', by rw [set_apply, if_neg apart, found], alive, job⟩

theorem completed_queue (h : JobsHeld runs queue) {run : Nat} {r : ProcessCall} {jobId : String}
    (present : runs run = some r) (before : live r.phase = true) (job : r.job = some jobId) :
    queue.complete jobId run = some (queue.delete jobId) := by
  obtain ⟨jobId', j, job', queued, active, -⟩ := h.holds run r present before
  obtain rfl : jobId = jobId' := Option.some.inj (job.symm.trans job')
  exact complete_active queued active

/-- The queue's bookkeeping on the job of a handler that threw, and what the
    'failed' listener makes of it. -/
theorem throw_counted {run : Nat} {jobId : String} {j : Job JobData}
    (queued : queue.job jobId = some j) (active : j.state = .active run) (config : Config)
    (err : JsError) :
    ∃ j', (failJob queue config jobId run err).1 = queue.put j' ∧ j'.data = j.data ∧
      j'.attempts = j.attempts ∧ j'.attemptsMade = j.attemptsMade + 1 ∧
      (j'.state = .delayed ∧ j'.attemptsMade < j'.attempts ∨
        j'.state = .failed ∧ j'.attempts ≤ j'.attemptsMade) ∧
      (failJob queue config jobId run err).2 =
        if jobBudget config j' ≤ j'.attemptsMade then .failing ("worker: " ++ err.message)
        else .closed := by
  obtain ⟨j', after, failed⟩ := fail_active queued active
  obtain ⟨old, queued', -, put, data, attempts, made, state⟩ := fail_some failed
  obtain rfl : j = old := Option.some.inj (queued.symm.trans queued')
  rcases failJob_spec queue config jobId run err with ⟨none_, -⟩ | ⟨j'', after', failed', phase⟩
  · rw [failed] at none_
    simp at none_
  · rw [failed] at failed'
    obtain ⟨rfl, rfl⟩ := Prod.mk.inj (Option.some.inj failed')
    refine ⟨j', ?_, data, attempts, made, state, ?_⟩
    · rcases phase with ⟨-, eq⟩ | ⟨-, eq⟩ <;> rw [eq, put]
    · rcases phase with ⟨spent, eq⟩ | ⟨more, eq⟩
      · rw [eq, if_pos spent]
      · rw [eq, if_neg (by omega)]

structure Failed (queue queue' : PaymentQueue) (jobId : String) (pid : Nat) (phase : ProcessPhase)
    (j j' : Job JobData) : Prop where
  queued : queue.job jobId = some j
  payment : j.data.paymentId = pid
  put : queue' = queue.put j'
  data : j'.data = j.data
  attempts : j'.attempts = j.attempts
  stopped : live phase = false
  state : j'.state = .delayed ∨ j'.state = .failed ∧
    (0 < j.attempts → ∃ reason, phase = .failing reason)

theorem failed_queue (h : JobsHeld runs queue) {run : Nat} {r : ProcessCall} {jobId : String}
    (present : runs run = some r) (before : live r.phase = true) (job : r.job = some jobId)
    (config : Config) (err : JsError) :
    ∃ j j', Failed queue (failJob queue config jobId run err).1 jobId r.paymentId
      (failJob queue config jobId run err).2 j j' := by
  obtain ⟨jobId', j, job', queued, active, payment⟩ := h.holds run r present before
  obtain rfl : jobId = jobId' := Option.some.inj (job.symm.trans job')
  obtain ⟨j', put, data, attempts, -, state, phase⟩ := throw_counted queued active config err
  refine ⟨j, j', queued, payment, put, data, attempts, ?_, ?_⟩
  · rw [phase]
    split <;> rfl
  · rcases state with ⟨delayed, -⟩ | ⟨kept, spent⟩
    · exact Or.inl delayed
    · refine Or.inr ⟨kept, ?_⟩
      intro positive
      have budget : jobBudget config j' = j'.attempts := by
        rw [jobBudget, if_neg (by omega)]
      exact ⟨_, by rw [phase, budget, if_pos spent]⟩

/-- One step of the system, for the runs and the jobs they hold. -/
theorem held_step {s t : System} {a : Action} {e : Event} (h : JobsHeld s.runs s.queue)
    (calm : Undisturbed s a) (move : SystemMove s a e t) : JobsHeld t.runs t.queue := by
  cases move with
  | api call move present spec =>
    cases spec with
    | enqueued here => exact held_added h _ _
    | _ => exact h
  | process run paymentId fresh => exact calm_absurd calm rfl
  | pick run jobId fresh took => exact held_picked h fresh took
  | @worker run move r e db queue phase present spec =>
    have alive : ∀ {p}, r.phase = p → live p = true → live r.phase = true := by
      intro p here living
      rw [here]
      exact living
    cases spec with
    | claim here =>
      apply held_continued h present (alive here rfl) ?_
      cases (claim s.db r.paymentId s.now).1 <;> rfl
    | claimThrew err here => exact calm_absurd calm rfl
    | charge timeoutMs a here => exact held_continued h present (alive here rfl) rfl
    | @reply claim answer here =>
      apply held_continued h present (alive here rfl) ?_
      cases answer with
      | ok result => rfl
      | error err => cases err <;> rfl
    | @settle claim answer here =>
      apply held_continued h present (alive here rfl) ?_
      cases (settle s.db r.paymentId answer s.now).1 <;> rfl
    | settleThrew err here => exact calm_absurd calm rfl
    | @completed result jobId config here job =>
      have done := completed_queue h present (alive here rfl) job
      simp only [done, Option.getD_some]
      apply held_finished h present (alive here rfl) job rfl ?_ ?_
      · intro id apart
        rw [job_delete, if_neg apart]
      · intro j holder there
        simp at there
    | @failed err jobId config here job =>
      obtain ⟨j, j', failed⟩ := failed_queue h present (alive here rfl) job config err
      apply held_finished h present (alive here rfl) job failed.stopped ?_ ?_
      · intro id apart
        rw [failed.put, put_other failed.queued failed.data apart]
      · intro k holder there active
        rw [failed.put, put_own failed.queued failed.data] at there
        obtain rfl := Option.some.inj there
        rcases failed.state with delayed | ⟨kept, -⟩
        · simp [active] at delayed
        · simp [active] at kept
    | handled here => exact held_handled h present (by rw [here]; rfl) rfl
    | handlerErrored err here => exact calm_absurd calm rfl
    | crash => exact calm_absurd calm rfl
  | expire jobId => exact calm_absurd calm rfl
  | stall jobId => exact calm_absurd calm rfl
  | sweep sweep move present spec =>
    cases spec with
    | removed here removal => exact held_removed h removal
    | enqueued here => exact held_added h _ _
    | _ => exact h
  | _ => exact h

theorem run_held {history : List Event} {s : System}
    (run : Run (Does exec Undisturbed) System.init history s) : JobsHeld s.runs s.queue := by
  apply run_invariant (fun _ u => JobsHeld u.runs u.queue) ?_ ?_ run
  · constructor
    · intro run r present
      simp [System.init] at present
    · intro jobId j run queued
      simp [System.init, Jobs.empty] at queued
  · intro history u e t inv step
    obtain ⟨a, calm, done⟩ := step
    exact held_step inv calm (exec_move done)

theorem job_payment {queue : PaymentQueue} {id : Nat} {j : Job JobData}
    (queued : queue.job (jobIdFor id) = some j) : j.data.paymentId = id :=
  jobIdFor_injective (queue.filed _ j queued)

theorem job_of {s : System} (h : JobsHeld s.runs s.queue) {run : Nat} {r : ProcessCall}
    (present : s.runs run = some r) (alive : live r.phase = true) :
    ∃ j, r.job = some (jobIdFor r.paymentId) ∧ s.queue.job (jobIdFor r.paymentId) = some j ∧
      j.state = .active run := by
  obtain ⟨jobId, j, job, queued, active, payment⟩ := h.holds run r present alive
  obtain rfl : jobId = jobIdFor r.paymentId := by rw [← payment, s.queue.filed jobId j queued]
  exact ⟨j, job, queued, active⟩

theorem holder_of {s : System} (h : JobsHeld s.runs s.queue) {id run : Nat} {j : Job JobData}
    (queued : s.queue.job (jobIdFor id) = some j) (active : j.state = .active run) :
    ∃ r, s.runs run = some r ∧ live r.phase = true ∧ r.paymentId = id := by
  obtain ⟨r, present, alive, job⟩ := h.held _ j run queued active
  obtain ⟨k, job', -, -⟩ := job_of h present alive
  have same : jobIdFor id = jobIdFor r.paymentId := Option.some.inj (job.symm.trans job')
  exact ⟨r, present, alive, (jobIdFor_injective same).symm⟩

/-- A run in which the 'failed' listener is about to fail the payment. -/
def Failing (s : System) (id : Nat) : Prop :=
  ∃ run r reason, s.runs run = some r ∧ r.paymentId = id ∧ r.phase = .failing reason

/-- A sweep that has released the payment and has yet to enqueue it. -/
def Released (s : System) (id : Nat) : Prop :=
  ∃ sweep w row rest, s.sweeps sweep = some w ∧ row.id = id ∧
    (w.phase = .removing row rest ∨ w.phase = .enqueuing row rest)

inductive JobMove (s t : System) (id : Nat) : Option (Job JobData) → Option (Job JobData) → Prop where
  | kept (job : Option (Job JobData)) : JobMove s t id job job
  | filed (j : Job JobData) (idle : j.state = .waiting) (budget : 0 < j.attempts) :
      JobMove s t id none (some j)
  | picked (j : Job JobData) (run : Nat) (idle : j.state = .waiting ∨ j.state = .delayed)
      (begun : t.runs run = some ⟨id, some (jobIdFor id), .claiming⟩) :
      JobMove s t id (some j) (some { j with state := .active run })
  | completed (j : Job JobData) (run : Nat) (active : j.state = .active run) :
      JobMove s t id (some j) none
  | thrown (j j' : Job JobData) (run : Nat) (active : j.state = .active run)
      (attempts : j'.attempts = j.attempts)
      (after : j'.state = .delayed ∨ j'.state = .failed ∧ (0 < j.attempts → Failing t id)) :
      JobMove s t id (some j) (some j')
  | removed (j : Job JobData) (idle : ∀ run, j.state ≠ .active run) (released : Released t id) :
      JobMove s t id (some j) none

theorem job_added {s t : System} (queue : PaymentQueue) (config : Config) (pid id : Nat)
    (positive : 0 < config.maxPaymentAttempts) :
    JobMove s t id (queue.job (jobIdFor id))
      ((enqueuePayment queue config pid).job (jobIdFor id)) := by
  by_cases same : jobIdFor id = jobIdFor pid
  · rw [same, enqueuePayment, add_same]
    cases queue.job (jobIdFor pid) with
    | some j => exact JobMove.kept _
    | none => exact JobMove.filed _ rfl positive
  · have kept := add_other queue (⟨pid⟩ : JobData) config.maxPaymentAttempts same
    rw [enqueuePayment, kept]
    exact JobMove.kept _

theorem job_picked {s t : System} {queue : PaymentQueue} {run : Nat} {jobId : String}
    {data : JobData} (took : s.queue.take jobId run = some (data, queue))
    (begun : t.runs run = some ⟨data.paymentId, some jobId, .claiming⟩) (id : Nat) :
    JobMove s t id (s.queue.job (jobIdFor id)) (queue.job (jobIdFor id)) := by
  obtain ⟨j, queued, rfl, idle, rfl⟩ := take_some took
  by_cases same : jobIdFor id = jobId
  · subst same
    have own : (s.queue.put { j with state := .active run }).job (jobIdFor id) =
        some { j with state := .active run } := put_own queued rfl
    rw [job_payment queued] at begun
    rw [queued, own]
    exact JobMove.picked j run idle begun
  · have kept : (s.queue.put { j with state := .active run }).job (jobIdFor id) =
        s.queue.job (jobIdFor id) := put_other queued rfl same
    rw [kept]
    exact JobMove.kept _

theorem job_completed {s t : System} (held : JobsHeld s.runs s.queue) {run : Nat} {r : ProcessCall}
    {jobId : String} (present : s.runs run = some r) (alive : live r.phase = true)
    (job : r.job = some jobId) (id : Nat) :
    JobMove s t id (s.queue.job (jobIdFor id))
      (((s.queue.complete jobId run).getD s.queue).job (jobIdFor id)) := by
  obtain ⟨j, job', queued, active⟩ := job_of held present alive
  obtain rfl : jobId = jobIdFor r.paymentId := Option.some.inj (job.symm.trans job')
  simp only [completed_queue held present alive job, Option.getD_some, job_delete]
  by_cases same : jobIdFor id = jobIdFor r.paymentId
  · rw [if_pos same, same, queued]
    exact JobMove.completed j run active
  · rw [if_neg same]
    exact JobMove.kept _

theorem job_failed {s t : System} (held : JobsHeld s.runs s.queue) {run : Nat} {r : ProcessCall}
    {jobId : String} (present : s.runs run = some r) (alive : live r.phase = true)
    (job : r.job = some jobId) (config : Config) (err : JsError)
    (after : t.runs run = some { r with phase := (failJob s.queue config jobId run err).2 })
    (id : Nat) :
    JobMove s t id (s.queue.job (jobIdFor id))
      ((failJob s.queue config jobId run err).1.job (jobIdFor id)) := by
  obtain ⟨j, j', failed⟩ := failed_queue held present alive job config err
  obtain ⟨k, job', queued, active⟩ := job_of held present alive
  obtain rfl : jobId = jobIdFor r.paymentId := Option.some.inj (job.symm.trans job')
  obtain rfl : j = k := Option.some.inj (failed.queued.symm.trans queued)
  rw [failed.put]
  by_cases same : jobIdFor id = jobIdFor r.paymentId
  · have mine := jobIdFor_injective same
    rw [same, queued, put_own queued failed.data]
    refine JobMove.thrown j j' run active failed.attempts ?_
    rcases failed.state with delayed | ⟨spent, notify⟩
    · exact Or.inl delayed
    · refine Or.inr ⟨spent, ?_⟩
      intro positive
      obtain ⟨reason, eq⟩ := notify positive
      exact ⟨run, _, reason, after, mine.symm, eq⟩
  · rw [put_other queued failed.data same]
    exact JobMove.kept _

theorem job_removed {s t : System} {queue : PaymentQueue} {pid : Nat}
    (removal : s.queue.remove (jobIdFor pid) = some queue) (released : Released t pid) (id : Nat) :
    JobMove s t id (s.queue.job (jobIdFor id)) (queue.job (jobIdFor id)) := by
  obtain ⟨idle, gone, others⟩ := remove_some removal
  by_cases same : jobIdFor id = jobIdFor pid
  · obtain rfl := jobIdFor_injective same
    rw [gone]
    cases queued : s.queue.job (jobIdFor id) with
    | none => exact JobMove.kept _
    | some j =>
      apply JobMove.removed j ?_ released
      intro run
      exact idle j run queued
  · rw [others _ same]
    exact JobMove.kept _

/-- The settings of every call and sweep grant at least one attempt. -/
structure Budgets (s : System) : Prop where
  calls : ∀ call c, s.calls call = some c → 0 < c.config.maxPaymentAttempts
  sweeps : ∀ sweep w, s.sweeps sweep = some w → 0 < w.config.maxPaymentAttempts

theorem job_move {s t : System} {a : Action} {e : Event} (held : JobsHeld s.runs s.queue)
    (budgets : Budgets s) (calm : Undisturbed s a) (move : SystemMove s a e t) (id : Nat) :
    JobMove s t id (s.queue.job (jobIdFor id)) (t.queue.job (jobIdFor id)) := by
  cases move with
  | api call move present spec =>
    cases spec with
    | enqueued here => exact job_added _ _ _ _ (budgets.calls call _ present)
    | _ => exact JobMove.kept _
  | pick run jobId fresh took => exact job_picked took (if_pos rfl) id
  | worker run move present spec =>
    cases spec with
    | completed config here job => exact job_completed held present (by rw [here]; rfl) job id
    | @failed err jobId config here job =>
      exact job_failed held present (by rw [here]; rfl) job config err (if_pos rfl) id
    | _ => exact JobMove.kept _
  | expire jobId => exact calm_absurd calm rfl
  | stall jobId => exact calm_absurd calm rfl
  | @sweep sweep move w e db queue phase present spec =>
    cases spec with
    | @removed row rest queue' here removal =>
      exact job_removed removal ⟨sweep, _, row, rest, if_pos rfl, rfl, Or.inr rfl⟩ id
    | enqueued here => exact job_added _ _ _ _ (budgets.sweeps sweep _ present)
    | _ => exact JobMove.kept _
  | _ => exact JobMove.kept _

theorem budgets_step {s t : System} {a : Action} {e : Event} (h : Budgets s)
    (calm : Undisturbed s a) (move : SystemMove s a e t) : Budgets t := by
  cases move with
  | initiate call config request fresh =>
    refine ⟨?_, h.sweeps⟩
    intro other c present
    rcases set_some present with ⟨-, rfl⟩ | ⟨-, old⟩
    · simpa [Undisturbed, undisturbed] using calm
    · exact h.calls other c old
  | @api call move c e db queue phase here spec =>
    refine ⟨?_, h.sweeps⟩
    intro other c' present
    rcases set_some present with ⟨-, rfl⟩ | ⟨-, old⟩
    · exact h.calls call c here
    · exact h.calls other c' old
  | reconcile sweep config fresh =>
    refine ⟨h.calls, ?_⟩
    intro other w present
    rcases set_some present with ⟨-, rfl⟩ | ⟨-, old⟩
    · simpa [Undisturbed, undisturbed, startSweep] using calm
    · exact h.sweeps other w old
  | @sweep sweep move w e db queue phase here spec =>
    refine ⟨h.calls, ?_⟩
    intro other w' present
    rcases set_some present with ⟨-, rfl⟩ | ⟨-, old⟩
    · exact h.sweeps sweep w here
    · exact h.sweeps other w' old
  | _ => exact ⟨h.calls, h.sweeps⟩

def Settled (s : System) (id : Nat) : Prop :=
  ∃ p, row s id = some p ∧ isTerminal p.status = true

theorem settled_step {s t : System} {a : Action} {e : Event} (move : SystemMove s a e t) {id : Nat}
    (h : Settled s id) : Settled t id := by
  obtain ⟨p, found, settled⟩ := h
  exact ⟨p, PaymentLifecycle.commit_keeps_settled (move_commit move) found settled, settled⟩

/-- The 'failed' listener settles the payment, unless something else has. -/
theorem failing_step {s t : System} {a : Action} {e : Event} (calm : Undisturbed s a)
    (move : SystemMove s a e t) {id : Nat} {p : Payment} (found : row s id = some p)
    (h : Failing s id) : Failing t id ∨ Settled t id := by
  obtain ⟨run, r, reason, present, mine, failing⟩ := h
  rcases run_after move present with
    same | ⟨move, db, queue, phase, rfl, after, -, -, spec⟩
  · exact Or.inl ⟨run, r, reason, same, mine, failing⟩
  · apply Or.inr ?_
    rw [← mine] at found ⊢
    cases spec with
    | handled here =>
      obtain ⟨q, written, settled⟩ := failPayment_settles found _ s.now
      exact ⟨q, by rw [row, after, written], settled⟩
    | handlerErrored err here => exact calm_absurd calm rfl
    | crash => exact calm_absurd calm rfl
    | _ => simp_all

/-- What holds of the jobs whatever the sweeps do: each was granted an attempt,
    no active one loses its lock, and when the attempts are used up the payment
    fails with the job. -/
structure Handled (s : System) : Prop where
  held : JobsHeld s.runs s.queue
  budgets : Budgets s
  granted : ∀ id j, s.queue.job (jobIdFor id) = some j → 0 < j.attempts
  locked : ∀ id j, s.queue.job (jobIdFor id) = some j → j.state ≠ .unlocked
  failed : ∀ id j, s.queue.job (jobIdFor id) = some j → j.state = .failed →
    Failing s id ∨ Settled s id

theorem job_row {history : List Event} {s : System}
    (run : Run (Does exec Undisturbed) System.init history s) {id : Nat} {j : Job JobData}
    (queued : s.queue.job (jobIdFor id) = some j) : ∃ p, row s id = some p := by
  have driven := run_mono (does_mono fun _ _ => undisturbed_driven) run
  have accepted := (run_queued driven).jobs _ j queued
  rw [job_payment queued] at accepted
  obtain ⟨call, sent⟩ := accepted
  have inserted := enqueue_inserted (run_api_traced run) sent
  obtain ⟨c, p, -, found, -⟩ := (run_creators run).made call id inserted
  exact ⟨p, found⟩

theorem handled_step {history : List Event} {s t : System} {a : Action} {e : Event}
    (run : Run (Does exec Undisturbed) System.init history s) (h : Handled s)
    (calm : Undisturbed s a) (move : SystemMove s a e t) : Handled t := by
  have moved := job_move h.held h.budgets calm move
  refine ⟨held_step h.held calm move, budgets_step h.budgets calm move, ?_, ?_, ?_⟩
  · intro id j queued
    have mine := moved id
    rw [queued] at mine
    generalize before : s.queue.job (jobIdFor id) = job at mine
    cases mine with
    | kept => exact h.granted id j before
    | filed _ idle budget => exact budget
    | picked old run idle begun => exact h.granted id old before
    | thrown old _ run active attempts after =>
      rw [attempts]
      exact h.granted id old before
  · intro id j queued
    have mine := moved id
    rw [queued] at mine
    generalize before : s.queue.job (jobIdFor id) = job at mine
    cases mine with
    | kept => exact h.locked id j before
    | filed _ idle budget => simp [idle]
    | picked old run idle begun => simp
    | thrown old _ run active attempts after =>
      rcases after with delayed | ⟨failed, -⟩
      · simp [delayed]
      · simp [failed]
  · intro id j queued spent
    have mine := moved id
    rw [queued] at mine
    generalize before : s.queue.job (jobIdFor id) = job at mine
    cases mine with
    | kept =>
      obtain ⟨p, found⟩ := job_row run before
      rcases h.failed id j before spent with failing | settled
      · exact failing_step calm move found failing
      · exact Or.inr (settled_step move settled)
    | filed _ idle budget => simp [idle] at spent
    | picked old run idle begun => simp at spent
    | thrown old _ run active attempts after =>
      rcases after with delayed | ⟨-, notify⟩
      · simp [delayed] at spent
      · exact Or.inl (notify (h.granted id old before))

theorem run_handled {history : List Event} {s : System}
    (run : Run (Does exec Undisturbed) System.init history s) : Handled s := by
  refine run_induction (fun _ u => Handled u) ?_ ?_ run
  · refine ⟨run_held Run.nil, ?_, ?_, ?_, ?_⟩
    · constructor
      · intro call c present
        simp [System.init] at present
      · intro sweep w present
        simp [System.init] at present
    all_goals
      intro id j queued
      simp [System.init, Jobs.empty] at queued
  · intro history u e t before inv step
    obtain ⟨a, calm, done⟩ := step
    exact handled_step before inv calm (exec_move done)

end JobHolding
