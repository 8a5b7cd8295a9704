import PaymentProcessing.JobHolding
import PaymentProcessing.SupersededClaims
import PaymentProcessing.ColumnCoherence

/-!
The attempts of a job against the attempts of its payment. The queue counts the
handlers that threw, the row counts the claims that were won; a handler throws
only after its claim and only while the row has attempts left, so the queue
never runs out first and its failure listener has nothing to do.
-/
namespace RetryBudget
open KeyedTable JobStore TransitionRuns PaymentStateMachine PaymentRepositories PaymentService
open WebhookService PaymentTransactions PaymentSystem SystemSteps AttemptAccounting JobHolding

/-- Every process reads the same MAX_PAYMENT_ATTEMPTS, and charge() throws
    nothing but a GatewayError. -/
def steady (max : Nat) : Action → Bool
  | .initiate _ config _ | .reconcile _ config => config.maxPaymentAttempts == max
  | .worker _ (.finish config) => config.maxPaymentAttempts == max
  | .worker _ (.charge _ ⟨_, .error (.error _ _ _)⟩) => false
  | _ => true

def Budgeted (max : Nat) (s : System) (a : Action) : Prop :=
  Undisturbed s a ∧ steady max a = true

instance (max : Nat) (s : System) (a : Action) : Decidable (Budgeted max s a) :=
  inferInstanceAs (Decidable (_ ∧ _))

theorem undisturbed_run {max : Nat} {history : List Event} {s t : System}
    (run : Run (Does exec (Budgeted max)) s history t) :
    Run (Does exec Undisturbed) s history t :=
  run_mono (does_mono fun _ _ => And.left) run

structure OneBound (max : Nat) (s : System) : Prop where
  calls : ∀ call c, s.calls call = some c → c.config.maxPaymentAttempts = max
  sweeps : ∀ sweep w, s.sweeps sweep = some w → w.config.maxPaymentAttempts = max
  rows : ∀ id p, row s id = some p → p.maxAttempts = max

theorem row_kept {s t : System} {a : Action} {e : Event} (move : SystemMove s a e t) {id : Nat}
    {p q : Payment} (before : row s id = some p) (after : row t id = some q) :
    q.maxAttempts = p.maxAttempts ∧ p.attempts ≤ q.attempts := by
  obtain ⟨q', found, ⟨rfl, -⟩ | w⟩ := commit_keeps_row (move_commit move) before
  · obtain rfl := Option.some.inj (found.symm.trans after)
    exact ⟨rfl, Nat.le_refl _⟩
  · obtain rfl := Option.some.inj (found.symm.trans after)
    refine ⟨write_maxAttempts w, ?_⟩
    rcases write_kinds w with ⟨-, -, more, -⟩ | ⟨-, -, same, -⟩ | ⟨-, -, same, -⟩ <;> omega

theorem row_born {s t : System} {a : Action} {e : Event} (move : SystemMove s a e t) {id : Nat}
    {q : Payment} (before : row s id = none) (after : row t id = some q) :
    ∃ call c, s.calls call = some c ∧ q.maxAttempts = c.config.maxPaymentAttempts := by
  cases row_before (move_commit move) after with
  | kept there quiet => simp [before] at there
  | written there w => simp [before] at there
  | created call _ _ _ _ _ absent label made =>
    subst label
    obtain ⟨c, present, -, wrote⟩ := inserting_call (move_calls move)
    obtain ⟨-, shape⟩ := insertPayment_some wrote
    rw [row, shape] at after
    obtain rfl := Option.some.inj ((if_pos rfl).symm.trans after)
    exact ⟨call, c, present, rfl⟩

theorem oneBound_calls {max : Nat} {s t : System} {a : Action} {e : Event} (h : OneBound max s)
    (steady_ : steady max a = true) (move : SystemMove s a e t) :
    ∀ call c, t.calls call = some c → c.config.maxPaymentAttempts = max := by
  intro other c present
  cases move with
  | initiate call config request fresh =>
    rcases set_some present with ⟨-, rfl⟩ | ⟨-, old⟩
    · simpa [steady] using steady_
    · exact h.calls other c old
  | @api call move old e db queue phase here spec =>
    rcases set_some present with ⟨-, rfl⟩ | ⟨-, there⟩
    · exact h.calls call old here
    · exact h.calls other c there
  | _ => exact h.calls other c present

theorem oneBound_sweeps {max : Nat} {s t : System} {a : Action} {e : Event} (h : OneBound max s)
    (steady_ : steady max a = true) (move : SystemMove s a e t) :
    ∀ sweep w, t.sweeps sweep = some w → w.config.maxPaymentAttempts = max := by
  intro other w present
  cases move with
  | reconcile sweep config fresh =>
    rcases set_some present with ⟨-, rfl⟩ | ⟨-, old⟩
    · simpa [steady, startSweep] using steady_
    · exact h.sweeps other w old
  | @sweep sweep move old e db queue phase here spec =>
    rcases set_some present with ⟨-, rfl⟩ | ⟨-, there⟩
    · exact h.sweeps sweep old here
    · exact h.sweeps other w there
  | _ => exact h.sweeps other w present

theorem oneBound_rows {max : Nat} {s t : System} {a : Action} {e : Event} (h : OneBound max s)
    (move : SystemMove s a e t) : ∀ id p, row t id = some p → p.maxAttempts = max := by
  intro id q after
  cases before : row s id with
  | some p =>
    rw [(row_kept move before after).1]
    exact h.rows id p before
  | none =>
    obtain ⟨call, c, present, bound⟩ := row_born move before after
    rw [bound]
    exact h.calls call c present

theorem oneBound_step {max : Nat} {s t : System} {a : Action} {e : Event} (h : OneBound max s)
    (steady_ : steady max a = true) (move : SystemMove s a e t) : OneBound max t :=
  ⟨oneBound_calls h steady_ move, oneBound_sweeps h steady_ move, oneBound_rows h move⟩

theorem run_oneBound {max : Nat} {history : List Event} {s : System}
    (run : Run (Does exec (Budgeted max)) System.init history s) : OneBound max s := by
  apply run_invariant (fun _ u => OneBound max u) ?_ ?_ run
  · constructor
    · intro call c present
      simp [System.init] at present
    · intro sweep w present
      simp [System.init] at present
    · intro id p present
      simp at present
  · intro history u e t inv step
    obtain ⟨a, ⟨-, steady_⟩, done⟩ := step
    exact oneBound_step inv steady_ (exec_move done)

/-- Where the job of a payment comes from, with its counters. -/
inductive JobOrigin (max : Nat) (s : System) (id : Nat) (j' : Job JobData) : Prop where
  | filed (idle : j'.state = .waiting) (unused : j'.attemptsMade = 0) (budget : j'.attempts = max)
  | kept (before : s.queue.job (jobIdFor id) = some j')
  | picked (j : Job JobData) (run : Nat) (before : s.queue.job (jobIdFor id) = some j)
      (fresh : s.runs run = none) (active : j' = { j with state := .active run })
  | thrown (j : Job JobData) (run : Nat) (r : ProcessCall) (err : JsError)
      (before : s.queue.job (jobIdFor id) = some j) (present : s.runs run = some r)
      (mine : r.paymentId = id) (threw : r.phase = .threw err)
      (idle : ∀ holder, j'.state ≠ .active holder) (budget : j'.attempts = j.attempts)
      (counted : j'.attemptsMade = j.attemptsMade + 1)

theorem added_origin {max : Nat} {s : System} {config : Config} {pid id : Nat} {j' : Job JobData}
    (bound : config.maxPaymentAttempts = max)
    (after : (enqueuePayment s.queue config pid).job (jobIdFor id) = some j') :
    JobOrigin max s id j' := by
  rcases add_origin after with before | ⟨-, -, rfl⟩
  · exact JobOrigin.kept before
  · exact JobOrigin.filed rfl rfl bound

theorem picked_origin {max : Nat} {s : System} {queue : PaymentQueue} {run id : Nat}
    {jobId : String} {data : JobData} {j' : Job JobData} (fresh : s.runs run = none)
    (took : s.queue.take jobId run = some (data, queue))
    (after : queue.job (jobIdFor id) = some j') : JobOrigin max s id j' := by
  obtain ⟨j, queued, rfl, -, rfl⟩ := take_some took
  by_cases same : jobIdFor id = jobId
  · subst same
    have own : (s.queue.put { j with state := .active run }).job (jobIdFor id) =
        some { j with state := .active run } := put_own queued rfl
    rw [own] at after
    exact JobOrigin.picked j run queued fresh (Option.some.inj after).symm
  · have other : (s.queue.put { j with state := .active run }).job (jobIdFor id) =
        s.queue.job (jobIdFor id) := put_other queued rfl same
    rw [other] at after
    exact JobOrigin.kept after

theorem thrown_origin {max : Nat} {s : System} (held : JobsHeld s.runs s.queue) {run : Nat}
    {r : ProcessCall} {err : JsError} {jobId : String} {id : Nat} {j' : Job JobData}
    {config : Config} (present : s.runs run = some r) (threw : r.phase = .threw err)
    (job : r.job = some jobId)
    (after : (failJob s.queue config jobId run err).1.job (jobIdFor id) = some j') :
    JobOrigin max s id j' := by
  obtain ⟨j, job', queued, active⟩ := job_of held present (by rw [threw]; rfl)
  obtain rfl : jobId = jobIdFor r.paymentId := Option.some.inj (job.symm.trans job')
  obtain ⟨k, put, data, budget, counted, state, -⟩ := throw_counted queued active config err
  rw [put] at after
  by_cases same : jobIdFor id = jobIdFor r.paymentId
  · have mine := jobIdFor_injective same
    subst mine
    rw [put_own queued data] at after
    obtain rfl := Option.some.inj after
    refine JobOrigin.thrown j run r err queued present rfl threw ?_ budget counted
    intro holder busy
    rcases state with ⟨delayed, -⟩ | ⟨failed, -⟩
    · simp [busy] at delayed
    · simp [busy] at failed
  · rw [put_other queued data same] at after
    exact JobOrigin.kept after

theorem job_origin {max : Nat} {s t : System} {a : Action} {e : Event}
    (held : JobsHeld s.runs s.queue) (bounds : OneBound max s) (calm : Undisturbed s a)
    (move : SystemMove s a e t) {id : Nat} {j' : Job JobData}
    (after : t.queue.job (jobIdFor id) = some j') : JobOrigin max s id j' := by
  cases move with
  | api call move present spec =>
    cases spec with
    | enqueued here => exact added_origin (bounds.calls call _ present) after
    | _ => exact JobOrigin.kept after
  | pick run jobId fresh took => exact picked_origin fresh took after
  | @worker run move r e db queue phase present spec =>
    cases spec with
    | @completed result jobId config here job =>
      simp only [completed_queue held present (by rw [here]; rfl) job, Option.getD_some,
        job_delete] at after
      split at after
      · simp at after
      · exact JobOrigin.kept after
    | failed config here job => exact thrown_origin held present here job after
    | _ => exact JobOrigin.kept after
  | expire jobId => exact calm_absurd calm rfl
  | stall jobId => exact calm_absurd calm rfl
  | sweep sweep move present spec =>
    cases spec with
    | @removed row rest queue' here removal =>
      obtain ⟨-, gone, others⟩ := remove_some removal
      have apart : jobIdFor id ≠ jobIdFor row.id := fresh_apart after gone
      rw [others _ apart] at after
      exact JobOrigin.kept after
    | enqueued here => exact added_origin (bounds.sweeps sweep _ present) after
    | _ => exact JobOrigin.kept after
  | _ => exact JobOrigin.kept after

/-- How far the row is ahead of the job that a run holds: by one from the
    winning claim on, and when the run has thrown, with a retry left. -/
def Ahead (j : Job JobData) (p : Payment) : ProcessPhase → Prop
  | .claimed _ | .charging _ _ | .settling _ _ => j.attemptsMade + 1 ≤ p.attempts
  | .threw _ => j.attemptsMade + 1 ≤ p.attempts ∧ j.attemptsMade + 1 < j.attempts
  | _ => True

theorem ahead_grown {j : Job JobData} {p q : Payment} {phase : ProcessPhase} (h : Ahead j p phase)
    (grown : p.attempts ≤ q.attempts) : Ahead j q phase := by
  cases phase with
  | claimed claim => exact Nat.le_trans h grown
  | charging claim answer => exact Nat.le_trans h grown
  | settling claim answer => exact Nat.le_trans h grown
  | threw err => exact ⟨Nat.le_trans h.1 grown, h.2⟩
  | _ => trivial

theorem ahead_stopped (j : Job JobData) (p : Payment) {phase : ProcessPhase}
    (stopped : live phase = false) : Ahead j p phase := by
  cases phase <;> simp_all [live, Ahead]

/-- Phases that no run comes to while the budgets agree: charge() threw something
    other than a GatewayError, or the last attempt of the job was used up. -/
def unexpected : ProcessPhase → Bool
  | .charging _ (.error (.error _ _ _)) | .failing _ => true
  | _ => false

structure Coupled (max : Nat) (s : System) : Prop where
  made : ∀ id j p, s.queue.job (jobIdFor id) = some j → row s id = some p →
    j.attemptsMade ≤ p.attempts
  budget : ∀ id j, s.queue.job (jobIdFor id) = some j → j.attempts = max
  ahead : ∀ run r j p, s.runs run = some r → s.queue.job (jobIdFor r.paymentId) = some j →
    row s r.paymentId = some p → Ahead j p r.phase
  expected : ∀ run r, s.runs run = some r → unexpected r.phase = false

theorem settle_retry {db : Database} {id now : Nat} {answer : Except GatewayError ChargeResult}
    {reason : String} {status : PaymentStatus}
    (h : (PaymentService.settle db id answer now).1 = .retry reason status) :
    ∃ p, db.payments.find id = some p ∧ p.attempts < p.maxAttempts := by
  have spec := settle_spec db id answer now
  rw [h] at spec
  generalize (PaymentService.settle db id answer now).2 = db' at spec
  cases spec with
  | retry err found held again left => exact ⟨_, found, left⟩

/-- A run that goes on stays ahead of its job, which nobody else touches. -/
theorem ahead_worker {max : Nat} {s t : System} {run : Nat} {r : ProcessCall} {move : WorkerMove}
    {e : Event} {db : Database} {queue : PaymentQueue} {phase : ProcessPhase} {j : Job JobData}
    {p q : Payment} (h : Coupled max s) (bounds : OneBound max s)
    (calm : Undisturbed s (.worker run move)) (present : s.runs run = some r)
    (spec : WorkerSpec s.now s.db s.queue run r move e db queue phase)
    (queued : s.queue.job (jobIdFor r.paymentId) = some j) (before : row s r.paymentId = some p)
    (committed : t.db = db) (after : row t r.paymentId = some q)
    (grown : p.attempts ≤ q.attempts) : Ahead j q phase := by
  have ahead := h.ahead run r j p present queued before
  have expected := h.expected run r present
  cases spec with
  | claim here =>
    cases won : (PaymentService.claim s.db r.paymentId s.now).1 with
    | refused reason status => trivial
    | claimed claim =>
      obtain ⟨p', found, -, stamped⟩ := ColumnCoherence.claim_writes won
      rw [row, committed, stamped] at after
      obtain rfl := Option.some.inj (found.symm.trans before)
      have made := h.made _ j p' queued before
      rw [← Option.some.inj after]
      change j.attemptsMade + 1 ≤ p'.attempts + 1
      omega
  | charge timeoutMs a here =>
    rw [here] at ahead
    exact Nat.le_trans ahead grown
  | @reply claim answer here =>
    rw [here] at ahead expected
    cases answer with
    | ok result => exact Nat.le_trans ahead grown
    | error err =>
      cases err with
      | gatewayError err => exact Nat.le_trans ahead grown
      | error message code errno => simp [unexpected] at expected
  | @settle claim answer here =>
    rw [here] at ahead
    cases result : (PaymentService.settle s.db r.paymentId answer s.now).1 with
    | retry reason status =>
      obtain ⟨p', found, left⟩ := settle_retry result
      obtain rfl := Option.some.inj (found.symm.trans before)
      have bound := bounds.rows _ p' before
      have budget := h.budget _ j queued
      have made : j.attemptsMade + 1 ≤ p'.attempts := ahead
      exact ⟨by omega, by omega⟩
    | _ => trivial
  | claimThrew err here => exact calm_absurd calm rfl
  | settleThrew err here => exact calm_absurd calm rfl
  | completed config here job => trivial
  | @failed err jobId config here job =>
    apply ahead_stopped
    rcases failJob_over s.queue config jobId run err with closed | ⟨reason, failing⟩
    · rw [closed]
      rfl
    · rw [failing]
      rfl
  | _ => trivial

section step
variable {max : Nat} {history : List Event} {s t : System} {a : Action} {e : Event}

theorem coupled_made (run : Run (Does exec Undisturbed) System.init history s)
    (bounds : OneBound max s) (h : Coupled max s) (calm : Undisturbed s a)
    (move : SystemMove s a e t) {id : Nat} {j' : Job JobData} {q : Payment}
    (queued : t.queue.job (jobIdFor id) = some j') (after : row t id = some q) :
    j'.attemptsMade ≤ q.attempts := by
  have known : ∀ j, s.queue.job (jobIdFor id) = some j →
      ∃ p, row s id = some p ∧ p.attempts ≤ q.attempts := by
    intro j before
    obtain ⟨p, found⟩ := job_row run before
    exact ⟨p, found, (row_kept move found after).2⟩
  have origin : JobOrigin max s id j' := job_origin (run_held run) bounds calm move queued
  cases origin with
  | filed idle unused budget => omega
  | kept before =>
    obtain ⟨p, found, grown⟩ := known j' before
    have made := h.made id j' p before found
    omega
  | picked j run before fresh active =>
    obtain ⟨p, found, grown⟩ := known j before
    have made := h.made id j p before found
    rw [active]
    exact Nat.le_trans made grown
  | thrown j run r err before present mine threw idle budget counted =>
    obtain ⟨p, found, grown⟩ := known j before
    subst mine
    have ahead := h.ahead run r j p present before found
    rw [threw] at ahead
    have first := ahead.1
    omega

theorem coupled_budget (run : Run (Does exec Undisturbed) System.init history s)
    (bounds : OneBound max s) (h : Coupled max s) (calm : Undisturbed s a)
    (move : SystemMove s a e t) {id : Nat} {j' : Job JobData}
    (queued : t.queue.job (jobIdFor id) = some j') : j'.attempts = max := by
  have origin : JobOrigin max s id j' := job_origin (run_held run) bounds calm move queued
  cases origin with
  | filed idle unused budget => exact budget
  | kept before => exact h.budget id j' before
  | picked j run before fresh active =>
    rw [active]
    exact h.budget id j before
  | thrown j run r err before present mine threw idle budget counted =>
    rw [budget]
    exact h.budget id j before

theorem held_job_kept (run : Run (Does exec Undisturbed) System.init history s)
    (bounds : OneBound max s) (calm : Undisturbed s a) (move : SystemMove s a e t) {c : Nat}
    {r r' : ProcessCall} (present : s.runs c = some r) (still : t.runs c = some r')
    (alive : live r'.phase = true) {j' : Job JobData}
    (queued : t.queue.job (jobIdFor r'.paymentId) = some j') :
    s.queue.job (jobIdFor r'.paymentId) = some j' := by
  have held := run_held run
  obtain ⟨k, -, queued', active⟩ := job_of (held_step held calm move) still alive
  obtain rfl : j' = k := Option.some.inj (queued.symm.trans queued')
  have origin : JobOrigin max s r'.paymentId j' := job_origin held bounds calm move queued
  cases origin with
  | filed idle unused budget => simp [active] at idle
  | kept before => exact before
  | picked j run before fresh picked =>
    obtain rfl : run = c := by simpa [picked] using active
    simp [present] at fresh
  | thrown j run r err before present mine threw idle budget counted =>
    exact absurd active (idle c)

theorem coupled_ahead (run : Run (Does exec Undisturbed) System.init history s)
    (bounds : OneBound max s) (h : Coupled max s) (calm : Undisturbed s a)
    (move : SystemMove s a e t) {c : Nat} {r' : ProcessCall} {j' : Job JobData} {q : Payment}
    (present' : t.runs c = some r') (queued : t.queue.job (jobIdFor r'.paymentId) = some j')
    (after : row t r'.paymentId = some q) : Ahead j' q r'.phase := by
  cases alive : live r'.phase with
  | false => exact ahead_stopped j' q alive
  | true =>
    rcases run_before move present' with
      ⟨-, claiming⟩ | present | ⟨r, step, db, queue, phase, present, rfl, committed, -, rfl, spec⟩
    · rw [claiming]
      trivial
    · have before := held_job_kept run bounds calm move present present' alive queued
      obtain ⟨p, found⟩ := job_row run before
      exact ahead_grown (h.ahead c r' j' p present before found) (row_kept move found after).2
    · have before := held_job_kept run bounds calm move present present' alive queued
      obtain ⟨p, found⟩ := job_row run before
      exact ahead_worker h bounds calm present spec before found committed after
        (row_kept move found after).2

theorem thrown_left (run : Run (Does exec Undisturbed) System.init history s)
    (h : Coupled max s) {c : Nat} {r : ProcessCall} {err : JsError} (present : s.runs c = some r)
    (threw : r.phase = .threw err) :
    ∃ j, r.job = some (jobIdFor r.paymentId) ∧ s.queue.job (jobIdFor r.paymentId) = some j ∧
      j.state = .active c ∧ j.attemptsMade + 1 < j.attempts := by
  obtain ⟨j, job, queued, active⟩ := job_of (run_held run) present (by rw [threw]; rfl)
  obtain ⟨p, found⟩ := job_row run queued
  have ahead := h.ahead c r j p present queued found
  rw [threw] at ahead
  exact ⟨j, job, queued, active, ahead.2⟩

/-- The listener finds an attempt left, so the job waits for its next run. -/
theorem thrown_rescheduled (run : Run (Does exec Undisturbed) System.init history s)
    (h : Coupled max s) {c : Nat} {r : ProcessCall} {err : JsError} {jobId : String}
    (present : s.runs c = some r) (threw : r.phase = .threw err) (job : r.job = some jobId)
    (config : Config) :
    (failJob s.queue config jobId c err).2 = .closed ∧
      ∃ j, (failJob s.queue config jobId c err).1.job (jobIdFor r.paymentId) = some j ∧
        j.state = .delayed ∧ j.attemptsMade < j.attempts := by
  obtain ⟨j, job', queued, active, left⟩ := thrown_left run h present threw
  obtain rfl : jobId = jobIdFor r.paymentId := Option.some.inj (job.symm.trans job')
  obtain ⟨j', put, data, budget, counted, state, phase⟩ := throw_counted queued active config err
  have unspent : ¬ jobBudget config j' ≤ j'.attemptsMade := by
    rw [jobBudget, if_neg (by omega)]
    omega
  rw [if_neg unspent] at phase
  refine ⟨phase, j', by rw [put, put_own queued data], ?_, by omega⟩
  rcases state with ⟨delayed, -⟩ | ⟨-, spent⟩
  · exact delayed
  · omega

theorem coupled_expected (run : Run (Does exec Undisturbed) System.init history s)
    (h : Coupled max s) (calm : Undisturbed s a) (steady_ : steady max a = true)
    (move : SystemMove s a e t) {c : Nat} {r' : ProcessCall} (present' : t.runs c = some r') :
    unexpected r'.phase = false := by
  rcases run_before move present' with
    ⟨-, claiming⟩ | present | ⟨r, step, db, queue, phase, present, rfl, -, -, rfl, spec⟩
  · rw [claiming]
    rfl
  · exact h.expected c r' present
  · have before := h.expected c r present
    cases spec with
    | claim here => cases (PaymentService.claim s.db r.paymentId s.now).1 <;> rfl
    | charge timeoutMs attempt here =>
      obtain ⟨ms, result⟩ := attempt
      unfold PaymentService.charge
      split
      · cases result with
        | ok result => rfl
        | error err =>
          cases err with
          | gatewayError err => rfl
          | error message code errno => simp [steady] at steady_
      · rfl
    | @reply claim answer here =>
      rw [here] at before
      cases answer with
      | ok result => rfl
      | error err =>
        cases err with
        | gatewayError err => rfl
        | error message code errno => simp [unexpected] at before
    | @settle claim answer here =>
      cases (PaymentService.settle s.db r.paymentId answer s.now).1 <;> rfl
    | failed config here job =>
      rw [(thrown_rescheduled run h present here job config).1]
      rfl
    | handled here => simp [here, unexpected] at before
    | claimThrew err here => exact calm_absurd calm rfl
    | settleThrew err here => exact calm_absurd calm rfl
    | handlerErrored err here => exact calm_absurd calm rfl
    | _ => rfl

end step

theorem run_coupled {max : Nat} {history : List Event} {s : System}
    (run : Run (Does exec (Budgeted max)) System.init history s) : Coupled max s := by
  apply run_induction (fun _ u => Coupled max u) ?_ ?_ run
  · constructor
    · intro id j p queued
      simp [System.init, Jobs.empty] at queued
    · intro id j queued
      simp [System.init, Jobs.empty] at queued
    · intro run r j p present
      simp [System.init] at present
    · intro run r present
      simp [System.init] at present
  · intro history u e t before inv step
    obtain ⟨a, ⟨calm, steady_⟩, done⟩ := step
    have move := exec_move done
    have calmRun := undisturbed_run before
    have bounds := run_oneBound before
    constructor
    · intro id j p queued after
      exact coupled_made calmRun bounds inv calm move queued after
    · intro id j queued
      exact coupled_budget calmRun bounds inv calm move queued
    · intro run r j p present queued after
      exact coupled_ahead calmRun bounds inv calm move present queued after
    · intro run r present
      exact coupled_expected calmRun inv calm steady_ move present

/-- A call that settles a gateway error has that answer from its charge. -/
def Answered (history : List Event) (s : System) : Prop :=
  ∀ run r claim err, s.runs run = some r → r.phase = .settling claim (.error err) →
    .reply run r.paymentId (.error (.gatewayError err)) ∈ history

theorem answered_step {history : List Event} {s t : System} {a : Action} {e : Event}
    (h : Answered history s) (move : SystemMove s a e t) : Answered (history ++ [e]) t := by
  intro run r' claim err present' settling
  rcases run_before move present' with
    ⟨-, claiming⟩ | present | ⟨r, step, db, queue, phase, present, rfl, -, -, rfl, spec⟩
  · simp [claiming] at settling
  · exact List.mem_append_left _ (h run r' claim err present settling)
  · have last : phase = .settling claim (.error err) := settling
    cases spec with
    | claim here =>
      cases won : (PaymentService.claim s.db r.paymentId s.now).1 <;> simp [won, afterClaim] at last
    | @reply claim' answer here =>
      cases answer with
      | ok result => simp [afterReply] at last
      | error err' =>
        cases err' with
        | gatewayError err' =>
          obtain ⟨rfl, rfl⟩ : claim' = claim ∧ err' = err := by simpa [afterReply] using last
          simp
        | error message code errno => simp [afterReply] at last
    | @settle claim' answer here =>
      have ended := (afterSettle_over (PaymentService.settle s.db r.paymentId answer s.now).1).1
      simp [last, ProcessPhase.claimOf] at ended
    | @failed err' jobId config here job =>
      rcases failJob_over s.queue config jobId run err' with closed | ⟨reason, failing⟩
      · simp [closed] at last
      · simp [failing] at last
    | _ => simp at last

theorem run_answered {allowed : System → Action → Prop} {history : List Event} {s : System}
    (run : Run (Does exec allowed) System.init history s) : Answered history s := by
  apply run_invariant Answered ?_ ?_ run
  · intro run r claim err present
    simp [System.init] at present
  · intro history u e t inv step
    obtain ⟨a, -, done⟩ := step
    exact answered_step inv (exec_move done)

inductive FailedBy (id : Nat) (history : List Event) (p : Payment) : Prop where
  | declined (run : Nat) (reason : String)
      (answered : .reply run id (.error (.gatewayError ⟨reason, false⟩)) ∈ history)
      (settled : .settle run id (.failed .failed) ∈ history)
  | reported (callback : Callback) (target : callback.paymentId = id)
      (failed : callback.reported = .failed) (applied : .webhook callback (.applied .failed) ∈ history)
  | exhausted (spent : p.attempts = p.maxAttempts)

theorem failedBy_later {id : Nat} {history : List Event} {p : Payment} (h : FailedBy id history p)
    (e : Event) : FailedBy id (history ++ [e]) p := by
  cases h with
  | declined run reason answered settled =>
    exact FailedBy.declined run reason (List.mem_append_left _ answered)
      (List.mem_append_left _ settled)
  | reported callback target failed applied =>
    exact FailedBy.reported callback target failed (List.mem_append_left _ applied)
  | exhausted spent => exact FailedBy.exhausted spent

theorem settle_failed {db : Database} {id now : Nat} {answer : Except GatewayError ChargeResult}
    {status : PaymentStatus} {p : Payment} (found : db.payments.find id = some p)
    (h : (PaymentService.settle db id answer now).1 = .failed status) :
    ∃ err, answer = .error err ∧ (err.retriable = true → p.maxAttempts ≤ p.attempts) := by
  have spec := settle_spec db id answer now
  rw [h] at spec
  generalize (PaymentService.settle db id answer now).2 = db' at spec
  cases spec with
  | failed err there held final =>
    obtain rfl := Option.some.inj (found.symm.trans there)
    exact ⟨err, rfl, final⟩

theorem no_fail_label {max : Nat} {s t : System} {a : Action} {e : Event} (h : Coupled max s)
    (calm : Undisturbed s a) (move : SystemMove s a e t) (id : Nat) (reason : String)
    (result : FailResult) : e ≠ .fail id reason result := by
  intro label
  cases move with
  | api call move present spec => cases spec <;> simp at label
  | @worker run move r e db queue phase present spec =>
    cases spec with
    | handled here =>
      have expected := h.expected run r present
      simp [here, unexpected] at expected
    | _ => simp at label
  | sweep sweep move present spec => cases spec <;> simp at label
  | failPayment paymentId reason => exact calm_absurd calm rfl
  | _ => simp at label

theorem failed_write {max : Nat} {history : List Event} {s t : System} {a : Action} {e : Event}
    (positive : 1 ≤ max) (run : Run (Does exec (Budgeted max)) System.init history s)
    (calm : Undisturbed s a) (move : SystemMove s a e t) {id : Nat} {p q : Payment}
    (before : row s id = some p) (w : Write id p e q) (failed : q.status = .failed) :
    FailedBy id (history ++ [e]) q := by
  have bound := (run_oneBound run).rows id p before
  have ledger := run_ledger run id
  rw [before] at ledger
  have counted := (ledger (by omega)).bounded
  cases w with
  | settleFailed c now err held final =>
    obtain ⟨r, claim, answer, present, mine, settling, committed⟩ :=
      settle_step (move_runs move)
    obtain ⟨err', rfl, last⟩ := settle_failed before (by rw [committed])
    obtain ⟨reason, retriable⟩ := err'
    cases retriable with
    | true =>
      have spent := last rfl
      exact FailedBy.exhausted (Nat.le_antisymm counted spent)
    | false =>
      have answered := run_answered run c r claim _ present settling
      rw [mine] at answered
      exact FailedBy.declined c reason (List.mem_append_left _ answered) (by simp)
  | recoverFailed now held spent => exact FailedBy.exhausted (Nat.le_antisymm counted spent)
  | fail reason now legal => exact absurd rfl (no_fail_label (run_coupled run) calm move _ _ _)
  | webhook callback now target legal =>
    have reported : callback.reported = .failed := by
      have status : callback.reported.status = .failed := failed
      cases verdict : callback.reported with
      | success => simp [verdict, ReportedStatus.status] at status
      | failed => rfl
    apply FailedBy.reported callback target reported
    rw [reported]
    simp [ReportedStatus.status]
  | _ => simp [addAttempt, writeStatus] at failed

theorem run_failedBy {max : Nat} {history : List Event} {s : System} (positive : 1 ≤ max)
    (run : Run (Does exec (Budgeted max)) System.init history s) (id : Nat) :
    ∀ p, row s id = some p → p.status = .failed → FailedBy id history p := by
  apply run_induction (fun h u => ∀ p, row u id = some p → p.status = .failed → FailedBy id h p)
    ?_ ?_ run
  · intro p absent
    simp at absent
  · intro h u e t before inv step q after failed
    obtain ⟨a, ⟨calm, -⟩, done⟩ := step
    have move := exec_move done
    cases row_before (move_commit move) after with
    | kept old quiet => exact failedBy_later (inv q old failed) e
    | created call _ _ _ _ _ absent label made => simp [made, newPayment] at failed
    | written old w => exact failed_write positive before calm move old w failed

theorem run_no_fail {max : Nat} {history : List Event} {s : System}
    (run : Run (Does exec (Budgeted max)) System.init history s) (id : Nat) (reason : String)
    (result : FailResult) : .fail id reason result ∉ history := by
  apply run_induction (fun h _ => .fail id reason result ∉ h) ?_ ?_ run
  · simp
  · intro h u e t before absent step
    obtain ⟨a, ⟨calm, -⟩, done⟩ := step
    have label := no_fail_label (run_coupled before) calm (exec_move done) id reason result
    simp [absent, Ne.symm label]

/-- The queue's budget and the row's counter agree. -/
structure BudgetsAgree (history : List Event) (s : System) : Prop where
  made : ∀ id j, s.queue.job (jobIdFor id) = some j →
    ∃ p, row s id = some p ∧ j.attemptsMade ≤ p.attempts
  -- a handler that threw
  left : ∀ run r err, s.runs run = some r → r.phase = .threw err →
    ∃ j, s.queue.job (jobIdFor r.paymentId) = some j ∧ j.state = .active run ∧
      j.attemptsMade + 1 < j.attempts
  rescheduled : ∀ run r err, s.runs run = some r → r.phase = .threw err → ∀ config e t,
    exec s (.worker run (.finish config)) = some (e, t) →
      (∃ r', t.runs run = some r' ∧ r'.phase = .closed) ∧
      ∃ j, t.queue.job (jobIdFor r.paymentId) = some j ∧ j.state = .delayed ∧
        j.attemptsMade < j.attempts
  -- the listener that fails a payment
  unfailing : ∀ run r reason, s.runs run = some r → r.phase ≠ .failing reason
  unfailed : ∀ id reason result, .fail id reason result ∉ history
  failed : ∀ id p, row s id = some p → p.status = .failed → FailedBy id history p

theorem finish_rescheduled {max : Nat} {history : List Event} {s t : System} {e : Event}
    (run : Run (Does exec Undisturbed) System.init history s) (h : Coupled max s) {c : Nat}
    {r : ProcessCall} {err : JsError} {config : Config} (present : s.runs c = some r)
    (threw : r.phase = .threw err) (done : exec s (.worker c (.finish config)) = some (e, t)) :
    (∃ r', t.runs c = some r' ∧ r'.phase = .closed) ∧
      ∃ j, t.queue.job (jobIdFor r.paymentId) = some j ∧ j.state = .delayed ∧
        j.attemptsMade < j.attempts := by
  have move := exec_move done
  cases move with
  | worker _ _ there spec =>
    obtain rfl := Option.some.inj (present.symm.trans there)
    cases spec with
    | completed _ here job => simp [threw] at here
    | failed _ here job =>
      obtain ⟨closed, rescheduled⟩ := thrown_rescheduled run h present here job config
      exact ⟨⟨_, if_pos rfl, closed⟩, rescheduled⟩

theorem budgets_agree {max : Nat} {history : List Event} {s : System} (positive : 1 ≤ max)
    (run : Run (Does exec (Budgeted max)) System.init history s) : BudgetsAgree history s := by
  have calmRun := undisturbed_run run
  have coupled := run_coupled run
  constructor
  · intro id j queued
    obtain ⟨p, found⟩ := job_row calmRun queued
    exact ⟨p, found, coupled.made id j p queued found⟩
  · intro c r err present threw
    obtain ⟨j, -, queued, active, left⟩ := thrown_left calmRun coupled present threw
    exact ⟨j, queued, active, left⟩
  · intro c r err present threw config e t done
    exact finish_rescheduled calmRun coupled present threw done
  · intro c r reason present failing
    have expected := coupled.expected c r present
    simp [failing, unexpected] at expected
  · exact run_no_fail run
  · exact run_failedBy positive run

def config : Config := ⟨2, 2000, 3000⟩

def declinedRun : List Action :=
  [.initiate 0 config ⟨"order-123", 4200, "INR"⟩, .api 0 .insert, .api 0 .read,
    .api 0 (.enqueue none), .pick 0 "payment-1", .worker 0 (.claim none),
    .worker 0 (.charge 3000 (attempt 3000 .timeout 0 "gw_a")), .tick 3000, .worker 0 .reply,
    .worker 0 (.settle none), .worker 0 (.finish config), .pick 1 "payment-1",
    .worker 1 (.claim none), .worker 1 (.charge 3000 (attempt 3000 .failure 0 "gw_b")),
    .worker 1 .reply, .worker 1 (.settle none)]

theorem declined_payment_agrees :
    (row (replay exec (Budgeted 2) System.init declinedRun).2 1).map Payment.status =
        some .failed ∧
      BudgetsAgree (replay exec (Budgeted 2) System.init declinedRun).1
        (replay exec (Budgeted 2) System.init declinedRun).2 :=
  ⟨by decide, budgets_agree (by decide) (replay_run exec (Budgeted 2) System.init declinedRun)⟩

end RetryBudget
