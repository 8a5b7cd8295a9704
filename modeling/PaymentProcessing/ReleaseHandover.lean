import PaymentProcessing.JobHolding

/-!
The hand-over of a released payment from the reconciler to a worker, in runs
without failed calls, stalls and crashes. Somebody attends to every PENDING
payment: the call that creates it, a runnable job, the run of its job, or a
sweep between its release and its enqueue. Only the enqueue of a sweep can be
lost: it is ignored while the job of the payment is active, and the run of that
job may be past its claim and about to finish.
-/
namespace ReleaseHandover
open KeyedTable JobStore TransitionRuns PaymentStateMachine PaymentRepositories PaymentService
open PaymentTransactions PaymentSystem SystemSteps CallTraces IdempotentCreation QueuedPayments
open JobHolding

/-- The run has yet to look at the payment, or its job will run again. -/
def retries : ProcessPhase → Bool
  | .claiming | .threw _ | .charging _ (.error (.error _ _ _)) => true
  | _ => false

/-- Its job is active in a run that neither claims it any more nor retries. -/
def busyElsewhere (s : System) (id : Nat) : Bool :=
  match s.queue.job (jobIdFor id) with
  | none => false
  | some j =>
    match j.state with
    | .active run =>
      match s.runs run with
      | none => false
      | some r => !retries r.phase
    | _ => false

def handedBack (s : System) : Action → Option Nat
  | .sweep sweep (.enqueue none) =>
    match s.sweeps sweep with
    | none => none
    | some w =>
      match w.phase with
      | .enqueuing row _ => some row.id
      | _ => none
  | _ => none

def pending (s : System) (id : Nat) : Bool :=
  match row s id with
  | none => false
  | some p => p.status == .pending

/-- No sweep enqueues a released payment while its job is still active in a run
    that is past its claim and has not thrown. -/
def HandsOver (s : System) (a : Action) : Prop :=
  ∀ id ∈ handedBack s a, ¬ (pending s id = true ∧ busyElsewhere s id = true)

instance (s : System) (a : Action) : Decidable (HandsOver s a) :=
  inferInstanceAs (Decidable
    (∀ id ∈ handedBack s a, ¬ (pending s id = true ∧ busyElsewhere s id = true)))

def Orderly (s : System) (a : Action) : Prop := Undisturbed s a ∧ HandsOver s a

instance (s : System) (a : Action) : Decidable (Orderly s a) :=
  inferInstanceAs (Decidable (Undisturbed s a ∧ HandsOver s a))

/-- No call, job run or sweep is in progress; a job run lasts until its handler
    and the 'failed' listener are done. -/
structure Quiescent (s : System) : Prop where
  calls : ∀ call c, s.calls call = some c → c.phase.over = true
  runs : ∀ run r, s.runs run = some r → r.phase = .closed ∨ r.phase = .crashed
  sweeps : ∀ sweep w, s.sweeps sweep = some w → w.phase.over = true

def Runnable (s : System) (id : Nat) : Prop :=
  ∃ j, s.queue.job (jobIdFor id) = some j ∧ (j.state = .waiting ∨ j.state = .delayed)

def NotStranded (s : System) : Prop :=
  ∀ id p, row s id = some p → p.status = .pending → Runnable s id

def Creating (s : System) (id : Nat) : Prop :=
  ∃ call c, s.calls call = some c ∧
    (c.phase = .reading id ∨ ∃ p, c.phase = .enqueuing p ∧ p.id = id)

def Taken (s : System) (id : Nat) : Prop :=
  ∃ run r, s.runs run = some r ∧ r.paymentId = id ∧ retries r.phase = true

inductive Attended (s : System) (id : Nat) : Prop where
  | creating (h : Creating s id)
  | queued (h : Runnable s id)
  | taken (h : Taken s id)
  | released (h : Released s id)
  | failing (h : Failing s id)

theorem retries_live {phase : ProcessPhase} (h : retries phase = true) : live phase = true := by
  cases phase <;> simp_all [retries, live]

theorem creating_unqueued {history : List Event} {s : System}
    (run : Run (Does exec Undisturbed) System.init history s) {call : Nat} {c : ApiCall}
    {p : Payment} (present : s.calls call = some c) (here : c.phase = .enqueuing p) :
    s.queue.job (jobIdFor p.id) = none := by
  cases queued : s.queue.job (jobIdFor p.id) with
  | none => rfl
  | some j =>
    have traced := run_api_traced run
    have driven := run_mono (does_mono fun _ _ => undisturbed_driven) run
    have accepted := (run_queued driven).jobs _ j queued
    rw [job_payment queued] at accepted
    obtain ⟨other, sent⟩ := accepted
    have labels := enqueue_trace traced sent
    have inserted : apiTrace call history = [.insert call (some p.id)] := by
      have steps := traced_api traced present
      rw [here] at steps
      generalize apiTrace call history = mine at steps
      cases steps with
      | enqueuing => rfl
      | duplicate after | failed _ _ after => simp [late] at after
      | diedInserting after | diedCreated _ after => simp [dead] at after
    -- both calls inserted the payment, so they are one call
    have first : .insert call (some p.id) ∈ apiTrace call history := by simp [inserted]
    have second := enqueue_inserted traced sent
    have same := (run_creators run).once call other p.id (mem_apiTrace.mp first).1 second
    subst same
    rw [inserted] at labels
    simp at labels

/-- After an enqueue that finds no job in a run past its claim, the payment is
    queued, or its job will look at it again, or it fails with its job. -/
theorem enqueued_attended {s t : System} (h : Handled s) {id : Nat} {p : Payment}
    (found : row s id = some p) (free : p.status = .pending) (notBusy : busyElsewhere s id = false)
    {config : Config} (added : t.queue = enqueuePayment s.queue config id)
    (runs : t.runs = s.runs) : Attended t id := by
  cases queued : s.queue.job (jobIdFor id) with
  | none =>
    have fresh := add_same s.queue (⟨id⟩ : JobData) config.maxPaymentAttempts
    rw [queued] at fresh
    exact Attended.queued ⟨_, by rw [added]; exact fresh, Or.inl rfl⟩
  | some j =>
    have still : t.queue.job (jobIdFor id) = some j := by
      rw [added]
      exact add_present _ _ queued
    cases state : j.state with
    | waiting => exact Attended.queued ⟨j, still, Or.inl state⟩
    | delayed => exact Attended.queued ⟨j, still, Or.inr state⟩
    | active run =>
      obtain ⟨r, present, -, mine⟩ := holder_of h.held queued state
      have again : retries r.phase = true := by
        simpa [busyElsewhere, queued, state, present] using notBusy
      exact Attended.taken ⟨run, r, by rw [runs, present], mine, again⟩
    | unlocked => exact absurd state (h.locked id j queued)
    | failed =>
      rcases h.failed id j queued state with ⟨run, r, reason, present, failing⟩ | ⟨q, same, settled⟩
      · exact Attended.failing ⟨run, r, reason, by rw [runs, present], failing⟩
      · rw [found] at same
        obtain rfl := Option.some.inj same
        rw [free] at settled
        simp [isTerminal, transitions] at settled

section
variable {history : List Event} {s t : System} {a : Action} {e : Event} {id : Nat} {p q : Payment}

theorem creating_kept (run : Run (Does exec Undisturbed) System.init history s)
    (calm : Undisturbed s a) (move : SystemMove s a e t) (found : row s id = some p)
    (free : p.status = .pending) (h : Creating s id) : Attended t id := by
  obtain ⟨call, c, present, mine⟩ := h
  cases move with
  | initiate other config request fresh =>
    have apart : call ≠ other := fresh_apart present fresh
    exact Attended.creating ⟨call, c, by simp [apart, present], mine⟩
  | @api other move c' e db queue phase here spec =>
    by_cases same : call = other
    · subst same
      obtain rfl := Option.some.inj (present.symm.trans here)
      cases spec with
      | @read inserted payment phase found' =>
        obtain rfl : inserted = id := by simpa [phase] using mine
        exact Attended.creating ⟨call, _, if_pos rfl, Or.inr ⟨_, rfl, payment_id s.db found'⟩⟩
      | @unread inserted phase absent =>
        obtain rfl : inserted = id := by simpa [phase] using mine
        rw [row, absent] at found
        simp at found
      | @enqueued payment phase =>
        obtain rfl : payment.id = id := by simpa [phase] using mine
        have unqueued := creating_unqueued run present phase
        have notBusy : busyElsewhere s payment.id = false := by simp only [busyElsewhere, unqueued]
        exact enqueued_attended (run_handled run) found free notBusy rfl rfl
      | enqueueThrew err phase => exact calm_absurd calm rfl
      | crash => exact calm_absurd calm rfl
      | _ => simp_all
    · exact Attended.creating ⟨call, c, by simp [same, present], mine⟩
  | _ => exact Attended.creating ⟨call, c, present, mine⟩

theorem queued_kept (handled : Handled s) (calm : Undisturbed s a) (move : SystemMove s a e t)
    (h : Runnable s id) : Attended t id := by
  obtain ⟨j, queued, idle⟩ := h
  have mine := job_move handled.held handled.budgets calm move id
  rw [queued] at mine
  generalize after : t.queue.job (jobIdFor id) = job at mine
  cases mine with
  | kept => exact Attended.queued ⟨j, after, idle⟩
  | picked _ run _ begun => exact Attended.taken ⟨run, _, begun, rfl, rfl⟩
  | completed _ run active | thrown _ _ run active => simp [active] at idle
  | removed _ _ released => exact Attended.released released

theorem taken_kept (handled : Handled s) (calm : Undisturbed s a) (move : SystemMove s a e t)
    (found : row s id = some p) (free : p.status = .pending) (found' : row t id = some q)
    (free' : q.status = .pending) (h : Taken s id) : Attended t id := by
  obtain ⟨run, r, present, rfl, again⟩ := h
  rcases run_after move present with same | ⟨move, db, queue, phase, rfl, written, put, after, spec⟩
  · exact Attended.taken ⟨run, r, same, rfl, again⟩
  · cases spec with
    | claim here =>
      -- the payment is PENDING, so this claim wins and it is no longer
      obtain ⟨q', busy, processing⟩ := claim_pending found free s.now
      rw [row, written, busy] at found'
      obtain rfl := Option.some.inj found'
      rw [free'] at processing
      simp at processing
    | @reply claim answer here =>
      rw [here] at again
      cases answer with
      | ok result => simp [retries] at again
      | error err =>
        cases err with
        | gatewayError err => simp [retries] at again
        | error message code errno => exact Attended.taken ⟨run, _, after, rfl, rfl⟩
    | @failed err jobId config here job =>
      have alive := retries_live again
      obtain ⟨k, job', -, -⟩ := job_of handled.held present alive
      obtain rfl : jobId = jobIdFor r.paymentId := Option.some.inj (job.symm.trans job')
      obtain ⟨j, j', failed⟩ := failed_queue handled.held present alive job config err
      have own : t.queue.job (jobIdFor r.paymentId) = some j' := by
        rw [put, failed.put]
        exact put_own failed.queued failed.data
      rcases failed.state with delayed | ⟨-, notify⟩
      · exact Attended.queued ⟨j', own, Or.inr delayed⟩
      · obtain ⟨reason, eq⟩ := notify (handled.granted _ j failed.queued)
        exact Attended.failing ⟨run, _, reason, after, rfl, eq⟩
    | claimThrew err here => exact calm_absurd calm rfl
    | settleThrew err here => exact calm_absurd calm rfl
    | crash => exact calm_absurd calm rfl
    | charge timeoutMs a here => simp [here, retries] at again
    | settle here => simp [here, retries] at again
    | completed config here job => simp [here, retries] at again
    | handled here => simp [here, retries] at again
    | handlerErrored err here => simp [here, retries] at again

theorem released_kept (handled : Handled s) (ok : Orderly s a) (move : SystemMove s a e t)
    (found : row s id = some p) (free : p.status = .pending) (h : Released s id) :
    Attended t id := by
  obtain ⟨sweep, w, released, rest, present, rfl, mine⟩ := h
  obtain ⟨calm, handsOver⟩ := ok
  cases move with
  | reconcile other config fresh =>
    have apart : sweep ≠ other := fresh_apart present fresh
    exact Attended.released ⟨sweep, w, released, rest, by simp [apart, present], rfl, mine⟩
  | @sweep other move w' e db queue phase here spec =>
    by_cases same : sweep = other
    · subst same
      obtain rfl := Option.some.inj (present.symm.trans here)
      cases spec with
      | removed phase removal =>
        obtain ⟨rfl, rfl⟩ : released = _ ∧ rest = _ := by simpa [phase, eq_comm] using mine
        exact Attended.released ⟨sweep, _, _, _, if_pos rfl, rfl, Or.inr rfl⟩
      | kept phase refused =>
        obtain ⟨rfl, rfl⟩ : released = _ ∧ rest = _ := by simpa [phase, eq_comm] using mine
        exact Attended.released ⟨sweep, _, _, _, if_pos rfl, rfl, Or.inr rfl⟩
      | enqueued phase =>
        obtain ⟨rfl, rfl⟩ : released = _ ∧ rest = _ := by simpa [phase, eq_comm] using mine
        have back : handedBack s (.sweep sweep (.enqueue none)) = some released.id := by
          simp only [handedBack, present, phase]
        have isFree : pending s released.id = true := by simp [pending, found, free]
        have notBusy : busyElsewhere s released.id = false := by
          simpa [isFree] using handsOver _ back
        exact enqueued_attended handled found free notBusy rfl rfl
      | recover phase => simp [phase] at mine
      | recoverThrew err phase => simp [phase] at mine
      | enqueueThrew err phase => exact calm_absurd calm rfl
      | crash => exact calm_absurd calm rfl
    · exact Attended.released ⟨sweep, w, released, rest, by simp [same, present], rfl, mine⟩
  | _ => exact Attended.released ⟨sweep, w, released, rest, present, rfl, mine⟩

theorem failing_kept (calm : Undisturbed s a) (move : SystemMove s a e t)
    (found : row s id = some p) (found' : row t id = some q) (free' : q.status = .pending)
    (h : Failing s id) : Attended t id := by
  rcases failing_step calm move found h with failing | ⟨q', same, settled⟩
  · exact Attended.failing failing
  · rw [found'] at same
    obtain rfl := Option.some.inj same
    rw [free'] at settled
    simp [isTerminal, transitions] at settled

theorem attended_kept (run : Run (Does exec Undisturbed) System.init history s) (ok : Orderly s a)
    (move : SystemMove s a e t) (found : row s id = some p) (free : p.status = .pending)
    (found' : row t id = some q) (free' : q.status = .pending) (h : Attended s id) :
    Attended t id := by
  have handled := run_handled run
  cases h with
  | creating h => exact creating_kept run ok.1 move found free h
  | queued h => exact queued_kept handled ok.1 move h
  | taken h => exact taken_kept handled ok.1 move found free found' free' h
  | released h => exact released_kept handled ok move found free h
  | failing h => exact failing_kept ok.1 move found found' free' h

theorem attended_created {call : Nat} (move : CallsMove s t (.insert call (some id))) :
    Attended t id := by
  obtain ⟨c, -, moved, -⟩ := inserting_call move
  exact Attended.creating ⟨call, _, by rw [moved]; exact if_pos rfl, Or.inl rfl⟩

/-- A payment that becomes PENDING is new, or its process() is about to throw,
    or a sweep has it. -/
theorem attended_written (calm : Undisturbed s a) (move : SystemMove s a e t) {p : Payment}
    (w : Write id p e q) (free : q.status = .pending) : Attended t id := by
  cases w with
  | settleRetry c now err held retriable left =>
    have mine : ofCall c (.settle c id (.retry err.reason .pending)) = true := by simp [ofCall]
    obtain ⟨r, phase, -, after, life⟩ := step_of_call (move_runs move) mine
    generalize r.phase = old at life
    generalize owner : r.paymentId = pid at life
    cases life with
    | settled claim answer => exact Attended.taken ⟨c, _, after, owner, rfl⟩
    | idle outside _ _ _ => simp [byProcess] at outside
  | recoverReleased now held left =>
    generalize label : Event.recover id (.released .pending) = e at move
    cases move with
    | @sweep sweep move w e db queue phase present spec =>
      cases spec with
      | @recover row rest here =>
        obtain ⟨rfl, result⟩ := Event.recover.inj label
        refine Attended.released ⟨sweep, _, row, rest, if_pos rfl, rfl, ?_⟩
        rw [← result]
        exact Or.inl rfl
      | _ => simp at label
    | recover paymentId => exact calm_absurd calm rfl
    | api call move present spec => cases spec <;> simp at label
    | worker run move present spec => cases spec <;> simp at label
    | _ => simp at label
  | claim run now free' => simp [writeStatus, addAttempt] at free
  | webhook callback now target legal =>
    change callback.reported.status = .pending at free
    have terminal := WebhookService.reported_terminal callback.reported
    rw [free] at terminal
    simp [isTerminal, transitions] at terminal
  | _ => simp [writeStatus] at free

end

theorem run_attended {history : List Event} {s : System}
    (run : Run (Does exec Orderly) System.init history s) {id : Nat} {p : Payment}
    (found : row s id = some p) (free : p.status = .pending) : Attended s id := by
  have all : ∀ id p, row s id = some p → p.status = .pending → Attended s id := by
    apply run_induction
      (fun _ u => ∀ id p, row u id = some p → p.status = .pending → Attended u id) ?_ ?_ run
    · intro id p found
      simp at found
    · intro history u e t before inv step id q found' free'
      obtain ⟨a, ok, done⟩ := step
      have move := exec_move done
      have calm := run_mono (does_mono fun _ _ orderly => orderly.1) before
      cases row_before (move_commit move) found' with
      | kept earlier quiet =>
        exact attended_kept calm ok move earlier free' found' free' (inv id q earlier free')
      | created call _ _ _ _ _ absent label =>
        subst label
        exact attended_created (move_calls move)
      | written earlier w => exact attended_written ok.1 move w free'
  exact all id p found free

def onlyFirst : Action → Bool
  | .initiate k _ _ | .api k _ | .process k _ | .pick k _ | .worker k _ => k == 0
  | .reconcile k _ | .sweep k _ => k == 0
  | _ => true

theorem others_kept {s t : System} {a : Action} {e : Event} (first : onlyFirst a = true)
    (done : exec s a = some (e, t)) {k : Nat} (other : k ≠ 0) :
    (t.calls k, t.runs k, t.sweeps k) = (s.calls k, s.runs k, s.sweeps k) := by
  cases exec_move done <;> simp_all [onlyFirst]

def firstOver (s : System) : Bool :=
  (s.calls 0).all (fun c => c.phase.over) && (s.runs 0).all (fun r => r.phase == .closed) &&
    (s.sweeps 0).all (fun w => w.phase.over)

theorem replay_quiescent {allowed : System → Action → Prop} [∀ s a, Decidable (allowed s a)]
    {actions : List Action} (first : actions.all onlyFirst = true)
    (ended : firstOver (replay exec allowed System.init actions).2 = true) :
    Quiescent (replay exec allowed System.init actions).2 := by
  have untouched : ∀ k, k ≠ 0 → ((replay exec allowed System.init actions).2.calls k,
      (replay exec allowed System.init actions).2.runs k,
      (replay exec allowed System.init actions).2.sweeps k) = (none, none, none) := by
    intro k other
    apply replay_view (fun u : System => (u.calls k, u.runs k, u.sweeps k))
      (fun a => onlyFirst a = true) ?_ ?_
    · intro s a e t quiet done
      exact others_kept quiet done other
    · intro a there
      exact List.all_eq_true.mp first a there
  simp only [firstOver, Bool.and_eq_true] at ended
  obtain ⟨⟨calls, runs⟩, sweeps⟩ := ended
  constructor
  · intro call c present
    by_cases one : call = 0
    · subst one
      simpa [present] using calls
    · simp_all
  · intro run r present
    by_cases one : run = 0
    · subst one
      exact Or.inl (by simpa [present] using runs)
    · simp_all
  · intro sweep w present
    by_cases one : sweep = 0
    · subst one
      simpa [present] using sweeps
    · simp_all

def config : Config := ⟨3, 2000, 5000⟩

/-- The gateway answers after 2500 ms; at 2001 ms a sweep selects the payment. -/
def slowWorkerRun : List Action :=
  [.initiate 0 config ⟨"order-123", 4200, "INR"⟩, .api 0 .insert, .api 0 .read,
    .api 0 (.enqueue none), .pick 0 "payment-1", .worker 0 (.claim none),
    .worker 0 (.charge 5000 (attempt 5000 .delay 2500 "gw_a")), .tick 2001,
    .reconcile 0 config, .sweep 0 (.recover none)]

def workerReturns : List Action :=
  [.tick 499, .worker 0 .reply, .worker 0 (.settle none), .worker 0 (.finish config)]

def sweepEnqueues : List Action := [.sweep 0 (.remove none), .sweep 0 (.enqueue none)]

/-- The sweep enqueues while the job is active; then the worker, which has
    nothing to settle any more, returns and its job is deleted. -/
theorem ignored_enqueue_strands :
    ¬ ∀ history s, Run (Does exec Undisturbed) System.init history s → Quiescent s →
      NotStranded s := by
  intro law
  have run := replay_run exec Undisturbed System.init (slowWorkerRun ++ sweepEnqueues ++ workerReturns)
  have quiescent : Quiescent (replay exec Undisturbed System.init
      (slowWorkerRun ++ sweepEnqueues ++ workerReturns)).2 :=
    replay_quiescent (by decide) (by decide)
  have status : (row (replay exec Undisturbed System.init
      (slowWorkerRun ++ sweepEnqueues ++ workerReturns)).2 1).map Payment.status =
      some .pending := by decide
  obtain ⟨p, found, free⟩ := Option.map_eq_some_iff.mp status
  obtain ⟨j, queued, -⟩ := law _ _ run quiescent 1 p found free
  have gone : (replay exec Undisturbed System.init
      (slowWorkerRun ++ sweepEnqueues ++ workerReturns)).2.queue.job (jobIdFor 1) = none := by decide
  rw [gone] at queued
  simp at queued

/-- When nothing is in progress, every PENDING payment has a job that will run,
    if no sweep enqueued a payment whose job was still active and past its claim. -/
theorem released_payments_queued {history : List Event} {s : System}
    (run : Run (Does exec Orderly) System.init history s) (rest : Quiescent s) :
    NotStranded s := by
  intro id p found free
  cases run_attended run found free with
  | creating h =>
    obtain ⟨call, c, present, phase | ⟨q, phase, -⟩⟩ := h
    · simpa [phase, ApiPhase.over] using rest.calls call c present
    · simpa [phase, ApiPhase.over] using rest.calls call c present
  | queued h => exact h
  | taken h =>
    obtain ⟨run, r, present, -, again⟩ := h
    rcases rest.runs run r present with phase | phase <;> simp [phase, retries] at again
  | released h =>
    obtain ⟨sweep, w, row, rows, present, -, phase | phase⟩ := h
    · simpa [phase, SweepPhase.over] using rest.sweeps sweep w present
    · simpa [phase, SweepPhase.over] using rest.sweeps sweep w present
  | failing h =>
    obtain ⟨run, r, reason, present, -, failing⟩ := h
    simpa [failing] using rest.runs run r present

theorem slow_worker_payment_queued :
    Runnable (replay exec Orderly System.init (slowWorkerRun ++ workerReturns ++ sweepEnqueues)).2 1 := by
  have run := replay_run exec Orderly System.init (slowWorkerRun ++ workerReturns ++ sweepEnqueues)
  have quiescent : Quiescent (replay exec Orderly System.init
      (slowWorkerRun ++ workerReturns ++ sweepEnqueues)).2 :=
    replay_quiescent (by decide) (by decide)
  have status : (row (replay exec Orderly System.init
      (slowWorkerRun ++ workerReturns ++ sweepEnqueues)).2 1).map Payment.status =
      some .pending := by decide
  obtain ⟨p, found, free⟩ := Option.map_eq_some_iff.mp status
  exact released_payments_queued run quiescent 1 p found free

end ReleaseHandover
