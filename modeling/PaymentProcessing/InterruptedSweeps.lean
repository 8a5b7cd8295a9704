import PaymentProcessing.SweepLoop

/-!
A sweep some of whose calls throw. The release is committed before the removal
and the enqueue, and the next sweep selects PROCESSING rows only: a payment that
was released and whose job did not come through is PENDING with nothing pulling
it.
-/
namespace InterruptedSweeps
open JobStore TransitionRuns PaymentStateMachine PaymentRepositories PaymentService
open PaymentTransactions PaymentSystem SystemSteps SweepLoop

/-- Waiting, delayed or active: a worker has the job or will get it. -/
def Live (entry : Option (Job JobData)) : Prop :=
  ∃ j, entry = some j ∧ (j.state = .waiting ∨ j.state = .delayed ∨ j.state = .unlocked ∨
    ∃ holder, j.state = .active holder)

/-- What has become of a payment that was stale when the sweep began: a later
    sweep selects it again, or it is settled, or its job pulls it. -/
inductive LeftRecoverable (config : Config) (p : Payment) (u : System) : Prop where
  | held {q : Payment} (found : row u p.id = some q) (busy : q.status = .processing)
      (same : q.processingStartedAt = p.processingStartedAt)
      (again : ∀ later, u.now ≤ later → q ∈ findStale u.db later config.staleProcessingMs)
  | exhausted {q : Payment} (found : row u p.id = some q) (failed : q.status = .failed)
      (spent : p.maxAttempts ≤ p.attempts)
  | queued {q : Payment} (found : row u p.id = some q) (free : q.status = .pending)
      (live : Live (u.queue.job (jobIdFor p.id)))

/-- A live job comes out of the removal and the enqueue: one that a worker has
    locked in any case, a waiting, delayed or unlocked one if the removal throws
    or the enqueue does not, a kept failed one or none at all only if neither does. -/
def HandsOver (f : Faults) : Option (Job JobData) → Prop
  | none => f.enqueue = none
  | some j =>
    match j.state with
    | .active _ => True
    | .failed => f.remove = none ∧ f.enqueue = none
    | .waiting | .delayed | .unlocked => f.remove = none → f.enqueue = none

def JobSafe (f : Faults) (p : Payment) (entry : Option (Job JobData)) : Prop :=
  f.recover = none → p.attempts < p.maxAttempts → HandsOver f entry

theorem handed_live (config : Config) (f : Faults) (id : Nat) (entry : Option (Job JobData)) :
    Live (handedOver config f id entry) ↔ HandsOver f entry := by
  cases queued : f.enqueue with
  | none =>
    cases entry with
    | none => simp [Live, handedOver, HandsOver, clearedJob, freshJob, queued]
    | some j =>
      cases state : j.state <;> cases dropped : f.remove <;>
        simp [Live, handedOver, HandsOver, clearedJob, freshJob, queued, state, dropped]
  | some err =>
    cases entry with
    | none => simp [Live, handedOver, HandsOver, clearedJob, queued]
    | some j =>
      cases state : j.state <;> cases dropped : f.remove <;>
        simp [Live, handedOver, HandsOver, clearedJob, queued, state, dropped]

theorem unwritten_recoverable {config : Config} {s u : System} {p : Payment}
    (stale : Stale config s p) (clock : u.now = s.now) (same : row u p.id = some p) :
    LeftRecoverable config p u := by
  obtain ⟨started, stamped, old⟩ := stale.old
  apply LeftRecoverable.held same stale.busy rfl
  intro later after
  have stillOld : started + config.staleProcessingMs < later := by omega
  exact (mem_findStale _ _ _ _).mpr ⟨same, stale.busy, started, stamped, stillOld⟩

theorem unreleased_recoverable {config : Config} {f : Faults} {s u : System} {p : Payment}
    (stale : Stale config s p) (clock : u.now = s.now)
    (written : row u p.id = some (rowAfter s.now f p))
    (kept : ¬ (f.recover = none ∧ p.attempts < p.maxAttempts)) : LeftRecoverable config p u := by
  cases answer : f.recover with
  | some err =>
    rw [rowAfter, answer] at written
    exact unwritten_recoverable stale clock written
  | none =>
    have spent : ¬ p.attempts < p.maxAttempts := fun left => kept ⟨answer, left⟩
    rw [rowAfter, answer] at written
    have failed := recovered_status s.now p
    rw [if_neg spent] at failed
    exact LeftRecoverable.exhausted written failed (by omega)

theorem released_recoverable_iff {config : Config} {f : Faults} {s u : System} {p : Payment}
    (written : row u p.id = some (rowAfter s.now f p)) (answer : f.recover = none)
    (left : p.attempts < p.maxAttempts) :
    LeftRecoverable config p u ↔ Live (u.queue.job (jobIdFor p.id)) := by
  have pending : (recoveredRow s.now p).status = .pending := by
    rw [recovered_status, if_pos left]
  rw [rowAfter, answer] at written
  constructor
  · intro recoverable
    cases recoverable with
    | held found busy =>
      obtain rfl := Option.some.inj (written.symm.trans found)
      simp [pending] at busy
    | exhausted found failed =>
      obtain rfl := Option.some.inj (written.symm.trans found)
      simp [pending] at failed
    | queued found free live => exact live
  · intro live
    exact LeftRecoverable.queued written pending live

theorem swept_recoverable_iff {config : Config} {faults : Nat → Faults} {rows : List Payment}
    {s u : System} (swept : Swept config faults rows s u) {p : Payment} (there : p ∈ rows)
    (stale : Stale config s p) :
    LeftRecoverable config p u ↔ JobSafe (faults p.id) p (s.queue.job (jobIdFor p.id)) := by
  have written := swept.written p there
  have job := swept.jobs p there
  by_cases released : (faults p.id).recover = none ∧ p.attempts < p.maxAttempts
  · obtain ⟨answer, left⟩ := released
    rw [released_recoverable_iff written answer left, job, jobAfter, if_pos ⟨answer, left⟩,
      handed_live]
    exact ⟨fun safe _ _ => safe, fun safe => safe answer left⟩
  · constructor
    · intro _ answer left
      exact absurd ⟨answer, left⟩ released
    · intro _
      exact unreleased_recoverable stale swept.clock written released

theorem unreached_recoverable {config : Config} {faults : Nat → Faults} {rows : List Payment}
    {s u : System} (swept : Swept config faults rows s u)
    (selected : ∀ q ∈ rows, Stale config s q) {p : Payment} (stale : Stale config s p)
    (skipped : p ∉ rows) : LeftRecoverable config p u := by
  have apart : ∀ q ∈ rows, p.id ≠ q.id := by
    intro q there same
    have found := (selected q there).found
    rw [← same, stale.found] at found
    obtain rfl := Option.some.inj found
    exact skipped there
  apply unwritten_recoverable stale swept.clock
  rw [swept.otherRows p.id apart, stale.found]

def config : Config := ⟨3, 60000, 3000⟩

/-- The worker of the only payment has died, and the lock of its job is gone. -/
def stalledRun : List Action :=
  [.initiate 0 config ⟨"order-123", 4200, "INR"⟩, .api 0 .insert, .api 0 .read,
    .api 0 (.enqueue none), .pick 0 "payment-1", .worker 0 (.claim none), .worker 0 .crash,
    .tick 60001, .expire "payment-1"]

def stalled : System := (replay exec Action.any System.init stalledRun).2

def stalledPayment : Payment :=
  ⟨1, "order-123", 4200, "INR", .processing, 1, 3, none, none, some 0, 0, 0⟩

theorem stalled_stale : Stale config stalled stalledPayment :=
  ⟨by decide, rfl, 0, rfl, by decide⟩

def sweeping : System :=
  { stalled with sweeps := set stalled.sweeps 0 (startSweep stalled.db stalled.now config) }

theorem stalled_sweeping : exec stalled (.reconcile 0 config) = some (.other, sweeping) := rfl

def connectionLost : JsError := .error "Connection is closed." none none

def enqueueThrows : Nat → Faults := fun _ => ⟨none, none, some connectionLost⟩

def lostEnqueue : List Action :=
  [.sweep 0 (.recover none), .sweep 0 (.remove none), .sweep 0 (.enqueue (some connectionLost))]

theorem released_payment_loses_job :
    ¬ ∀ s t e sweep config, exec s (.reconcile sweep config) = some (e, t) →
      ∀ faults history u, Run (Does exec (Under faults sweep)) t history u → Over sweep u →
        ∀ p, Stale config s p → LeftRecoverable config p u := by
  intro law
  have run := replay_run exec (Under enqueueThrows 0) sweeping lostEnqueue
  have finished : Over 0 (replay exec (Under enqueueThrows 0) sweeping lostEnqueue).2 :=
    ⟨_, rfl, rfl⟩
  have status : (row (replay exec (Under enqueueThrows 0) sweeping lostEnqueue).2 1).map
      Payment.status = some .pending := by decide
  have gone : (replay exec (Under enqueueThrows 0) sweeping lostEnqueue).2.queue.job
      (jobIdFor 1) = none := by decide
  have recoverable := law stalled sweeping .other 0 config stalled_sweeping enqueueThrows _ _
    run finished stalledPayment stalled_stale
  cases recoverable with
  | held found busy =>
    rw [show row _ 1 = _ from found] at status
    simp [busy] at status
  | exhausted found failed spent => exact absurd spent (by decide)
  | queued found free live =>
    obtain ⟨j, present, -⟩ := live
    exact absurd (present.symm.trans gone) (by simp)

/-- Every payment that was stale when a sweep began is recoverable when the sweep
    is over exactly when the job of each payment that it got to and released has
    come through the calls that threw. -/
theorem interrupted_sweep_recoverable_iff {s t : System} {e : Event} {sweep : Nat}
    {config : Config} (start : exec s (.reconcile sweep config) = some (e, t))
    (faults : Nat → Faults) :
    (∃ history u, Run (Does exec (Under faults sweep)) t history u ∧ Over sweep u) ∧
      ∀ history u, Run (Does exec (Under faults sweep)) t history u → Over sweep u →
        ((∀ p, Stale config s p → LeftRecoverable config p u) ↔
          ∀ p ∈ reached faults (findStale s.db s.now config.staleProcessingMs),
            JobSafe (faults p.id) p (s.queue.job (jobIdFor p.id))) := by
  obtain ⟨complete, outcome⟩ := sweep_outcome start faults
  refine ⟨complete, ?_⟩
  intro history u run finished
  obtain ⟨swept, -⟩ := outcome history u run finished
  have selected : ∀ p ∈ reached faults (findStale s.db s.now config.staleProcessingMs),
      Stale config s p := by
    intro p there
    exact (stale_iff config s p).mp (reached_subset _ there)
  constructor
  · intro every p there
    exact (swept_recoverable_iff swept there (selected p there)).mp (every p (selected p there))
  · intro safe p stale
    by_cases there : p ∈ reached faults (findStale s.db s.now config.staleProcessingMs)
    · exact (swept_recoverable_iff swept there stale).mpr (safe p there)
    · exact unreached_recoverable swept selected stale there

def redisDown : Nat → Faults := fun _ => ⟨none, some connectionLost, some connectionLost⟩

theorem unremoved_job_recovers : ∃ history u,
    Run (Does exec (Under redisDown 0)) sweeping history u ∧ Over 0 u ∧
      LeftRecoverable config stalledPayment u := by
  obtain ⟨⟨history, u, run, finished⟩, law⟩ :=
    interrupted_sweep_recoverable_iff stalled_sweeping redisDown
  refine ⟨history, u, run, finished, ?_⟩
  apply (law history u run finished).mpr ?_ stalledPayment stalled_stale
  have only : reached redisDown (findStale stalled.db stalled.now config.staleProcessingMs) =
      [stalledPayment] := by decide
  have unlocked : stalled.queue.job (jobIdFor 1) = some ⟨⟨1⟩, 3, 0, .unlocked⟩ := by decide
  intro p there
  rw [only, List.mem_singleton] at there
  subst there
  intro _ _
  rw [show stalled.queue.job (jobIdFor stalledPayment.id) = _ from unlocked]
  simp [HandsOver, redisDown]

end InterruptedSweeps
