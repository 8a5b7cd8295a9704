import PaymentProcessing.InterruptedSweeps

/-!
A sweep that nothing interrupts. It recovers the stale rows and no others,
leaves every released payment with one job, and has nothing left to select.
-/
namespace SweepRecovery
open JobStore TransitionRuns PaymentStateMachine PaymentRepositories PaymentService
open PaymentTransactions PaymentSystem SystemSteps SweepLoop InterruptedSweeps

def noFaults : Nat → Faults := fun _ => ⟨none, none, none⟩

def sweepsOnce : List Action :=
  [.sweep 0 (.recover none), .sweep 0 (.remove none), .sweep 0 (.enqueue none)]

theorem reached_all (rows : List Payment) : reached noFaults rows = rows := by
  induction rows with
  | nil => rfl
  | cons p rest ih => simp [reached, stops, noFaults, ih]

structure RowRecovered (p q : Payment) : Prop where
  released : p.attempts < p.maxAttempts → q.status = .pending ∧ q.processingStartedAt = none
  failed : p.maxAttempts ≤ p.attempts → q.status = .failed
  attempts : q.attempts = p.attempts
  terms : (q.id, q.idempotencyKey, q.amount, q.currency, q.maxAttempts) =
    (p.id, p.idempotencyKey, p.amount, p.currency, p.maxAttempts)

theorem row_recovered (now : Nat) (p : Payment) : RowRecovered p (recoveredRow now p) := by
  by_cases left : p.attempts < p.maxAttempts
  · rw [recoveredRow, if_pos left]
    exact ⟨fun _ => ⟨rfl, rfl⟩, fun spent => by omega, rfl, rfl⟩
  · rw [recoveredRow, if_neg left]
    exact ⟨fun left' => absurd left' left, fun _ => rfl, rfl, rfl⟩

def Released (config : Config) (s : System) (p : Payment) : Prop :=
  Stale config s p ∧ p.attempts < p.maxAttempts

structure Recovers (config : Config) (sweep : Nat) (s u : System) : Prop where
  clock : u.now = s.now
  recovered : ∀ p, Stale config s p → ∃ q, row u p.id = some q ∧ RowRecovered p q
  otherRows : ∀ id, (∀ p, Stale config s p → id ≠ p.id) → row u id = row s id
  keptJob : ∀ p j holder, Released config s p → s.queue.job (jobIdFor p.id) = some j →
    j.state = .active holder → u.queue.job (jobIdFor p.id) = some j
  newJob : ∀ p, Released config s p →
    (∀ j holder, s.queue.job (jobIdFor p.id) = some j → j.state ≠ .active holder) →
    u.queue.job (jobIdFor p.id) =
      some { data := ⟨p.id⟩, attempts := config.maxPaymentAttempts, attemptsMade := 0,
             state := .waiting }
  oneJob : ∀ p, Released config s p → ∀ key j, u.queue.job key = some j →
    j.data.paymentId = p.id → key = jobIdFor p.id
  otherJobs : ∀ key, (∀ p, Released config s p → key ≠ jobIdFor p.id) →
    u.queue.job key = s.queue.job key
  counted : ∃ ids : List Nat, ids.Nodup ∧
    (∀ id, id ∈ ids ↔ ∃ p, Stale config s p ∧ p.id = id) ∧
    ∃ w, u.sweeps sweep = some w ∧ w.phase = .returned ids.length
  settled : findStale u.db u.now config.staleProcessingMs = []
  again : ∀ other e v, exec u (.reconcile other config) = some (e, v) →
    v.sweeps other = some ⟨config, [], .returned 0⟩ ∧ v.db = u.db ∧ v.queue = u.queue

theorem cleared_inactive {entry : Option (Job JobData)}
    (idle : ∀ j holder, entry = some j → j.state ≠ .active holder) :
    clearedJob none entry = none := by
  cases entry with
  | none => rfl
  | some j =>
    cases state : j.state with
    | active holder => exact absurd state (idle j holder rfl)
    | _ => simp [clearedJob, state]

section Results
variable {config : Config} {s u : System}
  (swept : Swept config noFaults (findStale s.db s.now config.staleProcessingMs) s u)
include swept

theorem swept_row {p : Payment} (stale : Stale config s p) :
    row u p.id = some (recoveredRow s.now p) := by
  have written := swept.written p ((stale_iff config s p).mpr stale)
  rwa [rowAfter, noFaults] at written

theorem swept_released {p : Payment} (released : Released config s p) :
    u.queue.job (jobIdFor p.id) =
      some ((clearedJob none (s.queue.job (jobIdFor p.id))).getD (freshJob config p.id)) := by
  obtain ⟨stale, left⟩ := released
  have job := swept.jobs p ((stale_iff config s p).mpr stale)
  rwa [jobAfter, if_pos ⟨rfl, left⟩] at job

theorem swept_elsewhere {id : Nat} (others : ∀ p, Stale config s p → id ≠ p.id) :
    row u id = row s id := by
  apply swept.otherRows id
  intro p there
  exact others p ((stale_iff config s p).mp there)

/-- The jobs of failed payments stay, and so do those of payments that were not
    selected. -/
theorem swept_other_job {key : String} (others : ∀ p, Released config s p → key ≠ jobIdFor p.id) :
    u.queue.job key = s.queue.job key := by
  by_cases mine : ∃ p ∈ findStale s.db s.now config.staleProcessingMs, key = jobIdFor p.id
  · obtain ⟨p, there, rfl⟩ := mine
    have stale := (stale_iff config s p).mp there
    have spent : ¬ p.attempts < p.maxAttempts := fun left => others p ⟨stale, left⟩ rfl
    rw [swept.jobs p there, jobAfter, if_neg (fun released => spent released.2)]
  · apply swept.otherJobs key
    intro p there same
    exact mine ⟨p, there, same⟩

/-- No row is left for a sweep at the same time to select. -/
theorem swept_settled : findStale u.db u.now config.staleProcessingMs = [] := by
  rw [List.eq_nil_iff_forall_not_mem]
  intro q selected
  have again := (stale_iff config u q).mp selected
  by_cases mine : ∃ p, Stale config s p ∧ q.id = p.id
  · obtain ⟨p, stale, same⟩ := mine
    have found := again.found
    rw [same, swept_row swept stale] at found
    obtain rfl := Option.some.inj found
    have status := recovered_status s.now p
    rw [again.busy] at status
    split at status <;> simp at status
  · have others : ∀ p, Stale config s p → q.id ≠ p.id := fun p stale same => mine ⟨p, stale, same⟩
    have found := again.found
    rw [swept_elsewhere swept others] at found
    obtain ⟨started, stamped, old⟩ := again.old
    rw [swept.clock] at old
    exact mine ⟨q, ⟨found, again.busy, started, stamped, old⟩, rfl⟩

end Results

theorem stale_counted (config : Config) (s : System) :
    ((findStale s.db s.now config.staleProcessingMs).map Payment.id).Nodup ∧
      ∀ id, id ∈ (findStale s.db s.now config.staleProcessingMs).map Payment.id ↔
        ∃ p, Stale config s p ∧ p.id = id := by
  constructor
  · rw [List.Nodup, List.pairwise_map]
    exact findStale_distinct _ _ _
  · intro id
    simp only [List.mem_map, stale_iff]

/-- A sweep that nothing interrupts recovers the stale payments and no others,
    and a released payment keeps its job only while a worker has it locked. -/
theorem sweep_recovers_stale_set {s t : System} {e : Event} {sweep : Nat} {config : Config}
    (start : exec s (.reconcile sweep config) = some (e, t)) :
    (∃ history u, Run (Does exec (Under noFaults sweep)) t history u ∧ Over sweep u) ∧
      ∀ history u, Run (Does exec (Under noFaults sweep)) t history u → Over sweep u →
        Recovers config sweep s u := by
  obtain ⟨complete, outcome⟩ := sweep_outcome start noFaults
  refine ⟨complete, ?_⟩
  intro history u run finished
  obtain ⟨swept, ended⟩ := outcome history u run finished
  rw [reached_all] at swept
  constructor
  · exact swept.clock
  · intro p stale
    exact ⟨_, swept_row swept stale, row_recovered s.now p⟩
  · intro id others
    exact swept_elsewhere swept others
  · intro p j holder released present active
    rw [swept_released swept released, present]
    simp [clearedJob, active]
  · intro p released idle
    rw [swept_released swept released, cleared_inactive idle]
    rfl
  · intro p released key j present payment
    rw [← u.queue.filed key j present, payment]
  · intro key others
    exact swept_other_job swept others
  · obtain ⟨distinct, members⟩ := stale_counted config s
    refine ⟨_, distinct, members, ?_⟩
    obtain ⟨w, present, ⟨-, here⟩ | ⟨⟨p, there, throws⟩, -⟩⟩ := ended
    · exact ⟨w, present, by simpa using here⟩
    · simp [stops, noFaults] at throws
  · exact swept_settled swept
  · intro other e' v again
    have move := exec_move again
    cases move with
    | reconcile _ _ fresh =>
      refine ⟨?_, rfl, rfl⟩
      simp [startSweep, swept_settled swept, nextRow]

/-- The sweep finds the job of the dead worker active, but no longer locked: it
    is replaced and not kept. -/
theorem unlocked_job_replaced :
    ¬ ∀ s t e sweep config, exec s (.reconcile sweep config) = some (e, t) →
      ∀ history u, Run (Does exec (Under noFaults sweep)) t history u → Over sweep u →
        ∀ p j, Released config s p → s.queue.job (jobIdFor p.id) = some j →
          (j.state = .unlocked ∨ ∃ holder, j.state = .active holder) →
          u.queue.job (jobIdFor p.id) = some j := by
  intro law
  have run := replay_run exec (Under noFaults 0) sweeping sweepsOnce
  have finished : Over 0 (replay exec (Under noFaults 0) sweeping sweepsOnce).2 := ⟨_, rfl, rfl⟩
  have active : stalled.queue.job (jobIdFor 1) = some ⟨⟨1⟩, 3, 0, .unlocked⟩ := by decide
  have replaced : (replay exec (Under noFaults 0) sweeping sweepsOnce).2.queue.job (jobIdFor 1) =
      some ⟨⟨1⟩, 3, 0, .waiting⟩ := by decide
  have kept := law stalled sweeping .other 0 config stalled_sweeping _ _ run finished stalledPayment
    _ ⟨stalled_stale, by decide⟩ active (Or.inl rfl)
  rw [show stalledPayment.id = 1 from rfl, replaced] at kept
  simp at kept

def stuck (id maxAttempts : Nat) : Payment :=
  ⟨id, "order-" ++ toString id, 4200, "INR", .processing, 1, maxAttempts, none, none, some 0, 0, 0⟩

def created (db : Database) (id maxAttempts : Nat) : Database :=
  (insertPayment db ("order-" ++ toString id) 4200 "INR" maxAttempts 0).2

/-- Payments 1 to 4 were claimed at 0, the fourth for the last time, and payment
    5 ten seconds before the sweep; nobody has claimed payment 6. -/
def crowdTables : Database :=
  let inserted := [(1, 3), (2, 3), (3, 3), (4, 1), (5, 3), (6, 3)].foldl
    (fun db entry => created db entry.1 entry.2) Database.empty
  let claimed := [1, 2, 3, 4].foldl (fun db id => (claim db id 0).2) inserted
  (claim claimed 5 50001).2

def crowdJob (id attemptsMade : Nat) (state : JobState) : Job JobData :=
  ⟨⟨id⟩, 3, attemptsMade, state⟩

def crowd : System :=
  { System.init with
    now := 60001
    db := crowdTables
    queue := [crowdJob 1 1 .unlocked, crowdJob 2 3 .failed, crowdJob 3 1 (.active 7),
      crowdJob 4 0 .unlocked, crowdJob 5 0 (.active 8), crowdJob 6 0 .delayed].foldl
        Jobs.put Jobs.empty }

def crowdSweeping : System :=
  { crowd with sweeps := set crowd.sweeps 0 (startSweep crowd.db crowd.now config) }

theorem crowd_stale (p : Payment) :
    Stale config crowd p ↔ p ∈ [stuck 1 3, stuck 2 3, stuck 3 3, stuck 4 1] := by
  have selected : findStale crowd.db crowd.now config.staleProcessingMs =
      [stuck 1 3, stuck 2 3, stuck 3 3, stuck 4 1] := by decide
  rw [← stale_iff, selected]

theorem crowd_released (p : Payment) :
    Released config crowd p ↔ p ∈ [stuck 1 3, stuck 2 3, stuck 3 3] := by
  rw [Released, crowd_stale]
  simp only [List.mem_cons, List.not_mem_nil, or_false]
  constructor
  · rintro ⟨rfl | rfl | rfl | rfl, left⟩
    · simp
    · simp
    · simp
    · exact absurd left (by decide)
  · rintro (rfl | rfl | rfl) <;> exact ⟨by simp, by decide⟩

/-- The first three are released, two of them with a new job, and the fourth
    fails; the rest is as it was. -/
theorem crowd_recovered : ∃ history u,
    Run (Does exec (Under noFaults 0)) crowdSweeping history u ∧
      [1, 2, 3, 4, 5, 6].map (fun id => (row u id).map Payment.status) =
        [some .pending, some .pending, some .pending, some .failed, some .processing,
          some .pending] ∧
      [1, 2, 3, 4, 5, 6].map (fun id => u.queue.job (jobIdFor id)) =
        [some (crowdJob 1 0 .waiting), some (crowdJob 2 0 .waiting),
          some (crowdJob 3 1 (.active 7)), some (crowdJob 4 0 .unlocked),
          some (crowdJob 5 0 (.active 8)), some (crowdJob 6 0 .delayed)] := by
  have started : exec crowd (.reconcile 0 config) = some (.other, crowdSweeping) := rfl
  obtain ⟨⟨history, u, run, finished⟩, law⟩ := sweep_recovers_stale_set started
  have recovers := law history u run finished
  have free : ∀ p ∈ [stuck 1 3, stuck 2 3, stuck 3 3],
      (row u p.id).map Payment.status = some .pending := by
    intro p there
    obtain ⟨stale, left⟩ := (crowd_released p).mpr there
    obtain ⟨q, found, outcome⟩ := recovers.recovered p stale
    rw [found, Option.map_some, (outcome.released left).1]
  have failed : (row u 4).map Payment.status = some .failed := by
    obtain ⟨q, found, outcome⟩ := recovers.recovered (stuck 4 1) ((crowd_stale _).mpr (by simp))
    rw [show row u 4 = _ from found, Option.map_some, outcome.failed (by decide)]
  have others : ∀ id ∈ [5, 6], row u id = row crowd id := by
    intro id there
    apply recovers.otherRows id
    intro p stale same
    have listed := (crowd_stale p).mp stale
    simp only [List.mem_cons, List.not_mem_nil, or_false] at listed there
    rcases listed with rfl | rfl | rfl | rfl <;> simp [stuck] at same <;> omega
  have renewed : ∀ p ∈ [stuck 1 3, stuck 2 3], u.queue.job (jobIdFor p.id) =
      some (crowdJob p.id 0 .waiting) := by
    intro p there
    have released : Released config crowd p := (crowd_released p).mpr (by simp_all; tauto)
    apply recovers.newJob p released
    have job : crowd.queue.job (jobIdFor p.id) ∈
        [some (crowdJob 1 1 .unlocked), some (crowdJob 2 3 .failed)] := by
      simp only [List.mem_cons, List.not_mem_nil, or_false] at there
      rcases there with rfl | rfl <;> decide
    intro j holder present
    rw [present] at job
    simp only [List.mem_cons, List.not_mem_nil, or_false, Option.some.injEq] at job
    rcases job with rfl | rfl <;> simp [crowdJob]
  have kept := recovers.keptJob (stuck 3 3) (crowdJob 3 1 (.active 7)) 7
    ((crowd_released _).mpr (by simp)) (by decide) rfl
  have otherJobs : ∀ id ∈ [4, 5, 6], u.queue.job (jobIdFor id) = crowd.queue.job (jobIdFor id) := by
    intro id there
    apply recovers.otherJobs
    intro p released same
    have listed := (crowd_released p).mp released
    have here := jobIdFor_injective same
    simp only [List.mem_cons, List.not_mem_nil, or_false] at listed there
    rcases listed with rfl | rfl | rfl <;> simp [stuck] at here <;> omega
  refine ⟨history, u, run, ?_, ?_⟩
  · have one := free (stuck 1 3) (by simp)
    have two := free (stuck 2 3) (by simp)
    have three := free (stuck 3 3) (by simp)
    have five : (row crowd 5).map Payment.status = some .processing := by decide
    have six : (row crowd 6).map Payment.status = some .pending := by decide
    simp only [stuck] at one two three
    simp [one, two, three, failed, others, five, six]
  · have one := renewed (stuck 1 3) (by simp)
    have two := renewed (stuck 2 3) (by simp)
    have four : crowd.queue.job (jobIdFor 4) = some (crowdJob 4 0 .unlocked) := by decide
    have five : crowd.queue.job (jobIdFor 5) = some (crowdJob 5 0 (.active 8)) := by decide
    have six : crowd.queue.job (jobIdFor 6) = some (crowdJob 6 0 .delayed) := by decide
    simp only [stuck] at one two kept
    simp [one, two, kept, otherJobs, four, five, six]

end SweepRecovery
