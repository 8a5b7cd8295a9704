import PaymentProcessing.CallTraces

/-!
The nullable columns of a payment row against its status. Every write site sets
its own part of them, and together they keep one invariant: in particular a
PROCESSING row carries the time of its latest claim, whatever became of the
call that won it, so the comparison in findStale never hides it.
-/
namespace ColumnCoherence
open TransitionRuns PaymentStateMachine PaymentRepositories PaymentService WebhookService
open PaymentTransactions PaymentSystem SystemSteps AttemptAccounting CallTraces

structure Coherent (p : Payment) : Prop where
  pending : p.status = .pending →
    p.processingStartedAt = none ∧ p.providerRef = none ∧ (p.lastError = none ↔ p.attempts = 0)
  processing : p.status = .processing →
    p.processingStartedAt ≠ none ∧ p.providerRef = none ∧ 0 < p.attempts
  success : p.status = .success → p.lastError = none
  failed : p.status = .failed → p.lastError ≠ none ∧ p.providerRef = none

theorem unsettled_unreferenced {p : Payment} (h : Coherent p)
    (unsettled : isTerminal p.status = false) : p.providerRef = none := by
  rcases unsettled_cases unsettled with free | held
  · exact (h.pending free).2.1
  · exact (h.processing held).2.1

/-- A row that one of the four branches fails keeps its reference column. -/
theorem coherent_failed {p : Payment} (h : Coherent p) (unsettled : isTerminal p.status = false)
    (reason : String) (startedAt : Option (Option Nat)) (now : Nat) :
    Coherent (writeStatus .failed
      { lastError := some (some reason), processingStartedAt := startedAt } now p) := by
  have unreferenced := unsettled_unreferenced h unsettled
  constructor
  · intro free
    simp [writeStatus] at free
  · intro held
    simp [writeStatus] at held
  · intro settled
    simp [writeStatus] at settled
  · intro _
    simpa [writeStatus] using unreferenced

theorem coherent_released {p : Payment} (h : Coherent p) (held : p.status = .processing)
    (reason : String) (now : Nat) :
    Coherent (writeStatus .pending
      { lastError := some (some reason), processingStartedAt := some none } now p) := by
  obtain ⟨-, unreferenced, tried⟩ := h.processing held
  constructor
  · intro _
    refine ⟨rfl, unreferenced, ?_⟩
    simp [writeStatus]
    omega
  · intro held'
    simp [writeStatus] at held'
  · intro settled
    simp [writeStatus] at settled
  · intro failed
    simp [writeStatus] at failed

theorem coherent_success (p : Payment) (ref : Option String) (now : Nat) :
    Coherent (writeStatus .success { providerRef := some ref, lastError := some none } now p) := by
  constructor <;> intro status
  · simp [writeStatus] at status
  · simp [writeStatus] at status
  · rfl
  · simp [writeStatus] at status

theorem coherent_claimed {p : Payment} (h : Coherent p) (free : p.status = .pending) (now : Nat) :
    Coherent (addAttempt
      (writeStatus .processing { processingStartedAt := some (some now) } now p)) := by
  obtain ⟨-, unreferenced, -⟩ := h.pending free
  constructor
  · intro free'
    simp [addAttempt, writeStatus] at free'
  · intro _
    refine ⟨by simp [addAttempt, writeStatus], unreferenced, ?_⟩
    simp [addAttempt]
  · intro settled
    simp [addAttempt, writeStatus] at settled
  · intro failed
    simp [addAttempt, writeStatus] at failed

theorem coherent_write {id : Nat} {p q : Payment} {e : Event} (h : Coherent p)
    (w : Write id p e q) : Coherent q := by
  have unsettled := PaymentLifecycle.no_write_settled w
  cases w with
  | claim run now free => exact coherent_claimed h free now
  | settleSuccess run now result held => exact coherent_success p _ now
  | settleRetry run now err held retriable left => exact coherent_released h held err.reason now
  | settleFailed run now err held final => exact coherent_failed h unsettled _ none now
  | recoverFailed now held spent => exact coherent_failed h unsettled _ (some none) now
  | recoverReleased now held left => exact coherent_released h held _ now
  | fail reason now legal => exact coherent_failed h unsettled reason none now
  | webhook callback now target legal =>
    cases reported : callback.reported with
    | success =>
      simp only [callbackExtra, reported, ReportedStatus.status]
      exact coherent_success p _ now
    | failed =>
      simp only [callbackExtra, reported, ReportedStatus.status]
      exact coherent_failed h unsettled _ none now

theorem coherent_new (key : String) (amount : Int) (currency : String) (maxAttempts now id : Nat) :
    Coherent (newPayment key amount currency maxAttempts now id) := by
  constructor <;> intro status
  · simp [newPayment]
  · simp [newPayment] at status
  · simp [newPayment] at status
  · simp [newPayment] at status

theorem run_coherent {allowed : System → Action → Prop} {history : List Event} {s : System}
    (run : Run (Does exec allowed) System.init history s) {id : Nat} {p : Payment}
    (found : row s id = some p) : Coherent p := by
  have every : ∀ q, row s id = some q → Coherent q := by
    apply run_invariant (fun _ u => ∀ q, row u id = some q → Coherent q) ?_ ?_ run
    · intro q absent
      simp at absent
    · intro h u e t inv step q after
      cases row_before (does_commit step) after with
      | kept before quiet => exact inv q before
      | created call key amount currency maxAttempts now absent label made =>
        rw [made]
        exact coherent_new key amount currency maxAttempts now id
      | written before w => exact coherent_write (inv _ before) w
  exact every p found

theorem claim_writes {db : Database} {id now : Nat} {claim : Claim}
    (won : (PaymentService.claim db id now).1 = .claimed claim) :
    ∃ p, db.payments.find id = some p ∧ p.status = .pending ∧
      (PaymentService.claim db id now).2.payments.find id = some (addAttempt
        (writeStatus .processing { processingStartedAt := some (some now) } now p)) := by
  unfold PaymentService.claim findById at won ⊢
  split at won
  · simp at won
  · rename_i p found
    split at won
    · simp at won
    · rename_i busy
      have free : p.status = .pending := by simpa using busy
      exact ⟨p, found, free, by simp [found, free]⟩

theorem claim_step {s t : System} {e : Event} {id : Nat} (move : RunsMove s t e)
    (won : wonClaim id e = true) :
    ∃ p, row s id = some p ∧ p.status = .pending ∧ row t id = some (addAttempt
      (writeStatus .processing { processingStartedAt := some (some s.now) } s.now p)) := by
  cases move with
  | frame same outside => simp [(outside_uncounted outside id).1] at won
  | start run r fresh begun claiming label => simp [label, wonClaim] at won
  | work run r move phase db queue present moved committed spec =>
    cases spec with
    | claim here =>
      cases answer : (PaymentService.claim s.db r.paymentId s.now).1 with
      | claimed claim =>
        obtain rfl : r.paymentId = id := by simpa [answer, wonClaim] using won
        rw [row, row, committed]
        exact claim_writes answer
      | refused reason status => simp [answer, wonClaim] at won
    | _ => simp [wonClaim] at won

/-- `m` is the state in which the latest claim of the payment was won, on the
    way to `s`. -/
def ClaimedIn (id : Nat) (history : List Event) (s m : System) : Prop :=
  ∃ before e after n, history = before ++ e :: after ∧ wonClaim id e = true ∧
    (∀ x ∈ after, wonClaim id x = false) ∧
    Run Step System.init before m ∧ Step m e n ∧ Run Step n after s

theorem unclaimed_held {id : Nat} {s t : System} {later : List Event} (run : Run Step s later t)
    (unclaimed : ∀ e ∈ later, wonClaim id e = false) {p : Payment} (found : row s id = some p)
    {q : Payment} (after : row t id = some q) (held : q.status = .processing) : q = p := by
  induction run generalizing q with
  | nil => exact Option.some.inj (after.symm.trans found)
  | @snoc history mid stop e before last ih =>
    have earlier : ∀ x ∈ history, wonClaim id x = false := by
      intro x there
      exact unclaimed x (List.mem_append_left _ there)
    cases row_before (does_commit last) after with
    | kept old quiet => exact ih earlier old held
    | created call _ _ _ _ _ absent label made => simp [made, newPayment] at held
    | written old w =>
      obtain ⟨run, claim, rfl⟩ := write_processing w held
      have noClaim := unclaimed (.claim run id (.claimed claim)) (by simp)
      simp [wonClaim] at noClaim

theorem claimed_in_time {id : Nat} {history : List Event} {s m : System}
    (claimed : ClaimedIn id history s m) {p : Payment} (found : row s id = some p)
    (held : p.status = .processing) : p.processingStartedAt = some m.now := by
  obtain ⟨before, e, after, n, -, won, unclaimed, -, step, later⟩ := claimed
  obtain ⟨q, -, -, stamped⟩ := claim_step (does_runs step) won
  rw [unclaimed_held later unclaimed stamped found held]
  rfl

theorem processing_claimed_in {id : Nat} {history : List Event} {s : System}
    (run : Run Step System.init history s) {p : Payment} (found : row s id = some p)
    (held : p.status = .processing) : ∃ m, ClaimedIn id history s m := by
  obtain ⟨holder, claim, last⟩ := processing_claimed run found held
  obtain ⟨before, after, shape, -, unwritten⟩ := lastWith_split last
  have split := run
  rw [shape] at split
  obtain ⟨m, n, first, step, later⟩ := run_at split
  refine ⟨m, before, _, after, n, shape, by simp [wonClaim], ?_, first, step, later⟩
  intro e there
  exact (unwritten_uncounted (unwritten e there)).1

def Recovered (p q : Payment) : Prop :=
  p.attempts < p.maxAttempts ∧ q.status = .pending ∧ q.attempts < q.maxAttempts ∧
      q.processingStartedAt = none ∨
    p.maxAttempts ≤ p.attempts ∧ q.status = .failed

theorem recover_held {db : Database} {id : Nat} {p : Payment}
    (found : db.payments.find id = some p) (held : p.status = .processing) (now : Nat) :
    ∃ q, (recoverStalePayment db id now).2.payments.find id = some q ∧ Recovered p q := by
  obtain ⟨-, written⟩ := recoverStalePayment_held found held now
  refine ⟨recoveredRow now p, by rw [written, if_pos rfl], ?_⟩
  by_cases left : p.attempts < p.maxAttempts
  · rw [recoveredRow, if_pos left]
    exact Or.inl ⟨left, rfl, left, rfl⟩
  · rw [recoveredRow, if_neg left]
    exact Or.inr ⟨by omega, rfl⟩

/-- A row left PROCESSING is stamped with its latest claim, is selected by every
    later SELECT whose cutoff has passed that claim, and is taken out of
    PROCESSING by the recovery. -/
structure Recoverable (history : List Event) (s : System) (p : Payment) : Prop where
  claimed : ∃ m, ClaimedIn p.id history s m
  stamped : ∀ m, ClaimedIn p.id history s m → p.processingStartedAt = some m.now
  selected : ∀ m, ClaimedIn p.id history s m → ∀ olderThanMs now,
    p ∈ findStale s.db now olderThanMs ↔ m.now + olderThanMs < now
  recovered : ∀ now, ∃ q,
    (recoverStalePayment s.db p.id now).2.payments.find p.id = some q ∧ Recovered p q

theorem processing_recoverable {history : List Event} {s : System}
    (run : Run Step System.init history s) {id : Nat} {p : Payment} (found : row s id = some p)
    (held : p.status = .processing) : Recoverable history s p := by
  obtain rfl : p.id = id := payment_id s.db found
  refine ⟨processing_claimed_in run found held, ?_, ?_, recover_held found held⟩
  · intro m claimed
    exact claimed_in_time claimed found held
  · intro m claimed olderThanMs now
    have here : s.db.payments.find p.id = some p := found
    rw [mem_findStale, claimed_in_time claimed found held]
    simp [here, held]

/-- Every row of every reachable state has columns that fit its status, and no
    payment is stuck in PROCESSING out of reach of the sweep. -/
theorem columns_coherent_and_recoverable {history : List Event} {s : System}
    (run : Run Step System.init history s) {id : Nat} {p : Payment} (found : row s id = some p) :
    Coherent p ∧ (p.status = .processing → Recoverable history s p) :=
  ⟨run_coherent run found, processing_recoverable run found⟩

/-- The only worker of a payment has died in the gateway call. -/
def crashedRun : List Action :=
  [.tick 7, .initiate 0 ⟨3, 60000, 3000⟩ ⟨"order-123", 4200, "INR"⟩, .api 0 .insert, .process 0 1,
    .worker 0 (.claim none), .tick 5,
    .worker 0 (.charge 3000 (attempt 3000 .success 0 "gw_abc")), .worker 0 .crash]

theorem crashed_payment_recoverable :
    ∃ p, row (replay exec Action.any System.init crashedRun).2 1 = some p ∧
      p.processingStartedAt = some 7 ∧ Coherent p ∧
      Recoverable (replay exec Action.any System.init crashedRun).1
        (replay exec Action.any System.init crashedRun).2 p := by
  have shape : (row (replay exec Action.any System.init crashedRun).2 1).map
      (fun p => (p.status, p.processingStartedAt)) = some (.processing, some 7) := by decide
  obtain ⟨p, found, eq⟩ := Option.map_eq_some_iff.mp shape
  obtain ⟨held, started⟩ := Prod.mk.inj eq
  obtain ⟨coherent, recoverable⟩ := columns_coherent_and_recoverable
    (replay_run exec Action.any System.init crashedRun) found
  exact ⟨p, found, started, coherent, recoverable held⟩

end ColumnCoherence
