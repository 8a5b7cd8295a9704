import PaymentProcessing.ColumnCoherence
import PaymentProcessing.CallTraces

/-!
Why a payment is settled. A SUCCESS or FAILED row was settled by one step of the
run, and that step had its reason in the steps before it: a gateway attempt that
ended so, a callback that reported it, a spent budget, or a failed job. Crashes,
failed calls and direct calls of the services included.
-/
namespace SettlementProvenance
open TransitionRuns PaymentStateMachine PaymentRepositories PaymentService WebhookService
open PaymentTransactions PaymentSystem SystemSteps AttemptAccounting CallTraces ColumnCoherence

def replied : Except GatewayError ChargeResult → Except JsError ChargeResult
  | .ok result => .ok result
  | .error err => .error (.gatewayError err)

/-- The labels of a call up to its settle, with what they passed on. -/
inductive Sourced (run id : Nat) : ProcessPhase → List Event → Prop where
  | claiming : Sourced run id .claiming []
  | claimed (claim : Claim) :
      Sourced run id (.claimed claim) [.claim run id (.claimed claim)]
  | charging (claim : Claim) (timeoutMs : Nat) (a : Attempt) :
      Sourced run id (.charging claim (charge timeoutMs a))
        [.claim run id (.claimed claim), .charge run id a]
  | settling (claim : Claim) (timeoutMs : Nat) (a : Attempt)
      (answer : Except GatewayError ChargeResult) (answered : charge timeoutMs a = replied answer) :
      Sourced run id (.settling claim answer)
        [.claim run id (.claimed claim), .charge run id a, .reply run id (replied answer)]
  | elsewhere {phase : ProcessPhase} {labels : List Event} (done : phase.claimOf = none)
      (noReturn : phase ≠ .claiming) : Sourced run id phase labels

theorem sourced_step {now : Nat} {db db' : Database} {queue queue' : PaymentQueue} {run : Nat}
    {r : ProcessCall} {move : WorkerMove} {e : Event} {phase : ProcessPhase} {labels : List Event}
    (h : Sourced run r.paymentId r.phase labels)
    (spec : WorkerSpec now db queue run r move e db' queue' phase) :
    Sourced run r.paymentId phase (labels ++ if ofCall run e then [e] else []) := by
  have life := worker_life spec
  generalize mid : r.phase = before at h life
  cases spec with
  | claim here =>
    rw [mid] at here
    subst here
    cases h with
    | claiming =>
      cases (PaymentService.claim db r.paymentId now).1 with
      | claimed claim => simpa [ofCall, afterClaim] using Sourced.claimed claim
      | refused reason status => exact Sourced.elsewhere rfl (by simp [afterClaim])
    | elsewhere done noReturn => exact absurd rfl noReturn
  | @charge taken timeoutMs a here =>
    rw [mid] at here
    subst here
    cases h with
    | claimed => simpa [ofCall] using Sourced.charging taken timeoutMs a
    | elsewhere done noReturn => simp [ProcessPhase.claimOf] at done
  | @reply taken answer here =>
    rw [mid] at here
    subst here
    cases h with
    | charging _ timeoutMs a =>
      have settling : ∀ answer, charge timeoutMs a = replied answer →
          Sourced run r.paymentId (.settling taken answer)
            [.claim run r.paymentId (.claimed taken), .charge run r.paymentId a,
              .reply run r.paymentId (replied answer)] := Sourced.settling taken timeoutMs a
      cases answered : charge timeoutMs a with
      | ok result => simpa [ofCall, afterReply, replied] using settling (.ok result) answered
      | error err =>
        cases err with
        | gatewayError err => simpa [ofCall, afterReply, replied] using settling (.error err) answered
        | error message code errno => exact Sourced.elsewhere rfl (by simp [afterReply])
    | elsewhere done noReturn => simp [ProcessPhase.claimOf] at done
  | settle here =>
    obtain ⟨done, noReturn⟩ := afterSettle_over (PaymentService.settle db r.paymentId _ now).1
    exact Sourced.elsewhere done noReturn
  | failed config here job =>
    rcases failJob_over queue config _ run _ with closed | ⟨reason, failing⟩
    · exact Sourced.elsewhere (by rw [closed]; rfl) (by simp [closed])
    · exact Sourced.elsewhere (by rw [failing]; rfl) (by simp [failing])
  | _ => exact Sourced.elsewhere rfl (by simp)

def AllSourced (history : List Event) (s : System) : Prop :=
  ∀ run r, s.runs run = some r → Sourced run r.paymentId r.phase (trace run history)

theorem allSourced_step {history : List Event} {s t : System} {e : Event}
    (traced : Traced history s) (h : AllSourced history s) (move : RunsMove s t e) :
    AllSourced (history ++ [e]) t := by
  intro other r' after
  rw [trace_snoc]
  cases move with
  | frame same outside =>
    rw [same] at after
    simpa [unlabelled outside] using h other r' after
  | start run r fresh begun claiming label =>
    subst label
    rw [begun] at after
    rcases set_some after with ⟨rfl, rfl⟩ | ⟨-, old⟩
    · have unused := traced other
      rw [fresh] at unused
      simp only [unused, claiming, ofCall, Bool.false_eq_true, if_false, List.append_nil]
      exact Sourced.claiming
    · simpa [ofCall] using h other r' old
  | work run r move phase db queue present moved committed spec =>
    rw [moved] at after
    rcases set_some after with ⟨rfl, rfl⟩ | ⟨apart, old⟩
    · have mine : Sourced other r.paymentId phase _ := sourced_step (h other r present) spec
      exact mine
    · simpa [life_label (worker_life spec) apart] using h other r' old

theorem run_sourced {allowed : System → Action → Prop} {history : List Event} {s : System}
    (run : Run (Does exec allowed) System.init history s) : AllSourced history s := by
  apply run_induction AllSourced ?_ ?_ run
  · intro run r present
    simp [System.init] at present
  · intro history u e t before inv step
    exact allSourced_step (run_traced before) inv (does_runs step)

theorem settling_sourced {history : List Event} {s : System} (h : AllSourced history s) {run : Nat}
    {r : ProcessCall} {claim : Claim} {answer : Except GatewayError ChargeResult}
    (present : s.runs run = some r) (settling : r.phase = .settling claim answer) :
    ∃ timeoutMs a, charge timeoutMs a = replied answer ∧
      trace run history = [.claim run r.paymentId (.claimed claim), .charge run r.paymentId a,
        .reply run r.paymentId (replied answer)] := by
  have mine := h run r present
  rw [settling] at mine
  generalize trace run history = labels at mine
  cases mine with
  | settling _ timeoutMs a _ answered => exact ⟨timeoutMs, a, answered, rfl⟩
  | elsewhere done noReturn => simp [ProcessPhase.claimOf] at done

/-- Whether the label leaves the payment SUCCESS or FAILED. -/
def settles (id : Nat) (e : Event) : Bool := e.writes id && (written e).any isTerminal

theorem find_written {db : Database} {id : Nat} {p : Payment}
    (found : db.payments.find id = some p) (status : PaymentStatus) (extra : Extra) (now : Nat) :
    (updateStatus db id status extra now).payments.find id =
      some (writeStatus status extra now p) := by
  simp [found]

theorem settle_success {db db' : Database} {id now : Nat} {p : Payment}
    {answer : Except GatewayError ChargeResult} {status : PaymentStatus}
    (found : db.payments.find id = some p)
    (h : settle db id answer now = (.success status, db')) :
    ∃ result, answer = .ok result ∧ db'.payments.find id = some (writeStatus .success
      { providerRef := some (some result.providerRef), lastError := some none } now p) := by
  have spec := settle_spec db id answer now
  rw [h] at spec
  cases spec with
  | success result there held =>
    obtain rfl := Option.some.inj (found.symm.trans there)
    exact ⟨result, rfl, find_written found .success _ now⟩

theorem settle_failed {db db' : Database} {id now : Nat} {p : Payment}
    {answer : Except GatewayError ChargeResult} {status : PaymentStatus}
    (found : db.payments.find id = some p)
    (h : settle db id answer now = (.failed status, db')) :
    ∃ err, answer = .error err ∧ (err.retriable = true → p.maxAttempts ≤ p.attempts) ∧
      db'.payments.find id =
        some (writeStatus .failed { lastError := some (some (lastErrorOf err)) } now p) := by
  have spec := settle_spec db id answer now
  rw [h] at spec
  cases spec with
  | failed err there held final =>
    obtain rfl := Option.some.inj (found.symm.trans there)
    exact ⟨err, rfl, final, find_written found .failed _ now⟩

theorem charge_ok {timeoutMs : Nat} {a : Attempt} {result : ChargeResult}
    (h : charge timeoutMs a = .ok result) : a.settlesAfter < timeoutMs ∧ a.result = .ok result := by
  unfold charge at h
  split at h
  · rename_i inTime
    exact ⟨inTime, h⟩
  · cases h

/-- The reason of the step that settled a row, in the history before it. -/
inductive Evidence (id : Nat) (before : List Event) (p : Payment) : Event → Prop where
  | captured (run timeoutMs : Nat) (claim : Claim) (a : Attempt) (result : ChargeResult)
      (inTime : a.settlesAfter < timeoutMs) (success : a.result = .ok result)
      (steps : trace run before = [.claim run id (.claimed claim), .charge run id a,
        .reply run id (.ok result)])
      (status : p.status = .success) (reference : p.providerRef = some result.providerRef)
      (cleared : p.lastError = none) :
      Evidence id before p (.settle run id (.success .success))
  | refused (run timeoutMs : Nat) (claim : Claim) (a : Attempt) (err : GatewayError)
      (answered : charge timeoutMs a = .error (.gatewayError err))
      (steps : trace run before = [.claim run id (.claimed claim), .charge run id a,
        .reply run id (.error (.gatewayError err))])
      (final : err.retriable = true → p.maxAttempts ≤ p.attempts)
      (status : p.status = .failed) (reason : p.lastError = some (lastErrorOf err)) :
      Evidence id before p (.settle run id (.failed .failed))
  | reported (callback : Callback) (target : callback.paymentId = id)
      (status : p.status = callback.reported.status)
      (reference : p.providerRef =
        if callback.reported = .success then refOr callback.providerRef none else none)
      (reason : p.lastError =
        if callback.reported = .success then none else some "failed via provider webhook") :
      Evidence id before p (.webhook callback (.applied callback.reported.status))
  | exhausted (spent : p.maxAttempts ≤ p.attempts) (status : p.status = .failed)
      (reason : p.lastError = some "recovered: stuck in processing, attempts exhausted") :
      Evidence id before p (.recover id (.failed .failed))
  | defended (message : String) (status : p.status = .failed)
      (reason : p.lastError = some message) :
      Evidence id before p (.fail id message (.failed .failed))

theorem write_evidence {history : List Event} {s t : System} {e : Event}
    (run : Run Step System.init history s) (step : Step s e t) {id : Nat} {p q : Payment}
    (found : row s id = some p) (after : row t id = some q) (w : Write id p e q)
    (settled : isTerminal q.status = true) : Evidence id history q e := by
  have sourced := run_sourced run
  have coherent := run_coherent run found
  cases w with
  | claim c now free => simp [addAttempt, writeStatus, isTerminal, transitions] at settled
  | settleRetry c now err held retriable left =>
    simp [writeStatus, isTerminal, transitions] at settled
  | recoverReleased now held left => simp [writeStatus, isTerminal, transitions] at settled
  | settleSuccess c now result held =>
    obtain ⟨r, claim, answer, present, rfl, settling, committed⟩ := settle_step (does_runs step)
    obtain ⟨result', rfl, written⟩ := settle_success found committed
    obtain ⟨timeoutMs, a, answered, steps⟩ := settling_sourced sourced present settling
    have same := Option.some.inj (after.symm.trans written)
    rw [same]
    obtain ⟨inTime, success⟩ := charge_ok answered
    exact Evidence.captured c timeoutMs claim a result' inTime success steps rfl rfl rfl
  | settleFailed c now err held final =>
    obtain ⟨r, claim, answer, present, rfl, settling, committed⟩ := settle_step (does_runs step)
    obtain ⟨err', rfl, last, written⟩ := settle_failed found committed
    obtain ⟨timeoutMs, a, answered, steps⟩ := settling_sourced sourced present settling
    have same := Option.some.inj (after.symm.trans written)
    rw [same]
    exact Evidence.refused c timeoutMs claim a err' answered steps last rfl rfl
  | recoverFailed now held spent => exact Evidence.exhausted spent rfl rfl
  | fail reason now legal => exact Evidence.defended reason rfl rfl
  | webhook callback now target legal =>
    have unreferenced : p.providerRef = none := by
      apply unsettled_unreferenced coherent
      cases terminal : isTerminal p.status with
      | false => rfl
      | true => exact absurd legal ((terminal_iff_no_move _).mp terminal _)
    apply Evidence.reported callback target rfl
    · cases reported : callback.reported with
      | success => simp [writeStatus, callbackExtra, reported, unreferenced]
      | failed => simp [writeStatus, callbackExtra, reported, unreferenced]
    · cases reported : callback.reported with
      | success => simp [writeStatus, callbackExtra, reported]
      | failed => simp [writeStatus, callbackExtra, reported]

/-- One step settled the row, with its evidence before it; no other step of the
    history did, and none wrote the row afterwards. -/
def SettledBy (id : Nat) (history : List Event) (p : Payment) : Prop :=
  ∃ before e after, history = before ++ e :: after ∧ settles id e = true ∧
    Evidence id before p e ∧ (∀ x ∈ before, settles id x = false) ∧
    ∀ x ∈ after, x.writes id = false

theorem settling_write {s t : System} {e : Event} (step : Step s e t) {id : Nat}
    (settling : settles id e = true) :
    ∃ p q, row s id = some p ∧ row t id = some q ∧ Write id p e q ∧ isTerminal p.status = false ∧
      isTerminal q.status = true := by
  have wrote : e.writes id = true := by
    simp only [settles, Bool.and_eq_true] at settling
    exact settling.1
  have move := commit_row (does_commit step) id
  generalize before : s.db.payments.find id = old at move
  generalize after : t.db.payments.find id = new at move
  cases move with
  | stay quiet => simp [wrote] at quiet
  | create call key amount currency maxAttempts now =>
    simp [settles, written, isTerminal, transitions] at settling
  | @write p q _ w =>
    have settled : isTerminal q.status = true := by
      simpa [settles, write_label w, write_written w] using settling
    exact ⟨p, q, before, after, w, PaymentLifecycle.no_write_settled w, settled⟩

theorem unsettled_before {before : List Event} {s : System} {x : Event} {id : Nat}
    {p : Payment} (run : Run Step System.init before s) (mem : x ∈ before)
    (found : row s id = some p) (unsettled : isTerminal p.status = false) :
    settles id x = false := by
  obtain ⟨first, rest, rfl⟩ := List.append_of_mem mem
  obtain ⟨m, n, -, step, later⟩ := run_at run
  by_contra marked
  obtain ⟨-, q, -, after, -, -, settled⟩ := settling_write step (by simpa using marked)
  have kept := PaymentLifecycle.run_keeps_settled later after settled
  obtain rfl := Option.some.inj (kept.symm.trans found)
  simp [settled] at unsettled

/-- No payment is SUCCESS or FAILED without its reason, and none is settled twice. -/
theorem settled_with_evidence {history : List Event} {s : System}
    (run : Run Step System.init history s) {id : Nat} {p : Payment} (found : row s id = some p)
    (settled : isTerminal p.status = true) : SettledBy id history p := by
  have status := run_status run id
  rw [found, Option.map_some] at status
  obtain ⟨e, last, leaves⟩ := Option.bind_eq_some_iff.mp status.symm
  obtain ⟨before, after, shape, wrote, quiet⟩ := lastWith_split last
  rw [shape] at run
  obtain ⟨m, n, first, step, later⟩ := run_at run
  have settling : settles id e = true := by simp [settles, wrote, leaves, settled]
  obtain ⟨p', q, found', after', w, unsettled, settled'⟩ := settling_write step settling
  have kept := PaymentLifecycle.run_keeps_settled later after' settled'
  obtain rfl := Option.some.inj (kept.symm.trans found)
  refine ⟨before, e, after, shape, settling, ?_, ?_, quiet⟩
  · exact write_evidence first step found' after' w settled
  · intro x mem
    exact unsettled_before first mem found' unsettled

def capturedRun : List Action :=
  let config : Config := ⟨3, 60000, 3000⟩
  [.initiate 0 config ⟨"order-123", 4200, "INR"⟩, .api 0 .insert, .api 0 .read,
    .api 0 (.enqueue none), .pick 0 "payment-1", .worker 0 (.claim none),
    .worker 0 (.charge 3000 (attempt 3000 .timeout 0 "gw_a")), .tick 3000, .worker 0 .reply,
    .worker 0 (.settle none), .worker 0 (.finish config), .pick 1 "payment-1",
    .worker 1 (.claim none), .worker 1 (.charge 3000 (attempt 3000 .delay 900 "gw_b")),
    .worker 1 .reply, .worker 1 (.settle none), .worker 1 .crash]

theorem captured_payment_explained :
    ∃ p, row (replay exec Action.any System.init capturedRun).2 1 = some p ∧
      p.providerRef = some "gw_b" ∧
      SettledBy 1 (replay exec Action.any System.init capturedRun).1 p := by
  have reached : (row (replay exec Action.any System.init capturedRun).2 1).map
      (fun p => (p.status, p.providerRef)) = some (.success, some "gw_b") := by decide
  obtain ⟨p, found, shape⟩ := Option.map_eq_some_iff.mp reached
  obtain ⟨status, reference⟩ := Prod.mk.inj shape
  refine ⟨p, found, reference, ?_⟩
  exact settled_with_evidence (replay_run exec Action.any System.init capturedRun) found
    (by rw [status]; rfl)

end SettlementProvenance
