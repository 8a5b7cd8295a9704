import PaymentProcessing.WebhookLedger

/-!
The worker's answer and the provider's callback arriving in either order. Both
orders are runs of the system from one state: the callback first and then the
settle of the waiting call, or the other way round.
-/
namespace ArrivalOrder
open KeyedTable TransitionRuns PaymentStateMachine PaymentRepositories PaymentService
open WebhookService WebhookLedger PaymentTransactions PaymentSystem

/-- Answers of the gateway that do not contradict what the provider reports; a
    retriable error says nothing about the provider's decision. -/
inductive Agrees : Except GatewayError ChargeResult → ReportedStatus → Prop where
  | charged (result : ChargeResult) : Agrees (.ok result) .success
  | declined {err : GatewayError} (final : err.retriable = false) : Agrees (.error err) .failed
  | inconclusive {err : GatewayError} (reported : ReportedStatus) (retriable : err.retriable = true) :
      Agrees (.error err) reported

def statusIn (s : System) (id : Nat) : Option PaymentStatus := (row s id).map Payment.status

/-- A call about to settle its PROCESSING payment, and a callback for that
    payment which was never recorded and does not contradict the answer. -/
structure Crossing (s : System) (run : Nat) (answer : Except GatewayError ChargeResult)
    (callback : Callback) (p : Payment) : Prop where
  settling : ∃ r claim, s.runs run = some r ∧ r.paymentId = callback.paymentId ∧
    r.phase = .settling claim answer
  found : row s callback.paymentId = some p
  held : p.status = .processing
  fresh : ∀ i event, s.db.webhookEvents.find i = some event → event.eventId ≠ callback.eventId
  agrees : Agrees answer callback.reported

theorem fresh_callback_row {db : Database} {callback : Callback} {p : Payment} (now : Nat)
    (found : db.payments.find callback.paymentId = some p)
    (fresh : ∀ i event, db.webhookEvents.find i = some event → event.eventId ≠ callback.eventId) :
    (handleWebhook db callback now).2.payments.find callback.paymentId =
      some (if Move p.status callback.reported.status then
        writeStatus callback.reported.status (callbackExtra callback p) now p else p) := by
  have spec := handleWebhook_spec db callback now
  generalize (handleWebhook db callback now).1 = result at spec
  generalize (handleWebhook db callback now).2 = after at spec ⊢
  cases spec with
  | unknown absent =>
    rw [found] at absent
    simp at absent
  | duplicate there key same => exact absurd key (fresh _ _ there)
  | @already row events id there reached fresh =>
    obtain rfl : row = p := Option.some.inj (there.symm.trans found)
    have stays : ¬ Move row.status callback.reported.status := by
      rw [reached]
      exact move_irreflexive _
    rw [if_neg stays]
    exact there
  | @conflict row events id there other illegal fresh =>
    obtain rfl : row = p := Option.some.inj (there.symm.trans found)
    rw [if_neg illegal]
    exact there
  | @applied row events id there legal fresh =>
    obtain rfl : row = p := Option.some.inj (there.symm.trans found)
    rw [if_pos legal]
    simp [found]

theorem fresh_callback_refused {db : Database} {callback : Callback} {p : Payment} (now : Nat)
    (found : db.payments.find callback.paymentId = some p)
    (fresh : ∀ i event, db.webhookEvents.find i = some event → event.eventId ≠ callback.eventId)
    (apart : p.status ≠ callback.reported.status)
    (illegal : ¬ Move p.status callback.reported.status) :
    (handleWebhook db callback now).1 =
      .conflict p.status callback.reported.status p.status := by
  have spec := handleWebhook_spec db callback now
  generalize (handleWebhook db callback now).1 = result at spec ⊢
  generalize (handleWebhook db callback now).2 = after at spec
  cases spec with
  | unknown absent =>
    rw [found] at absent
    simp at absent
  | duplicate there key same => exact absurd key (fresh _ _ there)
  | @already row events id there reached fresh =>
    obtain rfl : row = p := Option.some.inj (there.symm.trans found)
    exact absurd reached apart
  | @conflict row events id there other illegal fresh =>
    obtain rfl : row = p := Option.some.inj (there.symm.trans found)
    rfl
  | @applied row events id there legal fresh =>
    obtain rfl : row = p := Option.some.inj (there.symm.trans found)
    exact absurd legal illegal

/-- The callback first: the settle that follows it does nothing. -/
theorem callback_first {s : System} {run : Nat} {answer : Except GatewayError ChargeResult}
    {callback : Callback} {p : Payment} (h : Crossing s run answer callback p) :
    ∃ early, runAll exec Action.any s [.webhook callback, .worker run (.settle none)] = some early ∧
      row early.2 callback.paymentId =
        some (writeStatus callback.reported.status (callbackExtra callback p) s.now p) := by
  obtain ⟨r, claim, present, mine, settling⟩ := h.settling
  have after := fresh_callback_row s.now h.found h.fresh
  have legal : Move p.status callback.reported.status := by
    rw [h.held]
    cases callback.reported <;> decide
  have moved : callback.reported.status ≠ .processing := by
    cases callback.reported <;> simp [ReportedStatus.status]
  rw [if_pos legal, ← mine] at after
  have noop := settle_noop after moved answer s.now
  refine ⟨_, by simp [runAll, Action.any, exec, present, workerStep, settling, noop]; rfl, ?_⟩
  rw [← mine]
  simp [row, after]

/-- The settle first: the callback that follows it may still move the row. -/
theorem callback_second {s : System} {run : Nat} {answer : Except GatewayError ChargeResult}
    {callback : Callback} {p q : Payment} (h : Crossing s run answer callback p)
    (settled : (settle s.db callback.paymentId answer s.now).2.payments.find callback.paymentId =
      some q) :
    ∃ late, runAll exec Action.any s [.worker run (.settle none), .webhook callback] = some late ∧
      row late.2 callback.paymentId =
        some (if Move q.status callback.reported.status then
          writeStatus callback.reported.status (callbackExtra callback q) s.now q else q) ∧
      (q.status ≠ callback.reported.status → ¬ Move q.status callback.reported.status →
        late.1 = [.settle run callback.paymentId (settle s.db callback.paymentId answer s.now).1,
          .webhook callback (.conflict q.status callback.reported.status q.status)]) := by
  obtain ⟨r, claim, present, mine, settling⟩ := h.settling
  have events := settle_events s.db r.paymentId answer s.now
  rw [← mine] at settled ⊢
  cases committed : settle s.db r.paymentId answer s.now with
  | mk result db =>
    rw [committed] at events settled
    have fresh : ∀ i event, db.webhookEvents.find i = some event →
        event.eventId ≠ callback.eventId := by
      intro i event there
      rw [events] at there
      exact h.fresh i event there
    rw [mine] at settled
    have last := fresh_callback_row s.now settled fresh
    refine ⟨_, by simp [runAll, Action.any, exec, present, workerStep, settling, committed]; rfl, ?_,
      ?_⟩
    · simp [row, mine, last]
    · intro apart illegal
      have refused := fresh_callback_refused s.now settled fresh apart illegal
      simp [mine, refused]

def lateStatus (answer : Except GatewayError ChargeResult) (callback : Callback) (p : Payment) :
    PaymentStatus :=
  if Move (settledStatus p answer) callback.reported.status then callback.reported.status
  else settledStatus p answer

/-- The last permitted attempt ended without an answer, and the provider says
    that it charged. -/
structure Overtaken (answer : Except GatewayError ChargeResult) (callback : Callback)
    (p : Payment) : Prop where
  inconclusive : ∃ err, answer = .error err ∧ err.retriable = true
  exhausted : p.maxAttempts ≤ p.attempts
  charged : callback.reported = .success

theorem overtaken_settle {s : System} {run : Nat} {answer : Except GatewayError ChargeResult}
    {callback : Callback} {p : Payment} (h : Crossing s run answer callback p)
    (overtaken : Overtaken answer callback p) :
    settledStatus p answer = .failed ∧
      (settle s.db callback.paymentId answer s.now).1 = .failed .failed := by
  obtain ⟨err, rfl, -⟩ := overtaken.inconclusive
  have found : s.db.payments.find callback.paymentId = some p := h.found
  have spent : ¬ p.attempts < p.maxAttempts := by
    have exhausted := overtaken.exhausted
    omega
  exact ⟨by simp [settledStatus, spent], by simp [settle, findById, found, h.held, spent]⟩

theorem settle_first {s : System} {run : Nat} {answer : Except GatewayError ChargeResult}
    {callback : Callback} {p : Payment} (h : Crossing s run answer callback p) :
    ∃ late, runAll exec Action.any s [.worker run (.settle none), .webhook callback] = some late ∧
      statusIn late.2 callback.paymentId = some (lateStatus answer callback p) ∧
      (Overtaken answer callback p → late.1 = [.settle run callback.paymentId (.failed .failed),
        .webhook callback (.conflict .failed .success .failed)]) := by
  obtain ⟨q, settled, status⟩ := settle_held h.found h.held answer s.now
  obtain ⟨late, ran, last, refused⟩ := callback_second h settled
  refine ⟨late, ran, ?_, ?_⟩
  · rw [statusIn, last, lateStatus, ← status, Option.map_some]
    by_cases legal : Move q.status callback.reported.status
    · rw [if_pos legal, if_pos legal]
      rfl
    · rw [if_neg legal, if_neg legal]
  · intro overtaken
    obtain ⟨failed, answered⟩ := overtaken_settle h overtaken
    rw [failed] at status
    have reported : callback.reported.status = .success := by
      rw [overtaken.charged]
      rfl
    rw [reported, status, answered] at refused
    exact refused (by decide) (by decide)

theorem overtaken_fails {s : System} {run : Nat} {answer : Except GatewayError ChargeResult}
    {callback : Callback} {p : Payment} (h : Crossing s run answer callback p)
    (overtaken : Overtaken answer callback p) : lateStatus answer callback p = .failed := by
  have failed := (overtaken_settle h overtaken).1
  have stuck : ¬ Move .failed callback.reported.status := by cases callback.reported <;> decide
  rw [lateStatus, failed, if_neg stuck]

theorem lateStatus_reported {answer : Except GatewayError ChargeResult} {callback : Callback}
    {p : Payment} (agrees : Agrees answer callback.reported)
    (inTime : ¬ Overtaken answer callback p) :
    lateStatus answer callback p = callback.reported.status := by
  unfold lateStatus
  generalize reported : callback.reported = verdict at agrees ⊢
  cases agrees with
  | charged result => exact ite_self _
  | declined final => simp [settledStatus, final, ReportedStatus.status]
  | @inconclusive err _ retriable =>
    by_cases left : p.attempts < p.maxAttempts
    · have reopened : settledStatus p (.error err) = .pending := by
        simp [settledStatus, retriable, left]
      have legal : Move .pending verdict.status := by cases verdict <;> decide
      rw [reopened, if_pos legal]
    · cases verdict with
      | success =>
        have overtaken : Overtaken (.error err) callback p :=
          ⟨⟨err, rfl, retriable⟩, by omega, reported⟩
        exact absurd overtaken inTime
      | failed => simp [settledStatus, left, ReportedStatus.status]

/-- The law as it would hold if an exhausted timeout did not settle a payment. -/
def OrderIrrelevant : Prop :=
  ∀ history s, Run Step System.init history s → ∀ run answer callback p,
    Crossing s run answer callback p →
    ∃ early late,
      runAll exec Action.any s [.webhook callback, .worker run (.settle none)] = some early ∧
      runAll exec Action.any s [.worker run (.settle none), .webhook callback] = some late ∧
      statusIn early.2 callback.paymentId = some callback.reported.status ∧
      statusIn late.2 callback.paymentId = some callback.reported.status

def timedOutRun (maxAttempts : Nat) : List Action :=
  [.initiate 0 ⟨maxAttempts, 60000, 3000⟩ ⟨"order-123", 4200, "INR"⟩, .api 0 .insert,
    .process 0 1, .worker 0 (.claim none), .worker 0 (.charge 3000 (attempt 3000 .timeout 0 "gw_a")),
    .worker 0 .reply]

def chargedCallback : Callback := ⟨"evt_1", 1, .success, some "gw_a", none⟩

theorem timed_out_crossing (maxAttempts : Nat) {s : System}
    (reached : (replay exec Action.any System.init (timedOutRun maxAttempts)).2 = s)
    (unrecorded : ledger (replay exec Action.any System.init (timedOutRun maxAttempts)).1 = [])
    (settling : s.runs 0 = some ⟨1, none,
      .settling ⟨1, maxAttempts, 4200, "INR"⟩ (.error ⟨"timeout", true⟩)⟩)
    {p : Payment} (found : row s 1 = some p) (held : p.status = .processing) :
    Crossing s 0 (.error ⟨"timeout", true⟩) chargedCallback p := by
  refine ⟨⟨_, _, settling, rfl, rfl⟩, found, held, ?_, Agrees.inconclusive _ rfl⟩
  intro i event there
  subst reached
  have ledgered := run_ledgered (replay_run exec Action.any System.init (timedOutRun maxAttempts))
  obtain ⟨entry, listed, -⟩ := ledgered.filed i event there
  simp [unrecorded] at listed

/-- One attempt allowed, no answer in time, and the provider charged: with the
    settle first the payment ends FAILED. -/
theorem exhausted_timeout_overtakes_callback : ¬ OrderIrrelevant := by
  intro law
  have shape : (row (replay exec Action.any System.init (timedOutRun 1)).2 1).map
      (fun p => (p.status, p.attempts, p.maxAttempts)) = some (.processing, 1, 1) := by decide
  obtain ⟨p, found, eq⟩ := Option.map_eq_some_iff.mp shape
  simp only [Prod.mk.injEq] at eq
  obtain ⟨held, attempts, maxAttempts⟩ := eq
  have crossing := timed_out_crossing 1 rfl (by decide) (by decide) found held
  have overtaken : Overtaken (.error ⟨"timeout", true⟩) chargedCallback p :=
    ⟨⟨_, rfl, rfl⟩, by omega, rfl⟩
  obtain ⟨early, late, -, ran, -, reported⟩ := law _ _
    (replay_run exec Action.any System.init (timedOutRun 1)) 0 _ chargedCallback p crossing
  obtain ⟨late', ran', last, -⟩ := settle_first crossing
  obtain rfl : late = late' := Option.some.inj (ran.symm.trans ran')
  rw [last, overtaken_fails crossing overtaken] at reported
  simp [chargedCallback, ReportedStatus.status] at reported

/-- Both orders end in the reported status, but for an overtaken callback: when
    the settle comes first it finds the payment FAILED and is refused. -/
theorem order_irrelevant_unless_overtaken {s : System} {run : Nat}
    {answer : Except GatewayError ChargeResult} {callback : Callback} {p : Payment}
    (h : Crossing s run answer callback p) :
    ∃ early late,
      runAll exec Action.any s [.webhook callback, .worker run (.settle none)] = some early ∧
      runAll exec Action.any s [.worker run (.settle none), .webhook callback] = some late ∧
      statusIn early.2 callback.paymentId = some callback.reported.status ∧
      (statusIn late.2 callback.paymentId = some callback.reported.status ↔
        ¬ Overtaken answer callback p) ∧
      (Overtaken answer callback p → statusIn late.2 callback.paymentId = some .failed ∧
        late.1 = [.settle run callback.paymentId (.failed .failed),
          .webhook callback (.conflict .failed .success .failed)]) := by
  obtain ⟨early, ranEarly, reached⟩ := callback_first h
  obtain ⟨late, ranLate, last, refused⟩ := settle_first h
  refine ⟨early, late, ranEarly, ranLate, by rw [statusIn, reached]; rfl, ?_, ?_⟩
  · constructor
    · intro same overtaken
      rw [last, overtaken_fails h overtaken, overtaken.charged] at same
      simp [ReportedStatus.status] at same
    · intro inTime
      rw [last, lateStatus_reported h.agrees inTime]
  · intro overtaken
    exact ⟨by rw [last, overtaken_fails h overtaken], refused overtaken⟩

theorem timeout_and_callback_cross :
    ∃ p early late,
      Crossing (replay exec Action.any System.init (timedOutRun 3)).2 0
        (.error ⟨"timeout", true⟩) chargedCallback p ∧
      runAll exec Action.any (replay exec Action.any System.init (timedOutRun 3)).2
        [.webhook chargedCallback, .worker 0 (.settle none)] = some early ∧
      runAll exec Action.any (replay exec Action.any System.init (timedOutRun 3)).2
        [.worker 0 (.settle none), .webhook chargedCallback] = some late ∧
      statusIn early.2 1 = some .success ∧ statusIn late.2 1 = some .success := by
  have shape : (row (replay exec Action.any System.init (timedOutRun 3)).2 1).map
      (fun p => (p.status, p.attempts, p.maxAttempts)) = some (.processing, 1, 3) := by decide
  obtain ⟨p, found, eq⟩ := Option.map_eq_some_iff.mp shape
  simp only [Prod.mk.injEq] at eq
  obtain ⟨held, attempts, maxAttempts⟩ := eq
  have crossing := timed_out_crossing 3 rfl (by decide) (by decide) found held
  obtain ⟨early, late, ranEarly, ranLate, reached, last, -⟩ :=
    order_irrelevant_unless_overtaken crossing
  refine ⟨p, early, late, crossing, ranEarly, ranLate, reached, last.mpr ?_⟩
  intro overtaken
  have exhausted := overtaken.exhausted
  omega

end ArrivalOrder
