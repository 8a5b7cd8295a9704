import PaymentProcessing.ArrivalOrder
import PaymentProcessing.ColumnCoherence

/-!
The record that a successful charge leaves behind when the worker and a SUCCESS
callback both report it. The second of the two writes nothing, so the reference
of the provider is kept only if the first one knew it.
-/
namespace SettledRecords
open TransitionRuns PaymentStateMachine PaymentRepositories PaymentService WebhookService
open WebhookLedger PaymentTransactions PaymentSystem ColumnCoherence ArrivalOrder

/-- A call about to settle a success of its payment, and a fresh SUCCESS callback
    that names the same charge or none. -/
structure SuccessCrossing (s : System) (run : Nat) (result : ChargeResult) (callback : Callback)
    (p : Payment) : Prop where
  crossing : Crossing s run (.ok result) callback p
  reported : callback.reported = .success
  reference : callback.providerRef = none ∨ callback.providerRef = some "" ∨
    callback.providerRef = some result.providerRef

def Converges (s : System) (run : Nat) (r : String) (callback : Callback) : Prop :=
  ∃ early late a b,
    runAll exec Action.any s [.webhook callback, .worker run (.settle none)] = some early ∧
    runAll exec Action.any s [.worker run (.settle none), .webhook callback] = some late ∧
    row early.2 callback.paymentId = some a ∧ row late.2 callback.paymentId = some b ∧
    a.status = b.status ∧ a.lastError = b.lastError ∧ a.attempts = b.attempts ∧
    a.providerRef = some r ∧ b.providerRef = some r

def charged (result : ChargeResult) (now : Nat) (p : Payment) : Payment :=
  writeStatus .success { providerRef := some (some result.providerRef), lastError := some none } now p

theorem settle_charged {db : Database} {id : Nat} {p : Payment}
    (found : db.payments.find id = some p) (held : p.status = .processing) (result : ChargeResult)
    (now : Nat) :
    (settle db id (.ok result) now).2.payments.find id = some (charged result now p) := by
  have legal : canTransition .processing .success = true := by decide
  simp [settle, findById, found, held, legal, charged]

theorem callbackExtra_success {callback : Callback} (reported : callback.reported = .success)
    (p : Payment) : callbackExtra callback p =
      { providerRef := some (refOr callback.providerRef p.providerRef), lastError := some none } := by
  simp [callbackExtra, reported]

/-- On a row without a reference the callback leaves the worker's exactly when
    it brings it. -/
theorem refOr_none_iff (providerRef : Option String) (r : String) :
    refOr providerRef none = some r ↔ providerRef = some r ∧ r ≠ "" := by
  cases providerRef with
  | none => simp [refOr]
  | some ref =>
    by_cases empty : ref = ""
    · simp only [refOr, empty, if_true, reduceCtorEq, Option.some.injEq, false_iff]
      rintro ⟨rfl, filled⟩
      exact filled rfl
    · simp only [refOr, empty, if_false, Option.some.injEq]
      constructor
      · rintro rfl
        exact ⟨rfl, empty⟩
      · exact And.left

theorem crossing_rows {s : System} {run : Nat} {result : ChargeResult} {callback : Callback}
    {p : Payment} (h : SuccessCrossing s run result callback p) :
    ∃ early late,
      runAll exec Action.any s [.webhook callback, .worker run (.settle none)] = some early ∧
      runAll exec Action.any s [.worker run (.settle none), .webhook callback] = some late ∧
      row early.2 callback.paymentId = some (writeStatus .success
        { providerRef := some (refOr callback.providerRef p.providerRef), lastError := some none }
        s.now p) ∧
      row late.2 callback.paymentId = some (charged result s.now p) := by
  have extra := callbackExtra_success h.reported
  obtain ⟨early, ranEarly, first⟩ := callback_first h.crossing
  have settled := settle_charged h.crossing.found h.crossing.held result s.now
  obtain ⟨late, ranLate, last, -⟩ := callback_second h.crossing settled
  have terminal : ¬ Move (charged result s.now p).status callback.reported.status := by
    rw [h.reported]
    exact move_irreflexive .success
  rw [if_neg terminal] at last
  rw [h.reported, extra] at first
  exact ⟨early, late, ranEarly, ranLate, first, last⟩

def SameRecord : Prop :=
  ∀ history s, Run Step System.init history s → ∀ run result callback p,
    SuccessCrossing s run result callback p → Converges s run result.providerRef callback

def chargedRun : List Action :=
  [.initiate 0 ⟨3, 60000, 3000⟩ ⟨"order-123", 4200, "INR"⟩, .api 0 .insert, .process 0 1,
    .worker 0 (.claim none), .worker 0 (.charge 3000 (attempt 3000 .success 0 "gw_a")),
    .worker 0 .reply]

def namelessCallback : Callback := ⟨"evt_1", 1, .success, none, none⟩

def namingCallback : Callback := ⟨"evt_1", 1, .success, some "gw_a", none⟩

theorem charged_crossing (callback : Callback) (target : callback.paymentId = 1)
    (reported : callback.reported = .success)
    (reference : callback.providerRef = none ∨ callback.providerRef = some "gw_a") :
    ∃ p, SuccessCrossing (replay exec Action.any System.init chargedRun).2 0
      ⟨true, "gw_a", .success⟩ callback p := by
  have shape : (row (replay exec Action.any System.init chargedRun).2 1).map Payment.status =
      some .processing := by decide
  obtain ⟨p, found, held⟩ := Option.map_eq_some_iff.mp shape
  have settling : (replay exec Action.any System.init chargedRun).2.runs 0 =
      some ⟨1, none, .settling ⟨1, 3, 4200, "INR"⟩ (.ok ⟨true, "gw_a", .success⟩)⟩ := by decide
  have unrecorded : ledger (replay exec Action.any System.init chargedRun).1 = [] := by decide
  refine ⟨p, ⟨⟨_, _, settling, target.symm, rfl⟩, by rw [target]; exact found, held, ?_, ?_⟩,
    reported, ?_⟩
  · intro i event there
    have ledgered := run_ledgered (replay_run exec Action.any System.init chargedRun)
    obtain ⟨entry, listed, -⟩ := ledgered.filed i event there
    simp [unrecorded] at listed
  · rw [reported]
    exact Agrees.charged _
  · rcases reference with absent | named
    · exact Or.inl absent
    · exact Or.inr (Or.inr named)

/-- A callback without a reference arrives first, and the reference that the
    worker holds is lost for good. -/
theorem early_callback_loses_reference : ¬ SameRecord := by
  intro law
  obtain ⟨p, crossing⟩ := charged_crossing namelessCallback rfl rfl (Or.inl rfl)
  have run := replay_run exec Action.any System.init chargedRun
  obtain ⟨early, late, a, b, ran, -, found, -, -, -, -, reference, -⟩ := law _ _ run 0 _ _ p crossing
  obtain ⟨early', late', ran', -, first, -⟩ := crossing_rows crossing
  obtain rfl : early = early' := Option.some.inj (ran.symm.trans ran')
  obtain rfl := Option.some.inj (found.symm.trans first)
  have blank := unsettled_unreferenced (run_coherent run crossing.crossing.found)
    (by rw [crossing.crossing.held]; rfl)
  simp [writeStatus, namelessCallback, refOr, blank] at reference

/-- The two orders leave one record with the worker's reference exactly when the
    callback brings that reference itself. -/
theorem records_converge_iff {history : List Event} {s : System}
    (run : Run Step System.init history s) {call : Nat} {result : ChargeResult}
    {callback : Callback} {p : Payment} (h : SuccessCrossing s call result callback p) :
    Converges s call result.providerRef callback ↔
      callback.providerRef = some result.providerRef ∧ result.providerRef ≠ "" := by
  obtain ⟨early, late, ranEarly, ranLate, first, last⟩ := crossing_rows h
  have blank := unsettled_unreferenced (run_coherent run h.crossing.found)
    (by rw [h.crossing.held]; rfl)
  rw [← refOr_none_iff]
  rw [blank] at first
  constructor
  · rintro ⟨early', late', a, b, ran, -, found, -, -, -, -, reference, -⟩
    obtain rfl : early = early' := Option.some.inj (ranEarly.symm.trans ran)
    obtain rfl := Option.some.inj (first.symm.trans found)
    exact reference
  · intro brought
    rw [brought] at first
    exact ⟨early, late, _, _, ranEarly, ranLate, first, last, rfl, rfl, rfl, rfl, rfl⟩

theorem named_callback_converges :
    Converges (replay exec Action.any System.init chargedRun).2 0 "gw_a" namingCallback := by
  obtain ⟨p, crossing⟩ := charged_crossing namingCallback rfl rfl (Or.inr rfl)
  exact (records_converge_iff (replay_run exec Action.any System.init chargedRun) crossing).mpr
    ⟨rfl, by decide⟩

end SettledRecords
