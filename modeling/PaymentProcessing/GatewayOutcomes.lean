import PaymentProcessing.SettlementProvenance
import Mathlib.Data.Rat.Floor
import Mathlib.Tactic.Linarith

/-!
The simulated provider and the reasons that it leaves behind. Whatever
Math.random draws, a charge is captured, declined or timed out and nothing else,
so the last_error column takes few values, each with its place in the life of
the payment.
-/
namespace GatewayOutcomes
open TransitionRuns PaymentStateMachine PaymentRepositories PaymentService WebhookService
open PaymentTransactions PaymentSystem SystemSteps AttemptAccounting SettlementProvenance

-- gateway.js

/-- The probability bands and the timeout of config.js. -/
structure Gateway where
  success : Rat
  failure : Rat
  delay : Rat
  timeoutMs : Nat
  positive : 1 ≤ timeoutMs

def pickOutcome (gateway : Gateway) (roll : Rat) : Outcome :=
  if roll < gateway.success then .success
  else if roll < gateway.success + gateway.failure then .failure
  else if roll < gateway.success + gateway.failure + gateway.delay then .delay
  else .timeout

/-- What one `_attempt` draws from Math.random; a draw lies in [0, 1). -/
structure Draws where
  roll : Rat
  delay : Rat
  ref : String
  least : 0 ≤ delay
  most : delay < 1

def delayOf (timeoutMs : Nat) (draw : Rat) : Nat := ⌊draw * (timeoutMs * (3 / 5))⌋.toNat

def attemptOf (gateway : Gateway) (draws : Draws) : Attempt :=
  attempt gateway.timeoutMs (pickOutcome gateway draws.roll) (delayOf gateway.timeoutMs draws.delay)
    ("gw_" ++ draws.ref)

/-- A delayed answer still beats the guard. -/
theorem delay_in_time {timeoutMs : Nat} (positive : 1 ≤ timeoutMs) {draw : Rat}
    (most : draw < 1) : delayOf timeoutMs draw < timeoutMs := by
  have size : (1 : Rat) ≤ timeoutMs := by exact_mod_cast positive
  have drawn : draw * (timeoutMs * (3 / 5)) < timeoutMs := by nlinarith
  have floor : ⌊draw * (timeoutMs * (3 / 5) : Rat)⌋ < (timeoutMs : Int) := by
    apply Int.floor_lt.mpr
    exact_mod_cast drawn
  unfold delayOf
  omega

/-- What the outcome comes to once the guard has run against it. -/
def answerOf (ref : String) : Outcome → Except JsError ChargeResult
  | .success => .ok ⟨true, ref, .success⟩
  | .failure => .error (.gatewayError ⟨"card_declined", false⟩)
  | .delay => .ok ⟨true, ref, .delay⟩
  | .timeout => .error (.gatewayError ⟨"timeout", true⟩)

theorem charge_answer (gateway : Gateway) (draws : Draws) :
    charge gateway.timeoutMs (attemptOf gateway draws) =
      answerOf ("gw_" ++ draws.ref) (pickOutcome gateway draws.roll) := by
  have inTime := delay_in_time gateway.positive draws.most
  have positive : 0 < gateway.timeoutMs := gateway.positive
  cases outcome : pickOutcome gateway draws.roll with
  | success => simp [attemptOf, outcome, attempt, charge, answerOf, positive]
  | failure => simp [attemptOf, outcome, attempt, charge, answerOf, positive]
  | delay => simp [attemptOf, outcome, attempt, charge, answerOf, inTime]
  | timeout => simp [attemptOf, outcome, attempt, charge, answerOf]

inductive Told : Except JsError ChargeResult → Prop where
  | captured (result : ChargeResult) : Told (.ok result)
  | declined : Told (.error (.gatewayError ⟨"card_declined", false⟩))
  | timedOut : Told (.error (.gatewayError ⟨"timeout", true⟩))

theorem charge_told (gateway : Gateway) (draws : Draws) :
    Told (charge gateway.timeoutMs (attemptOf gateway draws)) := by
  rw [charge_answer]
  cases pickOutcome gateway draws.roll with
  | success => exact Told.captured _
  | failure => exact Told.declined
  | delay => exact Told.captured _
  | timeout => exact Told.timedOut

inductive SimulatedAction where
  | charge (run : Nat) (draws : Draws)
  | other (a : Action)

def charges : Action → Bool
  | .worker _ (.charge _ _) => true
  | _ => false

def simulate (gateway : Gateway) (s : System) : SimulatedAction → Option (Event × System)
  | .charge run draws =>
    exec s (.worker run (.charge gateway.timeoutMs (attemptOf gateway draws)))
  | .other a => if charges a then none else exec s a

abbrev Simulates (gateway : Gateway) : System → Event → System → Prop :=
  Does (simulate gateway) (fun _ _ => True)

theorem simulates_step {gateway : Gateway} {s t : System} {e : Event}
    (step : Simulates gateway s e t) :
    ∃ a, exec s a = some (e, t) ∧
      ∀ run timeoutMs attempted, a = .worker run (.charge timeoutMs attempted) →
        Told (charge timeoutMs attempted) := by
  obtain ⟨a, -, done⟩ := step
  cases a with
  | charge run draws =>
    refine ⟨.worker run (.charge gateway.timeoutMs (attemptOf gateway draws)), done, ?_⟩
    intro run' timeoutMs attempted label
    cases label
    exact charge_told gateway draws
  | other a =>
    simp only [simulate] at done
    split at done
    · cases done
    · rename_i quiet
      refine ⟨a, done, ?_⟩
      intro run timeoutMs attempted label
      rw [label] at quiet
      exact absurd rfl quiet

theorem simulated_run {gateway : Gateway} {history : List Event} {s : System}
    (run : Run (Simulates gateway) System.init history s) : Run Step System.init history s := by
  apply run_mono ?_ run
  intro s e t step
  obtain ⟨a, done, -⟩ := simulates_step step
  exact ⟨a, trivial, done⟩

def PhaseTold : ProcessPhase → Prop
  | .charging _ answer => Told answer
  | .settling _ answer => Told (replied answer)
  | _ => True

theorem afterReply_told (claim : Claim) {answer : Except JsError ChargeResult} (h : Told answer) :
    PhaseTold (afterReply claim answer) := by
  cases h with
  | captured result => exact Told.captured result
  | declined => exact Told.declined
  | timedOut => exact Told.timedOut

theorem phaseTold_over {phase : ProcessPhase} (over_ : phase.claimOf = none) : PhaseTold phase := by
  cases phase <;> simp_all [ProcessPhase.claimOf, PhaseTold]

theorem worker_told {now : Nat} {db db' : Database} {queue queue' : PaymentQueue} {run : Nat}
    {r : ProcessCall} {move : WorkerMove} {e : Event} {phase : ProcessPhase}
    (spec : WorkerSpec now db queue run r move e db' queue' phase) (h : PhaseTold r.phase)
    (told : ∀ timeoutMs attempted, move = .charge timeoutMs attempted →
      Told (charge timeoutMs attempted)) : PhaseTold phase := by
  cases spec with
  | claim here =>
    cases (PaymentService.claim db r.paymentId now).1 <;> trivial
  | charge timeoutMs attempted here => exact told timeoutMs attempted rfl
  | @reply taken answer here =>
    rw [here] at h
    exact afterReply_told taken h
  | settle here => exact phaseTold_over (afterSettle_over _).1
  | failed config here job =>
    rcases failJob_over queue config _ run _ with closed | ⟨reason, failing⟩
    · rw [closed]
      trivial
    · rw [failing]
      trivial
  | _ => trivial

theorem run_told {gateway : Gateway} {history : List Event} {s : System}
    (run : Run (Simulates gateway) System.init history s) :
    ∀ c r, s.runs c = some r → PhaseTold r.phase := by
  apply run_preserves (fun u => ∀ c r, u.runs c = some r → PhaseTold r.phase) ?_ run ?_
  · intro u e v inv step c r after
    obtain ⟨a, done, told⟩ := simulates_step step
    rcases run_before (exec_move done) after with
      ⟨-, claiming⟩ | same | ⟨r', move, db, queue, phase, present, rfl, -, -, rfl, spec⟩
    · rw [claiming]
      trivial
    · exact inv c r same
    · have moved : PhaseTold phase := by
        apply worker_told spec (inv c r' present)
        intro timeoutMs attempted label
        exact told c timeoutMs attempted (by rw [label])
      exact moved
  · intro c r present
    cases present

def Reasons (id : Nat) (history : List Event) (p : Payment) : Prop :=
  match p.status with
  | .pending | .processing =>
    p.lastError = none ∨ p.lastError = some "timeout" ∨
      p.lastError = some "recovered from stale processing"
  | .success => p.lastError = none
  | .failed =>
    p.lastError = some "card_declined" ∨
      p.lastError = some "failed via provider webhook" ∨
      p.maxAttempts ≤ p.attempts ∧ (p.lastError = some "max attempts exhausted: timeout" ∨
        p.lastError = some "recovered: stuck in processing, attempts exhausted") ∨
      ∃ message, .fail id message (.failed .failed) ∈ history ∧ p.lastError = some message

theorem reasons_later {id : Nat} {history : List Event} {p : Payment} (h : Reasons id history p)
    (e : Event) : Reasons id (history ++ [e]) p := by
  unfold Reasons at h ⊢
  split at h
  · exact h
  · exact h
  · exact h
  · rcases h with declined | reported | spent | ⟨message, there, reason⟩
    · exact Or.inl declined
    · exact Or.inr (Or.inl reported)
    · exact Or.inr (Or.inr (Or.inl spent))
    · exact Or.inr (Or.inr (Or.inr ⟨message, List.mem_append_left _ there, reason⟩))

theorem settle_reasons {id now : Nat} {history : List Event} {db db' : Database} {p q : Payment}
    {answer : Except GatewayError ChargeResult} {result : SettleResult}
    (told : Told (replied answer)) (h : Reasons id history p)
    (found : db.payments.find id = some p) (committed : settle db id answer now = (result, db'))
    (after : db'.payments.find id = some q) : Reasons id history q := by
  have spec := settle_spec db id answer now
  rw [committed] at spec
  cases spec with
  | noop status moved =>
    obtain rfl := Option.some.inj (found.symm.trans after)
    exact h
  | success result there held =>
    obtain rfl := Option.some.inj (after.symm.trans (find_written there .success _ now))
    exact rfl
  | retry err there held again left =>
    obtain rfl := Option.some.inj (after.symm.trans (find_written there .pending _ now))
    cases told with
    | declined => simp at again
    | timedOut => exact Or.inr (Or.inl rfl)
  | @failed r err there held final =>
    obtain rfl := Option.some.inj (after.symm.trans (find_written there .failed _ now))
    cases told with
    | declined => exact Or.inl rfl
    | timedOut => exact Or.inr (Or.inr (Or.inl ⟨final rfl, Or.inl rfl⟩))

theorem write_reasons {id : Nat} {history : List Event} {p q : Payment} {e : Event}
    (w : Write id p e q) (unsettled : ∀ c result, e ≠ .settle c id result)
    (h : Reasons id history p) : Reasons id (history ++ [e]) q := by
  cases w with
  | claim run now free =>
    simp only [Reasons, free] at h
    exact h
  | settleSuccess run now result held => exact absurd rfl (unsettled run _)
  | settleRetry run now err held retriable left => exact absurd rfl (unsettled run _)
  | settleFailed run now err held final => exact absurd rfl (unsettled run _)
  | recoverFailed now held spent => exact Or.inr (Or.inr (Or.inl ⟨spent, Or.inr rfl⟩))
  | recoverReleased now held left => exact Or.inr (Or.inr rfl)
  | fail reason now legal =>
    exact Or.inr (Or.inr (Or.inr ⟨reason, by simp, rfl⟩))
  | webhook callback now target legal =>
    cases reported : callback.reported with
    | success => simp [Reasons, writeStatus, callbackExtra, reported, ReportedStatus.status]
    | failed => simp [Reasons, writeStatus, callbackExtra, reported, ReportedStatus.status]

theorem reasons_step {id : Nat} {history : List Event} {s t : System} {e : Event}
    (told : ∀ c r, s.runs c = some r → PhaseTold r.phase) (commit : Commit s.db e t.db)
    (runs : RunsMove s t e) (h : ∀ p, row s id = some p → Reasons id history p) {q : Payment}
    (after : row t id = some q) : Reasons id (history ++ [e]) q := by
  cases row_before commit after with
  | kept before quiet => exact reasons_later (h q before) e
  | created call key amount currency maxAttempts now absent label made =>
    rw [made]
    exact Or.inl rfl
  | @written p before w =>
    by_cases settled : ∃ c result, e = .settle c id result
    · obtain ⟨c, result, rfl⟩ := settled
      obtain ⟨r, claim, answer, present, -, settling, committed⟩ := settle_step runs
      have answered := told c r present
      rw [settling] at answered
      exact reasons_later (settle_reasons answered (h p before) before committed after) _
    · exact write_reasons w (fun c result label => settled ⟨c, result, label⟩) (h p before)

/-- Over the simulated provider every row says why it is where it is, in one of
    the texts of the services. -/
theorem reasons_recorded {gateway : Gateway} {history : List Event} {s : System}
    (run : Run (Simulates gateway) System.init history s) {id : Nat} {p : Payment}
    (found : row s id = some p) : Reasons id history p := by
  have all : ∀ q, row s id = some q → Reasons id history q := by
    apply run_induction (fun h u => ∀ q, row u id = some q → Reasons id h q) ?_ ?_ run
    · intro q absent
      simp at absent
    · intro h u e t before inv step q after
      obtain ⟨a, done, -⟩ := simulates_step step
      have inner : Step u e t := ⟨a, trivial, done⟩
      exact reasons_step (run_told before) (does_commit inner) (does_runs inner) inv after
  exact all p found

/-- The bands and the timeout that config.js defaults to. -/
def defaultGateway : Gateway := ⟨6 / 10, 2 / 10, 1 / 10, 3000, by decide⟩

def rolled (roll : Rat) (ref : String) : Draws := ⟨roll, 0, ref, by decide, by decide⟩

def exhaustedRun : List SimulatedAction :=
  let config : Config := ⟨2, 60000, 3000⟩
  [.other (.initiate 0 config ⟨"order-123", 4200, "INR"⟩), .other (.api 0 .insert),
    .other (.process 0 1), .other (.worker 0 (.claim none)), .charge 0 (rolled (19 / 20) "a"),
    .other (.tick 3000), .other (.worker 0 .reply), .other (.worker 0 (.settle none)),
    .other (.process 1 1), .other (.worker 1 (.claim none)), .charge 1 (rolled (92 / 100) "b"),
    .other (.tick 3000), .other (.worker 1 .reply), .other (.worker 1 (.settle none))]

theorem exhausted_reason_recorded :
    ∃ p, row (replay (simulate defaultGateway) (fun _ _ => True) System.init exhaustedRun).2 1 =
        some p ∧ p.lastError = some "max attempts exhausted: timeout" ∧
      Reasons 1 (replay (simulate defaultGateway) (fun _ _ => True) System.init exhaustedRun).1 p := by
  have reached : (row (replay (simulate defaultGateway) (fun _ _ => True) System.init
      exhaustedRun).2 1).map Payment.lastError = some (some "max attempts exhausted: timeout") := by
    decide +kernel
  obtain ⟨p, found, reason⟩ := Option.map_eq_some_iff.mp reached
  refine ⟨p, found, reason, ?_⟩
  exact reasons_recorded (replay_run (simulate defaultGateway) (fun _ _ => True) System.init
    exhaustedRun) found

end GatewayOutcomes
