import PaymentProcessing.Repositories

/-!
shared/utils, shared/services/lib/gateway.js and the transactions of
shared/services/lib/payment.js. Each transaction is a function from the database
it locks to its answer and the database it commits; a transaction that throws
commits nothing and is a step of the caller, not of these functions.
-/
namespace PaymentService
open KeyedTable PaymentStateMachine PaymentRepositories

structure GatewayError where
  reason : String
  retriable : Bool
  deriving DecidableEq, Repr

inductive JsError where
  | gatewayError (err : GatewayError)
  | error (message : String) (code : Option String) (errno : Option Nat)
  deriving DecidableEq, Repr

def JsError.message : JsError → String
  | .gatewayError err => err.reason
  | .error message _ _ => message

def isDuplicateKeyError : JsError → Bool
  | .gatewayError _ => false
  | .error _ code errno => code == some "ER_DUP_ENTRY" || errno == some 1062

inductive Outcome where
  | success
  | failure
  | delay
  | timeout
  deriving DecidableEq, Repr

structure ChargeResult where
  success : Bool
  providerRef : String
  outcome : Outcome
  deriving DecidableEq, Repr

/-- A running `_attempt`: when it settles and how, whoever still listens by then. -/
structure Attempt where
  settlesAfter : Nat
  result : Except JsError ChargeResult
  deriving DecidableEq

/-- `_attempt` for the outcome that `_pickOutcome` drew; `ms` is the drawn delay. -/
def attempt (timeoutMs : Nat) (outcome : Outcome) (ms : Nat) (providerRef : String) : Attempt :=
  match outcome with
  | .success => ⟨0, .ok ⟨true, providerRef, outcome⟩⟩
  | .failure => ⟨0, .error (.gatewayError ⟨"card_declined", false⟩)⟩
  | .delay => ⟨ms, .ok ⟨true, providerRef, outcome⟩⟩
  | .timeout => ⟨timeoutMs + 500, .ok ⟨true, providerRef, outcome⟩⟩

def charge (timeoutMs : Nat) (a : Attempt) : Except JsError ChargeResult :=
  if a.settlesAfter < timeoutMs then a.result
  else .error (.gatewayError ⟨"timeout", true⟩)

structure Claim where
  attempts : Nat
  maxAttempts : Nat
  amount : Int
  currency : String
  deriving DecidableEq, Repr

inductive ClaimResult where
  | claimed (claim : Claim)
  | refused (reason : String) (status : Option PaymentStatus)
  deriving DecidableEq, Repr

inductive SettleResult where
  | noop (reason : String) (status : Option PaymentStatus)
  | success (status : PaymentStatus)
  | retry (reason : String) (status : PaymentStatus)
  | failed (status : PaymentStatus)
  deriving DecidableEq, Repr

inductive RecoverResult where
  | skip (reason : String) (status : Option PaymentStatus)
  | failed (status : PaymentStatus)
  | released (status : PaymentStatus)
  deriving DecidableEq, Repr

inductive FailResult where
  | noop (reason : String) (status : Option PaymentStatus)
  | failed (status : PaymentStatus)
  deriving DecidableEq, Repr

/-- Phase 1: only a PENDING payment is claimable. -/
def claim (db : Database) (paymentId now : Nat) : ClaimResult × Database :=
  match findById db paymentId with
  | none => (.refused "not_found" none, db)
  | some row =>
    if row.status ≠ .pending then (.refused "not_pending" (some row.status), db)
    else
      let db := updateStatus db paymentId .processing { processingStartedAt := some (some now) } now
      let db := incrementAttempts db paymentId
      (.claimed ⟨row.attempts + 1, row.maxAttempts, row.amount, row.currency⟩, db)

def lastErrorOf (err : GatewayError) : String :=
  if err.retriable then "max attempts exhausted: " ++ err.reason else err.reason

/-- Phase 3: apply the answer of the gateway under a fresh lock. -/
def settle (db : Database) (paymentId : Nat) (answer : Except GatewayError ChargeResult)
    (now : Nat) : SettleResult × Database :=
  match findById db paymentId with
  | none => (.noop "not_processing" none, db)
  | some row =>
    if row.status ≠ .processing then (.noop "not_processing" (some row.status), db)
    else
      match answer with
      | .ok result =>
        if !canTransition .processing .success then (.noop "illegal_success" (some row.status), db)
        else
          (.success .success,
            updateStatus db paymentId .success
              { providerRef := some (some result.providerRef), lastError := some none } now)
      | .error err =>
        if err.retriable ∧ row.attempts < row.maxAttempts then
          (.retry err.reason .pending,
            updateStatus db paymentId .pending
              { lastError := some (some err.reason), processingStartedAt := some none } now)
        else
          (.failed .failed,
            updateStatus db paymentId .failed { lastError := some (some (lastErrorOf err)) } now)

def recoverStalePayment (db : Database) (paymentId now : Nat) : RecoverResult × Database :=
  match findById db paymentId with
  | none => (.skip "not_processing" none, db)
  | some row =>
    if row.status ≠ .processing then (.skip "not_processing" (some row.status), db)
    else if row.maxAttempts ≤ row.attempts then
      (.failed .failed,
        updateStatus db paymentId .failed
          { lastError := some (some "recovered: stuck in processing, attempts exhausted"),
            processingStartedAt := some none } now)
    else
      (.released .pending,
        updateStatus db paymentId .pending
          { lastError := some (some "recovered from stale processing"),
            processingStartedAt := some none } now)

def failPayment (db : Database) (paymentId : Nat) (reason : String) (now : Nat) :
    FailResult × Database :=
  match findById db paymentId with
  | none => (.noop "not_found" none, db)
  | some row =>
    if !canTransition row.status .failed then (.noop "illegal_fail" (some row.status), db)
    else
      (.failed .failed, updateStatus db paymentId .failed { lastError := some (some reason) } now)

theorem claim_pending {db : Database} {id : Nat} {p : Payment}
    (found : db.payments.find id = some p) (free : p.status = .pending) (now : Nat) :
    ∃ q, (claim db id now).2.payments.find id = some q ∧ q.status = .processing := by
  refine ⟨addAttempt (writeStatus .processing { processingStartedAt := some (some now) } now p),
    ?_, rfl⟩
  simp [claim, findById, found, free]

theorem failPayment_settles {db : Database} {id : Nat} {p : Payment}
    (found : db.payments.find id = some p) (reason : String) (now : Nat) :
    ∃ q, (failPayment db id reason now).2.payments.find id = some q ∧
      isTerminal q.status = true := by
  cases legal : canTransition p.status .failed with
  | true =>
    refine ⟨writeStatus .failed { lastError := some (some reason) } now p, ?_, rfl⟩
    simp [failPayment, findById, found, legal]
  | false =>
    refine ⟨p, ?_, ?_⟩
    · simp [failPayment, findById, found, legal]
    · cases status : p.status with
      | pending | processing =>
        rw [status] at legal
        exact absurd legal (by decide)
      | success | failed => rfl

/-- The status that an answer of the gateway asks for on a PROCESSING row. -/
def settledStatus (p : Payment) : Except GatewayError ChargeResult → PaymentStatus
  | .ok _ => .success
  | .error err => if err.retriable ∧ p.attempts < p.maxAttempts then .pending else .failed

inductive SettleSpec (db : Database) (id now : Nat) :
    Except GatewayError ChargeResult → SettleResult → Database → Prop where
  | noop {answer : Except GatewayError ChargeResult} (status : Option PaymentStatus)
      (moved : ∀ p, db.payments.find id = some p → p.status ≠ .processing) :
      SettleSpec db id now answer (.noop "not_processing" status) db
  | success {p : Payment} (result : ChargeResult) (found : db.payments.find id = some p)
      (held : p.status = .processing) :
      SettleSpec db id now (.ok result) (.success .success)
        (updateStatus db id .success
          { providerRef := some (some result.providerRef), lastError := some none } now)
  | retry {p : Payment} (err : GatewayError) (found : db.payments.find id = some p)
      (held : p.status = .processing) (again : err.retriable = true)
      (left : p.attempts < p.maxAttempts) :
      SettleSpec db id now (.error err) (.retry err.reason .pending)
        (updateStatus db id .pending
          { lastError := some (some err.reason), processingStartedAt := some none } now)
  | failed {p : Payment} (err : GatewayError) (found : db.payments.find id = some p)
      (held : p.status = .processing) (final : err.retriable = true → p.maxAttempts ≤ p.attempts) :
      SettleSpec db id now (.error err) (.failed .failed)
        (updateStatus db id .failed { lastError := some (some (lastErrorOf err)) } now)

theorem settle_spec (db : Database) (id : Nat) (answer : Except GatewayError ChargeResult)
    (now : Nat) :
    SettleSpec db id now answer (settle db id answer now).1 (settle db id answer now).2 := by
  unfold settle findById
  split
  · rename_i absent
    exact SettleSpec.noop none (by simp [absent])
  · rename_i p found
    split
    · rename_i moved
      exact SettleSpec.noop (some p.status) (by simpa [found] using moved)
    · rename_i busy
      have held : p.status = .processing := by simpa using busy
      cases answer with
      | ok result =>
        have legal : canTransition .processing .success = true := by decide
        simp only [legal, Bool.not_true, Bool.false_eq_true, if_false]
        exact SettleSpec.success result found held
      | error err =>
        dsimp only
        split
        · rename_i again
          exact SettleSpec.retry err found held again.1 again.2
        · rename_i last
          apply SettleSpec.failed err found held
          intro retriable
          by_contra more
          exact last ⟨retriable, by omega⟩

theorem settle_noop {db : Database} {id : Nat} {p : Payment}
    (found : db.payments.find id = some p) (moved : p.status ≠ .processing)
    (answer : Except GatewayError ChargeResult) (now : Nat) :
    settle db id answer now = (.noop "not_processing" (some p.status), db) := by
  simp [settle, findById, found, moved]

theorem settle_held {db : Database} {id : Nat} {p : Payment}
    (found : db.payments.find id = some p) (held : p.status = .processing)
    (answer : Except GatewayError ChargeResult) (now : Nat) :
    ∃ q, (settle db id answer now).2.payments.find id = some q ∧
      q.status = settledStatus p answer := by
  have legal : canTransition .processing .success = true := by decide
  cases answer with
  | ok result =>
    refine ⟨writeStatus .success
      { providerRef := some (some result.providerRef), lastError := some none } now p, ?_, rfl⟩
    simp [settle, findById, found, held, legal]
  | error err =>
    by_cases again : err.retriable ∧ p.attempts < p.maxAttempts
    · refine ⟨writeStatus .pending
        { lastError := some (some err.reason), processingStartedAt := some none } now p, ?_, ?_⟩
      · simp [settle, findById, found, held, again]
      · simp only [settledStatus, again, and_self, if_true]
        rfl
    · refine ⟨writeStatus .failed { lastError := some (some (lastErrorOf err)) } now p, ?_, ?_⟩
      · simp [settle, findById, found, held, again]
      · simp only [settledStatus, again, if_false]
        rfl

def recoveredRow (now : Nat) (p : Payment) : Payment :=
  if p.attempts < p.maxAttempts then
    writeStatus .pending
      { lastError := some (some "recovered from stale processing"),
        processingStartedAt := some none } now p
  else
    writeStatus .failed
      { lastError := some (some "recovered: stuck in processing, attempts exhausted"),
        processingStartedAt := some none } now p

theorem recoverStalePayment_held {db : Database} {id : Nat} {p : Payment}
    (found : db.payments.find id = some p) (held : p.status = .processing) (now : Nat) :
    (recoverStalePayment db id now).1 =
        (if p.attempts < p.maxAttempts then .released .pending else .failed .failed) ∧
      ∀ other, (recoverStalePayment db id now).2.payments.find other =
        if other = id then some (recoveredRow now p) else db.payments.find other := by
  by_cases left : p.attempts < p.maxAttempts
  · have unspent : ¬ p.maxAttempts ≤ p.attempts := by omega
    refine ⟨by simp [recoverStalePayment, findById, found, held, left, unspent], ?_⟩
    intro other
    by_cases same : other = id
    · subst same
      simp [recoverStalePayment, recoveredRow, findById, found, held, left, unspent]
    · simp [recoverStalePayment, findById, found, held, unspent, same]
  · have spent : p.maxAttempts ≤ p.attempts := by omega
    refine ⟨by simp [recoverStalePayment, findById, found, held, left, spent], ?_⟩
    intro other
    by_cases same : other = id
    · subst same
      simp [recoverStalePayment, recoveredRow, findById, found, held, left, spent]
    · simp [recoverStalePayment, findById, found, held, spent, same]

end PaymentService
