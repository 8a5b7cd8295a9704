import PaymentProcessing.PaymentService

/-!
webhook/services.js: a provider callback in one transaction. The schema of the
route admits only final statuses, which `ReportedStatus` enumerates.
-/
namespace WebhookService
open KeyedTable PaymentStateMachine PaymentRepositories

inductive ReportedStatus where
  | success
  | failed
  deriving DecidableEq, Repr

def ReportedStatus.status : ReportedStatus → PaymentStatus
  | .success => .success
  | .failed => .failed

structure Callback where
  eventId : String
  paymentId : Nat
  reported : ReportedStatus
  providerRef : Option String
  payload : Option String
  deriving DecidableEq, Repr

inductive WebhookResult where
  | unknownPayment
  | duplicate
  | alreadyInState (status : PaymentStatus)
  | conflict (source target status : PaymentStatus)
  | applied (status : PaymentStatus)
  deriving DecidableEq, Repr

/-- `providerRef || row.provider_ref`: an empty reference counts as absent. -/
def refOr (providerRef existing : Option String) : Option String :=
  match providerRef with
  | none => existing
  | some ref => if ref = "" then existing else some ref

def callbackExtra (callback : Callback) (row : Payment) : Extra :=
  match callback.reported with
  | .success =>
    { providerRef := some (refOr callback.providerRef row.providerRef), lastError := some none }
  | .failed => { lastError := some (some "failed via provider webhook") }

def handleWebhook (db : Database) (callback : Callback) (now : Nat) : WebhookResult × Database :=
  match findById db callback.paymentId with
  | none => (.unknownPayment, db)
  | some row =>
    match insertUnique db callback.eventId callback.paymentId .received callback.payload now with
    | (none, db) => (.duplicate, db)
    | (some ins, db) =>
      let target := callback.reported.status
      if row.status = target then
        (.alreadyInState row.status, markProcessed db ins .ignored now)
      else if !canTransition row.status target then
        (.conflict row.status target row.status, markProcessed db ins .ignored now)
      else
        let db := updateStatus db callback.paymentId target (callbackExtra callback row) now
        (.applied target, markProcessed db ins .processed now)

theorem reported_terminal (reported : ReportedStatus) : isTerminal reported.status = true := by
  cases reported <;> rfl

end WebhookService
