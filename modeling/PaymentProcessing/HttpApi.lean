import PaymentProcessing.ClientReadings
import PaymentProcessing.JsonSchemas
import PaymentProcessing.WebhookLedger

/-!
The two routes as clients and the provider meet them: the schemas, controllers
and error handler around initiatePayment and handleWebhook. The server takes
arbitrary headers and bodies; what it lets through, and what it answers, is
stated over whole runs. A request that the process dies in is not answered.
-/
namespace HttpApi
open JsonSchemas TransitionRuns PaymentStateMachine PaymentRepositories PaymentService
open WebhookService PaymentTransactions PaymentSystem SystemSteps IdempotentCreation
open ClientReadings WebhookLedger

-- payment/schema.js and webhook/schema.js

def webhookBody : ObjectSchema where
  props := [("eventId", .string (some 1) none none), ("paymentId", .integer (some 1)),
    ("status", .string none none (some ["SUCCESS", "FAILED"])), ("providerRef", .string none none none)]
  required := ["eventId", "paymentId", "status"]
  additionalProperties := false

structure PaymentData where
  id : Nat
  status : PaymentStatus
  amount : Int
  currency : String
  attempts : Nat
  deriving DecidableEq, Repr

def shape (p : Payment) : PaymentData := ⟨p.id, p.status, p.amount, p.currency, p.attempts⟩

/-- The status of a callback is declared a string: null is written as an empty one. -/
inductive ReplyData where
  | payment (data : PaymentData)
  | callback (paymentId : Nat) (outcome status : String)
  deriving DecidableEq, Repr

structure Reply where
  statusCode : Nat
  success : Bool
  message : String
  data : Option ReplyData
  deriving DecidableEq, Repr

inductive HttpError where
  | apiError (err : APIError)
  | validation (message : String)
  | exception (err : JsError)
  deriving DecidableEq, Repr

/-- The error handler of app.js; an empty message counts as none. -/
def errorHandler : HttpError → Reply
  | .apiError err =>
    if err.message = "" then ⟨500, false, "Internal Server Error", none⟩
    else ⟨if err.statusCode = 0 then 500 else err.statusCode, false, err.message, none⟩
  | .validation message => ⟨400, false, message, none⟩
  | .exception _ => ⟨500, false, "Internal Server Error", none⟩

def blank (c : Char) : Bool := c = ' ' || c = '\t'

def outcome : WebhookResult → String
  | .unknownPayment => "unknown_payment"
  | .duplicate => "duplicate"
  | .alreadyInState _ => "already_in_state"
  | .conflict _ _ _ => "conflict"
  | .applied _ => "applied"

def messages : List (String × String) :=
  [("duplicate", "Duplicate event ignored"),
    ("unknown_payment", "Unknown payment ignored"),
    ("already_in_state", "Payment already in reported state"),
    ("conflict", "Conflicting callback refused"),
    ("applied", "Payment status updated")]

def reportedOf (status : String) : ReportedStatus :=
  if status = "SUCCESS" then .success else .failed

/-- `stringify` is what JSON.stringify makes of the body. -/
def readCallback (stringify : Json → String) (body : Admitted webhookBody) : Callback where
  eventId := body.string "eventId" (by decide) List.mem_cons_self
  paymentId := (body.integer "paymentId" (by decide)
    (List.mem_cons_of_mem _ List.mem_cons_self)).toNat
  reported := reportedOf (body.string "status" (by decide)
    (List.mem_cons_of_mem _ (List.mem_cons_of_mem _ List.mem_cons_self)))
  providerRef := (body.val.get "providerRef").bind Json.asString
  payload := some (stringify body.val)

def receiveCallback (validator : Validator) (stringify : Json → String)
    (body : Except JsError Json) : Except HttpError Callback :=
  match body with
  | .error err => .error (.exception err)
  | .ok body =>
    match validator.check webhookBody body with
    | .error message => .error (.validation message)
    | .ok body => .ok (readCallback stringify body)

structure Server where
  validator : Validator
  stringify : Json → String

/-- What a step did in the system, if anything, and the reply it sent at once. -/
structure HttpEvent where
  event : Option Event
  reply : Option Reply
  deriving DecidableEq

def inner (history : List HttpEvent) : List Event := history.filterMap HttpEvent.event

/-- The replies that a client can get to a request that was let through. -/
inductive Answer (history : List Event) (s : System) (call : Nat) (request : PaymentRequest) :
    Reply → Prop where
  | created (p : Payment) (inserted : .insert call (some p.id) ∈ history)
      (queued : .enqueue (.api call) p.id none ∈ history)
      (asked : (⟨p.idempotencyKey, p.amount, p.currency⟩ : PaymentRequest) = request)
      (read : ReadBetween System.init history s p) :
      Answer history s call request ⟨201, true, "Payment created", some (.payment (shape p))⟩
  | existing (p : Payment) (keyed : p.idempotencyKey = request.idempotencyKey)
      (read : ReadBetween System.init history s p) :
      Answer history s call request
        ⟨200, true, "Payment already exists", some (.payment (shape p))⟩
  | failed (threw : EnqueueThrew call history) :
      Answer history s call request ⟨500, false, "Internal Server Error", none⟩

/-- The reply to a request that no service gets to see. -/
inductive Refusal : Except JsError Json → Reply → Prop where
  | unreadable (err : JsError) :
      Refusal (.error err) ⟨500, false, "Internal Server Error", none⟩
  | invalid (body : Json) (message : String) : Refusal (.ok body) ⟨400, false, message, none⟩

/-- A callback is refused, fails, or is acknowledged with the message of its outcome. -/
inductive CalledBack (server : Server) (body : Except JsError Json) :
    Option JsError → HttpEvent → Prop where
  | refused (err : HttpError) (error : Option JsError)
      (received : receiveCallback server.validator server.stringify body = .error err)
      (refusal : Refusal body (errorHandler err)) :
      CalledBack server body error ⟨none, some (errorHandler err)⟩
  | failed (err : JsError) :
      CalledBack server body (some err) ⟨none, some ⟨500, false, "Internal Server Error", none⟩⟩
  | acknowledged (callback : Callback) (result : WebhookResult) (message status : String)
      (received : receiveCallback server.validator server.stringify body = .ok callback)
      (listed : (outcome result, message) ∈ messages) :
      CalledBack server body none ⟨some (.webhook callback result), some ⟨200, true, message,
        some (.callback callback.paymentId (outcome result) status)⟩⟩

def server : Server := ⟨Validator.strict, fun _ => ""⟩

end HttpApi
