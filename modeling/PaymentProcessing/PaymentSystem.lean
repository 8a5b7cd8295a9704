import PaymentProcessing.TransitionRuns
import PaymentProcessing.JobStore
import PaymentProcessing.Transactions

/-!
The whole system: API processes inside initiatePayment, workers inside
paymentProcessor and process(), reconciler sweeps, provider callbacks, the
database and the job queue. A call is cut at its awaits: between two of its
steps any other step may happen, or the call's process may die. An `Action`
picks who steps next and what the environment answers; `exec` is `none` when
that step is not the next one of that call.
-/
namespace PaymentSystem
open KeyedTable JobStore TransitionRuns
open PaymentStateMachine PaymentRepositories PaymentService WebhookService PaymentTransactions

structure Config where
  maxPaymentAttempts : Nat
  staleProcessingMs : Nat
  gatewayTimeoutMs : Nat
  deriving DecidableEq, Repr

-- retryQueue.js

structure JobData where
  paymentId : Nat
  deriving DecidableEq, Repr

def jobIdFor (paymentId : Nat) : String := "payment-" ++ toString paymentId

abbrev PaymentQueue := Jobs (fun data : JobData => jobIdFor data.paymentId)

def enqueuePayment (queue : PaymentQueue) (config : Config) (paymentId : Nat) : PaymentQueue :=
  queue.add ⟨paymentId⟩ config.maxPaymentAttempts

-- initiatePayment

structure PaymentRequest where
  idempotencyKey : String
  amount : Int
  currency : String
  deriving DecidableEq, Repr

inductive ApiPhase where
  | inserting
  | reading (id : Nat)
  | enqueuing (payment : Payment)
  | lookingUp
  | returned (payment : Option Payment) (created : Bool)
  | threw (err : JsError)
  | crashed
  deriving DecidableEq

/-- The call has answered its client, or its process is gone. -/
def ApiPhase.over : ApiPhase → Bool
  | .returned _ _ | .threw _ | .crashed => true
  | _ => false

structure ApiCall where
  config : Config
  request : PaymentRequest
  phase : ApiPhase
  deriving DecidableEq

inductive ApiMove where
  | insert
  | read
  | enqueue (error : Option JsError)
  | lookUp
  | crash
  deriving DecidableEq

def duplicateEntry : JsError := .error "Duplicate entry" (some "ER_DUP_ENTRY") (some 1062)

/-- `payment.id` of a payment that is undefined. -/
def undefinedPayment : JsError := .error "Cannot read properties of undefined (reading 'id')" none none

/-- The catch block around the insert and the enqueue. -/
def caught (err : JsError) : ApiPhase :=
  if isDuplicateKeyError err then .lookingUp else .threw err

def apiStep (now : Nat) (db : Database) (queue : PaymentQueue) (call : Nat) (c : ApiCall) :
    ApiMove → Option (Event × Database × PaymentQueue × ApiCall)
  | .insert =>
    match c.phase with
    | .inserting =>
      match insertPayment db c.request.idempotencyKey c.request.amount c.request.currency
          c.config.maxPaymentAttempts now with
      | (some id, db) => some (.insert call (some id), db, queue, { c with phase := .reading id })
      | (none, db) => some (.insert call none, db, queue, { c with phase := caught duplicateEntry })
    | _ => none
  | .read =>
    match c.phase with
    | .reading id =>
      match findById db id with
      | some payment => some (.other, db, queue, { c with phase := .enqueuing payment })
      | none => some (.other, db, queue, { c with phase := caught undefinedPayment })
    | _ => none
  | .enqueue error =>
    match c.phase with
    | .enqueuing payment =>
      match error with
      | none =>
        some (.enqueue (.api call) payment.id none, db, enqueuePayment queue c.config payment.id,
          { c with phase := .returned (some payment) true })
      | some err =>
        some (.enqueue (.api call) payment.id (some err), db, queue, { c with phase := caught err })
    | _ => none
  | .lookUp =>
    match c.phase with
    | .lookingUp =>
      some (.other, db, queue,
        { c with phase := .returned (findByIdempotencyKey db c.request.idempotencyKey) false })
    | _ => none
  | .crash =>
    match c.phase with
    | .returned _ _ | .threw _ | .crashed => none
    | _ => some (.other, db, queue, { c with phase := .crashed })

-- process() and the worker around it

inductive ProcessResult where
  | notClaimable (reason : String) (status : Option PaymentStatus)
  | settled (result : SettleResult)
  deriving DecidableEq, Repr

inductive ProcessPhase where
  | claiming
  | claimed (claim : Claim)
  | charging (claim : Claim) (answer : Except JsError ChargeResult)
  | settling (claim : Claim) (answer : Except GatewayError ChargeResult)
  | returned (result : ProcessResult)
  | threw (err : JsError)
  | failing (reason : String)
  | closed
  | crashed
  deriving DecidableEq

/-- One process() call; `job` is the queue job whose handler it runs in, if any. -/
structure ProcessCall where
  paymentId : Nat
  job : Option String
  phase : ProcessPhase
  deriving DecidableEq

inductive WorkerMove where
  | claim (error : Option JsError)
  | charge (timeoutMs : Nat) (a : Attempt)
  | reply
  | settle (error : Option JsError)
  | finish (config : Config)
  | failedHandler (error : Option JsError)
  | crash
  deriving DecidableEq

/-- Between the commit of a winning claim and the commit of its settle. -/
def ProcessPhase.claimOf : ProcessPhase → Option Claim
  | .claimed claim => some claim
  | .charging claim _ => some claim
  | .settling claim _ => some claim
  | _ => none

def ProcessPhase.ended : ProcessPhase → Bool
  | .returned _ | .closed | .crashed => true
  | _ => false

def afterClaim : ClaimResult → ProcessPhase
  | .claimed claim => .claimed claim
  | .refused reason status => .returned (.notClaimable reason status)

/-- A non-gateway exception leaves process() at once. -/
def afterReply (claim : Claim) : Except JsError ChargeResult → ProcessPhase
  | .ok result => .settling claim (.ok result)
  | .error (.gatewayError err) => .settling claim (.error err)
  | .error err => .threw err

/-- A released payment makes process() throw after the commit. -/
def afterSettle : SettleResult → ProcessPhase
  | .retry reason _ => .threw (.gatewayError ⟨reason, true⟩)
  | result => .returned (.settled result)

/-- The queue's bookkeeping for a handler that threw, then the 'failed' listener. -/
def failJob (queue : PaymentQueue) (config : Config) (jobId : String) (run : Nat) (err : JsError) :
    PaymentQueue × ProcessPhase :=
  match queue.fail jobId run with
  | none => (queue, .closed)
  | some (job, queue) =>
    let attempts := if job.attempts = 0 then config.maxPaymentAttempts else job.attempts
    if attempts ≤ job.attemptsMade then (queue, .failing ("worker: " ++ err.message))
    else (queue, .closed)

def workerStep (now : Nat) (db : Database) (queue : PaymentQueue) (run : Nat) (r : ProcessCall) :
    WorkerMove → Option (Event × Database × PaymentQueue × ProcessCall)
  | .claim error =>
    match r.phase, error with
    | .claiming, none =>
      let (result, db) := claim db r.paymentId now
      some (.claim run r.paymentId result, db, queue, { r with phase := afterClaim result })
    | .claiming, some err => some (.other, db, queue, { r with phase := .threw err })
    | _, _ => none
  | .charge timeoutMs a =>
    match r.phase with
    | .claimed claim =>
      some (.charge run r.paymentId a, db, queue,
        { r with phase := .charging claim (PaymentService.charge timeoutMs a) })
    | _ => none
  | .reply =>
    match r.phase with
    | .charging claim answer =>
      some (.reply run r.paymentId answer, db, queue, { r with phase := afterReply claim answer })
    | _ => none
  | .settle error =>
    match r.phase, error with
    | .settling _ answer, none =>
      let (result, db) := settle db r.paymentId answer now
      some (.settle run r.paymentId result, db, queue, { r with phase := afterSettle result })
    | .settling _ _, some err => some (.other, db, queue, { r with phase := .threw err })
    | _, _ => none
  | .finish config =>
    match r.phase, r.job with
    | .returned _, some jobId =>
      some (.other, db, (queue.complete jobId run).getD queue, { r with phase := .closed })
    | .threw err, some jobId =>
      let (queue, phase) := failJob queue config jobId run err
      some (.other, db, queue, { r with phase })
    | _, _ => none
  | .failedHandler error =>
    match r.phase, error with
    | .failing reason, none =>
      let (result, db) := failPayment db r.paymentId reason now
      some (.fail r.paymentId reason result, db, queue, { r with phase := .closed })
    | .failing _, some _ => some (.other, db, queue, { r with phase := .closed })
    | _, _ => none
  | .crash =>
    match r.phase with
    | .closed | .crashed => none
    | .returned _ | .threw _ => if r.job = none then none
        else some (.other, db, queue, { r with phase := .crashed })
    | _ => some (.other, db, queue, { r with phase := .crashed })

-- reconcileStale

inductive SweepPhase where
  | recovering (row : Payment) (rest : List Payment)
  | removing (row : Payment) (rest : List Payment)
  | enqueuing (row : Payment) (rest : List Payment)
  | returned (swept : Nat)
  | threw (err : JsError)
  | crashed
  deriving DecidableEq

def SweepPhase.over : SweepPhase → Bool
  | .returned _ | .threw _ | .crashed => true
  | _ => false

structure Sweep where
  config : Config
  stale : List Payment
  phase : SweepPhase
  deriving DecidableEq

inductive SweepMove where
  | recover (error : Option JsError)
  | remove (error : Option JsError)
  | enqueue (error : Option JsError)
  | crash
  deriving DecidableEq

/-- The head of the for loop over the selected rows. -/
def nextRow (stale : List Payment) : List Payment → SweepPhase
  | [] => .returned stale.length
  | row :: rest => .recovering row rest

def startSweep (db : Database) (now : Nat) (config : Config) : Sweep :=
  let stale := findStale db now config.staleProcessingMs
  ⟨config, stale, nextRow stale stale⟩

/-- The loop goes on to the removal only when the row was released. -/
def afterRecover (stale : List Payment) (row : Payment) (rest : List Payment) :
    RecoverResult → SweepPhase
  | .released _ => .removing row rest
  | _ => nextRow stale rest

def sweepStep (now : Nat) (db : Database) (queue : PaymentQueue) (sweep : Nat) (w : Sweep) :
    SweepMove → Option (Event × Database × PaymentQueue × Sweep)
  | .recover error =>
    match w.phase, error with
    | .recovering row rest, none =>
      let (result, db) := recoverStalePayment db row.id now
      some (.recover row.id result, db, queue,
        { w with phase := afterRecover w.stale row rest result })
    | .recovering _ _, some err => some (.other, db, queue, { w with phase := .threw err })
    | _, _ => none
  | .remove error =>
    match w.phase with
    | .removing row rest =>
      -- `.catch(() => {})`: a failed removal is dropped, whatever its reason
      let queue := match error with
        | none => (queue.remove (jobIdFor row.id)).getD queue
        | some _ => queue
      some (.other, db, queue, { w with phase := .enqueuing row rest })
    | _ => none
  | .enqueue error =>
    match w.phase, error with
    | .enqueuing row rest, none =>
      some (.enqueue (.sweep sweep) row.id none, db, enqueuePayment queue w.config row.id,
        { w with phase := nextRow w.stale rest })
    | .enqueuing row _, some err =>
      some (.enqueue (.sweep sweep) row.id (some err), db, queue, { w with phase := .threw err })
    | _, _ => none
  | .crash =>
    match w.phase with
    | .returned _ | .threw _ | .crashed => none
    | _ => some (.other, db, queue, { w with phase := .crashed })

structure System where
  now : Nat
  db : Database
  queue : PaymentQueue
  calls : Nat → Option ApiCall
  runs : Nat → Option ProcessCall
  sweeps : Nat → Option Sweep

def System.init : System where
  now := 0
  db := Database.empty
  queue := Jobs.empty
  calls := fun _ => none
  runs := fun _ => none
  sweeps := fun _ => none

inductive Action where
  | tick (ms : Nat)
  | initiate (call : Nat) (config : Config) (request : PaymentRequest)
  | api (call : Nat) (move : ApiMove)
  | process (run paymentId : Nat)
  | pick (run : Nat) (jobId : String)
  | worker (run : Nat) (move : WorkerMove)
  | expire (jobId : String)
  | stall (jobId : String)
  | reconcile (sweep : Nat) (config : Config)
  | sweep (sweep : Nat) (move : SweepMove)
  | recover (paymentId : Nat)
  | failPayment (paymentId : Nat) (reason : String)
  | webhook (callback : Callback)

def set {Value : Type} (map : Nat → Option Value) (i : Nat) (v : Value) : Nat → Option Value :=
  fun j => if j = i then some v else map j

@[simp] theorem set_apply {Value : Type} (map : Nat → Option Value) (i j : Nat) (v : Value) :
    set map i v j = if j = i then some v else map j := rfl

theorem set_some {Value : Type} {map : Nat → Option Value} {i j : Nat} {v w : Value}
    (h : set map i v j = some w) : (j = i ∧ w = v) ∨ (j ≠ i ∧ map j = some w) := by
  rw [set_apply] at h
  by_cases same : j = i
  · rw [if_pos same] at h
    exact Or.inl ⟨same, (Option.some.inj h).symm⟩
  · rw [if_neg same] at h
    exact Or.inr ⟨same, h⟩

theorem fresh_apart {Key Value : Type} {map : Key → Option Value} {i j : Key} {v : Value}
    (present : map i = some v) (fresh : map j = none) : i ≠ j := by
  intro same
  rw [same, fresh] at present
  simp at present

def exec (s : System) : Action → Option (Event × System)
  | .tick ms => some (.other, { s with now := s.now + ms })
  | .initiate call config request =>
    match s.calls call with
    | some _ => none
    | none => some (.other, { s with calls := set s.calls call ⟨config, request, .inserting⟩ })
  | .api call move =>
    match s.calls call with
    | none => none
    | some c => (apiStep s.now s.db s.queue call c move).map fun (e, db, queue, c) =>
        (e, { s with db, queue, calls := set s.calls call c })
  | .process run paymentId =>
    match s.runs run with
    | some _ => none
    | none => some (.other, { s with runs := set s.runs run ⟨paymentId, none, .claiming⟩ })
  | .pick run jobId =>
    match s.runs run with
    | some _ => none
    | none => (s.queue.take jobId run).map fun (data, queue) =>
        (.other, { s with queue, runs := set s.runs run ⟨data.paymentId, some jobId, .claiming⟩ })
  | .worker run move =>
    match s.runs run with
    | none => none
    | some r => (workerStep s.now s.db s.queue run r move).map fun (e, db, queue, r) =>
        (e, { s with db, queue, runs := set s.runs run r })
  | .expire jobId => some (.other, { s with queue := s.queue.expire jobId })
  | .stall jobId => some (.other, { s with queue := s.queue.stall jobId })
  | .reconcile sweep config =>
    match s.sweeps sweep with
    | some _ => none
    | none =>
      some (.other, { s with sweeps := set s.sweeps sweep (startSweep s.db s.now config) })
  | .sweep sweep move =>
    match s.sweeps sweep with
    | none => none
    | some w => (sweepStep s.now s.db s.queue sweep w move).map fun (e, db, queue, w) =>
        (e, { s with db, queue, sweeps := set s.sweeps sweep w })
  | .recover paymentId =>
    let (result, db) := recoverStalePayment s.db paymentId s.now
    some (.recover paymentId result, { s with db })
  | .failPayment paymentId reason =>
    let (result, db) := PaymentService.failPayment s.db paymentId reason s.now
    some (.fail paymentId reason result, { s with db })
  | .webhook callback =>
    let (result, db) := handleWebhook s.db callback s.now
    some (.webhook callback result, { s with db })

def Action.any (_ : System) (_ : Action) : Prop := True

instance (s : System) (a : Action) : Decidable (Action.any s a) := inferInstanceAs (Decidable True)

abbrev Step : System → Event → System → Prop := Does exec Action.any

def row (s : System) (id : Nat) : Option Payment := s.db.payments.find id

@[simp] theorem row_init (id : Nat) : row System.init id = none := rfl

theorem jobIdFor_injective {a b : Nat} (h : jobIdFor a = jobIdFor b) : a = b := by
  have digits : Nat.repr a = Nat.repr b := by simpa [jobIdFor] using h
  have chars := congrArg String.toList digits
  rw [Nat.toList_repr, Nat.toList_repr] at chars
  rw [← Nat.ofDigitChars_ten_toDigits (n := a), chars, Nat.ofDigitChars_ten_toDigits]

end PaymentSystem
