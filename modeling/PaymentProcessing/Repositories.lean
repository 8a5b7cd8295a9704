import PaymentProcessing.KeyedTable
import PaymentProcessing.StateMachine

/-!
The two tables of migrations/ and the repository classes over them. A statement
is a function on the whole database; the services run several of them inside one
transaction. `now` stands for both `new Date()` and `db.fn.now()`, in
milliseconds.
-/
namespace PaymentRepositories
open KeyedTable PaymentStateMachine

structure Payment where
  id : Nat
  idempotencyKey : String
  amount : Int
  currency : String
  status : PaymentStatus
  attempts : Nat
  maxAttempts : Nat
  providerRef : Option String
  lastError : Option String
  processingStartedAt : Option Nat
  createdAt : Nat
  updatedAt : Nat
  deriving DecidableEq, Repr

structure WebhookEvent where
  id : Nat
  eventId : String
  paymentId : Nat
  status : WebhookStatus
  payload : Option String
  processedAt : Option Nat
  createdAt : Nat
  updatedAt : Nat
  deriving DecidableEq, Repr

instance : Record Payment String := ⟨Payment.id, Payment.idempotencyKey⟩
instance : Record WebhookEvent String := ⟨WebhookEvent.id, WebhookEvent.eventId⟩

structure Database where
  payments : Table Payment
  webhookEvents : Table WebhookEvent

def Database.empty : Database := ⟨Table.empty, Table.empty⟩

-- PaymentRepository

/-- The row that `create` inserts, with the column defaults of the migration. -/
def newPayment (idempotencyKey : String) (amount : Int) (currency : String)
    (maxAttempts now id : Nat) : Payment :=
  { id, idempotencyKey, amount, currency, status := .pending, attempts := 0, maxAttempts,
    providerRef := none, lastError := none, processingStartedAt := none,
    createdAt := now, updatedAt := now }

/-- The INSERT of `create`; `none` is the duplicate-key error. -/
def insertPayment (db : Database) (idempotencyKey : String) (amount : Int) (currency : String)
    (maxAttempts now : Nat) : Option Nat × Database :=
  let (id, payments) :=
    db.payments.insert (newPayment idempotencyKey amount currency maxAttempts now) (fun _ => rfl)
  (id, { db with payments })

def findById (db : Database) (id : Nat) : Option Payment := db.payments.find id

def findByIdempotencyKey (db : Database) (key : String) : Option Payment :=
  db.payments.findKey key

/-- The optional columns of an update: absent, or present with a value or NULL. -/
structure Extra where
  providerRef : Option (Option String) := none
  lastError : Option (Option String) := none
  processingStartedAt : Option (Option Nat) := none

def writeStatus (status : PaymentStatus) (extra : Extra) (now : Nat) (row : Payment) : Payment :=
  { row with
    status
    providerRef := extra.providerRef.getD row.providerRef
    lastError := extra.lastError.getD row.lastError
    processingStartedAt := extra.processingStartedAt.getD row.processingStartedAt
    updatedAt := now }

/-- Raw status write: it checks nothing. -/
def updateStatus (db : Database) (id : Nat) (status : PaymentStatus) (extra : Extra)
    (now : Nat) : Database :=
  { db with payments :=
      db.payments.modify id (writeStatus status extra now) (fun _ => rfl) (fun _ => rfl) }

def addAttempt (row : Payment) : Payment := { row with attempts := row.attempts + 1 }

def incrementAttempts (db : Database) (id : Nat) : Database :=
  { db with payments := db.payments.modify id addAttempt (fun _ => rfl) (fun _ => rfl) }

/-- A row without a start time is not selected: NULL < cutoff is not true. -/
def isStale (now olderThanMs : Nat) (row : Payment) : Bool :=
  row.status == .processing &&
    match row.processingStartedAt with
    | none => false
    | some started => started + olderThanMs < now

def findStale (db : Database) (now olderThanMs : Nat) : List Payment :=
  db.payments.all.filter (isStale now olderThanMs)

-- WebhookEventRepository

def newWebhookEvent (eventId : String) (paymentId : Nat) (status : WebhookStatus)
    (payload : Option String) (now id : Nat) : WebhookEvent :=
  { id, eventId, paymentId, status, payload, processedAt := none, createdAt := now,
    updatedAt := now }

/-- `none` is the answer `{ duplicate: true }`. -/
def insertUnique (db : Database) (eventId : String) (paymentId : Nat) (status : WebhookStatus)
    (payload : Option String) (now : Nat) : Option Nat × Database :=
  let (id, webhookEvents) :=
    db.webhookEvents.insert (newWebhookEvent eventId paymentId status payload now) (fun _ => rfl)
  (id, { db with webhookEvents })

def markRow (status : WebhookStatus) (now : Nat) (row : WebhookEvent) : WebhookEvent :=
  { row with status, processedAt := some now, updatedAt := now }

def markProcessed (db : Database) (id : Nat) (status : WebhookStatus) (now : Nat) : Database :=
  { db with webhookEvents :=
      db.webhookEvents.modify id (markRow status now) (fun _ => rfl) (fun _ => rfl) }

@[simp] theorem insertUnique_payments (db : Database) (eventId : String) (paymentId : Nat)
    (status : WebhookStatus) (payload : Option String) (now : Nat) :
    (insertUnique db eventId paymentId status payload now).2.payments = db.payments := rfl

@[simp] theorem find_updateStatus (db : Database) (id other : Nat) (status : PaymentStatus)
    (extra : Extra) (now : Nat) :
    (updateStatus db id status extra now).payments.find other =
      if other = id then (db.payments.find other).map (writeStatus status extra now)
      else db.payments.find other := rfl

@[simp] theorem find_incrementAttempts (db : Database) (id other : Nat) :
    (incrementAttempts db id).payments.find other =
      if other = id then (db.payments.find other).map addAttempt else db.payments.find other := rfl

theorem payment_id (db : Database) {id : Nat} {row : Payment}
    (found : db.payments.find id = some row) : row.id = id :=
  db.payments.keyed id row found

theorem insertPayment_some {db db' : Database} {key currency : String} {amount : Int}
    {maxAttempts now id : Nat}
    (h : insertPayment db key amount currency maxAttempts now = (some id, db')) :
    db.payments.find id = none ∧
      db'.payments.find = fun j =>
        if j = id then some (newPayment key amount currency maxAttempts now id)
        else db.payments.find j := by
  unfold insertPayment at h
  cases inserted : db.payments.insert (newPayment key amount currency maxAttempts now)
      (fun _ => rfl) with
  | mk answer payments =>
    rw [inserted] at h
    obtain ⟨rfl, rfl⟩ := Prod.mk.inj h
    obtain ⟨free, shape, -⟩ := insert_inserted inserted
    refine ⟨free, shape.trans ?_⟩
    funext j
    by_cases same : j = id
    · rw [same]
    · simp [same]

theorem insertPayment_none {db db' : Database} {key currency : String} {amount : Int}
    {maxAttempts now : Nat}
    (h : insertPayment db key amount currency maxAttempts now = (none, db')) :
    db'.payments.find = db.payments.find ∧
      ∃ i row, db.payments.find i = some row ∧ row.idempotencyKey = key := by
  unfold insertPayment at h
  cases inserted : db.payments.insert (newPayment key amount currency maxAttempts now)
      (fun _ => rfl) with
  | mk answer payments =>
    rw [inserted] at h
    obtain ⟨rfl, rfl⟩ := Prod.mk.inj h
    obtain ⟨same, row, there, dup⟩ := insert_refused inserted
    exact ⟨same, _, row, there, dup⟩

theorem insertUnique_some {db db' : Database} {eventId : String} {paymentId : Nat}
    {status : WebhookStatus} {payload : Option String} {now id : Nat}
    (h : insertUnique db eventId paymentId status payload now = (some id, db')) :
    db'.payments = db.payments ∧ db'.webhookEvents.find id =
      some (newWebhookEvent eventId paymentId status payload now id) := by
  unfold insertUnique at h
  cases inserted : db.webhookEvents.insert
      (newWebhookEvent eventId paymentId status payload now) (fun _ => rfl) with
  | mk answer events =>
    rw [inserted] at h
    obtain ⟨rfl, rfl⟩ := Prod.mk.inj h
    obtain ⟨-, shape, -⟩ := insert_inserted inserted
    exact ⟨rfl, by simp [shape]⟩

theorem findByIdempotencyKey_found (db : Database) {i : Nat} {row : Payment}
    (found : db.payments.find i = some row) :
    findByIdempotencyKey db row.idempotencyKey = some row :=
  findKey_found db.payments found

theorem mem_findStale (db : Database) (now olderThanMs : Nat) (row : Payment) :
    row ∈ findStale db now olderThanMs ↔
      db.payments.find row.id = some row ∧ row.status = .processing ∧
        ∃ started, row.processingStartedAt = some started ∧ started + olderThanMs < now := by
  have member := mem_all db.payments row
  rw [findStale, List.mem_filter, member]
  cases h : row.processingStartedAt <;> simp [isStale, h, Record.id]

theorem findStale_distinct (db : Database) (now olderThanMs : Nat) :
    (findStale db now olderThanMs).Pairwise (fun p q => p.id ≠ q.id) :=
  (all_distinct db.payments).filter _

end PaymentRepositories
