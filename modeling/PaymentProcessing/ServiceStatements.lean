import PaymentProcessing.RowLocking
import PaymentProcessing.AttemptAccounting

/-!
The transactions of the services, statement by statement. Rows are filed under
what a statement locks: a payment under its id, a webhook event under the
event_id whose UNIQUE index the insert asks, the index on idempotency_key under
keys of its own. Run on its own, each list of statements does what the service
function does. The surrogate id of a webhook event, which only markProcessed
addresses, is left out.
-/
namespace ServiceStatements
open KeyedTable RowLocking
open PaymentStateMachine PaymentRepositories WebhookService PaymentTransactions

inductive RowKey where
  | idempotencyKey (key : String)
  | payment (id : Nat)
  | event (eventId : String)
  deriving DecidableEq, Repr

structure EventColumns where
  eventId : String
  paymentId : Nat
  status : WebhookStatus
  payload : Option String
  processedAt : Option Nat
  createdAt : Nat
  updatedAt : Nat
  deriving DecidableEq, Repr

abbrev RowKey.Row : RowKey → Type
  | .idempotencyKey _ => Nat
  | .payment _ => Payment
  | .event _ => EventColumns

abbrev Statements := Program RowKey.Row

/-- Locks on rows that are there keep writers and readers out, those on absent
    ones only the insert of the row. -/
def forUpdate {Row : Type} : Option Row → Mode
  | some _ => .exclusive
  | none => .shared

/-- The duplicate check of an INSERT: the inserted row is locked at once, the
    one that it collides with only against writers. -/
def forInsert {Row : Type} : Option Row → Mode
  | some _ => .shared
  | none => .exclusive

variable {Result : Type}

def findByIdForUpdate (id : Nat) (rest : Option Payment → Statements Result) :
    Statements Result :=
  .fetch (.payment id) forUpdate rest

def putPayment (id : Nat) (row : Payment) (rest : Statements Result) : Statements Result :=
  .store (.payment id) (some row) rest

def updateStatus (id : Nat) (status : PaymentStatus) (extra : Extra) (now : Nat)
    (rest : Statements Result) : Statements Result :=
  findByIdForUpdate id fun
    | none => rest
    | some row => putPayment id (writeStatus status extra now row) rest

def incrementAttempts (id : Nat) (rest : Statements Result) : Statements Result :=
  findByIdForUpdate id fun
    | none => rest
    | some row => putPayment id (addAttempt row) rest

/-- The INSERT of `create`, with the id that it has drawn; one that is refused
    has used it up. -/
def insertPayment (id : Nat) (key : String) (amount : Int) (currency : String)
    (maxAttempts now : Nat) (rest : Option Nat → Statements Result) : Statements Result :=
  .fetch (.idempotencyKey key) forInsert fun
    | some _ => rest none
    | none =>
      .fetch (.payment id) forInsert fun
        | some _ => rest none
        | none =>
          .store (.idempotencyKey key) (some id) <|
            putPayment id (newPayment key amount currency maxAttempts now id) (rest (some id))

def columns (row : WebhookEvent) : EventColumns :=
  ⟨row.eventId, row.paymentId, row.status, row.payload, row.processedAt, row.createdAt,
    row.updatedAt⟩

def newEventColumns (eventId : String) (paymentId : Nat) (status : WebhookStatus)
    (payload : Option String) (now : Nat) : EventColumns :=
  ⟨eventId, paymentId, status, payload, none, now, now⟩

def insertUnique (eventId : String) (paymentId : Nat) (status : WebhookStatus)
    (payload : Option String) (now : Nat) (rest : Bool → Statements Result) :
    Statements Result :=
  .fetch (.event eventId) forInsert fun
    | some _ => rest false
    | none =>
      .store (.event eventId) (some (newEventColumns eventId paymentId status payload now))
        (rest true)

def markProcessed (eventId : String) (status : WebhookStatus) (now : Nat)
    (rest : Statements Result) : Statements Result :=
  .fetch (.event eventId) forUpdate fun (found : Option EventColumns) =>
    match found with
    | none => rest
    | some row =>
      .store (.event eventId)
        (some ({ row with status, processedAt := some now, updatedAt := now } : EventColumns)) rest

open PaymentService in
def claim (paymentId now : Nat) : Statements ClaimResult :=
  findByIdForUpdate paymentId fun
    | none => .answer (.refused "not_found" none)
    | some row =>
      if row.status ≠ .pending then .answer (.refused "not_pending" (some row.status))
      else
        updateStatus paymentId .processing { processingStartedAt := some (some now) } now <|
          incrementAttempts paymentId <|
            .answer (.claimed ⟨row.attempts + 1, row.maxAttempts, row.amount, row.currency⟩)

open PaymentService in
def settle (paymentId : Nat) (answer : Except GatewayError ChargeResult) (now : Nat) :
    Statements SettleResult :=
  findByIdForUpdate paymentId fun
    | none => .answer (.noop "not_processing" none)
    | some row =>
      if row.status ≠ .processing then .answer (.noop "not_processing" (some row.status))
      else
        match answer with
        | .ok result =>
          if !canTransition .processing .success then
            .answer (.noop "illegal_success" (some row.status))
          else
            updateStatus paymentId .success
              { providerRef := some (some result.providerRef), lastError := some none } now <|
              .answer (.success .success)
        | .error err =>
          if err.retriable ∧ row.attempts < row.maxAttempts then
            updateStatus paymentId .pending
              { lastError := some (some err.reason), processingStartedAt := some none } now <|
              .answer (.retry err.reason .pending)
          else
            updateStatus paymentId .failed { lastError := some (some (lastErrorOf err)) } now <|
              .answer (.failed .failed)

open PaymentService in
def recoverStalePayment (paymentId now : Nat) : Statements RecoverResult :=
  findByIdForUpdate paymentId fun
    | none => .answer (.skip "not_processing" none)
    | some row =>
      if row.status ≠ .processing then .answer (.skip "not_processing" (some row.status))
      else if row.maxAttempts ≤ row.attempts then
        updateStatus paymentId .failed
          { lastError := some (some "recovered: stuck in processing, attempts exhausted"),
            processingStartedAt := some none } now <|
          .answer (.failed .failed)
      else
        updateStatus paymentId .pending
          { lastError := some (some "recovered from stale processing"),
            processingStartedAt := some none } now <|
          .answer (.released .pending)

open PaymentService in
def failPayment (paymentId : Nat) (reason : String) (now : Nat) : Statements FailResult :=
  findByIdForUpdate paymentId fun
    | none => .answer (.noop "not_found" none)
    | some row =>
      if !canTransition row.status .failed then
        .answer (.noop "illegal_fail" (some row.status))
      else
        updateStatus paymentId .failed { lastError := some (some reason) } now <|
          .answer (.failed .failed)

def handleWebhook (callback : Callback) (now : Nat) : Statements WebhookResult :=
  findByIdForUpdate callback.paymentId fun
    | none => .answer .unknownPayment
    | some row =>
      insertUnique callback.eventId callback.paymentId .received callback.payload now fun
        | false => .answer .duplicate
        | true =>
          let target := callback.reported.status
          if row.status = target then
            markProcessed callback.eventId .ignored now (.answer (.alreadyInState row.status))
          else if !canTransition row.status target then
            markProcessed callback.eventId .ignored now
              (.answer (.conflict row.status target row.status))
          else
            updateStatus callback.paymentId target (callbackExtra callback row) now <|
              markProcessed callback.eventId .processed now (.answer (.applied target))

/-- The transactions that the processes open, with what they bring along. -/
inductive Operation where
  | insert (call : Nat) (key : String) (amount : Int) (currency : String) (maxAttempts now : Nat)
  | claim (run paymentId now : Nat)
  | settle (run paymentId : Nat)
      (answer : Except PaymentService.GatewayError PaymentService.ChargeResult) (now : Nat)
  | recover (paymentId now : Nat)
  | fail (paymentId : Nat) (reason : String) (now : Nat)
  | webhook (callback : Callback) (now : Nat)

/-- `id` is where the auto-increment counter of the payments stands. -/
def Operation.statements (id : Nat) : Operation → Statements Event
  | .insert call key amount currency maxAttempts now =>
    insertPayment id key amount currency maxAttempts now fun id => .answer (.insert call id)
  | .claim run id now => (ServiceStatements.claim id now).map (Event.claim run id)
  | .settle run id answer now =>
    (ServiceStatements.settle id answer now).map (Event.settle run id)
  | .recover id now => (recoverStalePayment id now).map (Event.recover id)
  | .fail id reason now => (failPayment id reason now).map (Event.fail id reason)
  | .webhook callback now => (handleWebhook callback now).map (Event.webhook callback)

/-- What beginning the transaction leaves of the counter. -/
def Operation.counter (next : Nat) : Operation → Nat
  | .insert _ _ _ _ _ _ => next + 1
  | _ => next

def Service (p : Statements Event) : Prop := ∃ (op : Operation) (id : Nat), op.statements id = p

def image (db : Database) : Store RowKey.Row
  | .idempotencyKey key => (findByIdempotencyKey db key).map Payment.id
  | .payment id => findById db id
  | .event eventId => (db.webhookEvents.findKey eventId).map columns

theorem image_payments (db : Database) (id : Nat) (f : Payment → Payment)
    (hi : ∀ row, Record.id (f row) = Record.id row)
    (hk : ∀ row, Record.key (f row) = Record.key row) {row : Payment}
    (found : db.payments.find id = some row) :
    image { db with payments := db.payments.modify id f hi hk } =
      Function.update (image db) (.payment id) (some (f row)) := by
  funext key
  cases key with
  | idempotencyKey key =>
    rw [Function.update_of_ne (by simp)]
    change ((db.payments.modify id f hi hk).findKey key).map Payment.id =
      (db.payments.findKey key).map Payment.id
    rw [findKey_modify, Option.map_map]
    congr 1
    funext other
    by_cases same : Record.id other = id
    · simp only [Function.comp, same, if_true]
      exact hi other
    · simp [same]
  | payment other =>
    by_cases same : other = id
    · subst same
      rw [Function.update_self]
      change (if other = other then (db.payments.find other).map f else _) = _
      rw [if_pos rfl, found]
      rfl
    · rw [Function.update_of_ne (by simp [same])]
      exact if_neg same
  | event eventId => rfl

theorem findByIdForUpdate_run (db : Database) (id : Nat)
    (rest : Option Payment → Statements Result) :
    (findByIdForUpdate id rest).run (image db) = (rest (findById db id)).run (image db) := rfl

theorem updateStatus_run {db : Database} {id : Nat} {row : Payment}
    (found : db.payments.find id = some row) (status : PaymentStatus) (extra : Extra) (now : Nat)
    (rest : Statements Result) :
    (updateStatus id status extra now rest).run (image db) =
      rest.run (image (PaymentRepositories.updateStatus db id status extra now)) := by
  have written := image_payments db id (writeStatus status extra now) (fun _ => rfl)
    (fun _ => rfl) found
  rw [updateStatus, findByIdForUpdate_run, findById, found, PaymentRepositories.updateStatus,
    written]
  rfl

theorem incrementAttempts_run {db : Database} {id : Nat} {row : Payment}
    (found : db.payments.find id = some row) (rest : Statements Result) :
    (incrementAttempts id rest).run (image db) =
      rest.run (image (PaymentRepositories.incrementAttempts db id)) := by
  have written := image_payments db id addAttempt (fun _ => rfl) (fun _ => rfl) found
  rw [incrementAttempts, findByIdForUpdate_run, findById, found,
    PaymentRepositories.incrementAttempts, written]
  rfl

def insertPaymentAs (db : Database) (id : Nat) (key : String) (amount : Int) (currency : String)
    (maxAttempts now : Nat) : Option Nat × Database :=
  let (inserted, payments) :=
    db.payments.insertAs (newPayment key amount currency maxAttempts now id)
  (if inserted then some id else none, { db with payments })

theorem insertPayment_as (db : Database) (key : String) (amount : Int) (currency : String)
    (maxAttempts now : Nat) :
    PaymentRepositories.insertPayment db key amount currency maxAttempts now =
      insertPaymentAs db db.payments.next key amount currency maxAttempts now := by
  have same := insert_as db.payments (newPayment key amount currency maxAttempts now) (fun _ => rfl)
  simp only [PaymentRepositories.insertPayment, insertPaymentAs, ← same]
  cases inserted : db.payments.insert (newPayment key amount currency maxAttempts now)
      (fun _ => rfl) with
  | mk id payments =>
    cases id with
    | none => rfl
    | some i =>
      obtain ⟨-, rfl⟩ := insert_next inserted
      rfl

theorem image_payments_congr {db : Database} {payments : Table Payment}
    (same : payments.find = db.payments.find) : image { db with payments } = image db := by
  funext key
  cases key with
  | idempotencyKey key => exact congrArg (Option.map Payment.id) (findKey_congr same key)
  | payment id => exact congrFun same id
  | event eventId => rfl

theorem image_inserted {db : Database} {row : Payment}
    (free : db.payments.findKey row.idempotencyKey = none ∧ db.payments.find row.id = none) :
    image { db with payments := (db.payments.insertAs row).2 } =
      Function.update (Function.update (image db) (.idempotencyKey row.idempotencyKey) (some row.id))
        (.payment row.id) (some row) := by
  have shape : ∀ j, (db.payments.insertAs row).2.find j =
      if j = row.id then some row else db.payments.find j := (insertAs_inserted free).2
  funext key
  cases key with
  | idempotencyKey other =>
    have lookup : (db.payments.insertAs row).2.findKey other =
        if other = row.idempotencyKey then some row else db.payments.findKey other :=
      findKey_insertedAs free other
    rw [Function.update_of_ne (by simp)]
    change ((db.payments.insertAs row).2.findKey other).map Payment.id = _
    rw [lookup]
    by_cases same : other = row.idempotencyKey
    · subst same
      rw [Function.update_self, if_pos rfl]
      rfl
    · rw [Function.update_of_ne (by simp [same]), if_neg same]
      rfl
  | payment other =>
    change (db.payments.insertAs row).2.find other = _
    rw [shape]
    by_cases same : other = row.id
    · subst same
      rw [Function.update_self, if_pos rfl]
    · rw [Function.update_of_ne (by simp [same]), Function.update_of_ne (by simp), if_neg same]
      rfl
  | event eventId =>
    rw [Function.update_of_ne (by simp), Function.update_of_ne (by simp)]
    rfl

section
variable {db : Database} {id : Nat} {key : String}

theorem insertAs_free (free : findByIdempotencyKey db key = none ∧ findById db id = none)
    (amount : Int) (currency : String) (maxAttempts now : Nat) :
    (insertPaymentAs db id key amount currency maxAttempts now).1 = some id ∧
      (∀ other, findById (insertPaymentAs db id key amount currency maxAttempts now).2 other =
        if other = id then some (newPayment key amount currency maxAttempts now id)
          else findById db other) ∧
      image (insertPaymentAs db id key amount currency maxAttempts now).2 =
        Function.update (Function.update (image db) (.idempotencyKey key) (some id)) (.payment id)
          (some (newPayment key amount currency maxAttempts now id)) := by
  obtain ⟨wrote, shape⟩ := @insertAs_inserted Payment String _ _ db.payments
    (newPayment key amount currency maxAttempts now id) free
  have after := @image_inserted db (newPayment key amount currency maxAttempts now id) free
  simp only [insertPaymentAs, wrote]
  exact ⟨rfl, shape, after⟩

/-- A known key, or an id in use: the INSERT is refused and changes nothing. -/
theorem insertAs_taken (taken : ¬ (findByIdempotencyKey db key = none ∧ findById db id = none))
    (amount : Int) (currency : String) (maxAttempts now : Nat) :
    (insertPaymentAs db id key amount currency maxAttempts now).1 = none ∧
      (insertPaymentAs db id key amount currency maxAttempts now).2.payments.find =
        db.payments.find ∧
      image (insertPaymentAs db id key amount currency maxAttempts now).2 = image db := by
  obtain ⟨unwritten, same⟩ := @insertAs_refused Payment String _ _ db.payments
    (newPayment key amount currency maxAttempts now id) taken
  have after := image_payments_congr same
  simp only [insertPaymentAs, unwritten]
  exact ⟨rfl, same, after⟩

end

theorem insertPayment_run (db : Database) (id : Nat) (key : String) (amount : Int)
    (currency : String) (maxAttempts now : Nat) (rest : Option Nat → Statements Result) :
    (insertPayment id key amount currency maxAttempts now rest).run (image db) =
      (rest (insertPaymentAs db id key amount currency maxAttempts now).1).run
        (image (insertPaymentAs db id key amount currency maxAttempts now).2) := by
  have index : image db (.idempotencyKey key) = (findByIdempotencyKey db key).map Payment.id := rfl
  have slot : image db (.payment id) = findById db id := rfl
  simp only [insertPayment, Program.run, index]
  by_cases free : findByIdempotencyKey db key = none ∧ findById db id = none
  · obtain ⟨answer, -, after⟩ := insertAs_free free amount currency maxAttempts now
    rw [answer, after, free.1]
    simp only [Option.map_none, Program.run, slot, free.2]
    rfl
  · obtain ⟨answer, -, same⟩ := insertAs_taken free amount currency maxAttempts now
    rw [answer, same]
    cases known : findByIdempotencyKey db key with
    | some row => rfl
    | none =>
      cases used : findById db id with
      | some row => simp only [Option.map_none, Program.run, slot, used]
      | none => exact absurd ⟨known, used⟩ free

theorem image_events {db : Database} {events : Table WebhookEvent} {eventId : String}
    {row : Option EventColumns} (own : (events.findKey eventId).map columns = row)
    (others : ∀ other, other ≠ eventId →
      (events.findKey other).map columns = (db.webhookEvents.findKey other).map columns) :
    image { db with webhookEvents := events } =
      Function.update (image db) (.event eventId) row := by
  funext key
  cases key with
  | event other =>
    by_cases same : other = eventId
    · subst same
      rw [Function.update_self]
      exact own
    · rw [Function.update_of_ne (by simp [same])]
      exact others other same
  | _ => rw [Function.update_of_ne (by simp)]; rfl

theorem image_same_events {db : Database} {events : Table WebhookEvent}
    (same : events.find = db.webhookEvents.find) :
    image { db with webhookEvents := events } = image db := by
  funext key
  cases key with
  | event other => exact congrArg (Option.map columns) (findKey_congr same other)
  | _ => rfl

theorem insertUnique_run (db : Database) (eventId : String) (paymentId : Nat)
    (status : WebhookStatus) (payload : Option String) (now : Nat)
    (rest : Bool → Statements Result) :
    (insertUnique eventId paymentId status payload now rest).run (image db) =
      (rest (PaymentRepositories.insertUnique db eventId paymentId status payload now).1.isSome).run
        (image (PaymentRepositories.insertUnique db eventId paymentId status payload now).2) := by
  have lookup : image db (.event eventId) = (db.webhookEvents.findKey eventId).map columns := rfl
  cases known : db.webhookEvents.findKey eventId with
  | some row =>
    have refused : ∃ events, db.webhookEvents.insert
        (newWebhookEvent eventId paymentId status payload now) (fun _ => rfl) = (none, events) ∧
          events.next = db.webhookEvents.next + 1 := insert_taken known
    obtain ⟨events, wrote, -⟩ := refused
    have after := image_same_events (insert_refused wrote).1
    simp only [PaymentRepositories.insertUnique, wrote, after]
    simp only [insertUnique, Program.run]
    rw [lookup, known]
    rfl
  | none =>
    have inserted : ∃ events, db.webhookEvents.insert
        (newWebhookEvent eventId paymentId status payload now) (fun _ => rfl) =
          (some db.webhookEvents.next, events) ∧ events.next = db.webhookEvents.next + 1 :=
      insert_free known
    obtain ⟨events, wrote, -⟩ := inserted
    have found : ∀ key, events.findKey key = if key = eventId then
        some (newWebhookEvent eventId paymentId status payload now db.webhookEvents.next)
          else db.webhookEvents.findKey key := findKey_inserted wrote
    have after : image { db with webhookEvents := events } = Function.update (image db)
        (.event eventId) (some (newEventColumns eventId paymentId status payload now)) := by
      apply image_events
      · rw [found eventId, if_pos rfl]
        rfl
      · intro other ne
        rw [found other, if_neg ne]
    simp only [PaymentRepositories.insertUnique, wrote, after]
    simp only [insertUnique, Program.run]
    rw [lookup, known]
    rfl

/-- markProcessed addresses the event by its surrogate id. -/
theorem markProcessed_run {db : Database} {id : Nat} {row : WebhookEvent} {eventId : String}
    (found : db.webhookEvents.find id = some row) (carries : row.eventId = eventId)
    (status : WebhookStatus) (now : Nat) (rest : Statements Result) :
    (markProcessed eventId status now rest).run (image db) =
      rest.run (image (PaymentRepositories.markProcessed db id status now)) := by
  subst carries
  have there : db.webhookEvents.findKey row.eventId = some row := findKey_found _ found
  have lookup : image db (.event row.eventId) = some (columns row) := by
    change (db.webhookEvents.findKey row.eventId).map columns = _
    rw [there]
    rfl
  have own : row.id = id := db.webhookEvents.keyed id row found
  have moved := findKey_modify db.webhookEvents id (markRow status now) (fun _ => rfl)
    (fun _ => rfl)
  have after : image (PaymentRepositories.markProcessed db id status now) = Function.update
      (image db) (.event row.eventId) (some (columns (markRow status now row))) := by
    apply image_events
    · rw [moved row.eventId, there]
      simp [Record.id, own]
    · intro other ne
      rw [moved other, Option.map_map]
      cases at_other : db.webhookEvents.findKey other with
      | none => rfl
      | some event =>
        obtain ⟨atEvent, carries⟩ := findKey_some _ at_other
        have apart : Record.id event ≠ id := by
          intro same
          rw [same, found] at atEvent
          obtain rfl := Option.some.inj atEvent
          exact ne carries.symm
        simp [Function.comp, apart]
  simp only [markProcessed, Program.run, lookup, after]
  rfl

theorem claim_run (db : Database) (id now : Nat) :
    (claim id now).run (image db) =
      ((PaymentService.claim db id now).1, image (PaymentService.claim db id now).2) := by
  unfold claim PaymentService.claim
  rw [findByIdForUpdate_run]
  cases found : findById db id with
  | none => rfl
  | some row =>
    dsimp only
    split
    · rfl
    · have again : (PaymentRepositories.updateStatus db id .processing
          { processingStartedAt := some (some now) } now).payments.find id = some
            (writeStatus .processing { processingStartedAt := some (some now) } now row) := by
        rw [find_updateStatus, if_pos rfl]
        exact congrArg _ found
      rw [updateStatus_run found, incrementAttempts_run again]
      rfl

theorem settle_run (db : Database) (id : Nat)
    (answer : Except PaymentService.GatewayError PaymentService.ChargeResult) (now : Nat) :
    (settle id answer now).run (image db) =
      ((PaymentService.settle db id answer now).1,
        image (PaymentService.settle db id answer now).2) := by
  unfold settle PaymentService.settle
  rw [findByIdForUpdate_run]
  cases found : findById db id with
  | none => rfl
  | some row =>
    dsimp only
    split
    · rfl
    · cases answer with
      | ok result =>
        dsimp only
        split
        · rfl
        · rw [updateStatus_run found]
          rfl
      | error err =>
        dsimp only
        split
        · rw [updateStatus_run found]
          rfl
        · rw [updateStatus_run found]
          rfl

theorem recoverStalePayment_run (db : Database) (id now : Nat) :
    (recoverStalePayment id now).run (image db) =
      ((PaymentService.recoverStalePayment db id now).1,
        image (PaymentService.recoverStalePayment db id now).2) := by
  unfold recoverStalePayment PaymentService.recoverStalePayment
  rw [findByIdForUpdate_run]
  cases found : findById db id with
  | none => rfl
  | some row =>
    dsimp only
    split
    · rfl
    · split
      · rw [updateStatus_run found]
        rfl
      · rw [updateStatus_run found]
        rfl

theorem failPayment_run (db : Database) (id : Nat) (reason : String) (now : Nat) :
    (failPayment id reason now).run (image db) =
      ((PaymentService.failPayment db id reason now).1,
        image (PaymentService.failPayment db id reason now).2) := by
  unfold failPayment PaymentService.failPayment
  rw [findByIdForUpdate_run]
  cases found : findById db id with
  | none => rfl
  | some row =>
    dsimp only
    split
    · rfl
    · rw [updateStatus_run found]
      rfl

theorem handleWebhook_run (db : Database) (callback : Callback) (now : Nat) :
    (handleWebhook callback now).run (image db) =
      ((WebhookService.handleWebhook db callback now).1,
        image (WebhookService.handleWebhook db callback now).2) := by
  unfold handleWebhook WebhookService.handleWebhook
  rw [findByIdForUpdate_run]
  cases found : findById db callback.paymentId with
  | none => rfl
  | some row =>
    dsimp only
    rw [insertUnique_run]
    cases inserted : PaymentRepositories.insertUnique db callback.eventId callback.paymentId
        .received callback.payload now with
    | mk answer mid =>
      cases answer with
      | none => rfl
      | some ins =>
        obtain ⟨payments, event⟩ := insertUnique_some inserted
        have own : (newWebhookEvent callback.eventId callback.paymentId .received
            callback.payload now ins).eventId = callback.eventId := rfl
        have still : mid.payments.find callback.paymentId = some row := by
          rw [payments]
          exact found
        dsimp only [Option.isSome_some]
        by_cases reached : row.status = callback.reported.status
        · rw [if_pos reached, if_pos reached, markProcessed_run event own]
          rfl
        · rw [if_neg reached, if_neg reached]
          split
          · rw [markProcessed_run event own]
            rfl
          · have later : (PaymentRepositories.updateStatus mid callback.paymentId
                callback.reported.status (callbackExtra callback row) now).webhookEvents.find ins =
                  some (newWebhookEvent callback.eventId callback.paymentId .received
                    callback.payload now ins) := event
            rw [updateStatus_run still, markProcessed_run later own]
            rfl

def Operation.perform (db : Database) (id : Nat) : Operation → Event × Database
  | .insert call key amount currency maxAttempts now =>
    let (answer, db') := insertPaymentAs db id key amount currency maxAttempts now
    (.insert call answer, db')
  | .claim run id now =>
    let (result, db') := PaymentService.claim db id now
    (.claim run id result, db')
  | .settle run id answer now =>
    let (result, db') := PaymentService.settle db id answer now
    (.settle run id result, db')
  | .recover id now =>
    let (result, db') := PaymentService.recoverStalePayment db id now
    (.recover id result, db')
  | .fail id reason now =>
    let (result, db') := PaymentService.failPayment db id reason now
    (.fail id reason result, db')
  | .webhook callback now =>
    let (result, db') := WebhookService.handleWebhook db callback now
    (.webhook callback result, db')

theorem statements_run (op : Operation) (id : Nat) (db : Database) :
    (op.statements id).run (image db) = ((op.perform db id).1, image (op.perform db id).2) := by
  cases op with
  | insert call key amount currency maxAttempts now =>
    rw [Operation.statements, insertPayment_run]
    rfl
  | claim run pid now =>
    rw [Operation.statements, run_map, claim_run]
    rfl
  | settle run pid answer now =>
    rw [Operation.statements, run_map, settle_run]
    rfl
  | recover pid now =>
    rw [Operation.statements, run_map, recoverStalePayment_run]
    rfl
  | fail pid reason now =>
    rw [Operation.statements, run_map, failPayment_run]
    rfl
  | webhook callback now =>
    rw [Operation.statements, run_map, handleWebhook_run]
    rfl

/-- The transactions of the services are these, with ids drawn as they commit. -/
theorem commit_performs {db db' : Database} {e : Event} (commit : Commit db e db')
    (transactional : e.transactional = true) :
    ∃ op : Operation, op.perform db db.payments.next = (e, db') := by
  cases commit with
  | idle e outside => simp [outside] at transactional
  | insert call key amount currency maxAttempts now =>
    refine ⟨.insert call key amount currency maxAttempts now, ?_⟩
    rw [insertPayment_as]
    rfl
  | claim run id now => exact ⟨.claim run id now, rfl⟩
  | settle run id answer now => exact ⟨.settle run id answer now, rfl⟩
  | recover id now => exact ⟨.recover id now, rfl⟩
  | fail id reason now => exact ⟨.fail id reason now, rfl⟩
  | webhook callback now => exact ⟨.webhook callback now, rfl⟩

end ServiceStatements
