import PaymentProcessing.WebhookService

/-!
What one committed transaction can do to the database. `Event` is the label of a
step: which operation ran, for whom, and what it answered. `RowMove` lists every
write site of the services once; all invariants of a payment row are read off
that list.
-/
namespace PaymentTransactions
open KeyedTable PaymentStateMachine PaymentRepositories PaymentService WebhookService

inductive Enqueuer where
  | api (call : Nat)
  | sweep (sweep : Nat)
  deriving DecidableEq, Repr

inductive Event where
  | insert (call : Nat) (id : Option Nat)
  | claim (run paymentId : Nat) (result : ClaimResult)
  | charge (run paymentId : Nat) (a : Attempt)
  | reply (run paymentId : Nat) (answer : Except JsError ChargeResult)
  | settle (run paymentId : Nat) (result : SettleResult)
  | recover (paymentId : Nat) (result : RecoverResult)
  | fail (paymentId : Nat) (reason : String) (result : FailResult)
  | webhook (callback : Callback) (result : WebhookResult)
  | enqueue (source : Enqueuer) (paymentId : Nat) (error : Option JsError)
  | other
  deriving DecidableEq

def Event.writes (id : Nat) : Event → Bool
  | .insert _ (some i) => i == id
  | .claim _ pid (.claimed _) => pid == id
  | .settle _ pid (.success _) => pid == id
  | .settle _ pid (.retry _ _) => pid == id
  | .settle _ pid (.failed _) => pid == id
  | .recover pid (.failed _) => pid == id
  | .recover pid (.released _) => pid == id
  | .fail pid _ (.failed _) => pid == id
  | .webhook callback (.applied _) => callback.paymentId == id
  | _ => false

/-- Whether the label belongs to a transaction on the database. -/
def Event.transactional : Event → Bool
  | .charge _ _ _ | .reply _ _ _ | .enqueue _ _ _ | .other => false
  | _ => true

inductive Commit : Database → Event → Database → Prop where
  | insert (db : Database) (call : Nat) (key : String) (amount : Int) (currency : String)
      (maxAttempts now : Nat) :
      Commit db (.insert call (insertPayment db key amount currency maxAttempts now).1)
        (insertPayment db key amount currency maxAttempts now).2
  | claim (db : Database) (run id now : Nat) :
      Commit db (.claim run id (claim db id now).1) (claim db id now).2
  | settle (db : Database) (run id : Nat) (answer : Except GatewayError ChargeResult) (now : Nat) :
      Commit db (.settle run id (settle db id answer now).1) (settle db id answer now).2
  | recover (db : Database) (id now : Nat) :
      Commit db (.recover id (recoverStalePayment db id now).1) (recoverStalePayment db id now).2
  | fail (db : Database) (id : Nat) (reason : String) (now : Nat) :
      Commit db (.fail id reason (failPayment db id reason now).1) (failPayment db id reason now).2
  | webhook (db : Database) (callback : Callback) (now : Nat) :
      Commit db (.webhook callback (handleWebhook db callback now).1)
        (handleWebhook db callback now).2
  | idle (db : Database) (e : Event) (outside : e.transactional = false) : Commit db e db

/-- The write sites: guard on the row, label, row after. -/
inductive Write (id : Nat) (p : Payment) : Event → Payment → Prop where
  | claim (run now : Nat) (free : p.status = .pending) :
      Write id p (.claim run id (.claimed ⟨p.attempts + 1, p.maxAttempts, p.amount, p.currency⟩))
        (addAttempt (writeStatus .processing { processingStartedAt := some (some now) } now p))
  | settleSuccess (run now : Nat) (result : ChargeResult) (held : p.status = .processing) :
      Write id p (.settle run id (.success .success))
        (writeStatus .success
          { providerRef := some (some result.providerRef), lastError := some none } now p)
  | settleRetry (run now : Nat) (err : GatewayError) (held : p.status = .processing)
      (retriable : err.retriable = true) (left : p.attempts < p.maxAttempts) :
      Write id p (.settle run id (.retry err.reason .pending))
        (writeStatus .pending
          { lastError := some (some err.reason), processingStartedAt := some none } now p)
  | settleFailed (run now : Nat) (err : GatewayError) (held : p.status = .processing)
      (final : err.retriable = true → p.maxAttempts ≤ p.attempts) :
      Write id p (.settle run id (.failed .failed))
        (writeStatus .failed { lastError := some (some (lastErrorOf err)) } now p)
  | recoverFailed (now : Nat) (held : p.status = .processing) (spent : p.maxAttempts ≤ p.attempts) :
      Write id p (.recover id (.failed .failed))
        (writeStatus .failed
          { lastError := some (some "recovered: stuck in processing, attempts exhausted"),
            processingStartedAt := some none } now p)
  | recoverReleased (now : Nat) (held : p.status = .processing) (left : p.attempts < p.maxAttempts) :
      Write id p (.recover id (.released .pending))
        (writeStatus .pending
          { lastError := some (some "recovered from stale processing"),
            processingStartedAt := some none } now p)
  | fail (reason : String) (now : Nat) (legal : Move p.status .failed) :
      Write id p (.fail id reason (.failed .failed))
        (writeStatus .failed { lastError := some (some reason) } now p)
  | webhook (callback : Callback) (now : Nat) (target : callback.paymentId = id)
      (legal : Move p.status callback.reported.status) :
      Write id p (.webhook callback (.applied callback.reported.status))
        (writeStatus callback.reported.status (callbackExtra callback p) now p)

inductive RowMove (id : Nat) : Option Payment → Event → Option Payment → Prop where
  | stay {row : Option Payment} {e : Event} (quiet : e.writes id = false) : RowMove id row e row
  | create (call : Nat) (key : String) (amount : Int) (currency : String) (maxAttempts now : Nat) :
      RowMove id none (.insert call (some id))
        (some (newPayment key amount currency maxAttempts now id))
  | write {p q : Payment} {e : Event} (w : Write id p e q) : RowMove id (some p) e (some q)

theorem claim_row (db : Database) (run pid now id : Nat) :
    RowMove id (db.payments.find id) (.claim run pid (claim db pid now).1)
      ((claim db pid now).2.payments.find id) := by
  unfold claim findById
  split
  · exact RowMove.stay rfl
  · rename_i row found
    split
    · exact RowMove.stay rfl
    · rename_i open_
      have free : row.status = .pending := by simpa using open_
      by_cases same : id = pid
      · subst same
        simp only [find_incrementAttempts, find_updateStatus, found, if_true, Option.map_some]
        exact RowMove.write (Write.claim run now free)
      · simp only [find_incrementAttempts, find_updateStatus, same, if_false]
        exact RowMove.stay (by simp [Event.writes, Ne.symm same])

theorem write_only {id other : Nat} {p q : Payment} {e : Event} (w : Write id p e q)
    (ne : other ≠ id) : e.writes other = false := by
  cases w <;> simp_all [Event.writes, Ne.symm ne]

theorem update_row {db : Database} {pid id now : Nat} {status : PaymentStatus} {extra : Extra}
    {row : Payment} {e : Event} (found : db.payments.find pid = some row)
    (w : Write pid row e (writeStatus status extra now row)) :
    RowMove id (db.payments.find id) e ((updateStatus db pid status extra now).payments.find id) := by
  by_cases same : id = pid
  · subst same
    simp only [find_updateStatus, found, if_true, Option.map_some]
    exact RowMove.write w
  · simp only [find_updateStatus, same, if_false]
    exact RowMove.stay (write_only w same)

theorem settle_row (db : Database) (run pid : Nat) (answer : Except GatewayError ChargeResult)
    (now id : Nat) :
    RowMove id (db.payments.find id) (.settle run pid (settle db pid answer now).1)
      ((settle db pid answer now).2.payments.find id) := by
  have spec := settle_spec db pid answer now
  generalize (settle db pid answer now).1 = result at spec ⊢
  generalize (settle db pid answer now).2 = db' at spec ⊢
  cases spec with
  | noop => exact RowMove.stay rfl
  | success result found held =>
    exact update_row found (Write.settleSuccess run now result held)
  | retry err found held again left =>
    exact update_row found (Write.settleRetry run now err held again left)
  | failed err found held final =>
    exact update_row found (Write.settleFailed run now err held final)

theorem recover_row (db : Database) (pid now id : Nat) :
    RowMove id (db.payments.find id) (.recover pid (recoverStalePayment db pid now).1)
      ((recoverStalePayment db pid now).2.payments.find id) := by
  unfold recoverStalePayment findById
  split
  · exact RowMove.stay rfl
  · rename_i row found
    split
    · exact RowMove.stay rfl
    · rename_i busy
      have held : row.status = .processing := by simpa using busy
      split
      · rename_i spent
        exact update_row found (Write.recoverFailed now held spent)
      · rename_i more
        exact update_row found (Write.recoverReleased now held (by omega))

theorem fail_row (db : Database) (pid : Nat) (reason : String) (now id : Nat) :
    RowMove id (db.payments.find id) (.fail pid reason (failPayment db pid reason now).1)
      ((failPayment db pid reason now).2.payments.find id) := by
  unfold failPayment findById
  split
  · exact RowMove.stay rfl
  · rename_i row found
    split
    · exact RowMove.stay rfl
    · rename_i ok
      have legal : Move row.status .failed := by
        rw [← canTransition_iff]
        simpa using ok
      exact update_row found (Write.fail reason now legal)

theorem webhook_row (db : Database) (callback : Callback) (now id : Nat) :
    RowMove id (db.payments.find id) (.webhook callback (handleWebhook db callback now).1)
      ((handleWebhook db callback now).2.payments.find id) := by
  unfold handleWebhook findById
  split
  · exact RowMove.stay rfl
  · rename_i row found
    have kept := insertUnique_payments db callback.eventId callback.paymentId .received
      callback.payload now
    split
    · rename_i db' eq
      rw [eq] at kept
      rw [← kept]
      exact RowMove.stay rfl
    · rename_i ins db' eq
      rw [eq] at kept
      dsimp only at kept ⊢
      rw [← kept] at found ⊢
      split
      · exact RowMove.stay rfl
      · split
        · exact RowMove.stay rfl
        · rename_i ok
          have legal : Move row.status callback.reported.status := by
            rw [← canTransition_iff]
            simpa using ok
          exact update_row found (Write.webhook callback now rfl legal)

theorem insert_row (db : Database) (call : Nat) (key : String) (amount : Int) (currency : String)
    (maxAttempts now id : Nat) :
    RowMove id (db.payments.find id)
      (.insert call (insertPayment db key amount currency maxAttempts now).1)
      ((insertPayment db key amount currency maxAttempts now).2.payments.find id) := by
  cases h : insertPayment db key amount currency maxAttempts now with
  | mk new after =>
    cases new with
    | none =>
      have same := (insertPayment_none h).1
      dsimp only
      rw [same]
      exact RowMove.stay rfl
    | some i =>
      obtain ⟨free, shape⟩ := insertPayment_some h
      dsimp only
      rw [shape]
      by_cases at_id : id = i
      · subst at_id
        simp only [free, if_true]
        exact RowMove.create call key amount currency maxAttempts now
      · simp only [at_id, if_false]
        exact RowMove.stay (by simp [Event.writes, Ne.symm at_id])

theorem idle_writes {e : Event} (outside : e.transactional = false) (id : Nat) :
    e.writes id = false := by
  cases e <;> simp_all [Event.transactional, Event.writes]

/-- Every transaction moves each payment row by one of the listed writes, by its
    creation, or not at all. -/
theorem commit_row {db db' : Database} {e : Event} (commit : Commit db e db') (id : Nat) :
    RowMove id (db.payments.find id) e (db'.payments.find id) := by
  cases commit with
  | insert call key amount currency maxAttempts now =>
    exact insert_row db call key amount currency maxAttempts now id
  | claim run pid now => exact claim_row db run pid now id
  | settle run pid answer now => exact settle_row db run pid answer now id
  | recover pid now => exact recover_row db pid now id
  | fail pid reason now => exact fail_row db pid reason now id
  | webhook callback now => exact webhook_row db callback now id
  | idle _ outside => exact RowMove.stay (idle_writes outside id)

/-- Every write follows an edge of the transition table, those that never ask
    `canTransition` included. -/
theorem write_legal {id : Nat} {p q : Payment} {e : Event} (w : Write id p e q) :
    Move p.status q.status := by
  cases w with
  | claim run now free => rw [free]; change Move .pending .processing; decide
  | settleSuccess run now result held => rw [held]; change Move .processing .success; decide
  | settleRetry run now err held => rw [held]; change Move .processing .pending; decide
  | settleFailed run now err held => rw [held]; change Move .processing .failed; decide
  | recoverFailed now held => rw [held]; change Move .processing .failed; decide
  | recoverReleased now held => rw [held]; change Move .processing .pending; decide
  | fail reason now legal => exact legal
  | webhook callback now target legal => exact legal

theorem write_label {id : Nat} {p q : Payment} {e : Event} (w : Write id p e q) :
    e.writes id = true := by
  cases w <;> simp_all [Event.writes]

def terms (p : Payment) : Nat × String × Int × String × Nat × Nat :=
  (p.id, p.idempotencyKey, p.amount, p.currency, p.maxAttempts, p.createdAt)

theorem write_terms {id : Nat} {p q : Payment} {e : Event} (w : Write id p e q) :
    terms q = terms p := by
  cases w <;> rfl

theorem commit_keeps_row {db db' : Database} {e : Event} (commit : Commit db e db') {id : Nat}
    {p : Payment} (found : db.payments.find id = some p) :
    ∃ q, db'.payments.find id = some q ∧ (q = p ∧ e.writes id = false ∨ Write id p e q) := by
  have move := commit_row commit id
  rw [found] at move
  generalize hq : db'.payments.find id = after at move
  cases move with
  | stay quiet => exact ⟨p, rfl, Or.inl ⟨rfl, quiet⟩⟩
  | write w => exact ⟨_, rfl, Or.inr w⟩

end PaymentTransactions
