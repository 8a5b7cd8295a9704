import PaymentProcessing.LockOrder
import PaymentProcessing.WebhookLedger

/-!
Transactions about different payments do not see each other. What they share is
the space of event_ids: as long as no callback for another payment carries an
event_id of this one, a payment comes out as if the others did not exist.
-/
namespace PaymentIndependence
open KeyedTable TransitionRuns RowLocking PaymentStateMachine PaymentRepositories WebhookService
open PaymentTransactions ServiceStatements TransactionStatements LockOrder WebhookLedger

/-- The payment that a transaction is about; a creation is about none that exists. -/
def subject : Event → Option Nat
  | .claim _ id _ | .settle _ id _ | .recover id _ | .fail id _ _ => some id
  | .webhook callback _ => some callback.paymentId
  | _ => none

def about (id : Nat) (done : Statements Event × Event) : Bool := subject done.2 == some id

/-- The keys of one payment and of the events that its callbacks carry. -/
def own (id : Nat) (history : List Event) : RowKey → Prop
  | .payment other => other = id
  | .event eventId => ∃ callback result, .webhook callback result ∈ history ∧
      callback.paymentId = id ∧ callback.eventId = eventId
  | _ => False

def Separate (history : List Event) : Prop :=
  ∀ one other result result', .webhook one result ∈ history → .webhook other result' ∈ history →
    one.eventId = other.eventId → one.paymentId = other.paymentId

theorem keys_rules (keys : RowKey → Prop) : Rules keys (fun _ => keys) (fun _ => keys) where
  held := fun _ _ mine _ => ⟨mine, mine⟩

def Operation.about : Operation → Option Nat
  | .insert _ _ _ _ _ _ => none
  | .claim _ id _ | .settle _ id _ _ | .recover id _ | .fail id _ _ => some id
  | .webhook callback _ => some callback.paymentId

theorem answer_subject (op : Operation) (id : Nat) (rows : Store RowKey.Row) :
    subject ((op.statements id).run rows).1 = Operation.about op := by
  cases op with
  | insert call key amount currency maxAttempts now =>
    simp only [Operation.statements, ServiceStatements.insertPayment, Program.run]
    split
    · rfl
    · simp only [Program.run]
      split <;> rfl
  | _ =>
    rw [Operation.statements, run_map]
    rfl

theorem within_operation {keys : RowKey → Prop} {op : Operation} {id : Nat} (drawn : Nat)
    (mine : Operation.about op = some id) (payment : keys (.payment id))
    (event : ∀ callback now, op = .webhook callback now → keys (.event callback.eventId)) :
    Within keys (fun _ => none) (op.statements drawn) := by
  have rules := keys_rules keys
  cases op with
  | insert call key amount currency maxAttempts now => cases mine
  | claim run pid now =>
    cases mine
    exact along_map _ (along_claim rules payment payment now)
  | settle run pid answer now =>
    cases mine
    exact along_map _ (along_settle rules payment payment answer now)
  | recover pid now =>
    cases mine
    exact along_map _ (along_recover rules payment payment now)
  | fail pid reason now =>
    cases mine
    exact along_map _ (along_fail rules payment payment reason now)
  | webhook callback now =>
    cases mine
    have key := event callback now rfl
    exact along_map _ (along_webhook rules payment key payment key now)

theorem write_subject {id : Nat} {p q : Payment} {e : Event} (w : Write id p e q) :
    subject e = some id := by
  cases w with
  | webhook callback now target legal => exact congrArg some target
  | _ => rfl

theorem foreign_payment {db : Database} {op : Operation} {drawn id : Nat} {p : Payment}
    (found : db.payments.find id = some p) (foreign : subject (op.perform db drawn).1 ≠ some id) :
    (op.perform db drawn).2.payments.find id = some p := by
  have move := perform_row op db drawn id
  rw [found] at move
  generalize (op.perform db drawn).2.payments.find id = after at move
  cases move with
  | stay quiet => rfl
  | write w => exact absurd (write_subject w) foreign

theorem recorded_other {before after : Table WebhookEvent} {callback : Callback}
    {status : WebhookStatus} {now id : Nat} (fresh : Records before after callback status now id)
    {eventId : String} (ne : eventId ≠ callback.eventId) :
    after.findKey eventId = before.findKey eventId := by
  apply Option.ext
  intro row
  rw [findKey_iff, findKey_iff, fresh.shape]
  dsimp only
  by_cases at_id : Record.id row = id
  · rw [at_id, if_pos rfl, fresh.free]
    constructor
    · rintro ⟨made, carries⟩
      obtain rfl := Option.some.inj made
      exact absurd carries.symm ne
    · rintro ⟨absent, -⟩
      cases absent
  · rw [if_neg at_id]

theorem commit_other_event {db db' : Database} {e : Event} (commit : Commit db e db')
    {eventId : String}
    (foreign : ∀ callback result, e = .webhook callback result → eventId ≠ callback.eventId) :
    db'.webhookEvents.findKey eventId = db.webhookEvents.findKey eventId := by
  cases commit_events commit with
  | stay same quiet => exact findKey_congr same eventId
  | record callback status now id entry fresh =>
    apply recorded_other fresh
    cases e with
    | webhook sent result =>
      have same : sent = callback := by cases result <;> simp_all [recorded]
      rw [← same]
      exact foreign sent result rfl
    | _ => simp [recorded] at entry

theorem foreign_event {db : Database} {op : Operation} {drawn : Nat} {eventId : String}
    (foreign : ∀ callback result, (op.perform db drawn).1 = .webhook callback result →
      eventId ≠ callback.eventId) :
    (op.perform db drawn).2.webhookEvents.findKey eventId = db.webhookEvents.findKey eventId := by
  cases op with
  | insert call key amount currency maxAttempts now => rfl
  | claim run pid now => exact commit_other_event (Commit.claim db run pid now) foreign
  | settle run pid answer now =>
    exact commit_other_event (Commit.settle db run pid answer now) foreign
  | recover pid now => exact commit_other_event (Commit.recover db pid now) foreign
  | fail pid reason now => exact commit_other_event (Commit.fail db pid reason now) foreign
  | webhook callback now => exact commit_other_event (Commit.webhook db callback now) foreign

def Holds (id : Nat) (rows : Store RowKey.Row) : Prop :=
  ∃ db p, image db = rows ∧ db.payments.find id = some p

theorem alone_performs {db : Database} {rows' : Store RowKey.Row} {d : Statements Event × Event}
    (alone : Alone Service (image db) d rows') :
    ∃ (op : Operation) (drawn : Nat), (op.perform db drawn).1 = d.2 ∧
      image (op.perform db drawn).2 = rows' := by
  obtain ⟨⟨op, drawn, program⟩, result⟩ := alone
  have performed := statements_run op drawn db
  rw [program, result] at performed
  obtain ⟨answer, rows⟩ := Prod.mk.inj performed
  exact ⟨op, drawn, answer.symm, rows.symm⟩

theorem webhook_answer {op : Operation} {drawn : Nat} {rows : Store RowKey.Row} {e : Event}
    {callback : Callback} {now : Nat} (answer : ((op.statements drawn).run rows).1 = e)
    (sent : op = .webhook callback now) : ∃ result, e = .webhook callback result := by
  subst sent
  rw [Operation.statements, run_map] at answer
  exact ⟨_, answer.symm⟩

/-- However transactions about other payments interleave with those about one,
    its row and the answers about it are those of its own transactions alone, in
    the order of their commits. -/
theorem other_payments_unseen (db : Database) (labels : List (Label RowKey.Row Event))
    (s : Sessions) (run : Run Interleaving (Sessions.on db) labels s) (id : Nat) (p : Payment)
    (found : db.payments.find id = some p) (separate : Separate (answers labels)) :
    ∃ left, Run (Alone Service) (image db) ((labels.filterMap Label.committed).filter (about id))
        left ∧ left (.payment id) = s.committed (.payment id) := by
  have serial := run_serial (start_isolated (image db)) (interleaving_run run)
  have listed : ∀ d ∈ labels.filterMap Label.committed, d.2 ∈ answers labels :=
    fun d there => List.mem_map_of_mem there
  have kept := alone_within (own id (answers labels)) (about id) (Holds id)
    ?_ ?_ ?_ serial ⟨db, p, rfl, found⟩
  · obtain ⟨left, alone, agree⟩ := kept
    exact ⟨left, alone, agree (.payment id) rfl⟩
  · rintro rows d rows' ⟨db, p, rfl, found⟩ alone
    obtain ⟨op, drawn, -, rfl⟩ := alone_performs alone
    have move := perform_row op db drawn id
    rw [found] at move
    generalize after : (op.perform db drawn).2.payments.find id = entry at move
    cases move with
    | stay quiet => exact ⟨_, p, rfl, after⟩
    | write w => exact ⟨_, _, rfl, after⟩
  · intro rows d rows' there alone mine
    obtain ⟨⟨op, drawn, program⟩, result⟩ := alone
    have names := answer_subject op drawn rows
    have answer : ((op.statements drawn).run rows).1 = d.2 := by rw [program, result]
    rw [answer] at names
    rw [← program]
    have subject_ : subject d.2 = some id := by simpa [about] using mine
    have payment : own id (answers labels) (.payment id) := rfl
    apply within_operation drawn (names.symm.trans subject_) payment
    intro callback now sent
    obtain ⟨result', shown⟩ := webhook_answer answer sent
    rw [shown] at subject_
    exact ⟨callback, result', shown ▸ listed d there, Option.some.inj subject_, rfl⟩
  · rintro rows d rows' there ⟨db, p, rfl, found⟩ alone theirs key mine
    obtain ⟨op, drawn, answer, rfl⟩ := alone_performs alone
    have other : subject (op.perform db drawn).1 ≠ some id := by
      rw [answer]
      simpa [about] using theirs
    cases key with
    | payment pid =>
      obtain rfl : pid = id := mine
      exact (foreign_payment found other).trans found.symm
    | event eventId =>
      obtain ⟨one, result, sent, target, rfl⟩ := mine
      refine congrArg (Option.map columns) (foreign_event ?_)
      intro callback result' shown same
      have recorded : Event.webhook callback result' ∈ answers labels := by
        rw [← shown, answer]
        exact listed d there
      have paid := separate one callback result result' sent recorded same
      rw [shown] at other
      exact other (congrArg some (paid.symm.trans target))
    | idempotencyKey key => exact absurd mine (by simp [own])

def ordered : Database :=
  let one := (PaymentRepositories.insertPayment Database.empty "order-123" 4200 "INR" 3 0).2
  (PaymentRepositories.insertPayment one "order-124" 900 "INR" 3 5).2

/-- Both are claimed and called back in turns, a creation beside them is rolled back. -/
def sideBySide : List Turn :=
  [.opening 1 (.claim 7 1 50), .opening 2 (.claim 8 2 51), .goOn 2, .goOn 1, .goOn 2, .goOn 1,
    .goOn 1, .goOn 1, .goOn 2, .goOn 2, .opening 3 (.insert 9 "order-125" 100 "INR" 3 52), .goOn 3,
    .goOn 1, .goOn 2, .goOn 2, .goOn 1,
    .opening 4 (.webhook ⟨"evt_2", 2, .failed, none, none⟩ 60),
    .opening 5 (.webhook ⟨"evt_1", 1, .success, some "gw_1", none⟩ 61), .goOn 4, .goOn 5, .goOn 5,
    .goOn 4, .rollback 3, .goOn 4, .goOn 5, .goOn 5, .goOn 5, .goOn 4, .goOn 4, .goOn 4, .goOn 4,
    .goOn 5, .goOn 5, .goOn 5, .goOn 4]

theorem sideBySide_unseen :
    answers (schedule ordered sideBySide).1 =
        [.claim 8 2 (.claimed ⟨1, 3, 900, "INR"⟩), .claim 7 1 (.claimed ⟨1, 3, 4200, "INR"⟩),
          .webhook ⟨"evt_1", 1, .success, some "gw_1", none⟩ (.applied .success),
          .webhook ⟨"evt_2", 2, .failed, none, none⟩ (.applied .failed)] ∧
      ∃ left, Run (Alone Service) (image ordered)
          (((schedule ordered sideBySide).1.filterMap Label.committed).filter (about 1)) left ∧
        left (.payment 1) = (schedule ordered sideBySide).2.sessions.committed (.payment 1) := by
  have shown : answers (schedule ordered sideBySide).1 =
      [.claim 8 2 (.claimed ⟨1, 3, 900, "INR"⟩), .claim 7 1 (.claimed ⟨1, 3, 4200, "INR"⟩),
        .webhook ⟨"evt_1", 1, .success, some "gw_1", none⟩ (.applied .success),
        .webhook ⟨"evt_2", 2, .failed, none, none⟩ (.applied .failed)] := rfl
  refine ⟨shown, ?_⟩
  apply other_payments_unseen ordered _ _ (schedule_run ordered sideBySide) 1
    (newPayment "order-123" 4200 "INR" 3 0 1) rfl
  intro one other result result' sent sent' same
  rw [shown] at sent sent'
  simp only [List.mem_cons, List.not_mem_nil, or_false, reduceCtorEq, false_or,
    Event.webhook.injEq] at sent sent'
  rcases sent with ⟨rfl, -⟩ | ⟨rfl, -⟩ <;> rcases sent' with ⟨rfl, -⟩ | ⟨rfl, -⟩ <;>
    first | rfl | simp at same

end PaymentIndependence
