import Mathlib.Data.List.Nodup
import PaymentProcessing.Lifecycle

/-!
The webhook_events table against the history of the run. The callbacks that the
history shows as recorded form a ledger; the table holds exactly the entries of
that ledger, and an entry marked 'processed' is the one callback that settled
its payment.
-/
namespace WebhookLedger
open KeyedTable TransitionRuns PaymentStateMachine PaymentRepositories PaymentService
open WebhookService PaymentTransactions PaymentSystem SystemSteps

/-- One new row, inserted as 'received' and marked in the same transaction. -/
structure Records (before after : Table WebhookEvent) (callback : Callback)
    (status : WebhookStatus) (now id : Nat) : Prop where
  free : before.find id = none
  shape : after.find = fun j =>
    if j = id then
      some (markRow status now
        (newWebhookEvent callback.eventId callback.paymentId .received callback.payload now id))
    else before.find j
  others : ∀ j event, before.find j = some event → event.eventId ≠ callback.eventId

inductive WebhookSpec (db : Database) (callback : Callback) (now : Nat) :
    WebhookResult → Database → Prop where
  | unknown (absent : db.payments.find callback.paymentId = none) :
      WebhookSpec db callback now .unknownPayment db
  | duplicate {events : Table WebhookEvent} {i : Nat} {event : WebhookEvent}
      (there : db.webhookEvents.find i = some event) (key : event.eventId = callback.eventId)
      (same : events.find = db.webhookEvents.find) :
      WebhookSpec db callback now .duplicate { db with webhookEvents := events }
  | already {row : Payment} {events : Table WebhookEvent} {id : Nat}
      (found : db.payments.find callback.paymentId = some row)
      (reached : row.status = callback.reported.status)
      (fresh : Records db.webhookEvents events callback .ignored now id) :
      WebhookSpec db callback now (.alreadyInState row.status) { db with webhookEvents := events }
  | conflict {row : Payment} {events : Table WebhookEvent} {id : Nat}
      (found : db.payments.find callback.paymentId = some row)
      (other : row.status ≠ callback.reported.status)
      (illegal : ¬ Move row.status callback.reported.status)
      (fresh : Records db.webhookEvents events callback .ignored now id) :
      WebhookSpec db callback now (.conflict row.status callback.reported.status row.status)
        { db with webhookEvents := events }
  | applied {row : Payment} {events : Table WebhookEvent} {id : Nat}
      (found : db.payments.find callback.paymentId = some row)
      (legal : Move row.status callback.reported.status)
      (fresh : Records db.webhookEvents events callback .processed now id) :
      WebhookSpec db callback now (.applied callback.reported.status)
        { updateStatus db callback.paymentId callback.reported.status (callbackExtra callback row)
            now with webhookEvents := events }

theorem marked_records {before after : Table WebhookEvent} {callback : Callback}
    {status : WebhookStatus} {now id : Nat}
    (inserted : before.insert
      (newWebhookEvent callback.eventId callback.paymentId .received callback.payload now)
      (fun _ => rfl) = (some id, after))
    (keepsId : ∀ event : WebhookEvent, Record.id (markRow status now event) = Record.id event)
    (keepsKey : ∀ event : WebhookEvent, Record.key (markRow status now event) = Record.key event) :
    Records before (after.modify id (markRow status now) keepsId keepsKey) callback status now id := by
  obtain ⟨free, shape, others⟩ := insert_inserted inserted
  refine ⟨free, ?_, others⟩
  funext j
  rw [find_modify, shape]
  by_cases same : j = id
  · simp [same]
  · simp [same]

theorem handleWebhook_spec (db : Database) (callback : Callback) (now : Nat) :
    WebhookSpec db callback now (handleWebhook db callback now).1
      (handleWebhook db callback now).2 := by
  unfold handleWebhook findById insertUnique
  cases found : db.payments.find callback.paymentId with
  | none => exact WebhookSpec.unknown found
  | some row =>
    cases h : db.webhookEvents.insert
        (newWebhookEvent callback.eventId callback.paymentId .received callback.payload now)
        (fun _ => rfl) with
    | mk answer events =>
      cases answer with
      | none =>
        obtain ⟨same, event, there, key⟩ := insert_refused h
        exact WebhookSpec.duplicate there key same
      | some id =>
        dsimp only
        by_cases reached : row.status = callback.reported.status
        · rw [if_pos reached]
          exact WebhookSpec.already found reached (marked_records h _ _)
        · rw [if_neg reached]
          by_cases legal : Move row.status callback.reported.status
          · have asked := (canTransition_iff _ _).mpr legal
            simp only [asked, Bool.not_true, Bool.false_eq_true, if_false]
            exact WebhookSpec.applied found legal (marked_records h _ _)
          · have asked : canTransition row.status callback.reported.status = false := by
              rw [← Bool.not_eq_true, canTransition_iff]
              exact legal
            simp only [asked, Bool.not_false, if_true]
            exact WebhookSpec.conflict found reached legal (marked_records h _ _)

structure Entry where
  callback : Callback
  status : WebhookStatus

def recorded : Event → Option Entry
  | .webhook callback (.applied _) => some ⟨callback, .processed⟩
  | .webhook callback (.alreadyInState _) => some ⟨callback, .ignored⟩
  | .webhook callback (.conflict _ _ _) => some ⟨callback, .ignored⟩
  | _ => none

def ledger (history : List Event) : List Entry := history.filterMap recorded

def Entry.eventId (entry : Entry) : String := entry.callback.eventId

structure Describes (entry : Entry) (event : WebhookEvent) : Prop where
  eventId : event.eventId = entry.callback.eventId
  paymentId : event.paymentId = entry.callback.paymentId
  payload : event.payload = entry.callback.payload
  status : event.status = entry.status

/-- One transaction as the events table sees it. -/
inductive EventsMove (before after : Table WebhookEvent) (e : Event) : Prop where
  | stay (same : after.find = before.find) (quiet : recorded e = none)
  | record (callback : Callback) (status : WebhookStatus) (now id : Nat)
      (entry : recorded e = some ⟨callback, status⟩)
      (fresh : Records before after callback status now id)

@[simp] theorem claim_events (db : Database) (id now : Nat) :
    (claim db id now).2.webhookEvents = db.webhookEvents := by
  unfold claim findById
  split
  · rfl
  · split <;> rfl

@[simp] theorem settle_events (db : Database) (id : Nat) (answer : Except GatewayError ChargeResult)
    (now : Nat) : (settle db id answer now).2.webhookEvents = db.webhookEvents := by
  have spec := settle_spec db id answer now
  generalize (settle db id answer now).1 = result at spec
  generalize (settle db id answer now).2 = db' at spec ⊢
  cases spec <;> rfl

@[simp] theorem recover_events (db : Database) (id now : Nat) :
    (recoverStalePayment db id now).2.webhookEvents = db.webhookEvents := by
  unfold recoverStalePayment findById
  split
  · rfl
  · split
    · rfl
    · split <;> rfl

@[simp] theorem fail_events (db : Database) (id : Nat) (reason : String) (now : Nat) :
    (failPayment db id reason now).2.webhookEvents = db.webhookEvents := by
  unfold failPayment findById
  split
  · rfl
  · split <;> rfl

theorem commit_events {db db' : Database} {e : Event} (commit : Commit db e db') :
    EventsMove db.webhookEvents db'.webhookEvents e := by
  cases commit with
  | insert call key amount currency maxAttempts now => exact EventsMove.stay rfl rfl
  | claim run id now => exact EventsMove.stay (by rw [claim_events]) rfl
  | settle run id answer now => exact EventsMove.stay (by rw [settle_events]) rfl
  | recover id now => exact EventsMove.stay (by rw [recover_events]) rfl
  | fail id reason now => exact EventsMove.stay (by rw [fail_events]) rfl
  | webhook callback now =>
    have spec := handleWebhook_spec db callback now
    generalize (handleWebhook db callback now).1 = result at spec ⊢
    generalize (handleWebhook db callback now).2 = after at spec ⊢
    cases spec with
    | unknown absent => exact EventsMove.stay rfl rfl
    | duplicate there key same => exact EventsMove.stay same rfl
    | already found reached fresh => exact EventsMove.record callback _ now _ rfl fresh
    | conflict found other illegal fresh => exact EventsMove.record callback _ now _ rfl fresh
    | applied found legal fresh => exact EventsMove.record callback _ now _ rfl fresh
  | idle _ outside =>
    apply EventsMove.stay rfl ?_
    cases e <;> simp_all [Event.transactional, recorded]

/-- The events table holds the ledger of the history, each event id once. -/
structure Ledgered (history : List Event) (events : Table WebhookEvent) : Prop where
  filed : ∀ i event, events.find i = some event → ∃ entry ∈ ledger history, Describes entry event
  kept : ∀ entry ∈ ledger history, ∃ i event, events.find i = some event ∧ Describes entry event
  once : ((ledger history).map Entry.eventId).Nodup

theorem ledger_snoc (history : List Event) (e : Event) :
    ledger (history ++ [e]) = ledger history ++ (recorded e).toList := by
  cases h : recorded e <;> simp [ledger, h]

theorem nodup_snoc {α β : Type} {f : α → β} {xs : List α} {x : α} (h : (xs.map f).Nodup)
    (fresh : ∀ y ∈ xs, f y ≠ f x) : ((xs ++ [x]).map f).Nodup := by
  rw [List.map_append]
  apply List.nodup_append.mpr
  refine ⟨h, by simp, ?_⟩
  intro a mem b last same
  obtain ⟨y, listed, rfl⟩ := List.mem_map.mp mem
  obtain rfl : b = f x := by simpa using last
  exact fresh y listed same

theorem ledgered_recorded {history : List Event} {before after : Table WebhookEvent} {e : Event}
    {callback : Callback} {status : WebhookStatus} {now id : Nat} (h : Ledgered history before)
    (entry : recorded e = some ⟨callback, status⟩)
    (fresh : Records before after callback status now id) : Ledgered (history ++ [e]) after := by
  have grown : ledger (history ++ [e]) = ledger history ++ [⟨callback, status⟩] := by
    simp [ledger_snoc, entry]
  have described : Describes ⟨callback, status⟩ (markRow status now
      (newWebhookEvent callback.eventId callback.paymentId .received callback.payload now id)) :=
    ⟨rfl, rfl, rfl, rfl⟩
  constructor
  · intro i event there
    rw [grown]
    rw [fresh.shape] at there
    by_cases same : i = id
    · simp only [same, if_true, Option.some.injEq] at there
      subst there
      exact ⟨⟨callback, status⟩, by simp, described⟩
    · simp only [same, if_false] at there
      obtain ⟨old, listed, describes⟩ := h.filed i event there
      exact ⟨old, List.mem_append_left _ listed, describes⟩
  · intro one listed
    rw [grown, List.mem_append, List.mem_singleton] at listed
    rcases listed with old | rfl
    · obtain ⟨i, event, there, describes⟩ := h.kept one old
      have apart : i ≠ id := fresh_apart there fresh.free
      exact ⟨i, event, by rw [fresh.shape]; simpa [apart] using there, describes⟩
    · exact ⟨id, _, by rw [fresh.shape]; simp, described⟩
  · rw [grown]
    apply nodup_snoc h.once
    intro old listed same
    obtain ⟨i, event, there, describes⟩ := h.kept old listed
    exact fresh.others i event there (describes.eventId.trans same)

theorem ledgered_step {history : List Event} {before after : Table WebhookEvent} {e : Event}
    (h : Ledgered history before) (move : EventsMove before after e) :
    Ledgered (history ++ [e]) after := by
  cases move with
  | stay same quiet =>
    have sameLedger : ledger (history ++ [e]) = ledger history := by simp [ledger_snoc, quiet]
    constructor
    · rw [same, sameLedger]
      exact h.filed
    · rw [same, sameLedger]
      exact h.kept
    · rw [sameLedger]
      exact h.once
  | record callback status now id entry fresh => exact ledgered_recorded h entry fresh

theorem run_ledgered {allowed : System → Action → Prop} {history : List Event} {s : System}
    (run : Run (Does exec allowed) System.init history s) : Ledgered history s.db.webhookEvents := by
  refine run_invariant (fun h u => Ledgered h u.db.webhookEvents) ?_ ?_ run
  · constructor
    · intro i event there
      simp [System.init, Database.empty, Table.empty] at there
    · intro entry listed
      simp [ledger] at listed
    · simp [ledger]
  · intro h u e t inv step
    exact ledgered_step inv (commit_events (does_commit step))

def isProcessed (entry : Entry) : Bool := entry.status == .processed

def processed (history : List Event) : List Entry := (ledger history).filter isProcessed

theorem commit_processed {db db' : Database} {e : Event} (commit : Commit db e db')
    {callback : Callback} (entry : recorded e = some ⟨callback, .processed⟩) :
    ∃ p q, db.payments.find callback.paymentId = some p ∧ isTerminal p.status = false ∧
      db'.payments.find callback.paymentId = some q ∧ q.status = callback.reported.status := by
  cases commit with
  | webhook sent now =>
    have spec := handleWebhook_spec db sent now
    generalize (handleWebhook db sent now).1 = result at spec entry
    generalize (handleWebhook db sent now).2 = after at spec ⊢
    cases spec with
    | unknown absent => simp [recorded] at entry
    | duplicate there key same => simp [recorded] at entry
    | already found reached fresh => simp [recorded] at entry
    | conflict found other illegal fresh => simp [recorded] at entry
    | @applied row events id found legal fresh =>
      obtain rfl : sent = callback := by simpa [recorded] using entry
      refine ⟨row, writeStatus sent.reported.status (callbackExtra sent row) now row, found, ?_,
        by simp [find_updateStatus, found], rfl⟩
      cases terminal : isTerminal row.status with
      | false => rfl
      | true => exact absurd legal ((terminal_iff_no_move _).mp terminal _)
  | idle _ outside => cases e <;> simp_all [Event.transactional, recorded]
  | _ => simp [recorded] at entry

/-- A processed callback stays in force, and there is one for each payment. -/
structure Effective (history : List Event) (db : Database) : Prop where
  settled : ∀ entry ∈ processed history, ∃ p, db.payments.find entry.callback.paymentId = some p ∧
    p.status = entry.callback.reported.status
  single : ((processed history).map (fun entry => entry.callback.paymentId)).Nodup

theorem settled_kept {history : List Event} {db db' : Database} {e : Event}
    (h : Effective history db) (commit : Commit db e db') {entry : Entry}
    (listed : entry ∈ processed history) :
    ∃ p, db'.payments.find entry.callback.paymentId = some p ∧
      p.status = entry.callback.reported.status := by
  obtain ⟨p, found, status⟩ := h.settled entry listed
  have terminal : isTerminal p.status = true := by
    rw [status]
    exact reported_terminal _
  exact ⟨p, PaymentLifecycle.commit_keeps_settled commit found terminal, status⟩

/-- A new processed entry is for a payment that no earlier one has settled. -/
theorem effective_processed {history : List Event} {db db' : Database} {e : Event}
    (h : Effective history db) (commit : Commit db e db') {callback : Callback}
    (entry : recorded e = some ⟨callback, .processed⟩) : Effective (history ++ [e]) db' := by
  have grown : processed (history ++ [e]) = processed history ++ [⟨callback, .processed⟩] := by
    simp [processed, ledger_snoc, entry, isProcessed]
  obtain ⟨p, q, before, unsettled, after, status⟩ := commit_processed commit entry
  constructor
  · intro one listed
    rw [grown, List.mem_append, List.mem_singleton] at listed
    rcases listed with old | rfl
    · exact settled_kept h commit old
    · exact ⟨q, after, status⟩
  · rw [grown]
    apply nodup_snoc h.single
    intro old listed same
    obtain ⟨r, found, reached⟩ := h.settled old listed
    rw [same, before] at found
    obtain rfl := Option.some.inj found
    rw [reached, reported_terminal] at unsettled
    simp at unsettled

theorem effective_step {history : List Event} {db db' : Database} {e : Event}
    (h : Effective history db) (commit : Commit db e db') : Effective (history ++ [e]) db' := by
  by_cases new : ∃ callback, recorded e = some ⟨callback, .processed⟩
  · obtain ⟨callback, entry⟩ := new
    exact effective_processed h commit entry
  · have same : processed (history ++ [e]) = processed history := by
      cases entry : recorded e with
      | none => simp [processed, ledger_snoc, entry]
      | some one =>
        have ignored : isProcessed one = false := by
          cases kind : isProcessed one with
          | false => rfl
          | true =>
            obtain ⟨callback, status⟩ := one
            obtain rfl : status = .processed := by simpa [isProcessed] using kind
            exact absurd ⟨callback, entry⟩ new
        simp [processed, ledger_snoc, entry, ignored]
    constructor
    · intro entry listed
      rw [same] at listed
      exact settled_kept h commit listed
    · rw [same]
      exact h.single

theorem run_effective {allowed : System → Action → Prop} {history : List Event} {s : System}
    (run : Run (Does exec allowed) System.init history s) : Effective history s.db := by
  refine run_invariant (fun h u => Effective h u.db) ?_ ?_ run
  · refine ⟨?_, by simp [processed, ledger]⟩
    intro entry listed
    simp [processed, ledger] at listed
  · intro h u e t inv step
    exact effective_step inv (does_commit step)

theorem refused_callback_frame {db db' : Database} {callback : Callback} {result : WebhookResult}
    (commit : Commit db (.webhook callback result) db')
    (refused : ∀ status, result ≠ .applied status) : db'.payments = db.payments := by
  generalize label : Event.webhook callback result = e at commit
  cases commit with
  | webhook sent now =>
    have spec := handleWebhook_spec db sent now
    obtain ⟨-, rfl⟩ : callback = sent ∧ result = _ := by simpa using label
    generalize (handleWebhook db sent now).1 = result at spec refused
    generalize (handleWebhook db sent now).2 = after at spec ⊢
    cases spec with
    | applied found legal fresh => exact absurd rfl (refused _)
    | _ => rfl
  | idle _ outside =>
    subst label
    simp [Event.transactional] at outside
  | _ => simp at label

theorem redelivery_frame {db db' : Database} {callback : Callback} {result : WebhookResult}
    (commit : Commit db (.webhook callback result) db') {i : Nat} {event : WebhookEvent}
    (there : db.webhookEvents.find i = some event) (key : event.eventId = callback.eventId) :
    db'.payments = db.payments ∧ db'.webhookEvents.find = db.webhookEvents.find := by
  generalize label : Event.webhook callback result = e at commit
  cases commit with
  | webhook sent now =>
    have spec := handleWebhook_spec db sent now
    obtain ⟨rfl, -⟩ : callback = sent ∧ result = _ := by simpa using label
    generalize (handleWebhook db callback now).1 = answer at spec
    generalize (handleWebhook db callback now).2 = after at spec ⊢
    cases spec with
    | unknown absent => exact ⟨rfl, rfl⟩
    | duplicate _ _ same => exact ⟨rfl, same⟩
    | already found reached fresh => exact absurd key (fresh.others i event there)
    | conflict found other illegal fresh => exact absurd key (fresh.others i event there)
    | applied found legal fresh => exact absurd key (fresh.others i event there)
  | idle _ outside =>
    subst label
    simp [Event.transactional] at outside
  | _ => simp at label

theorem recorded_status {e : Event} {entry : Entry} (h : recorded e = some entry) :
    entry.status = .processed ∨ entry.status = .ignored := by
  cases e with
  | webhook callback result =>
    cases result with
    | applied status =>
      obtain rfl : _ = entry := by simpa [recorded] using h
      exact Or.inl rfl
    | alreadyInState status =>
      obtain rfl : _ = entry := by simpa [recorded] using h
      exact Or.inr rfl
    | conflict source target status =>
      obtain rfl : _ = entry := by simpa [recorded] using h
      exact Or.inr rfl
    | unknownPayment => simp [recorded] at h
    | duplicate => simp [recorded] at h
  | _ => simp [recorded] at h

theorem mem_processed {history : List Event} {entry : Entry} :
    entry ∈ processed history ↔ entry ∈ ledger history ∧ entry.status = .processed := by
  simp [processed, isProcessed]

theorem same_processed_entry {history : List Event} {db : Database} (h : Effective history db)
    {one other : Entry} (mem : one ∈ processed history) (memOther : other ∈ processed history)
    (same : one.callback.paymentId = other.callback.paymentId) : one = other :=
  List.inj_on_of_nodup_map h.single mem memOther same

structure LedgerSound (history : List Event) (s : System) : Prop where
  unique : ∀ i j event other, s.db.webhookEvents.find i = some event →
    s.db.webhookEvents.find j = some other → event.eventId = other.eventId → i = j
  noneReceived : ∀ i event, s.db.webhookEvents.find i = some event → event.status ≠ .received
  -- which callback an event row came from
  once : ((ledger history).map Entry.eventId).Nodup
  origin : ∀ i event, s.db.webhookEvents.find i = some event →
    ∃ entry ∈ ledger history, Describes entry event
  kept : ∀ entry ∈ ledger history, ∃ i event, s.db.webhookEvents.find i = some event ∧
    Describes entry event
  single : ∀ i j event other, s.db.webhookEvents.find i = some event →
    s.db.webhookEvents.find j = some other → event.status = .processed →
    other.status = .processed → event.paymentId = other.paymentId → i = j
  effect : ∀ i event entry, s.db.webhookEvents.find i = some event → event.status = .processed →
    entry ∈ ledger history → Describes entry event →
    ∀ later t, Run Step s later t →
      ∃ p, row t event.paymentId = some p ∧ p.status = entry.callback.reported.status
  -- callbacks of the run that left the payments alone
  frame : ∀ before callback result after m n,
    history = before ++ .webhook callback result :: after →
    Run Step System.init before m → Step m (.webhook callback result) n → Run Step n after s →
    (result = .unknownPayment ∨ result = .duplicate ∨
      ∃ i event, s.db.webhookEvents.find i = some event ∧ event.eventId = callback.eventId ∧
        event.status = .ignored) →
    n.db.payments = m.db.payments
  redelivery : ∀ callback result t i event, s.db.webhookEvents.find i = some event →
    event.eventId = callback.eventId → Step s (.webhook callback result) t →
    t.db.payments = s.db.payments ∧ t.db.webhookEvents.find = s.db.webhookEvents.find

theorem webhook_ledger_sound {history : List Event} {s : System}
    (run : Run Step System.init history s) : LedgerSound history s := by
  have ledgered := run_ledgered run
  have effective := run_effective run
  have unique : ∀ i j event other, s.db.webhookEvents.find i = some event →
      s.db.webhookEvents.find j = some other → event.eventId = other.eventId → i = j :=
    s.db.webhookEvents.distinct
  refine ⟨unique, ?_, ledgered.once, ledgered.filed, ledgered.kept, ?_, ?_, ?_, ?_⟩
  · intro i event there received
    obtain ⟨entry, listed, describes⟩ := ledgered.filed i event there
    obtain ⟨e, -, shown⟩ := List.mem_filterMap.mp listed
    have status := describes.status
    rcases recorded_status shown with done | ignored
    · rw [received, done] at status
      simp at status
    · rw [received, ignored] at status
      simp at status
  · intro i j event other there thereOther done doneOther same
    obtain ⟨entry, listed, describes⟩ := ledgered.filed i event there
    obtain ⟨entryOther, listedOther, describesOther⟩ := ledgered.filed j other thereOther
    have member := mem_processed.mpr ⟨listed, describes.status.symm.trans done⟩
    have memberOther := mem_processed.mpr ⟨listedOther, describesOther.status.symm.trans doneOther⟩
    have payment : entry.callback.paymentId = entryOther.callback.paymentId := by
      rw [← describes.paymentId, ← describesOther.paymentId, same]
    obtain rfl := same_processed_entry effective member memberOther payment
    exact unique i j event other there thereOther (describes.eventId.trans describesOther.eventId.symm)
  · intro i event entry there done listed describes later t rest
    have member := mem_processed.mpr ⟨listed, describes.status.symm.trans done⟩
    obtain ⟨p, found, status⟩ := effective.settled entry member
    have terminal : isTerminal p.status = true := by
      rw [status]
      exact reported_terminal _
    rw [← describes.paymentId] at found
    exact ⟨p, PaymentLifecycle.run_keeps_settled rest found terminal, status⟩
  · intro before callback result after m n shape first step last outcome
    apply refused_callback_frame (does_commit step) ?_
    intro status applied
    subst applied
    rcases outcome with unknown | duplicate | ⟨i, event, there, key, ignored⟩
    · simp at unknown
    · simp at duplicate
    · have listed : ⟨callback, .processed⟩ ∈ ledger history := by
        rw [shape]
        simp [ledger, recorded]
      obtain ⟨j, other, thereOther, describes⟩ := ledgered.kept _ listed
      obtain rfl := unique i j event other there thereOther (key.trans describes.eventId.symm)
      rw [there] at thereOther
      obtain rfl := Option.some.inj thereOther
      have processed_ := describes.status
      rw [ignored] at processed_
      simp at processed_
  · intro callback result t i event there key step
    exact redelivery_frame (does_commit step) there key

def callbackRun : List Action :=
  [.initiate 0 ⟨3, 60000, 3000⟩ ⟨"order-123", 4200, "INR"⟩, .api 0 .insert,
    .webhook ⟨"evt_1", 1, .success, some "gw_abc", none⟩,
    .webhook ⟨"evt_1", 1, .failed, none, none⟩, .webhook ⟨"evt_2", 1, .failed, none, none⟩,
    .webhook ⟨"evt_3", 9, .success, none, none⟩]

/-- An early callback, its id reused, a conflicting one, and an unknown payment. -/
theorem callbacks_of_one_payment :
    LedgerSound (replay exec Action.any System.init callbackRun).1
        (replay exec Action.any System.init callbackRun).2 ∧
      (ledger (replay exec Action.any System.init callbackRun).1).map
          (fun entry => (entry.eventId, entry.status)) =
        [("evt_1", .processed), ("evt_2", .ignored)] :=
  ⟨webhook_ledger_sound (replay_run exec Action.any System.init callbackRun), by decide⟩

end WebhookLedger
