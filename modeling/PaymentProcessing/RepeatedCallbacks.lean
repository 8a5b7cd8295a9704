import PaymentProcessing.ServiceStatements
import PaymentProcessing.WebhookLedger

/-!
Callbacks that are delivered again, or before their payment exists, could as
well not have been sent. The only trace they leave is in the surrogate ids of
webhook_events, which nothing but markProcessed reads: databases with the same
image take the same steps to the same images.
-/
namespace RepeatedCallbacks
open KeyedTable TransitionRuns RowLocking PaymentStateMachine PaymentRepositories PaymentService
open WebhookService PaymentTransactions PaymentSystem SystemSteps ServiceStatements WebhookLedger

variable {db other : Database}

/-- Equal payments, and webhook events that differ in their surrogate ids at most. -/
structure Matches (other db : Database) : Prop where
  payments : other.payments = db.payments
  rows : image other = image db

theorem matches_refl (db : Database) : Matches db db := ⟨rfl, rfl⟩

theorem matches_symm (h : Matches other db) : Matches db other := ⟨h.payments.symm, h.rows.symm⟩

theorem matches_trans {one two three : Database} (h : Matches three two) (h' : Matches two one) :
    Matches three one :=
  ⟨h.payments.trans h'.payments, h.rows.trans h'.rows⟩

theorem matches_of_rows (rows : image other = image db)
    (next : other.payments.next = db.payments.next) : Matches other db := by
  refine ⟨?_, rows⟩
  have find : other.payments.find = db.payments.find := by
    funext id
    exact congrFun rows (RowKey.payment id)
  obtain ⟨⟨find', next', bounded, keyed, distinct⟩, events⟩ := db
  obtain ⟨⟨find'', next'', bounded', keyed', distinct'⟩, events'⟩ := other
  subst next find
  rfl

/-- Only an INSERT moves the counter of the payments. -/
theorem commit_next {db' : Database} {e : Event} (commit : Commit db e db')
    (known : ∀ call id, e ≠ .insert call id) : db'.payments.next = db.payments.next := by
  cases commit with
  | insert call key amount currency maxAttempts now => exact absurd rfl (known _ _)
  | idle e outside => rfl
  | claim run id now =>
    unfold PaymentService.claim
    split
    · rfl
    · split <;> rfl
  | settle run id answer now =>
    unfold PaymentService.settle
    split
    · rfl
    · split
      · rfl
      · cases answer with
        | ok result =>
          dsimp only
          split <;> rfl
        | error err =>
          dsimp only
          split <;> rfl
  | recover id now =>
    unfold PaymentService.recoverStalePayment
    split
    · rfl
    · split
      · rfl
      · split <;> rfl
  | fail id reason now =>
    unfold PaymentService.failPayment
    split
    · rfl
    · split <;> rfl
  | webhook callback now =>
    have spec := handleWebhook_spec db callback now
    generalize (WebhookService.handleWebhook db callback now).1 = result at spec
    generalize (WebhookService.handleWebhook db callback now).2 = after at spec
    cases spec <;> rfl

/-- A program answers alike from matching databases and leaves matching ones. -/
theorem run_alike {Result : Type} {p : Statements Result} {answer answer' : Result}
    {after after' : Database} {e e' : Event} (same : Matches other db)
    (one : p.run (image db) = (answer, image after))
    (two : p.run (image other) = (answer', image after')) (commit : Commit db e after)
    (commit' : Commit other e' after') (known : ∀ call id, e ≠ .insert call id ∧
      e' ≠ .insert call id) : answer' = answer ∧ Matches after' after := by
  have next := commit_next commit (fun call id => (known call id).1)
  have next' := commit_next commit' (fun call id => (known call id).2)
  rw [same.rows, one] at two
  refine ⟨(congrArg Prod.fst two).symm, matches_of_rows (congrArg Prod.snd two).symm ?_⟩
  rw [next, next', same.payments]

theorem claim_alike (same : Matches other db) (id now : Nat) :
    (PaymentService.claim other id now).1 = (PaymentService.claim db id now).1 ∧
      Matches (PaymentService.claim other id now).2 (PaymentService.claim db id now).2 :=
  run_alike same (claim_run db id now) (claim_run other id now) (Commit.claim db 0 id now)
    (Commit.claim other 0 id now) (by simp)

theorem settle_alike (same : Matches other db) (id : Nat)
    (answer : Except GatewayError ChargeResult) (now : Nat) :
    (PaymentService.settle other id answer now).1 = (PaymentService.settle db id answer now).1 ∧
      Matches (PaymentService.settle other id answer now).2
        (PaymentService.settle db id answer now).2 :=
  run_alike same (settle_run db id answer now) (settle_run other id answer now)
    (Commit.settle db 0 id answer now) (Commit.settle other 0 id answer now) (by simp)

theorem recover_alike (same : Matches other db) (id now : Nat) :
    (PaymentService.recoverStalePayment other id now).1 =
        (PaymentService.recoverStalePayment db id now).1 ∧
      Matches (PaymentService.recoverStalePayment other id now).2
        (PaymentService.recoverStalePayment db id now).2 :=
  run_alike same (recoverStalePayment_run db id now) (recoverStalePayment_run other id now)
    (Commit.recover db id now) (Commit.recover other id now) (by simp)

theorem fail_alike (same : Matches other db) (id : Nat) (reason : String) (now : Nat) :
    (PaymentService.failPayment other id reason now).1 =
        (PaymentService.failPayment db id reason now).1 ∧
      Matches (PaymentService.failPayment other id reason now).2
        (PaymentService.failPayment db id reason now).2 :=
  run_alike same (failPayment_run db id reason now) (failPayment_run other id reason now)
    (Commit.fail db id reason now) (Commit.fail other id reason now) (by simp)

theorem webhook_alike (same : Matches other db) (callback : Callback) (now : Nat) :
    (WebhookService.handleWebhook other callback now).1 =
        (WebhookService.handleWebhook db callback now).1 ∧
      Matches (WebhookService.handleWebhook other callback now).2
        (WebhookService.handleWebhook db callback now).2 :=
  run_alike same (handleWebhook_run db callback now) (handleWebhook_run other callback now)
    (Commit.webhook db callback now) (Commit.webhook other callback now) (by simp)

theorem insert_alike (same : Matches other db) (key : String) (amount : Int) (currency : String)
    (maxAttempts now : Nat) :
    (PaymentRepositories.insertPayment other key amount currency maxAttempts now).1 =
        (PaymentRepositories.insertPayment db key amount currency maxAttempts now).1 ∧
      Matches (PaymentRepositories.insertPayment other key amount currency maxAttempts now).2
        (PaymentRepositories.insertPayment db key amount currency maxAttempts now).2 := by
  unfold PaymentRepositories.insertPayment
  rw [same.payments]
  refine ⟨rfl, rfl, ?_⟩
  funext row
  cases row with
  | event eventId => exact congrFun same.rows (.event eventId)
  | _ => rfl

theorem workerStep_alike {now : Nat} {db' : Database} {queue queue' : PaymentQueue} {run : Nat}
    {r r' : ProcessCall} {move : WorkerMove} {e : Event} (same : Matches other db)
    (h : workerStep now db queue run r move = some (e, db', queue', r')) :
    ∃ other', workerStep now other queue run r move = some (e, other', queue', r') ∧
      Matches other' db' := by
  obtain ⟨phase, rfl, spec⟩ := workerStep_spec h
  cases spec with
  | claim here =>
    obtain ⟨answer, rows⟩ := claim_alike same r.paymentId now
    exact ⟨_, by simp only [workerStep, here, answer], rows⟩
  | settle here =>
    rename_i answer
    obtain ⟨result, rows⟩ := settle_alike same r.paymentId answer now
    exact ⟨_, by simp only [workerStep, here, result], rows⟩
  | handled here =>
    rename_i reason
    obtain ⟨result, rows⟩ := fail_alike same r.paymentId reason now
    exact ⟨_, by simp only [workerStep, here, result], rows⟩
  | claimThrew err here => exact ⟨other, by simp only [workerStep, here], same⟩
  | charge timeoutMs a here => exact ⟨other, by simp only [workerStep, here], same⟩
  | reply here => exact ⟨other, by simp only [workerStep, here], same⟩
  | settleThrew err here => exact ⟨other, by simp only [workerStep, here], same⟩
  | completed config here job => exact ⟨other, by simp only [workerStep, here, job], same⟩
  | failed config here job => exact ⟨other, by simp only [workerStep, here, job], same⟩
  | handlerErrored err here => exact ⟨other, by simp only [workerStep, here], same⟩
  | crash =>
    refine ⟨other, ?_, same⟩
    cases here : r.phase <;> simp_all [workerStep]

theorem apiStep_alike {now : Nat} {db' : Database} {queue queue' : PaymentQueue} {call : Nat}
    {c c' : ApiCall} {move : ApiMove} {e : Event} (same : Matches other db)
    (h : apiStep now db queue call c move = some (e, db', queue', c')) :
    ∃ other', apiStep now other queue call c move = some (e, other', queue', c') ∧
      Matches other' db' := by
  have tables := same.payments
  have inserted := insert_alike same c.request.idempotencyKey c.request.amount c.request.currency
    c.config.maxPaymentAttempts now
  obtain ⟨phase, rfl, spec⟩ := apiStep_spec h
  cases spec with
  | @inserted id _ here wrote =>
    rw [wrote] at inserted
    obtain ⟨answer, rows⟩ := inserted
    refine ⟨_, ?_, rows⟩
    simp only [apiStep, here]
    split
    · rename_i other' wrote'
      simp_all
    · simp_all
  | refused here wrote =>
    rw [wrote] at inserted
    obtain ⟨answer, rows⟩ := inserted
    refine ⟨_, ?_, rows⟩
    simp only [apiStep, here]
    split
    · simp_all
    · rename_i other' wrote'
      rw [wrote']
      rfl
  | read here found =>
    refine ⟨other, ?_, same⟩
    rw [← tables] at found
    simp only [apiStep, here, findById, found]
  | unread here absent =>
    refine ⟨other, ?_, same⟩
    rw [← tables] at absent
    simp only [apiStep, here, findById, absent]
    rfl
  | enqueued here => exact ⟨other, by simp only [apiStep, here], same⟩
  | enqueueThrew err here => exact ⟨other, by simp only [apiStep, here], same⟩
  | lookedUp here =>
    exact ⟨other, by simp only [apiStep, here, findByIdempotencyKey, tables], same⟩
  | crash running =>
    refine ⟨other, ?_, same⟩
    cases here : c.phase <;> simp_all [apiStep]

theorem sweepStep_alike {now : Nat} {db' : Database} {queue queue' : PaymentQueue} {sweep : Nat}
    {w w' : Sweep} {move : SweepMove} {e : Event} (same : Matches other db)
    (h : sweepStep now db queue sweep w move = some (e, db', queue', w')) :
    ∃ other', sweepStep now other queue sweep w move = some (e, other', queue', w') ∧
      Matches other' db' := by
  obtain ⟨phase, rfl, spec⟩ := sweepStep_spec h
  cases spec with
  | @recover row rest here =>
    obtain ⟨result, rows⟩ := recover_alike same row.id now
    exact ⟨_, by simp only [sweepStep, here, result], rows⟩
  | recoverThrew err here => exact ⟨other, by simp only [sweepStep, here], same⟩
  | removed here removal =>
    exact ⟨other, by simp only [sweepStep, here, removal, Option.getD_some], same⟩
  | @kept _ _ error here refused =>
    refine ⟨other, ?_, same⟩
    cases error with
    | none => simp only [sweepStep, here, refused rfl, Option.getD_none]
    | some err => simp only [sweepStep, here]
  | enqueued here => exact ⟨other, by simp only [sweepStep, here], same⟩
  | enqueueThrew err here => exact ⟨other, by simp only [sweepStep, here], same⟩
  | crash =>
    refine ⟨other, ?_, same⟩
    cases here : w.phase <;> simp_all [sweepStep]

/-- States that differ in the surrogate ids of webhook_events at most. -/
def Alike (s t : System) : Prop := ∃ other, Matches other s.db ∧ t = { s with db := other }

theorem exec_alike {s t : System} {a : Action} {e : Event} {other : Database}
    (same : Matches other s.db) (done : exec s a = some (e, t)) :
    ∃ other', exec { s with db := other } a = some (e, { t with db := other' }) ∧
      Matches other' t.db := by
  cases a with
  | tick ms =>
    cases done
    exact ⟨other, rfl, same⟩
  | initiate call config request =>
    simp only [exec] at done ⊢
    split at done
    · cases done
    · rename_i fresh
      cases done
      exact ⟨other, rfl, same⟩
  | api call move =>
    simp only [exec] at done ⊢
    split at done
    · cases done
    · rename_i c present
      obtain ⟨⟨e', db', queue, c'⟩, one, eq⟩ := Option.map_eq_some_iff.mp done
      cases eq
      obtain ⟨other', two, rows⟩ := apiStep_alike same one
      exact ⟨other', by simp only [two, Option.map_some], rows⟩
  | process run paymentId =>
    simp only [exec] at done ⊢
    split at done
    · cases done
    · rename_i fresh
      cases done
      exact ⟨other, rfl, same⟩
  | pick run jobId =>
    simp only [exec] at done ⊢
    split at done
    · cases done
    · rename_i fresh
      obtain ⟨⟨data, queue⟩, took, eq⟩ := Option.map_eq_some_iff.mp done
      cases eq
      exact ⟨other, by simp only [took, Option.map_some], same⟩
  | worker run move =>
    simp only [exec] at done ⊢
    split at done
    · cases done
    · rename_i r present
      obtain ⟨⟨e', db', queue, r'⟩, one, eq⟩ := Option.map_eq_some_iff.mp done
      cases eq
      obtain ⟨other', two, rows⟩ := workerStep_alike same one
      exact ⟨other', by simp only [two, Option.map_some], rows⟩
  | expire jobId =>
    cases done
    exact ⟨other, rfl, same⟩
  | stall jobId =>
    cases done
    exact ⟨other, rfl, same⟩
  | reconcile sweep config =>
    simp only [exec] at done ⊢
    split at done
    · cases done
    · rename_i fresh
      cases done
      refine ⟨other, ?_, same⟩
      simp only [startSweep, findStale, same.payments]
  | sweep sweep move =>
    simp only [exec] at done ⊢
    split at done
    · cases done
    · rename_i w present
      obtain ⟨⟨e', db', queue, w'⟩, one, eq⟩ := Option.map_eq_some_iff.mp done
      cases eq
      obtain ⟨other', two, rows⟩ := sweepStep_alike same one
      exact ⟨other', by simp only [two, Option.map_some], rows⟩
  | recover paymentId =>
    simp only [exec, Option.some.injEq, Prod.mk.injEq] at done
    obtain ⟨rfl, rfl⟩ := done
    obtain ⟨result, rows⟩ := recover_alike same paymentId s.now
    exact ⟨_, by simp only [exec, result], rows⟩
  | failPayment paymentId reason =>
    simp only [exec, Option.some.injEq, Prod.mk.injEq] at done
    obtain ⟨rfl, rfl⟩ := done
    obtain ⟨result, rows⟩ := fail_alike same paymentId reason s.now
    exact ⟨_, by simp only [exec, result], rows⟩
  | webhook callback =>
    simp only [exec, Option.some.injEq, Prod.mk.injEq] at done
    obtain ⟨rfl, rfl⟩ := done
    obtain ⟨result, rows⟩ := webhook_alike same callback s.now
    exact ⟨_, by simp only [exec, result], rows⟩

theorem alike_picks (s s' : System) (l : Action × Event) (t : System) (alike : Alike s s')
    (step : Picks exec Action.any s l t) : ∃ t', Picks exec Action.any s' l t' ∧ Alike t t' := by
  obtain ⟨other, same, rfl⟩ := alike
  obtain ⟨-, done⟩ := step
  obtain ⟨other', there, rows⟩ := exec_alike same done
  exact ⟨_, ⟨trivial, there⟩, other', rows, rfl⟩

theorem alike_step (s s' : System) (e : Event) (t : System) (alike : Alike s s')
    (step : Step s e t) : ∃ t', Step s' e t' ∧ Alike t t' := by
  obtain ⟨a, allowed, done⟩ := step
  obtain ⟨t', ⟨-, there⟩, after⟩ := alike_picks s s' (a, e) t alike ⟨allowed, done⟩
  exact ⟨t', ⟨a, trivial, there⟩, after⟩

theorem alike_refl (s : System) : Alike s s := ⟨s.db, matches_refl s.db, rfl⟩

theorem alike_symm {s t : System} (h : Alike s t) : Alike t s := by
  obtain ⟨other, same, rfl⟩ := h
  exact ⟨s.db, matches_symm same, rfl⟩

theorem alike_trans {s t u : System} (first : Alike s t) (second : Alike t u) : Alike s u := by
  obtain ⟨db, same, rfl⟩ := first
  obtain ⟨other, same', rfl⟩ := second
  exact ⟨other, matches_trans same' same, rfl⟩

/-- Whether the label is a callback for an event or a payment that made it a no-op. -/
def repeated : Event → Bool
  | .webhook _ .duplicate | .webhook _ .unknownPayment => true
  | _ => false

def sent : Event → Option String
  | .webhook callback _ => some callback.eventId
  | _ => none

theorem webhook_step {s t : System} {callback : Callback} {result : WebhookResult}
    (step : Step s (.webhook callback result) t) :
    result = (WebhookService.handleWebhook s.db callback s.now).1 ∧
      t = { s with db := (WebhookService.handleWebhook s.db callback s.now).2 } := by
  obtain ⟨a, -, done⟩ := step
  have move := exec_move done
  generalize label : Event.webhook callback result = e at move
  cases move with
  | webhook given =>
    obtain ⟨rfl, rfl⟩ := Event.webhook.inj label
    exact ⟨rfl, rfl⟩
  | api call move present spec => cases spec <;> simp at label
  | worker run move present spec => cases spec <;> simp at label
  | sweep sweep move present spec => cases spec <;> simp at label
  | _ => simp at label

theorem repeated_alike {s t : System} {e : Event} (step : Step s e t) (idle : repeated e = true) :
    Alike s t := by
  cases e with
  | webhook callback result =>
    obtain ⟨shown, rfl⟩ := webhook_step step
    have spec := handleWebhook_spec s.db callback s.now
    rw [← shown] at spec
    refine ⟨_, ?_, rfl⟩
    generalize (WebhookService.handleWebhook s.db callback s.now).2 = after at spec ⊢
    cases spec with
    | unknown absent => exact matches_refl s.db
    | duplicate there key same => exact ⟨rfl, image_same_events same⟩
    | _ => simp [repeated] at idle
  | _ => simp [repeated] at idle

theorem recorded_kept (e : Event) (kept : repeated e = false) :
    sent e = (recorded e).map Entry.eventId := by
  cases e with
  | webhook callback result => cases result <;> first | rfl | simp [repeated] at kept
  | _ => rfl

theorem sent_ledger (history : List Event) :
    (history.filter (fun e => !repeated e)).filterMap sent =
      (ledger history).map Entry.eventId := by
  induction history with
  | nil => rfl
  | cons e rest ih =>
    cases kept : repeated e with
    | true =>
      have unrecorded : recorded e = none := by
        cases e with
        | webhook callback result => cases result <;> first | rfl | simp [repeated] at kept
        | _ => rfl
      simpa [kept, ledger, unrecorded] using ih
    | false =>
      have same := recorded_kept e kept
      rw [List.filter_cons_of_pos (by simp [kept]), List.filterMap_cons, same, ih]
      cases entry : recorded e with
      | none => simp [ledger, entry]
      | some one => simp [ledger, entry]

/-- Every run does what a run does in which the provider calls back once for
    each event, and only about payments that exist. -/
theorem repeated_callbacks_unseen {history : List Event} {s : System}
    (run : Run Step System.init history s) :
    ∃ t, Run Step System.init (history.filter (fun e => !repeated e)) t ∧ Alike s t ∧
      t.db.payments = s.db.payments ∧
      ((history.filter (fun e => !repeated e)).filterMap sent).Nodup := by
  have idle : ∀ u u' e v, Alike u u' → Step u e v → (!repeated e) = false → Alike v u' := by
    intro u u' e v alike step idle
    have same := repeated_alike step (by simpa using idle)
    exact alike_trans (alike_symm same) alike
  obtain ⟨t, run', alike⟩ := run_erased Alike _ alike_step idle run (alike_refl System.init)
  refine ⟨t, run', alike, ?_, ?_⟩
  · obtain ⟨other, same, rfl⟩ := alike
    exact same.payments
  · rw [sent_ledger]
    exact (run_ledgered run).once

/-- Of four callbacks, one reuses an event_id and one names an unknown payment. -/
theorem two_callbacks_count : ∃ t,
    Run Step System.init ((replay exec Action.any System.init callbackRun).1.filter
        (fun e => !repeated e)) t ∧
      Alike (replay exec Action.any System.init callbackRun).2 t ∧
      ((replay exec Action.any System.init callbackRun).1.filter
        (fun e => !repeated e)).filterMap sent = ["evt_1", "evt_2"] := by
  obtain ⟨t, run, alike, -⟩ :=
    repeated_callbacks_unseen (replay_run exec Action.any System.init callbackRun)
  exact ⟨t, run, alike, by decide⟩

theorem recorded_repeated {history : List Event} {s : System} (run : Run Step System.init history s)
    {callback : Callback} (known : callback.eventId ∈ (ledger history).map Entry.eventId) :
    repeated (.webhook callback (WebhookService.handleWebhook s.db callback s.now).1) = true := by
  obtain ⟨entry, listed, key⟩ := List.mem_map.mp known
  obtain ⟨i, event, there, describes⟩ := (run_ledgered run).kept entry listed
  have carries : event.eventId = callback.eventId := describes.eventId.trans key
  have spec := handleWebhook_spec s.db callback s.now
  generalize (WebhookService.handleWebhook s.db callback s.now).1 = result at spec ⊢
  generalize (WebhookService.handleWebhook s.db callback s.now).2 = after at spec
  cases spec with
  | unknown absent => rfl
  | duplicate _ _ same => rfl
  | already found reached fresh => exact absurd carries (fresh.others i event there)
  | conflict found other illegal fresh => exact absurd carries (fresh.others i event there)
  | applied found legal fresh => exact absurd carries (fresh.others i event there)

/-- A recorded callback may come again at any point of a run: the rest of the
    run takes the same actions with the same answers. -/
theorem callbacks_may_repeat {before after : List (Action × Event)} {s : System}
    (run : Run (Picks exec Action.any) System.init (before ++ after) s) (callback : Callback)
    (known : callback.eventId ∈
      ((before.map Prod.snd).filter (fun e => !repeated e)).filterMap sent) :
    ∃ result t,
      Run (Picks exec Action.any) System.init
        (before ++ (.webhook callback, .webhook callback result) :: after) t ∧
      repeated (.webhook callback result) = true ∧ Alike s t := by
  obtain ⟨m, first, rest⟩ := run_split run
  rw [sent_ledger] at known
  have idle := recorded_repeated (picks_does first) known
  have again : Picks exec Action.any m
      (.webhook callback,
        .webhook callback (WebhookService.handleWebhook m.db callback m.now).1)
      { m with db := (WebhookService.handleWebhook m.db callback m.now).2 } :=
    ⟨trivial, rfl⟩
  have same := repeated_alike ⟨.webhook callback, trivial, rfl⟩ idle
  obtain ⟨t, later, alike⟩ := run_mimicked Alike alike_picks rest same
  refine ⟨_, t, ?_, idle, alike⟩
  exact run_append first (run_append (run_single again) later)

theorem first_callback_again :
    let labels := (replay (shown exec) Action.any System.init callbackRun).1
    let again : Callback := ⟨"evt_1", 1, .success, some "gw_abc", none⟩
    labels.map Prod.fst = callbackRun ∧ ∃ result t,
      Run (Picks exec Action.any) System.init
        (labels.take 3 ++ (.webhook again, .webhook again result) :: labels.drop 3) t ∧
      Alike (replay (shown exec) Action.any System.init callbackRun).2 t := by
  refine ⟨rfl, ?_⟩
  have run := shown_picks (replay_run (shown exec) Action.any System.init callbackRun)
  rw [← List.take_append_drop 3 (replay (shown exec) Action.any System.init callbackRun).1] at run
  obtain ⟨result, t, more, -, alike⟩ :=
    callbacks_may_repeat run ⟨"evt_1", 1, .success, some "gw_abc", none⟩ (by decide)
  exact ⟨result, t, more, alike⟩

end RepeatedCallbacks
