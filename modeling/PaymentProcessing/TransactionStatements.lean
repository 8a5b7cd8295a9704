import PaymentProcessing.ServiceStatements

/-!
Concurrent transactions of the services over row locks. The auto-increment
counter is no row: an INSERT draws its id when it begins, nobody waits for the
counter, and no rollback turns it back. The committed rows are those of the same
transactions one after the other.
-/
namespace TransactionStatements
open KeyedTable TransitionRuns RowLocking
open PaymentStateMachine PaymentRepositories WebhookService PaymentTransactions ServiceStatements

def Draws (p : Statements Event) (id : Nat) : Prop :=
  ∃ call key amount currency maxAttempts now,
    p = (Operation.insert call key amount currency maxAttempts now).statements id

/-- One transaction on its own, with its answer; an INSERT brings an id that no
    payment has. -/
inductive Serial (db : Database) : Statements Event × Event → Database → Prop where
  | alone (op : Operation) (id : Nat)
      (fresh : Draws (op.statements id) id → findById db id = none) :
      Serial db (op.statements id, (op.perform db id).1) (op.perform db id).2

theorem perform_row (op : Operation) (db : Database) (drawn id : Nat) :
    RowMove id (db.payments.find id) (op.perform db drawn).1
      ((op.perform db drawn).2.payments.find id) := by
  cases op with
  | insert call key amount currency maxAttempts now =>
    by_cases free : findByIdempotencyKey db key = none ∧ findById db drawn = none
    · obtain ⟨answer, shape, -⟩ := insertAs_free free amount currency maxAttempts now
      simp only [Operation.perform, answer]
      change RowMove id _ _ (findById _ id)
      rw [shape]
      by_cases same : id = drawn
      · subst same
        rw [if_pos rfl, show db.payments.find id = none from free.2]
        exact RowMove.create call key amount currency maxAttempts now
      · rw [if_neg same]
        exact RowMove.stay (by simp [Event.writes, Ne.symm same])
    · obtain ⟨answer, same, -⟩ := insertAs_taken free amount currency maxAttempts now
      simp only [Operation.perform, answer, same]
      exact RowMove.stay rfl
  | claim run pid now => exact commit_row (Commit.claim db run pid now) id
  | settle run pid answer now => exact commit_row (Commit.settle db run pid answer now) id
  | recover pid now => exact commit_row (Commit.recover db pid now) id
  | fail pid reason now => exact commit_row (Commit.fail db pid reason now) id
  | webhook callback now => exact commit_row (Commit.webhook db callback now) id

theorem serial_row {db db' : Database} {done : Statements Event × Event}
    (serial : Serial db done db') (id : Nat) :
    RowMove id (db.payments.find id) done.2 (db'.payments.find id) := by
  obtain ⟨op, drawn, fresh⟩ := serial
  exact perform_row op db drawn id

/-- The sessions and the auto-increment counter of the payments. -/
structure Sessions extends State RowKey.Row Event where
  next : Nat

def Sessions.on (db : Database) : Sessions := ⟨State.start (image db), db.payments.next⟩

/-- A transaction begins with the id that the counter has for it, or one goes on. -/
inductive Interleaving : Sessions → Label RowKey.Row Event → Sessions → Prop where
  | opening {s : Sessions} (i : Nat) (op : Operation) (fresh : s.sessions i = none) :
      Interleaving s (.opening i)
        { committed := s.committed
          sessions := Function.update s.sessions i (some (opened (op.statements s.next)))
          next := op.counter s.next }
  | goOn {s : Sessions} {l : Label RowKey.Row Event} {rows : State RowKey.Row Event}
      (step : Step (fun _ => False) s.toState l rows) : Interleaving s l ⟨rows, s.next⟩

theorem interleaving_step {s t : Sessions} {l : Label RowKey.Row Event}
    (step : Interleaving s l t) : Step Service s.toState l t.toState := by
  cases step with
  | opening i op fresh => exact Step.opening i _ fresh ⟨op, s.next, rfl⟩
  | goOn step => exact step_admits (fun p none_ => none_.elim) step

theorem interleaving_run {s t : Sessions} {labels : List (Label RowKey.Row Event)}
    (run : Run Interleaving s labels t) : Run (Step Service) s.toState labels t.toState := by
  induction run with
  | nil => exact Run.nil
  | snoc before last ih => exact Run.snoc ih (interleaving_step last)

/-- The answers of the transactions that committed, in the order of their commits. -/
def answers (labels : List (Label RowKey.Row Event)) : List Event :=
  (labels.filterMap Label.committed).map Prod.snd

theorem draws_answer {p : Statements Event} {id : Nat} (draws : Draws p id) :
    ∃ call, (p.run (fun _ => none)).1 = .insert call (some id) := by
  obtain ⟨call, key, amount, currency, maxAttempts, now, rfl⟩ := draws
  exact ⟨call, rfl⟩

theorem draws_begun {op : Operation} {next id : Nat} (draws : Draws (op.statements next) id) :
    id = next ∧ op.counter next = next + 1 := by
  obtain ⟨call, answer⟩ := draws_answer draws
  cases op with
  | insert call' key amount currency maxAttempts now =>
    have given : ((Operation.insert call' key amount currency maxAttempts now).statements next).run
        (fun _ => none) = (.insert call' (some next), _) := rfl
    rw [given] at answer
    simp only [Event.insert.injEq, Option.some.injEq] at answer
    exact ⟨answer.2.symm, rfl⟩
  | _ =>
    rw [Operation.statements, run_map] at answer
    cases answer

theorem created_draws {op : Operation} {db : Database} {next call id : Nat}
    (answer : (op.perform db next).1 = .insert call (some id)) :
    Draws (op.statements next) id := by
  cases op with
  | insert call' key amount currency maxAttempts now =>
    have own : id = next := by
      simp only [Operation.perform, insertPaymentAs, Event.insert.injEq] at answer
      obtain ⟨-, answer⟩ := answer
      split at answer
      · exact (Option.some.inj answer).symm
      · cases answer
    subst own
    exact ⟨call', key, amount, currency, maxAttempts, now, rfl⟩
  | _ => simp [Operation.perform] at answer

/-- No payment has an id that is still to be inserted, and no two INSERTs have one. -/
structure Drawn (s : Sessions) : Prop where
  below : ∀ i t id, s.sessions i = some t → Draws t.origin id →
    id < s.next ∧ s.committed (.payment id) = none
  apart : ∀ i j t u id, s.sessions i = some t → s.sessions j = some u → Draws t.origin id →
    Draws u.origin id → i = j
  unborn : ∀ id, s.next ≤ id → s.committed (.payment id) = none

/-- A database with the committed rows, and what holds of the open sessions. -/
structure Consistent (s : Sessions) (db : Database) : Prop where
  rows : image db = s.committed
  isolated : Isolated Service s.toState
  drawn : Drawn s

theorem on_consistent (db : Database) : Consistent (Sessions.on db) db where
  rows := rfl
  isolated := start_isolated (image db)
  drawn := by
    refine ⟨?_, ?_, db.payments.bounded⟩
    · intro i t id present
      simp [Sessions.on, State.start] at present
    · intro i j t u id present
      simp [Sessions.on, State.start] at present

theorem opening_drawn {s : Sessions} (h : Drawn s) (i : Nat) (op : Operation) :
    Drawn { committed := s.committed
            sessions := Function.update s.sessions i (some (opened (op.statements s.next)))
            next := op.counter s.next } := by
  have grown : s.next ≤ op.counter s.next := by
    cases op <;> simp [Operation.counter]
  refine ⟨?_, ?_, fun id above => h.unborn id (Nat.le_trans grown above)⟩
  · intro j t id present draws
    rcases update_session present with ⟨-, isNew⟩ | ⟨-, old⟩
    · obtain rfl := Option.some.inj isNew
      obtain ⟨rfl, counter⟩ := draws_begun draws
      refine ⟨?_, h.unborn _ (Nat.le_refl _)⟩
      change s.next < op.counter s.next
      rw [counter]
      exact Nat.lt_succ_self _
    · obtain ⟨below, free⟩ := h.below j t id old draws
      exact ⟨Nat.lt_of_lt_of_le below grown, free⟩
  · intro j k t u id present present' draws draws'
    rcases update_session present with ⟨at_i, isNew⟩ | ⟨-, old⟩
    · obtain rfl := Option.some.inj isNew
      rcases update_session present' with ⟨at_i', -⟩ | ⟨-, old'⟩
      · rw [at_i, at_i']
      · have below := (h.below k u id old' draws').1
        rw [(draws_begun draws).1] at below
        exact absurd below (Nat.lt_irrefl _)
    · rcases update_session present' with ⟨-, isNew⟩ | ⟨-, old'⟩
      · obtain rfl := Option.some.inj isNew
        have below := (h.below j t id old draws).1
        rw [(draws_begun draws').1] at below
        exact absurd below (Nat.lt_irrefl _)
      · exact h.apart j k t u id old old' draws draws'

/-- A session that goes on keeps its program, one that ends is gone; only its own
    id can have come to a payment. -/
theorem going_drawn {s : Sessions} {rows : State RowKey.Row Event} {i : Nat}
    {t : Session RowKey.Row Event} (h : Drawn s) (present : s.sessions i = some t)
    (kept : ∀ j u, rows.sessions j = some u → ∃ v, s.sessions j = some v ∧ v.origin = u.origin)
    (written : ∀ id, s.committed (.payment id) = none → rows.committed (.payment id) ≠ none →
      rows.sessions i = none ∧ Draws t.origin id) : Drawn ⟨rows, s.next⟩ := by
  have free : ∀ id, s.committed (.payment id) = none →
      (rows.sessions i = none → ¬ Draws t.origin id) → rows.committed (.payment id) = none := by
    intro id before foreign
    by_contra born
    obtain ⟨gone, draws⟩ := written id before born
    exact foreign gone draws
  constructor
  · intro j u id there draws
    obtain ⟨v, before, same⟩ := kept j u there
    rw [← same] at draws
    obtain ⟨below, absent⟩ := h.below j v id before draws
    refine ⟨below, free id absent ?_⟩
    intro gone draws'
    obtain rfl := h.apart j i v t id before present draws draws'
    rw [gone] at there
    cases there
  · intro j k u v id there there' draws draws'
    obtain ⟨x, before, same⟩ := kept j u there
    obtain ⟨y, before', same'⟩ := kept k v there'
    rw [← same] at draws
    rw [← same'] at draws'
    exact h.apart j k x y id before before' draws draws'
  · intro id above
    apply free id (h.unborn id above)
    intro _ draws
    exact absurd (h.below i t id present draws).1 (Nat.not_lt.mpr above)

theorem committing_serial {s : Sessions} {db : Database} (h : Consistent s db) {i : Nat}
    {u : Session RowKey.Row Event} {result : Event} (present : s.sessions i = some u)
    (here : u.rest = .answer result) :
    ∃ db', image db' = view s.committed u.overlay ∧ Serial db (u.origin, result) db' ∧
      ∀ id, findById db id = none → findById db' id ≠ none → Draws u.origin id := by
  have last : Step Service s.toState (.commit i u.origin result) _ := Step.commit i present here
  obtain ⟨⟨op, id, program⟩, alone⟩ := step_serial h.isolated last
  dsimp only at program alone
  have performed := statements_run op id db
  rw [program, h.rows, alone] at performed
  obtain ⟨answer, rows⟩ := Prod.mk.inj performed
  -- the id of an INSERT that is still open is in use by nobody
  have fresh : Draws (op.statements id) id → findById db id = none := by
    intro draws
    rw [program] at draws
    have free := (h.drawn.below i u id present draws).2
    rw [← h.rows] at free
    exact free
  have serial := Serial.alone op id fresh
  rw [program, ← answer] at serial
  refine ⟨_, rows.symm, serial, ?_⟩
  intro pid absent born
  have move := serial_row serial pid
  rw [show db.payments.find pid = none from absent] at move
  generalize after : (op.perform db id).2.payments.find pid = entry at move
  cases move with
  | stay quiet => exact absurd after born
  | create call key amount currency maxAttempts now =>
    rw [← program]
    exact created_draws answer.symm

theorem step_consistent {s t : Sessions} {l : Label RowKey.Row Event} {db : Database}
    (h : Consistent s db) (step : Interleaving s l t) :
    ∃ db', Consistent t db' ∧
      match l.committed with
      | none => db' = db
      | some done => Serial db done db' := by
  have isolated := step_isolated h.isolated (interleaving_step step)
  cases step with
  | opening i op fresh => exact ⟨db, ⟨h.rows, isolated, opening_drawn h.drawn i op⟩, rfl⟩
  | goOn step =>
    have unmoved : ∀ {i : Nat} {u v : Session RowKey.Row Event}, s.sessions i = some u →
        v.origin = u.origin → ∀ j x, Function.update s.sessions i (some v) j = some x →
          ∃ y, s.sessions j = some y ∧ y.origin = x.origin := by
      intro i u v present same j x there
      rcases update_session there with ⟨rfl, isNew⟩ | ⟨-, old⟩
      · obtain rfl := Option.some.inj isNew
        exact ⟨u, present, same.symm⟩
      · exact ⟨x, old, rfl⟩
    have gone : ∀ {i : Nat} j x, Function.update s.sessions i none j = some x →
        ∃ y, s.sessions j = some y ∧ y.origin = x.origin := by
      intro i j x there
      rcases update_session there with ⟨-, absent⟩ | ⟨-, old⟩
      · cases absent
      · exact ⟨x, old, rfl⟩
    cases step with
    | opening i p fresh known => exact known.elim
    | fetch i present here granted =>
      refine ⟨db, ⟨h.rows, isolated, ?_⟩, rfl⟩
      exact going_drawn h.drawn present (unmoved present rfl) (fun id free born => absurd free born)
    | store i present here granted =>
      refine ⟨db, ⟨h.rows, isolated, ?_⟩, rfl⟩
      exact going_drawn h.drawn present (unmoved present rfl) (fun id free born => absurd free born)
    | rollback i present =>
      refine ⟨db, ⟨h.rows, isolated, ?_⟩, rfl⟩
      exact going_drawn h.drawn present gone (fun id free born => absurd free born)
    | @commit i u result present here =>
      obtain ⟨db', rows, serial, own⟩ := committing_serial h present here
      refine ⟨db', ⟨rows, isolated, going_drawn h.drawn present gone ?_⟩, serial⟩
      intro id before after
      refine ⟨Function.update_self .., own id ?_ ?_⟩
      · rw [← h.rows] at before
        exact before
      · dsimp only at after
        rw [← rows] at after
        exact after

theorem run_consistent {s t : Sessions} {labels : List (Label RowKey.Row Event)} {db : Database}
    (h : Consistent s db) (run : Run Interleaving s labels t) :
    ∃ db', Consistent t db' ∧ Run Serial db (labels.filterMap Label.committed) db' := by
  induction run with
  | nil => exact ⟨db, h, Run.nil⟩
  | @snoc history m t l _ last ih =>
    obtain ⟨mid, good, before⟩ := ih
    obtain ⟨db', good', one⟩ := step_consistent good last
    refine ⟨db', good', ?_⟩
    rw [List.filterMap_append]
    cases committed : l.committed with
    | none =>
      rw [committed] at one
      subst one
      simpa [committed] using before
    | some done =>
      rw [committed] at one
      simpa [committed] using Run.snoc before one

/-- However the statements of concurrent transactions interleave, and whichever
    of them roll back, the database is one that the committed transactions leave
    one after the other, each with the answer that it gave and each INSERT with
    the id that it had drawn. -/
theorem interleavings_serialize (db : Database) (labels : List (Label RowKey.Row Event))
    (s : Sessions) (run : Run Interleaving (Sessions.on db) labels s) :
    ∃ db', Run Serial db (labels.filterMap Label.committed) db' ∧ image db' = s.committed := by
  obtain ⟨db', good, serial⟩ := run_consistent (on_consistent db) run
  exact ⟨db', serial, good.rows⟩

structure Desk where
  board : Board RowKey.Row Event
  next : Nat

def Desk.on (db : Database) : Desk := ⟨⟨image db, []⟩, db.payments.next⟩

def Desk.sessions (d : Desk) : Sessions := ⟨d.board.state, d.next⟩

inductive Turn where
  | opening (i : Nat) (op : Operation)
  | goOn (i : Nat)
  | rollback (i : Nat)

def Desk.turn (d : Desk) : Turn → Option (Label RowKey.Row Event × Desk)
  | .opening i op =>
    match d.board.sessions.lookup i with
    | some _ => none
    | none =>
      some (.opening i, ⟨d.board.replace i (opened (op.statements d.next)), op.counter d.next⟩)
  | .goOn i => (d.board.goOn i).map fun moved => (moved.1, ⟨moved.2, d.next⟩)
  | .rollback i => (d.board.rollback i).map fun moved => (moved.1, ⟨moved.2, d.next⟩)

def Turn.any (_ : Desk) (_ : Turn) : Prop := True

instance (d : Desk) (turn : Turn) : Decidable (Turn.any d turn) := inferInstanceAs (Decidable True)

theorem turn_interleaving {d d' : Desk} {turn : Turn} {l : Label RowKey.Row Event}
    (done : d.turn turn = some (l, d')) : Interleaving d.sessions l d'.sessions := by
  cases turn with
  | opening i op =>
    simp only [Desk.turn] at done
    split at done
    · cases done
    · rename_i fresh
      obtain ⟨rfl, rfl⟩ := Prod.mk.inj (Option.some.inj done)
      have begun : Interleaving d.sessions (.opening i) _ := Interleaving.opening i op fresh
      have board := state_replace d.board i (opened (op.statements d.next))
      rw [Desk.sessions] at begun
      change Interleaving _ _ ⟨(d.board.replace i (opened (op.statements d.next))).state, _⟩
      rw [board]
      exact begun
  | goOn i =>
    obtain ⟨moved, step, eq⟩ := Option.map_eq_some_iff.mp done
    obtain ⟨rfl, rfl⟩ := Prod.mk.inj eq
    exact Interleaving.goOn (goOn_step _ step)
  | rollback i =>
    obtain ⟨moved, step, eq⟩ := Option.map_eq_some_iff.mp done
    obtain ⟨rfl, rfl⟩ := Prod.mk.inj eq
    exact Interleaving.goOn (rollback_step _ step)

def schedule (db : Database) (turns : List Turn) : List (Label RowKey.Row Event) × Desk :=
  replay Desk.turn Turn.any (Desk.on db) turns

theorem schedule_run (db : Database) (turns : List Turn) :
    Run Interleaving (Sessions.on db) (schedule db turns).1 (schedule db turns).2.sessions := by
  apply run_viewed Desk.sessions ?_ (replay_run Desk.turn Turn.any (Desk.on db) turns)
  rintro d l d' ⟨turn, -, done⟩
  exact turn_interleaving done

/-- Three INSERTs at once: the second commits before the first, the third is
    rolled back; a claim of the second payment runs beside the first INSERT. -/
def overlapping : List Turn :=
  [.opening 0 (.insert 0 "order-123" 4200 "INR" 3 0),
    .opening 1 (.insert 1 "order-124" 900 "INR" 3 0), .goOn 0, .goOn 1,
    .opening 2 (.insert 2 "order-125" 100 "INR" 3 0), .goOn 2, .rollback 2,
    .goOn 1, .goOn 1, .goOn 1, .goOn 1, .opening 3 (.claim 7 2 50), .goOn 3, .goOn 0, .goOn 0,
    .goOn 3, .goOn 0, .goOn 0, .goOn 3, .goOn 3, .goOn 3, .goOn 3]

theorem overlapping_serializes :
    answers (schedule Database.empty overlapping).1 =
        [.insert 1 (some 2), .insert 0 (some 1), .claim 7 2 (.claimed ⟨1, 3, 900, "INR"⟩)] ∧
      ∃ db', Run Serial Database.empty
          ((schedule Database.empty overlapping).1.filterMap Label.committed) db' ∧
        image db' = (schedule Database.empty overlapping).2.sessions.committed :=
  ⟨rfl, interleavings_serialize Database.empty _ _ (schedule_run Database.empty overlapping)⟩

theorem serial_ledger {history : List (Statements Event × Event)} {db : Database}
    (run : Run Serial Database.empty history db) (id : Nat) :
    AttemptAccounting.Ledger id (history.map Prod.snd) (db.payments.find id) := by
  refine run_invariant
    (fun h d => AttemptAccounting.Ledger id (h.map Prod.snd) (d.payments.find id)) ?_ ?_ run
  · exact ⟨rfl, rfl⟩
  · intro h d done d' inv step
    rw [List.map_append]
    exact AttemptAccounting.ledger_step inv (serial_row step id)

theorem serial_keeps_settled {db db' : Database} {history : List (Statements Event × Event)}
    (run : Run Serial db history db') {id : Nat} {p : Payment}
    (found : db.payments.find id = some p) (settled : isTerminal p.status = true) :
    db'.payments.find id = some p := by
  apply run_preserves (fun d => d.payments.find id = some p) ?_ run found
  intro d e d' here step
  have move := serial_row step id
  rw [here] at move
  generalize d'.payments.find id = after at move
  cases move with
  | stay quiet => rfl
  | write w =>
    have open_ := PaymentLifecycle.no_write_settled w
    simp [settled] at open_

/-- Two claims of one payment never both win unless it was released in between,
    the counter misses no claim, and a settled payment never moves again, though
    the transactions overlap statement by statement. -/
theorem interleavings_keep_payments (labels : List (Label RowKey.Row Event)) (s : Sessions)
    (run : Run Interleaving (Sessions.on Database.empty) labels s) (id : Nat) (p : Payment)
    (found : s.committed (.payment id) = some p) :
    (1 ≤ p.maxAttempts → AttemptAccounting.Counted id (answers labels) p) ∧
      (isTerminal p.status = true → ∀ later t, Run Interleaving s later t →
        t.committed (.payment id) = some p) := by
  obtain ⟨db, good, serial⟩ := run_consistent (on_consistent _) run
  rw [← good.rows] at found
  constructor
  · intro positive
    have ledger := serial_ledger serial id
    rw [show db.payments.find id = some p from found] at ledger
    exact ledger positive
  · intro settled later t more
    obtain ⟨db', good', rest⟩ := run_consistent good more
    rw [← good'.rows]
    exact serial_keeps_settled rest found settled

def paid : Callback := ⟨"evt_1", 1, .success, some "gw_1", none⟩

/-- Two claims of one payment and a callback for it, all open at once: the second
    claim waits for the first one's lock and loses, and the callback settles. -/
def contended : List Turn :=
  [.opening 0 (.insert 0 "order-123" 4200 "INR" 3 0), .goOn 0, .goOn 0, .goOn 0, .goOn 0, .goOn 0,
    .opening 1 (.claim 7 1 50), .opening 2 (.claim 8 1 50), .opening 3 (.webhook paid 60),
    .goOn 1, .goOn 1, .goOn 1, .goOn 1, .goOn 1, .goOn 1, .goOn 2, .goOn 2,
    .goOn 3, .goOn 3, .goOn 3, .goOn 3, .goOn 3, .goOn 3, .goOn 3, .goOn 3]

def settledPayment : Payment :=
  { newPayment "order-123" 4200 "INR" 3 0 1 with
    status := .success, attempts := 1, providerRef := some "gw_1",
    processingStartedAt := some 50, updatedAt := 60 }

theorem contended_kept :
    answers (schedule Database.empty contended).1 =
        [.insert 0 (some 1), .claim 7 1 (.claimed ⟨1, 3, 4200, "INR"⟩),
          .claim 8 1 (.refused "not_pending" (some .processing)),
          .webhook paid (.applied .success)] ∧
      AttemptAccounting.Counted 1 (answers (schedule Database.empty contended).1) settledPayment ∧
      ∀ later t, Run Interleaving (schedule Database.empty contended).2.sessions later t →
        t.committed (.payment 1) = some settledPayment := by
  have kept := interleavings_keep_payments _ _ (schedule_run Database.empty contended) 1
    settledPayment rfl
  exact ⟨rfl, kept.1 (by decide), kept.2 rfl⟩

end TransactionStatements
