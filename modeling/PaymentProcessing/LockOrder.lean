import PaymentProcessing.TransactionStatements

/-!
The order in which the transactions lock their rows: an idempotency_key first,
then a payment, a webhook event last. Nobody who holds a row waits for one of a
lower rank, so the transactions never wait for each other in a circle.
-/
namespace LockOrder
open TransitionRuns RowLocking
open PaymentStateMachine PaymentRepositories WebhookService PaymentTransactions
open ServiceStatements TransactionStatements

variable {Result : Type}

/-- Rules under which a key that is locked exclusively may be read and written. -/
structure Rules (mine : RowKey → Prop) (fetches stores : (RowKey → Option Mode) → RowKey → Prop) :
    Prop where
  held : ∀ locks key, mine key → locks key = some .exclusive →
    fetches locks key ∧ stores locks key

section
variable {mine : RowKey → Prop} {fetches stores : (RowKey → Option Mode) → RowKey → Prop}
variable {locks : RowKey → Option Mode} {rest : Statements Result}

theorem along_update (rules : Rules mine fetches stores) {key : RowKey} (own : mine key)
    (held : locks key = some .exclusive) {next : Option key.Row → Statements Result}
    (absent : next none = rest) (present : ∀ row, ∃ value, next (some row) = .store key value rest)
    (later : Along fetches stores locks rest) :
    Along fetches stores locks (.fetch key forUpdate next) := by
  obtain ⟨reads, writes⟩ := rules.held locks key own held
  refine ⟨reads, ?_⟩
  intro found
  rw [locked_again held]
  cases found with
  | none =>
    rw [absent]
    exact later
  | some row =>
    obtain ⟨value, stored⟩ := present row
    rw [stored]
    exact ⟨writes, later⟩

theorem along_updateStatus (rules : Rules mine fetches stores) {id : Nat}
    (own : mine (.payment id)) (held : locks (.payment id) = some .exclusive)
    (status : PaymentStatus) (extra : Extra) (now : Nat) (later : Along fetches stores locks rest) :
    Along fetches stores locks (updateStatus id status extra now rest) :=
  along_update rules own held rfl (fun _ => ⟨_, rfl⟩) later

theorem along_incrementAttempts (rules : Rules mine fetches stores) {id : Nat}
    (own : mine (.payment id)) (held : locks (.payment id) = some .exclusive)
    (later : Along fetches stores locks rest) :
    Along fetches stores locks (incrementAttempts id rest) :=
  along_update rules own held rfl (fun _ => ⟨_, rfl⟩) later

theorem along_markProcessed (rules : Rules mine fetches stores) {eventId : String}
    (own : mine (.event eventId)) (held : locks (.event eventId) = some .exclusive)
    (status : WebhookStatus) (now : Nat) (later : Along fetches stores locks rest) :
    Along fetches stores locks (markProcessed eventId status now rest) :=
  along_update rules own held rfl (fun _ => ⟨_, rfl⟩) later

def holding (id : Nat) : RowKey → Option Mode :=
  locked (fun _ => none) (.payment id) .exclusive

theorem holding_payment (id : Nat) : holding id (.payment id) = some .exclusive := by
  simp [holding, locked, raise]

theorem along_start {id : Nat} {next : Option Payment → Statements Result}
    (start : fetches (fun _ => none) (.payment id)) (absent : ∃ result, next none = .answer result)
    (present : ∀ row, Along fetches stores (holding id) (next (some row))) :
    Along fetches stores (fun _ => none) (findByIdForUpdate id next) := by
  refine ⟨start, ?_⟩
  intro found
  cases found with
  | none =>
    obtain ⟨result, answers⟩ := absent
    rw [answers]
    trivial
  | some row => exact present row

section
variable (rules : Rules mine fetches stores) {id : Nat} (own : mine (.payment id))
variable (start : fetches (fun _ => none) (.payment id))
include rules own start

theorem along_claim (now : Nat) : Along fetches stores (fun _ => none) (claim id now) := by
  refine along_start start ⟨_, rfl⟩ (fun row => ?_)
  dsimp only
  split
  · trivial
  · apply along_updateStatus rules own (holding_payment id)
    apply along_incrementAttempts rules own (holding_payment id)
    trivial

theorem along_settle (answer : Except PaymentService.GatewayError PaymentService.ChargeResult)
    (now : Nat) : Along fetches stores (fun _ => none) (settle id answer now) := by
  refine along_start start ⟨_, rfl⟩ (fun row => ?_)
  dsimp only
  split
  · trivial
  · cases answer with
    | ok result =>
      dsimp only
      split
      · trivial
      · exact along_updateStatus rules own (holding_payment id) _ _ _ trivial
    | error err =>
      dsimp only
      split
      · exact along_updateStatus rules own (holding_payment id) _ _ _ trivial
      · exact along_updateStatus rules own (holding_payment id) _ _ _ trivial

theorem along_recover (now : Nat) :
    Along fetches stores (fun _ => none) (recoverStalePayment id now) := by
  refine along_start start ⟨_, rfl⟩ (fun row => ?_)
  dsimp only
  split
  · trivial
  · split
    · exact along_updateStatus rules own (holding_payment id) _ _ _ trivial
    · exact along_updateStatus rules own (holding_payment id) _ _ _ trivial

theorem along_fail (reason : String) (now : Nat) :
    Along fetches stores (fun _ => none) (failPayment id reason now) := by
  refine along_start start ⟨_, rfl⟩ (fun row => ?_)
  dsimp only
  split
  · trivial
  · exact along_updateStatus rules own (holding_payment id) _ _ _ trivial

end

theorem along_webhook (rules : Rules mine fetches stores) {callback : Callback}
    (payment : mine (.payment callback.paymentId)) (event : mine (.event callback.eventId))
    (start : fetches (fun _ => none) (.payment callback.paymentId))
    (next : fetches (holding callback.paymentId) (.event callback.eventId)) (now : Nat) :
    Along fetches stores (fun _ => none) (handleWebhook callback now) := by
  refine along_start start ⟨_, rfl⟩ (fun row => ?_)
  refine ⟨next, ?_⟩
  intro found
  have heldPayment : locked (holding callback.paymentId) (.event callback.eventId) .exclusive
      (.payment callback.paymentId) = some .exclusive :=
    locked_exclusive (holding_payment callback.paymentId)
  have heldEvent : locked (holding callback.paymentId) (.event callback.eventId) .exclusive
      (.event callback.eventId) = some .exclusive := by
    simp [holding, locked, raise]
  cases found with
  | some row => trivial
  | none =>
    refine ⟨(rules.held _ _ event heldEvent).2, ?_⟩
    dsimp only
    split
    · exact along_markProcessed rules event heldEvent _ _ trivial
    · split
      · exact along_markProcessed rules event heldEvent _ _ trivial
      · apply along_updateStatus rules payment heldPayment
        exact along_markProcessed rules event heldEvent _ _ trivial

end

def rank : RowKey → Nat
  | .idempotencyKey _ => 0
  | .payment _ => 1
  | .event _ => 2

theorem rank_bounded (key : RowKey) : rank key ≤ 2 := by
  cases key <;> simp [rank]

theorem nothing_held (top : Nat) :
    ∀ held, (fun _ : RowKey => (none : Option Mode)) held ≠ none → rank held < top :=
  fun _ locks => absurd rfl locks

theorem rank_rules : Rules (fun _ => True) (Ascending rank) Owned where
  held := fun _ _ _ held => ⟨Or.inl held, held⟩

theorem ordered_insert (id : Nat) (key : String) (amount : Int) (currency : String)
    (maxAttempts now : Nat) (rest : Option Nat → Statements Result)
    (ends : ∀ answer, ∃ result, rest answer = .answer result) :
    Ordered rank (fun _ => none) (insertPayment id key amount currency maxAttempts now rest) := by
  have last : ∀ locks answer, Ordered rank locks (rest answer) := by
    intro locks answer
    obtain ⟨result, answers⟩ := ends answer
    rw [answers]
    trivial
  refine ⟨Or.inr (nothing_held 0), ?_⟩
  intro known
  cases known with
  | some other => exact last _ none
  | none =>
    refine ⟨Or.inr (below_locked (nothing_held 1) (by simp [rank]) .exclusive), ?_⟩
    intro used
    cases used with
    | some row => exact last _ none
    | none =>
      refine ⟨?_, ?_, last _ _⟩
      · simp [Owned, locked, raise, forInsert]
      · simp [Owned, locked, raise, forInsert]

theorem ordered_operation (op : Operation) (id : Nat) :
    Ordered rank (fun _ => none) (op.statements id) := by
  have start : ∀ id, Ascending rank (fun _ => none) (.payment id) :=
    fun id => Or.inr (nothing_held 1)
  cases op with
  | insert call key amount currency maxAttempts now =>
    exact ordered_insert id key amount currency maxAttempts now _ (fun answer => ⟨_, rfl⟩)
  | claim run id now => exact along_map _ (along_claim rank_rules trivial (start id) now)
  | settle run id answer now =>
    exact along_map _ (along_settle rank_rules trivial (start id) answer now)
  | recover id now => exact along_map _ (along_recover rank_rules trivial (start id) now)
  | fail id reason now =>
    exact along_map _ (along_fail rank_rules trivial (start id) reason now)
  | webhook callback now =>
    apply along_map
    apply along_webhook rank_rules trivial trivial (start callback.paymentId)
    exact Or.inr (below_locked (nothing_held 2) (by simp [rank]) .exclusive)

def GoesOn (s : Sessions) (i : Nat) : Prop :=
  ∃ l t, Interleaving s l t ∧ (l = .statement i ∨ ∃ p result, l = .commit i p result)

theorem enabled_goesOn {s : Sessions} {i : Nat} (h : Enabled Service s.toState i) :
    GoesOn s i := by
  obtain ⟨l, rows, step, own⟩ := h
  refine ⟨l, ⟨rows, s.next⟩, Interleaving.goOn ?_, own⟩
  cases step with
  | opening i p fresh known => simp at own
  | fetch i present here granted => exact Step.fetch i present here granted
  | store i present here granted => exact Step.store i present here granted
  | commit i present here => exact Step.commit i present here
  | rollback i present => exact Step.rollback i present

/-- As long as a transaction is open, some transaction can run its next
    statement or commit: the services never lock each other out. -/
theorem interleavings_never_deadlock (db : Database) (labels : List (Label RowKey.Row Event))
    (s : Sessions) (run : Run Interleaving (Sessions.on db) labels s) (i : Nat)
    (open_ : s.sessions i ≠ none) : ∃ j, GoesOn s j := by
  obtain ⟨t, present⟩ := Option.ne_none_iff_exists'.mp open_
  have known : ∀ p : Statements Event, Service p → Ordered rank (fun _ => none) p := by
    rintro p ⟨op, id, rfl⟩
    exact ordered_operation op id
  obtain ⟨j, enabled⟩ := run_no_deadlock known rank_bounded (interleaving_run run) present
  exact ⟨j, enabled_goesOn enabled⟩

/-- A session whose next read asks for a row that another one has written waits. -/
theorem waits {s : Sessions} {i j : Nat} {t u : Session RowKey.Row Event} {key : RowKey}
    {mode : Option key.Row → Mode} {rest : Option key.Row → Statements Event}
    (present : s.sessions i = some t) (here : t.rest = .fetch key mode rest)
    (other : s.sessions j = some u) (ne : j ≠ i) (held : u.locks key = some .exclusive) :
    ¬ GoesOn s i := by
  have asks : ∀ v, s.sessions i = some v → v.rest = .fetch key mode rest := by
    intro v there
    rw [present] at there
    obtain rfl := Option.some.inj there
    exact here
  rintro ⟨l, s', step, own⟩
  cases step with
  | opening k op fresh => simp at own
  | goOn step =>
    cases step with
    | opening k p fresh none_ => exact none_
    | rollback k there => simp at own
    | commit k there next =>
      obtain rfl : k = i := by simpa using own
      rw [asks _ there] at next
      cases next
    | store k there next granted =>
      obtain rfl : k = i := by simpa using own
      rw [asks _ there] at next
      cases next
    | fetch k there next granted =>
      obtain rfl : k = i := by simpa using own
      rw [asks _ there] at next
      cases next
      rcases granted j u ne other with free | ⟨shared, -⟩
      · rw [held] at free
        cases free
      · rw [held] at shared
        cases shared

/-- A claim has locked the payment, a second one and a callback come for it. -/
def crowded : List Turn :=
  [.opening 0 (.insert 0 "order-123" 4200 "INR" 3 0), .goOn 0, .goOn 0, .goOn 0, .goOn 0, .goOn 0,
    .opening 1 (.claim 7 1 50), .opening 2 (.claim 8 1 50),
    .opening 3 (.webhook paid 60), .goOn 1]

theorem crowded_goes_on :
    ¬ GoesOn (schedule Database.empty crowded).2.sessions 2 ∧
      ¬ GoesOn (schedule Database.empty crowded).2.sessions 3 ∧
      ∃ j, GoesOn (schedule Database.empty crowded).2.sessions j := by
  refine ⟨?_, ?_, ?_⟩
  · exact @waits _ 2 1 _ _ (.payment 1) _ _ rfl rfl rfl (by decide) rfl
  · exact @waits _ 3 1 _ _ (.payment 1) _ _ rfl rfl rfl (by decide) rfl
  · exact interleavings_never_deadlock Database.empty _ _ (schedule_run Database.empty crowded) 2
      (Option.some_ne_none _)

end LockOrder
