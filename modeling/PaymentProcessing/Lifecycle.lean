import PaymentProcessing.SystemSteps

/-!
The life of one payment row under every operation of the system: it appears as
PENDING, moves along the transition table, and is frozen once settled. Nothing
here depends on how the run got to its present state.
-/
namespace PaymentLifecycle
open TransitionRuns PaymentStateMachine PaymentRepositories PaymentService PaymentTransactions
open PaymentSystem SystemSteps

theorem no_write_settled {id : Nat} {p q : Payment} {e : Event} (w : Write id p e q) :
    isTerminal p.status = false := by
  cases terminal : isTerminal p.status with
  | false => rfl
  | true => exact absurd (write_legal w) ((terminal_iff_no_move _).mp terminal _)

theorem commit_follows_table {db db' : Database} {e : Event} (commit : Commit db e db') {id : Nat}
    {p : Payment} (found : db.payments.find id = some p) :
    ∃ q, db'.payments.find id = some q ∧ terms q = terms p ∧
      (q = p ∨ Move p.status q.status) := by
  obtain ⟨q, after, same | w⟩ := commit_keeps_row commit found
  · exact ⟨q, after, by rw [same.1], Or.inl same.1⟩
  · exact ⟨q, after, write_terms w, Or.inr (write_legal w)⟩

theorem commit_keeps_settled {db db' : Database} {e : Event} (commit : Commit db e db') {id : Nat}
    {p : Payment} (found : db.payments.find id = some p) (settled : isTerminal p.status = true) :
    db'.payments.find id = some p := by
  obtain ⟨q, after, same | w⟩ := commit_keeps_row commit found
  · rw [after, same.1]
  · have open_ := no_write_settled w
    simp [settled] at open_

theorem commit_born_pending {db db' : Database} {e : Event} (commit : Commit db e db') {id : Nat}
    {q : Payment} (absent : db.payments.find id = none) (born : db'.payments.find id = some q) :
    q.status = .pending ∧ q.attempts = 0 := by
  have move := commit_row commit id
  rw [absent, born] at move
  cases move with
  | create => exact ⟨rfl, rfl⟩

/-- The status of a payment only ever takes legal moves, and the terms of its
    creation stay: the rows apply the abstract state machine. -/
theorem run_refines_table {allowed : System → Action → Prop} {s t : System} {later : List Event}
    (run : Run (Does exec allowed) s later t) {id : Nat} {p : Payment} (found : row s id = some p) :
    ∃ q, row t id = some q ∧ terms q = terms p ∧
      Relation.ReflTransGen Move p.status q.status := by
  induction run with
  | nil => exact ⟨p, found, rfl, Relation.ReflTransGen.refl⟩
  | snoc before last ih =>
    obtain ⟨m, atMid, terms_, moves⟩ := ih
    obtain ⟨q, after, kept, same | move⟩ := commit_follows_table (does_commit last) atMid
    · exact ⟨q, after, kept.trans terms_, same ▸ moves⟩
    · exact ⟨q, after, kept.trans terms_, moves.tail move⟩

theorem run_keeps_settled {allowed : System → Action → Prop} {s t : System} {later : List Event}
    (run : Run (Does exec allowed) s later t) {id : Nat} {p : Payment} (found : row s id = some p)
    (settled : isTerminal p.status = true) : row t id = some p := by
  apply run_preserves (fun u => row u id = some p) ?_ run found
  intro u e v here step
  exact commit_keeps_settled (does_commit step) here settled

/-- Every payment stays in the table, with its status unchanged or moved along
    an edge, and a new one is PENDING. -/
structure FollowsTable (s t : System) : Prop where
  kept : ∀ id p, row s id = some p →
    ∃ q, row t id = some q ∧ (q.status = p.status ∨ q.status ∈ transitions p.status)
  born : ∀ id q, row s id = none → row t id = some q → q.status = .pending

theorem step_follows_table {allowed : System → Action → Prop} {s t : System} {e : Event}
    (step : Does exec allowed s e t) : FollowsTable s t := by
  constructor
  · intro id p found
    obtain ⟨q, after, -, same | move⟩ := commit_follows_table (does_commit step) found
    · exact ⟨q, after, Or.inl (by rw [same])⟩
    · exact ⟨q, after, Or.inr move⟩
  · intro id q absent born
    exact (commit_born_pending (does_commit step) absent born).1

/-- Whatever came before: a step follows the transition table, and no later
    step changes a column of a settled payment. -/
theorem lifecycle_and_terminal_freeze :
    (∀ s e t, Step s e t → FollowsTable s t) ∧
      ∀ s later t, Run Step s later t →
        ∀ id p, row s id = some p → isTerminal p.status = true → row t id = some p :=
  ⟨fun _ _ _ step => step_follows_table step,
    fun _ _ _ run _ _ found settled => run_keeps_settled run found settled⟩

def settledRun : List Action :=
  [.initiate 0 ⟨3, 60000, 3000⟩ ⟨"order-123", 4200, "INR"⟩, .api 0 .insert, .api 0 .read,
    .api 0 (.enqueue none), .pick 0 "payment-1", .worker 0 (.claim none),
    .worker 0 (.charge 3000 (attempt 3000 .success 0 "gw_abc")), .worker 0 .reply,
    .worker 0 (.settle none), .worker 0 (.finish ⟨3, 60000, 3000⟩)]

theorem charged_payment_frozen :
    ∃ p, row (replay exec Action.any System.init settledRun).2 1 = some p ∧ p.status = .success ∧
      ∀ later t, Run Step (replay exec Action.any System.init settledRun).2 later t →
        row t 1 = some p := by
  have frozen := lifecycle_and_terminal_freeze.2 (replay exec Action.any System.init settledRun).2
  have status : (row (replay exec Action.any System.init settledRun).2 1).map Payment.status =
      some .success := by decide
  obtain ⟨p, found, settled⟩ := Option.map_eq_some_iff.mp status
  refine ⟨p, found, settled, ?_⟩
  intro later t run
  exact frozen later t run 1 p found (by rw [settled]; rfl)

end PaymentLifecycle
