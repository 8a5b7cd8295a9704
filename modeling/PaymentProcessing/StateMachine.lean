import Mathlib.Logic.Relation

/-!
Enumerations of models/lib/enums.js and the transition table of
lib/stateMachine.js. The table is kept as the lists of the source; the moves it
allows are also read as a relation, whose closure says where a payment can end.
-/
namespace PaymentStateMachine

inductive PaymentStatus where
  | pending
  | processing
  | success
  | failed
  deriving DecidableEq, Repr

inductive WebhookStatus where
  | received
  | processed
  | ignored
  deriving DecidableEq, Repr

def PaymentStatus.description : PaymentStatus → String
  | .pending => "PENDING"
  | .processing => "PROCESSING"
  | .success => "SUCCESS"
  | .failed => "FAILED"

def transitions : PaymentStatus → List PaymentStatus
  | .pending => [.processing, .success, .failed]
  | .processing => [.success, .failed, .pending]
  | .success => []
  | .failed => []

def canTransition (source target : PaymentStatus) : Bool := (transitions source).contains target

def isTerminal (status : PaymentStatus) : Bool := (transitions status).isEmpty

structure APIError where
  message : String
  statusCode : Nat
  deriving DecidableEq, Repr

def assertTransition (source target : PaymentStatus) : Except APIError Unit :=
  if canTransition source target then .ok ()
  else .error ⟨"Illegal payment transition: " ++ source.description ++ " -> " ++
    target.description, 409⟩

def Move (source target : PaymentStatus) : Prop := target ∈ transitions source

theorem canTransition_iff (source target : PaymentStatus) :
    canTransition source target = true ↔ Move source target := by
  simp [canTransition, Move]

instance (source target : PaymentStatus) : Decidable (Move source target) :=
  inferInstanceAs (Decidable (target ∈ transitions source))

theorem move_irreflexive (status : PaymentStatus) : ¬ Move status status := by
  cases status <;> decide

theorem terminal_iff_settled (status : PaymentStatus) :
    isTerminal status = true ↔ status = .success ∨ status = .failed := by
  cases status <;> simp [isTerminal, transitions]

theorem terminal_iff_no_move (status : PaymentStatus) :
    isTerminal status = true ↔ ∀ target, ¬ Move status target := by
  simp [isTerminal, Move, List.isEmpty_iff, List.eq_nil_iff_forall_not_mem]

/-- A settled status reaches nothing but itself along any number of moves. -/
theorem terminal_absorbing {source target : PaymentStatus} (terminal : isTerminal source = true)
    (moves : Relation.ReflTransGen Move source target) : target = source := by
  induction moves with
  | refl => rfl
  | tail _ move ih =>
    subst ih
    exact absurd move ((terminal_iff_no_move _).mp terminal _)

theorem assertTransition_ok_iff (source target : PaymentStatus) :
    assertTransition source target = .ok () ↔ Move source target := by
  rw [← canTransition_iff]
  simp [assertTransition]

end PaymentStateMachine
