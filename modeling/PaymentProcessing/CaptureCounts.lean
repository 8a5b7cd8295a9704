import PaymentProcessing.ColumnCoherence

/-!
Captures at the provider. The timeout guard only stops waiting: the attempt
behind it runs on and may still succeed, while the payment goes back to PENDING
and is charged again. So there is no bound of one capture for a payment; there
is one for each winning claim, and two claims are always parted by a release.
-/
namespace CaptureCounts
open TransitionRuns PaymentStateMachine PaymentRepositories PaymentService PaymentTransactions
open PaymentSystem SystemSteps AttemptAccounting CallTraces

/-- An attempt that succeeds at the provider, whoever is still waiting for it. -/
def capture (id : Nat) : Event → Bool
  | .charge _ pid a => pid == id && a.result.isOk
  | _ => false

def captures (id : Nat) (history : List Event) : Nat := history.countP (capture id)

def Balanced (id : Nat) (history : List Event) : Option Payment → Prop
  | none => claims id history = 0
  | some p => claims id history ≤ releases id history + 1 ∧
      (p.status = .pending → claims id history ≤ releases id history)

theorem balanced_step {id : Nat} {history : List Event} {before after : Option Payment} {e : Event}
    (h : Balanced id history before) (move : RowMove id before e after) :
    Balanced id (history ++ [e]) after := by
  have claimed := claims_snoc id history e
  have released := releases_snoc id history e
  cases move with
  | stay quiet =>
    obtain ⟨noClaim, noRelease⟩ := unwritten_uncounted quiet
    simp only [noClaim, noRelease, Bool.false_eq_true, if_false, Nat.add_zero] at claimed released
    cases before with
    | none => exact claimed.trans h
    | some p => simpa [Balanced, claimed, released] using h
  | create call key amount currency maxAttempts now =>
    have zero : claims id history = 0 := h
    simp only [wonClaim, Bool.false_eq_true, if_false] at claimed
    refine ⟨by omega, fun _ => by omega⟩
  | @write p q _ w =>
    obtain ⟨ahead, level⟩ := h
    rcases write_kinds w with ⟨was, is_, -, won, kept⟩ | ⟨was, is_, -, -, won, freed⟩ |
        ⟨was, is_, -, won, kept⟩
    · have before := level was
      simp only [won, kept, Bool.false_eq_true, if_true, if_false] at claimed released
      refine ⟨by omega, ?_⟩
      intro free
      simp [is_] at free
    · simp only [won, freed, Bool.false_eq_true, if_true, if_false] at claimed released
      exact ⟨by omega, fun _ => by omega⟩
    · simp only [won, kept, Bool.false_eq_true, if_false] at claimed released
      refine ⟨by omega, ?_⟩
      intro free
      simp [free, isTerminal, transitions] at is_

theorem claims_le_releases {history : List Event} {s : System}
    (run : Run Step System.init history s) (id : Nat) :
    claims id history ≤ releases id history + 1 := by
  have balanced : Balanced id history (row s id) := by
    apply run_invariant (fun h u => Balanced id h (row u id)) ?_ ?_ run
    · rfl
    · intro h u e t inv step
      exact balanced_step inv (commit_row (does_commit step) id)
  cases found : row s id with
  | none =>
    rw [found] at balanced
    have zero : claims id history = 0 := balanced
    omega
  | some p =>
    rw [found] at balanced
    exact balanced.1

/-- Without a release a payment that has left PENDING does not come back. -/
theorem unreleased_open {id : Nat} {s t : System} {later : List Event} (run : Run Step s later t)
    (unreleased : ∀ e ∈ later, release id e = false) {p : Payment} (found : row s id = some p)
    (taken : p.status ≠ .pending) : ∃ q, row t id = some q ∧ q.status ≠ .pending := by
  induction run with
  | nil => exact ⟨p, found, taken⟩
  | @snoc history mid stop e before last ih =>
    have earlier : ∀ x ∈ history, release id x = false := by
      intro x there
      exact unreleased x (List.mem_append_left _ there)
    obtain ⟨q, between, busy⟩ := ih earlier
    obtain ⟨q', after, ⟨rfl, -⟩ | w⟩ := commit_keeps_row (does_commit last) between
    · exact ⟨q', after, busy⟩
    · refine ⟨q', after, ?_⟩
      intro free
      rcases write_kinds w with ⟨was, -⟩ | ⟨-, -, -, -, -, freed⟩ | ⟨-, settled, -⟩
      · exact busy was
      · simp [unreleased e (by simp)] at freed
      · simp [free, isTerminal, transitions] at settled

/-- The payment was released between two claims, whichever call claimed first. -/
def ReleasedBetween (id : Nat) (history : List Event) (c d : Nat) : Prop :=
  ∃ e f before mid after, history = before ++ e :: mid ++ f :: after ∧
    ((∃ claim claim', e = .claim c id (.claimed claim) ∧ f = .claim d id (.claimed claim')) ∨
      ∃ claim claim', e = .claim d id (.claimed claim) ∧ f = .claim c id (.claimed claim')) ∧
    ∃ r ∈ mid, release id r = true

theorem released_between {history before mid after : List Event} {s : System} {e f : Event}
    (run : Run Step System.init history s) {id : Nat}
    (shape : history = before ++ e :: mid ++ f :: after) (first : wonClaim id e = true)
    (second : wonClaim id f = true) : ∃ r ∈ mid, release id r = true := by
  have shape' : history = before ++ e :: (mid ++ f :: after) := by simp [shape]
  rw [shape'] at run
  obtain ⟨m, n, -, claimed, rest⟩ := run_at run
  obtain ⟨m', n', between, claimedAgain, -⟩ := run_at rest
  obtain ⟨_, -, -, stamped⟩ := ColumnCoherence.claim_step (does_runs claimed) first
  obtain ⟨p, found, free, -⟩ := ColumnCoherence.claim_step (does_runs claimedAgain) second
  by_contra unreleased
  have none_ : ∀ r ∈ mid, release id r = false := by
    intro r there
    by_contra freed
    exact unreleased ⟨r, there, by simpa using freed⟩
  obtain ⟨q, still, busy⟩ := unreleased_open between none_ stamped (by simp [addAttempt, writeStatus])
  obtain rfl := Option.some.inj (still.symm.trans found)
  exact busy free

theorem charge_claimed {history before after : List Event} {s : System}
    (run : Run Step System.init history s) {c id : Nat} {a : Attempt}
    (shape : history = before ++ .charge c id a :: after) :
    (∃ claim, .claim c id (.claimed claim) ∈ before) ∧ ∀ b, .charge c id b ∉ before := by
  rw [shape] at run
  obtain ⟨m, n, first, step, -⟩ := run_at run
  obtain ⟨claim, steps⟩ := charging_call (run_traced first) (does_runs step)
  obtain ⟨claimed, -⟩ := in_flight_history steps (by simp [ProcessPhase.claimOf])
  exact ⟨claimed, fun b => claimed_uncharged steps id b⟩

theorem captures_le_charges (id : Nat) (history : List Event) :
    captures id history ≤ charges id history := by
  apply List.countP_mono_left
  intro e _ captured
  cases e with
  | charge c pid a =>
    simp only [capture, Bool.and_eq_true] at captured
    exact captured.1
  | _ => simp [capture] at captured

/-- The law without retries of attempts that the provider still completes. -/
def AtMostOneCapture : Prop :=
  ∀ history s, Run Step System.init history s → ∀ id, captures id history ≤ 1

def config : Config := ⟨3, 60000, 3000⟩

def retriedTimeout : List Action :=
  [.initiate 0 config ⟨"order-123", 4200, "INR"⟩, .api 0 .insert, .api 0 .read,
    .api 0 (.enqueue none), .pick 0 "payment-1", .worker 0 (.claim none),
    .worker 0 (.charge 3000 (attempt 3000 .timeout 0 "gw_a")), .tick 3000, .worker 0 .reply,
    .worker 0 (.settle none), .worker 0 (.finish config), .tick 500, .pick 1 "payment-1",
    .worker 1 (.claim none), .worker 1 (.charge 3000 (attempt 3000 .success 0 "gw_b")),
    .worker 1 .reply, .worker 1 (.settle none)]

theorem timeout_captured_twice : ¬ AtMostOneCapture := by
  intro law
  have atMost := law _ _ (replay_run exec Action.any System.init retriedTimeout) 1
  have twice : captures 1 (replay exec Action.any System.init retriedTimeout).1 = 2 := by decide
  omega

structure CapturesClaimed (id : Nat) (history : List Event) (s : System) : Prop where
  claimed : ∀ c a before after, history = before ++ .charge c id a :: after →
    ∃ claim, .claim c id (.claimed claim) ∈ before
  parted : ∀ c d a b before mid after,
    history = before ++ .charge c id a :: mid ++ .charge d id b :: after →
    c ≠ d ∧ ReleasedBetween id history c d
  released : captures id history ≤ releases id history + 1
  bounded : ∀ p, row s id = some p → 1 ≤ p.maxAttempts →
    captures id history ≤ p.attempts ∧ captures id history ≤ p.maxAttempts

/-- Every capture has a winning claim of its own, and two claims are parted by a
    release; so a payment is captured once more than it is released at most, and
    never more often than it may be tried. -/
theorem captures_claimed {history : List Event} {s : System}
    (run : Run Step System.init history s) (id : Nat) : CapturesClaimed id history s := by
  have counted := captures_le_charges id history
  have charged := charges_le_claims run id
  have released := claims_le_releases run id
  refine ⟨fun c a before after shape => (charge_claimed run shape).1, ?_, by omega, ?_⟩
  · intro c d a b before mid after shape
    have early : history = before ++ .charge c id a :: (mid ++ .charge d id b :: after) := by
      simp [shape]
    obtain ⟨⟨claim, first⟩, -⟩ := charge_claimed run early
    obtain ⟨⟨claim', second⟩, uncharged⟩ := charge_claimed run shape
    have apart : c ≠ d := by
      intro same
      subst same
      exact uncharged a (by simp)
    have listed : .claim c id (.claimed claim) ∈ history := by simp [shape, first]
    have listed' : .claim d id (.claimed claim') ∈ history := by
      rw [shape]
      exact List.mem_append_left _ second
    refine ⟨apart, ?_⟩
    rcases one_before_other listed listed' (by simp [apart]) with
      ⟨xs, ys, zs, order⟩ | ⟨xs, ys, zs, order⟩
    · exact ⟨_, _, xs, ys, zs, order, Or.inl ⟨_, _, rfl, rfl⟩,
        released_between run order (by simp [wonClaim]) (by simp [wonClaim])⟩
    · exact ⟨_, _, xs, ys, zs, order, Or.inr ⟨_, _, rfl, rfl⟩,
        released_between run order (by simp [wonClaim]) (by simp [wonClaim])⟩
  · intro p found positive
    have ledger := run_ledger run id
    rw [found] at ledger
    obtain ⟨attempts, -, -, bounded⟩ := ledger positive
    exact ⟨by omega, by omega⟩

theorem retried_timeout_claimed :
    CapturesClaimed 1 (replay exec Action.any System.init retriedTimeout).1
      (replay exec Action.any System.init retriedTimeout).2 :=
  captures_claimed (replay_run exec Action.any System.init retriedTimeout) 1

end CaptureCounts
