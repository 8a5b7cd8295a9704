import PaymentProcessing.CallTraces

/-!
Mutual exclusion of charging while the reconciler releases nothing. A payment
returns to PENDING only through the settle of the call that claimed it last, so
every claim is either settled for a retry or still the last one, on a row that
is not PENDING. Crashed calls count as unsettled throughout.
-/
namespace ClaimExclusion
open TransitionRuns PaymentStateMachine PaymentRepositories PaymentService PaymentTransactions
open PaymentSystem SystemSteps AttemptAccounting CallTraces

/-- Won its claim and has not committed its settle, whatever became of it. -/
def Between (id : Nat) (history : List Event) (c : Nat) : Prop :=
  (∃ claim, .claim c id (.claimed claim) ∈ history) ∧ ∀ result, .settle c id result ∉ history

/-- The call has settled and put the payment back to PENDING for a retry. -/
def Reopened (c id : Nat) (history : List Event) : Prop :=
  ∃ reason status, .settle c id (.retry reason status) ∈ history

def Unreleased (id : Nat) (history : List Event) : Prop :=
  ∀ status, .recover id (.released status) ∉ history

def lastClaim (id : Nat) (history : List Event) : Option Event := lastWith (wonClaim id) history

theorem reopened_mono {c id : Nat} {history : List Event} (h : Reopened c id history)
    (later : List Event) : Reopened c id (history ++ later) := by
  obtain ⟨reason, status, there⟩ := h
  exact ⟨reason, status, List.mem_append_left later there⟩

/-- What became of every claim: its call reopened the payment, or the claim is
    still the last one and the row is not PENDING. -/
def Episodes (id : Nat) (history : List Event) (row : Option Payment) : Prop :=
  ∀ c claim before after, history = before ++ .claim c id (.claimed claim) :: after →
    Reopened c id after ∨
      lastClaim id history = some (.claim c id (.claimed claim)) ∧
        ∃ p, row = some p ∧ p.status ≠ .pending

/-- A label that is no claim of the payment leaves the earlier claims where they
    were, as long as the row stays off PENDING. -/
theorem episodes_kept {id : Nat} {history : List Event} {old new : Option Payment} {e : Event}
    (h : Episodes id history old) (noClaim : wonClaim id e = false)
    (off : ∀ p, old = some p → p.status ≠ .pending → ∃ q, new = some q ∧ q.status ≠ .pending) :
    Episodes id (history ++ [e]) new := by
  intro c claim before after shape
  rcases snoc_split shape with ⟨-, label, -⟩ | ⟨rest, rfl, earlier⟩
  · rw [← label] at noClaim
    simp [wonClaim] at noClaim
  · rcases h c claim before rest earlier with reopened | ⟨last, p, present, busy⟩
    · exact Or.inl (reopened_mono reopened [e])
    · exact Or.inr ⟨by simpa [lastClaim, noClaim] using last, off p present busy⟩

theorem episodes_claimed {id c : Nat} {history : List Event} {p q : Payment} {claim : Claim}
    (h : Episodes id history (some p)) (free : p.status = .pending) (busy : q.status ≠ .pending) :
    Episodes id (history ++ [.claim c id (.claimed claim)]) (some q) := by
  intro d claim' before after shape
  rcases snoc_split shape with ⟨rfl, label, -⟩ | ⟨rest, rfl, earlier⟩
  · refine Or.inr ⟨?_, q, rfl, busy⟩
    rw [label]
    simp [lastClaim, wonClaim]
  · rcases h d claim' before rest earlier with reopened | ⟨-, r, present, taken⟩
    · exact Or.inl (reopened_mono reopened _)
    · obtain rfl := Option.some.inj present
      exact absurd free taken

theorem episodes_reopened {id c : Nat} {history : List Event} {row new : Option Payment}
    {claim : Claim} {reason : String} {status : PaymentStatus} (h : Episodes id history row)
    (holds : lastClaim id history = some (.claim c id (.claimed claim))) :
    Episodes id (history ++ [.settle c id (.retry reason status)]) new := by
  intro d claim' before after shape
  rcases snoc_split shape with ⟨-, label, -⟩ | ⟨rest, rfl, earlier⟩
  · simp at label
  · rcases h d claim' before rest earlier with reopened | ⟨last, -⟩
    · exact Or.inl (reopened_mono reopened _)
    · rw [holds] at last
      obtain ⟨rfl, -⟩ : c = d ∧ claim = claim' := by simpa using last
      exact Or.inl ⟨reason, status, by simp⟩

theorem release_labels {id : Nat} {e : Event} (h : release id e = true) :
    (∃ c reason status, e = .settle c id (.retry reason status)) ∨
      ∃ status, e = .recover id (.released status) := by
  cases e with
  | settle c pid result =>
    cases result with
    | retry reason status =>
      obtain rfl : pid = id := by simpa [release] using h
      exact Or.inl ⟨c, reason, status, rfl⟩
    | _ => simp [release] at h
  | recover pid result =>
    cases result with
    | released status =>
      obtain rfl : pid = id := by simpa [release] using h
      exact Or.inr ⟨status, rfl⟩
    | _ => simp [release] at h
  | _ => simp [release] at h

theorem between_last {id c : Nat} {history : List Event} {row : Option Payment}
    (h : Episodes id history row) (between : Between id history c) :
    ∃ claim, lastClaim id history = some (.claim c id (.claimed claim)) ∧
      ∃ p, row = some p ∧ p.status ≠ .pending := by
  obtain ⟨⟨claim, there⟩, unsettled⟩ := between
  obtain ⟨before, after, shape⟩ := List.append_of_mem there
  rcases h c claim before after shape with ⟨reason, status, settled⟩ | last
  · exact absurd (by simp [shape, settled]) (unsettled (.retry reason status))
  · exact ⟨claim, last⟩

theorem settling_between {id c : Nat} {history : List Event} {s t : System} {result : SettleResult}
    (traced : Traced history s) (move : RunsMove s t (.settle c id result)) :
    Between id history c := by
  obtain ⟨claim, answer, steps⟩ := settling_call traced move
  obtain ⟨claimed, unsettled⟩ := in_flight_history steps (by simp [ProcessPhase.claimOf])
  exact ⟨claimed, unsettled id⟩

theorem episodes_step {id : Nat} {history : List Event} {s t : System} {e : Event}
    (h : Episodes id history (row s id)) (traced : Traced history s)
    (unreleased : ∀ status, e ≠ .recover id (.released status))
    (move : RowMove id (row s id) e (row t id)) (runs : RunsMove s t e) :
    Episodes id (history ++ [e]) (row t id) := by
  generalize old : row s id = before at h move
  generalize new : row t id = after at move
  cases move with
  | stay quiet =>
    apply episodes_kept h (unwritten_uncounted quiet).1 ?_
    intro p present busy
    exact ⟨p, present, busy⟩
  | create call key amount currency maxAttempts now =>
    apply episodes_kept h rfl ?_
    intro p present
    simp at present
  | @write p q _ w =>
    rcases write_kinds w with ⟨free, busy, -, won, -⟩ | ⟨-, -, -, -, noClaim, freed⟩ |
        ⟨-, settled, -, noClaim, -⟩
    · obtain ⟨c, claim, rfl⟩ := write_processing w busy
      exact episodes_claimed h free (by simp [busy])
    · rcases release_labels freed with ⟨c, reason, status, rfl⟩ | ⟨status, rfl⟩
      · obtain ⟨claim, holds, -⟩ := between_last h (settling_between traced runs)
        exact episodes_reopened h holds
      · exact absurd rfl (unreleased status)
    · apply episodes_kept h noClaim ?_
      intro _ _ _
      refine ⟨q, rfl, ?_⟩
      intro open_
      simp [open_, isTerminal, transitions] at settled

theorem run_episodes {allowed : System → Action → Prop} {history : List Event} {s : System}
    (run : Run (Does exec allowed) System.init history s) (id : Nat)
    (unreleased : Unreleased id history) : Episodes id history (row s id) := by
  have inv : Unreleased id history → Episodes id history (row s id) := by
    apply run_induction (fun h u => Unreleased id h → Episodes id h (row u id)) ?_ ?_ run
    · intro _ c claim before after shape
      simp at shape
    · intro h u e t before episodes step free
      have freeBefore : Unreleased id h := fun status there => free status (by simp [there])
      have freeNow : ∀ status, e ≠ .recover id (.released status) := by
        intro status label
        exact free status (by simp [label])
      exact episodes_step (episodes freeBefore) (run_traced before) freeNow
        (commit_row (does_commit step) id) (does_runs step)
  exact inv unreleased

structure Exclusive (id : Nat) (history : List Event) (s : System) : Prop where
  inFlight : ∀ c r, s.runs c = some r → r.paymentId = id → r.phase.claimOf ≠ none →
    Between id history c
  one : ∀ c d, Between id history c → Between id history d → c = d
  idle : ∀ p, row s id = some p → p.status = .pending → ∀ c, ¬ Between id history c
  latest : ∀ c, Between id history c →
    ∃ claim, lastClaim id history = some (.claim c id (.claimed claim))
  -- a call that loses the claim
  loser : ∀ c reason status, .claim c id (.refused reason status) ∈ history →
    trace c history = [.claim c id (.refused reason status)] ∧
      ∃ r, s.runs c = some r ∧ (r.phase = .returned (.notClaimable reason status) ∨
        r.phase = .closed ∨ r.phase = .crashed)
  frame : Throughout Step (fun _ m e n => ∀ c reason status,
    e = .claim c id (.refused reason status) → n.db = m.db) System.init history s
  -- claims and charges of different PENDING episodes
  claimed : ∀ c d claim claim' before mid after,
    history = before ++ .claim c id (.claimed claim) :: mid ++
      .claim d id (.claimed claim') :: after → Reopened c id mid
  charged : ∀ c d a b before mid after,
    history = before ++ .charge c id a :: mid ++ .charge d id b :: after → Reopened c id mid
  pending : ∀ c claim before after, history = before ++ .claim c id (.claimed claim) :: after →
    ∀ p, row s id = some p → p.status = .pending → Reopened c id after

theorem refused_frame {db db' : Database} {run id : Nat} {reason : String}
    {status : Option PaymentStatus}
    (commit : Commit db (.claim run id (.refused reason status)) db') : db' = db := by
  generalize label : Event.claim run id (.refused reason status) = e at commit
  cases commit with
  | claim run' id' now =>
    unfold claim findById at label ⊢
    split
    · rfl
    · rename_i row found
      split
      · rfl
      · rename_i free
        simp [found, free] at label
  | idle _ outside => rfl
  | _ => simp at label

theorem claimed_pending {s t : System} {e : Event} {run id : Nat} {claim : Claim}
    (move : RowMove id (row s id) e (row t id)) (label : e = .claim run id (.claimed claim)) :
    ∃ p, row s id = some p ∧ p.status = .pending := by
  subst label
  generalize row s id = before at move
  generalize row t id = after at move
  cases move with
  | stay quiet => simp [Event.writes] at quiet
  | write w =>
    cases w with
    | claim run now free => exact ⟨_, rfl, free⟩

theorem claims_apart {history : List Event} {s : System} (run : Run Step System.init history s)
    {id c d : Nat} (unreleased : Unreleased id history) {claim claim' : Claim}
    {before mid after : List Event}
    (shape : history = before ++ .claim c id (.claimed claim) :: mid ++
      .claim d id (.claimed claim') :: after) : Reopened c id mid := by
  subst shape
  obtain ⟨m, n, first, step, -⟩ := run_at run
  obtain ⟨p, present, free⟩ := claimed_pending (commit_row (does_commit step) id) rfl
  have freeBefore : Unreleased id (before ++ .claim c id (.claimed claim) :: mid) :=
    fun status there => unreleased status (List.mem_append_left _ there)
  rcases run_episodes first id freeBefore c claim before mid rfl with reopened | ⟨-, q, found, busy⟩
  · exact reopened
  · rw [present] at found
    obtain rfl := Option.some.inj found
    exact absurd free busy

theorem charges_apart {history : List Event} {s : System} (run : Run Step System.init history s)
    {id c d : Nat} (unreleased : Unreleased id history) {a b : Attempt}
    {before mid after : List Event}
    (shape : history = before ++ .charge c id a :: mid ++ .charge d id b :: after) :
    Reopened c id mid := by
  subst shape
  obtain ⟨m, n, toSecond, second, -⟩ := run_at run
  obtain ⟨u, v, toFirst, first, -⟩ := run_at toSecond
  obtain ⟨claim, charging⟩ := charging_call (run_traced toFirst) (does_runs first)
  obtain ⟨claim', chargingAgain⟩ := charging_call (run_traced toSecond) (does_runs second)
  obtain ⟨⟨claim, there⟩, unsettled⟩ := in_flight_history charging (by simp [ProcessPhase.claimOf])
  obtain ⟨claimed', unsettled'⟩ := in_flight_history chargingAgain (by simp [ProcessPhase.claimOf])
  obtain ⟨early, late, shape⟩ := List.append_of_mem there
  have freeBefore : Unreleased id (before ++ .charge c id a :: mid) :=
    fun status there => unreleased status (List.mem_append_left _ there)
  have episodes := run_episodes toSecond id freeBefore
  have position : before ++ .charge c id a :: mid =
      early ++ .claim c id (.claimed claim) :: (late ++ .charge c id a :: mid) := by
    simp [shape]
  rcases episodes c claim early _ position with ⟨reason, status, settled⟩ | ⟨last, -⟩
  · -- the settle is not before the first charge
    rcases List.mem_append.mp settled with settledEarly | settledLate
    · exact absurd (by simp [shape, settledEarly]) (unsettled id (.retry reason status))
    · exact ⟨reason, status, by simpa using settledLate⟩
  · obtain ⟨claim'', last', -⟩ := between_last episodes ⟨claimed', unsettled' id⟩
    rw [last] at last'
    obtain ⟨rfl, -⟩ : c = d ∧ claim = claim'' := by simpa using last'
    exact absurd (by simp) (claimed_uncharged chargingAgain id a)

theorem charging_exclusive {history : List Event} {s : System}
    (run : Run Step System.init history s) {id : Nat} (unreleased : Unreleased id history) :
    Exclusive id history s := by
  have traced := run_traced run
  have episodes := run_episodes run id unreleased
  constructor
  · intro c r present mine flying
    obtain ⟨claimed, unsettled⟩ := in_flight_history (traced_call traced present) flying
    rw [mine] at claimed
    exact ⟨claimed, unsettled id⟩
  · intro c d first second
    obtain ⟨claim, last, -⟩ := between_last episodes first
    obtain ⟨claim', last', -⟩ := between_last episodes second
    rw [last] at last'
    exact (show c = d ∧ claim = claim' by simpa using last').1
  · intro p present free c between
    obtain ⟨-, -, q, found, busy⟩ := between_last episodes between
    rw [present] at found
    obtain rfl := Option.some.inj found
    exact busy free
  · intro c between
    obtain ⟨claim, last, -⟩ := between_last episodes between
    exact ⟨claim, last⟩
  · intro c reason status lost
    cases present : s.runs c with
    | none =>
      have quiet := traced c
      rw [present] at quiet
      have listed : .claim c id (.refused reason status) ∈ trace c history :=
        mem_trace.mpr ⟨lost, by simp [ofCall]⟩
      simp [quiet] at listed
    | some r =>
      obtain ⟨only, ended⟩ := lost_history (traced_call traced present) lost
      exact ⟨only, r, rfl, ended⟩
  · intro before e after m n _ _ step _ c reason status label
    subst label
    exact refused_frame (does_commit step)
  · intro c d claim claim' before mid after shape
    exact claims_apart run unreleased shape
  · intro c d a b before mid after shape
    exact charges_apart run unreleased shape
  · intro c claim before after shape p present free
    rcases episodes c claim before after shape with reopened | ⟨-, q, found, busy⟩
    · exact reopened
    · rw [present] at found
      obtain rfl := Option.some.inj found
      exact absurd free busy

def contendedRun : List Action :=
  [.initiate 0 ⟨3, 60000, 3000⟩ ⟨"order-123", 4200, "INR"⟩, .api 0 .insert,
    .process 0 1, .process 1 1, .worker 0 (.claim none), .worker 1 (.claim none),
    .worker 0 (.charge 3000 (attempt 3000 .timeout 0 "gw_a")), .worker 0 .reply,
    .worker 0 (.settle none), .process 2 1, .worker 2 (.claim none),
    .worker 2 (.charge 3000 (attempt 3000 .success 0 "gw_b"))]

/-- Two parallel calls, one of which loses, and a retry by a third. -/
theorem contended_payment_exclusive :
    Exclusive 1 (replay exec Action.any System.init contendedRun).1
        (replay exec Action.any System.init contendedRun).2 ∧
      (.claim 1 1 (.refused "not_pending" (some .processing))) ∈
        (replay exec Action.any System.init contendedRun).1 := by
  refine ⟨charging_exclusive (replay_run exec Action.any System.init contendedRun) ?_, by decide⟩
  intro status there
  have unreleased : (replay exec Action.any System.init contendedRun).1.all
      (fun e => !release 1 e || ofCall 0 e) = true := by decide
  have both := List.all_eq_true.mp unreleased _ there
  simp [release, ofCall] at both

end ClaimExclusion
