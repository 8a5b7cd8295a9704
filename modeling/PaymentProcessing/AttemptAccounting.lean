import PaymentProcessing.Lifecycle

/-!
The attempts column against the history of the run. A write opens an attempt
(the claim), closes it again (a release to PENDING) or settles the payment, and
the counter moves only with the first. Charges are matched with claims by the
list of claims whose gateway call has not started.
-/
namespace AttemptAccounting
open TransitionRuns PaymentStateMachine PaymentRepositories PaymentService PaymentTransactions
open PaymentSystem SystemSteps

def wonClaim (id : Nat) : Event → Bool
  | .claim _ pid (.claimed _) => pid == id
  | _ => false

/-- The moves PROCESSING -> PENDING: a retriable failure, or a recovered stale claim. -/
def release (id : Nat) : Event → Bool
  | .settle _ pid (.retry _ _) => pid == id
  | .recover pid (.released _) => pid == id
  | _ => false

def chargeOf (id : Nat) : Event → Bool
  | .charge _ pid _ => pid == id
  | _ => false

def claims (id : Nat) (history : List Event) : Nat := history.countP (wonClaim id)

def releases (id : Nat) (history : List Event) : Nat := history.countP (release id)

def charges (id : Nat) (history : List Event) : Nat := history.countP (chargeOf id)

/-- One for a step that changed the status of a row that was there before it. -/
def rowChange : Option Payment → Option Payment → Nat
  | some p, some q => if q.status = p.status then 0 else 1
  | _, _ => 0

def statusChange (id : Nat) (s t : System) : Nat := rowChange (row s id) (row t id)

theorem countP_snoc (f : Event → Bool) (history : List Event) (e : Event) :
    (history ++ [e]).countP f = history.countP f + if f e = true then 1 else 0 := by
  simp [List.countP_append, List.countP_singleton]

theorem write_maxAttempts {id : Nat} {p q : Payment} {e : Event} (w : Write id p e q) :
    q.maxAttempts = p.maxAttempts := by
  have same := write_terms w
  simp only [terms, Prod.mk.injEq] at same
  exact same.2.2.2.2.1

theorem unsettled_cases {status : PaymentStatus} (unsettled : isTerminal status = false) :
    status = .pending ∨ status = .processing := by
  cases status with
  | pending => exact Or.inl rfl
  | processing => exact Or.inr rfl
  | success => simp [isTerminal, transitions] at unsettled
  | failed => simp [isTerminal, transitions] at unsettled

theorem write_kinds {id : Nat} {p q : Payment} {e : Event} (w : Write id p e q) :
    (p.status = .pending ∧ q.status = .processing ∧ q.attempts = p.attempts + 1 ∧
      wonClaim id e = true ∧ release id e = false) ∨
    (p.status = .processing ∧ q.status = .pending ∧ q.attempts = p.attempts ∧
      p.attempts < p.maxAttempts ∧ wonClaim id e = false ∧ release id e = true) ∨
    (isTerminal p.status = false ∧ isTerminal q.status = true ∧ q.attempts = p.attempts ∧
      wonClaim id e = false ∧ release id e = false) := by
  have unsettled := PaymentLifecycle.no_write_settled w
  cases w with
  | claim run now free => exact Or.inl ⟨free, rfl, rfl, by simp [wonClaim], rfl⟩
  | settleRetry run now err held retriable left =>
    exact Or.inr (Or.inl ⟨held, rfl, rfl, left, rfl, by simp [release]⟩)
  | recoverReleased now held left =>
    exact Or.inr (Or.inl ⟨held, rfl, rfl, left, rfl, by simp [release]⟩)
  | settleSuccess run now result held => exact Or.inr (Or.inr ⟨unsettled, rfl, rfl, rfl, rfl⟩)
  | settleFailed run now err held => exact Or.inr (Or.inr ⟨unsettled, rfl, rfl, rfl, rfl⟩)
  | recoverFailed now held => exact Or.inr (Or.inr ⟨unsettled, rfl, rfl, rfl, rfl⟩)
  | fail reason now legal => exact Or.inr (Or.inr ⟨unsettled, rfl, rfl, rfl, rfl⟩)
  | webhook callback now target legal =>
    exact Or.inr (Or.inr
      ⟨unsettled, WebhookService.reported_terminal callback.reported, rfl, rfl, rfl⟩)

theorem unwritten_uncounted {id : Nat} {e : Event} (quiet : e.writes id = false) :
    wonClaim id e = false ∧ release id e = false := by
  cases e with
  | claim run pid result => cases result <;> simp_all [Event.writes, wonClaim, release]
  | settle run pid result => cases result <;> simp_all [Event.writes, wonClaim, release]
  | recover pid result => cases result <;> simp_all [Event.writes, wonClaim, release]
  | _ => simp [wonClaim, release]

/-- The counter against the history, for a payment that may be tried at all. -/
structure Counted (id : Nat) (history : List Event) (p : Payment) : Prop where
  attempts : p.attempts = claims id history
  pending : p.status = .pending →
    claims id history = releases id history ∧ p.attempts < p.maxAttempts
  processing : p.status = .processing → claims id history = releases id history + 1
  bounded : p.attempts ≤ p.maxAttempts

/-- The counts of one id before and after its row exists. -/
def Ledger (id : Nat) (history : List Event) : Option Payment → Prop
  | none => claims id history = 0 ∧ releases id history = 0
  | some p => 1 ≤ p.maxAttempts → Counted id history p

theorem claims_snoc (id : Nat) (history : List Event) (e : Event) :
    claims id (history ++ [e]) = claims id history + if wonClaim id e = true then 1 else 0 :=
  countP_snoc (wonClaim id) history e

theorem releases_snoc (id : Nat) (history : List Event) (e : Event) :
    releases id (history ++ [e]) = releases id history + if release id e = true then 1 else 0 :=
  countP_snoc (release id) history e

theorem counted_write {id : Nat} {history : List Event} {p q : Payment} {e : Event}
    (h : Counted id history p) (w : Write id p e q) : Counted id (history ++ [e]) q := by
  have keeps := write_maxAttempts w
  have counts := h.attempts
  have bounded := h.bounded
  have claimed := claims_snoc id history e
  have released := releases_snoc id history e
  rcases write_kinds w with ⟨was, is_, more, won, kept⟩ | ⟨was, is_, same, left, won, freed⟩ |
      ⟨was, is_, same, won, kept⟩
  · have before := h.pending was
    rw [won, if_pos rfl] at claimed
    rw [kept, if_neg Bool.false_ne_true] at released
    constructor
    · omega
    · intro free
      simp [is_] at free
    · intro _
      omega
    · omega
  · have before := h.processing was
    rw [won, if_neg Bool.false_ne_true] at claimed
    rw [freed, if_pos rfl] at released
    constructor
    · omega
    · intro _
      omega
    · intro held
      simp [is_] at held
    · omega
  · rw [won, if_neg Bool.false_ne_true] at claimed
    constructor
    · omega
    · intro free
      simp [free, isTerminal, transitions] at is_
    · intro held
      simp [held, isTerminal, transitions] at is_
    · omega

theorem ledger_step {id : Nat} {history : List Event} {before after : Option Payment} {e : Event}
    (h : Ledger id history before) (move : RowMove id before e after) :
    Ledger id (history ++ [e]) after := by
  cases move with
  | stay quiet =>
    obtain ⟨won, kept⟩ := unwritten_uncounted quiet
    have sameClaims : claims id (history ++ [e]) = claims id history := by
      simp [claims_snoc, won]
    have sameReleases : releases id (history ++ [e]) = releases id history := by
      simp [releases_snoc, kept]
    cases before with
    | none =>
      obtain ⟨noClaim, noRelease⟩ := h
      exact ⟨sameClaims.trans noClaim, sameReleases.trans noRelease⟩
    | some p =>
      intro positive
      obtain ⟨attempts, pending, processing, bounded⟩ := h positive
      rw [← sameClaims] at attempts pending processing
      rw [← sameReleases] at pending processing
      exact ⟨attempts, pending, processing, bounded⟩
  | create call key amount currency maxAttempts now =>
    intro positive
    obtain ⟨noClaim, noRelease⟩ := h
    have zero : claims id (history ++ [Event.insert call (some id)]) = 0 := by
      simpa [claims_snoc, wonClaim] using noClaim
    have none_ : releases id (history ++ [Event.insert call (some id)]) = 0 := by
      simpa [releases_snoc, release] using noRelease
    refine ⟨zero.symm, fun _ => ⟨by rw [zero, none_], positive⟩, ?_, Nat.zero_le _⟩
    intro held
    simp [newPayment] at held
  | write w =>
    intro positive
    have keeps := write_maxAttempts w
    exact counted_write (h (by omega)) w

theorem run_ledger {allowed : System → Action → Prop} {history : List Event} {s : System}
    (run : Run (Does exec allowed) System.init history s) (id : Nat) :
    Ledger id history (row s id) := by
  refine run_invariant (fun h u => Ledger id h (row u id)) ?_ ?_ run
  · exact ⟨rfl, rfl⟩
  · intro h u e t inv step
    exact ledger_step inv (commit_row (does_commit step) id)

/-- The calls that won a claim of the payment and have not called the gateway. -/
def waiting (id : Nat) (history : List Event) : List Nat :=
  history.foldl (fun open_ e =>
    match e with
    | .claim run pid (.claimed _) => if pid = id then run :: open_ else open_
    | .charge run pid _ => if pid = id then open_.erase run else open_
    | _ => open_) []

structure ChargesMatched (id : Nat) (history : List Event) (s : System) : Prop where
  total : charges id history + (waiting id history).length = claims id history
  holder : ∀ run r claim, s.runs run = some r → r.paymentId = id → r.phase = .claimed claim →
    run ∈ waiting id history

theorem matched_frame {id : Nat} {history : List Event} {s t : System} {e : Event}
    (h : ChargesMatched id history s) (noClaim : wonClaim id e = false)
    (noCharge : chargeOf id e = false)
    (holder : ∀ run r claim, t.runs run = some r → r.paymentId = id → r.phase = .claimed claim →
      s.runs run = some r) : ChargesMatched id (history ++ [e]) t := by
  have same : waiting id (history ++ [e]) = waiting id history := by
    unfold waiting
    rw [List.foldl_append]
    cases e with
    | claim run pid result => cases result <;> simp_all [wonClaim]
    | charge run pid a => simp_all [chargeOf]
    | _ => rfl
  constructor
  · rw [same]
    simpa [charges, claims, countP_snoc, noClaim, noCharge] using h.total
  · intro run r claim present mine here
    rw [same]
    exact h.holder run r claim (holder run r claim present mine here) mine here

theorem outside_uncounted {e : Event} (outside : byProcess e = false) (id : Nat) :
    wonClaim id e = false ∧ chargeOf id e = false := by
  cases e <;> simp_all [byProcess, wonClaim, chargeOf]

theorem matched_won {id : Nat} {history : List Event} {s t : System} {run : Nat} {r : ProcessCall}
    {claim : Claim} (h : ChargesMatched id history s)
    (moved : t.runs = set s.runs run { r with phase := .claimed claim }) :
    ChargesMatched id (history ++ [.claim run id (.claimed claim)]) t := by
  have grown : waiting id (history ++ [.claim run id (.claimed claim)]) =
      run :: waiting id history := by
    simp [waiting, List.foldl_append]
  constructor
  · have total := h.total
    rw [grown]
    simp only [charges, claims, countP_snoc, wonClaim, chargeOf] at total ⊢
    simp
    omega
  · intro other r' claim' found mine here
    rw [grown]
    rw [moved] at found
    rcases set_some found with ⟨same, -⟩ | ⟨-, old⟩
    · simp [same]
    · exact List.mem_cons_of_mem run (h.holder other r' claim' old mine here)

theorem matched_charged {id : Nat} {history : List Event} {s t : System} {run : Nat}
    {r : ProcessCall} {claim : Claim} {a : Attempt} {answer : Except JsError ChargeResult}
    (h : ChargesMatched id history s) (held : run ∈ waiting id history)
    (moved : t.runs = set s.runs run { r with phase := .charging claim answer }) :
    ChargesMatched id (history ++ [.charge run id a]) t := by
  have shrunk : waiting id (history ++ [.charge run id a]) = (waiting id history).erase run := by
    simp [waiting, List.foldl_append]
  constructor
  · have total := h.total
    have length := List.length_erase_of_mem held
    have positive := List.length_pos_of_mem held
    rw [shrunk]
    simp only [charges, claims, countP_snoc, wonClaim, chargeOf] at total ⊢
    simp
    omega
  · intro other r' claim' found mine here
    rw [shrunk]
    rw [moved] at found
    rcases set_some found with ⟨-, rfl⟩ | ⟨apart, old⟩
    · simp at here
    · exact (List.mem_erase_of_ne apart).mpr (h.holder other r' claim' old mine here)

theorem charges_step {id : Nat} {history : List Event} {s t : System} {e : Event}
    (h : ChargesMatched id history s) (move : RunsMove s t e) :
    ChargesMatched id (history ++ [e]) t := by
  cases move with
  | frame same outside =>
    obtain ⟨noClaim, noCharge⟩ := outside_uncounted outside id
    apply matched_frame h noClaim noCharge
    intro run r claim present mine here
    rwa [same] at present
  | start run r fresh begun claiming label =>
    subst label
    apply matched_frame h rfl rfl
    intro other r' claim present mine here
    rw [begun] at present
    rcases set_some present with ⟨-, rfl⟩ | ⟨-, old⟩
    · simp [claiming] at here
    · exact old
  | work run r move phase db queue present moved committed spec =>
    have framed (noClaim : wonClaim id e = false) (noCharge : chargeOf id e = false)
        (elsewhere : r.paymentId = id → ∀ claim, phase ≠ .claimed claim) :
        ChargesMatched id (history ++ [e]) t := by
      apply matched_frame h noClaim noCharge
      intro other r' claim found mine here
      rw [moved] at found
      rcases set_some found with ⟨-, rfl⟩ | ⟨-, old⟩
      · exact absurd here (elsewhere mine claim)
      · exact old
    have life := worker_life spec
    generalize before : r.phase = old at life
    cases life with
    | won claim =>
      by_cases ours : r.paymentId = id
      · rw [ours]
        exact matched_won h moved
      · exact framed (by simp [wonClaim, ours]) rfl (fun mine => absurd mine ours)
    | charging claim a answer =>
      by_cases ours : r.paymentId = id
      · have held : run ∈ waiting id history := h.holder run r claim present ours before
        rw [ours]
        exact matched_charged h held moved
      · exact framed rfl (by simp [chargeOf, ours]) (by simp)
    | settled claim answer result =>
      apply framed rfl rfl
      intro _ claim' here
      simpa [here, ProcessPhase.claimOf] using (afterSettle_over result).1
    | idle outside done noReturn ended =>
      obtain ⟨noClaim, noCharge⟩ := outside_uncounted outside id
      apply framed noClaim noCharge
      intro _ claim' here
      simp [here, ProcessPhase.claimOf] at done
    | _ => exact framed rfl rfl (by simp)

theorem charges_le_claims {allowed : System → Action → Prop} {history : List Event} {s : System}
    (run : Run (Does exec allowed) System.init history s) (id : Nat) :
    charges id history ≤ claims id history := by
  have matched : ChargesMatched id history s := by
    refine run_invariant (ChargesMatched id) ?_ ?_ run
    · exact ⟨rfl, by simp [System.init]⟩
    · intro h u e t inv step
      exact charges_step inv (does_runs step)
  have total := matched.total
  omega

/-- Every attempt takes the status there and back. -/
structure Changed (changes : Nat) (p : Payment) : Prop where
  pending : p.status = .pending → changes = 2 * p.attempts
  processing : p.status = .processing → changes + 1 = 2 * p.attempts
  bounded : changes ≤ 2 * p.maxAttempts

def Changes (changes : Nat) : Option Payment → Prop
  | none => changes = 0
  | some p => 1 ≤ p.maxAttempts → Changed changes p

theorem changed_write {id changes : Nat} {history : List Event} {p q : Payment} {e : Event}
    (counted : Counted id history p) (h : Changed changes p) (w : Write id p e q) :
    Changed (changes + 1) q := by
  have keeps : q.maxAttempts = p.maxAttempts := write_maxAttempts w
  have bounded := counted.bounded
  rcases write_kinds w with ⟨was, is_, more, -, -⟩ | ⟨was, is_, same, left, -, -⟩ |
      ⟨was, is_, same, -, -⟩
  · have before := h.pending was
    have left := (counted.pending was).2
    constructor
    · intro open_
      simp [is_] at open_
    · intro _
      omega
    · omega
  · have before := h.processing was
    constructor
    · intro _
      omega
    · intro held
      simp [is_] at held
    · omega
  · have room : changes + 1 ≤ 2 * p.maxAttempts := by
      rcases unsettled_cases was with open_ | held
      · have before := h.pending open_
        have left := (counted.pending open_).2
        omega
      · have before := h.processing held
        omega
    constructor
    · intro open_
      simp [open_, isTerminal, transitions] at is_
    · intro held
      simp [held, isTerminal, transitions] at is_
    · omega

theorem changes_step {id changes : Nat} {history : List Event} {before after : Option Payment}
    {e : Event} (counted : Ledger id history before) (h : Changes changes before)
    (move : RowMove id before e after) : Changes (changes + rowChange before after) after := by
  cases move with
  | stay quiet =>
    have none_ : rowChange before before = 0 := by cases before <;> simp [rowChange]
    rwa [none_, Nat.add_zero]
  | create call key amount currency maxAttempts now =>
    intro positive
    have zero : changes = 0 := h
    subst zero
    constructor
    · intro _
      rfl
    · intro held
      simp [newPayment] at held
    · exact Nat.zero_le _
  | @write p q _ w =>
    intro positive
    have moved : q.status ≠ p.status := by
      intro same
      have legal := write_legal w
      rw [same] at legal
      exact move_irreflexive p.status legal
    have one : rowChange (some p) (some q) = 1 := by simp [rowChange, moved]
    have keeps := write_maxAttempts w
    rw [one]
    exact changed_write (counted (by omega)) (h (by omega)) w

theorem tally_changes {allowed : System → Action → Prop} {history : List Event} {changes : Nat}
    {s : System} {id : Nat}
    (tally : Tally (Does exec allowed) (statusChange id) System.init history changes s) :
    Changes changes (row s id) := by
  apply tally_invariant (fun _ n u => Changes n (row u id)) ?_ ?_ tally
  · rfl
  intro h n u e t run inv step
  exact changes_step (run_ledger run id) inv (commit_row (does_commit step) id)

/-- The attempts column, the claims and releases committed so far, the gateway
    calls and the status changes of one payment. -/
structure Accounted (id : Nat) (history : List Event) (s : System) (p : Payment) : Prop where
  attempts : p.attempts = claims id history
  pending : p.status = .pending →
    claims id history = releases id history ∧ p.attempts < p.maxAttempts
  processing : p.status = .processing →
    claims id history = releases id history + 1 ∧ 1 ≤ p.attempts ∧ p.attempts ≤ p.maxAttempts
  charged : charges id history ≤ p.maxAttempts
  tallied : ∃ n, Tally Step (statusChange id) System.init history n s
  changed : ∀ n, Tally Step (statusChange id) System.init history n s → n ≤ 2 * p.maxAttempts

theorem attempts_accounted {history : List Event} {s : System}
    (run : Run Step System.init history s) {id : Nat} {p : Payment} (found : row s id = some p)
    (positive : 1 ≤ p.maxAttempts) : Accounted id history s p := by
  have ledger := run_ledger run id
  rw [found] at ledger
  obtain ⟨attempts, pending, processing, bounded⟩ := ledger positive
  have started := charges_le_claims run id
  refine ⟨attempts, pending, ?_, by omega, run_has_tally (statusChange id) run, ?_⟩
  · intro held
    have ahead := processing held
    exact ⟨ahead, by omega, bounded⟩
  · intro n tally
    have changes := tally_changes tally
    rw [found] at changes
    exact (changes positive).bounded

def retriedRun : List Action :=
  [.initiate 0 ⟨2, 60000, 3000⟩ ⟨"order-123", 4200, "INR"⟩, .api 0 .insert,
    .process 0 1, .worker 0 (.claim none), .worker 0 (.charge 3000 (attempt 3000 .timeout 0 "gw_a")),
    .worker 0 .reply, .worker 0 (.settle none), .process 1 1, .worker 1 (.claim none),
    .worker 1 (.charge 3000 (attempt 3000 .success 0 "gw_b"))]

/-- A timed-out attempt and a second one under way: two charges, three status
    changes, one release. -/
theorem retried_payment_accounted :
    ∃ p, row (replay exec Action.any System.init retriedRun).2 1 = some p ∧
      p.status = .processing ∧
      Accounted 1 (replay exec Action.any System.init retriedRun).1
        (replay exec Action.any System.init retriedRun).2 p := by
  have shape : (row (replay exec Action.any System.init retriedRun).2 1).map
      (fun p => (p.status, p.maxAttempts)) = some (.processing, 2) := by decide
  obtain ⟨p, found, eq⟩ := Option.map_eq_some_iff.mp shape
  obtain ⟨held, two⟩ := Prod.mk.inj eq
  exact ⟨p, found, held, attempts_accounted (replay_run exec Action.any System.init retriedRun)
    found (by omega)⟩

end AttemptAccounting
