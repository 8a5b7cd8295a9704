import PaymentProcessing.ColumnCoherence

/-!
The claims that a sweep takes away. findStale and recoverStalePayment are
different transactions, and the second looks at the status only: a payment that
was released and claimed again in between is PROCESSING once more, and its new
claim is taken in place of the one that was selected.
-/
namespace StaleSweeps
open TransitionRuns PaymentStateMachine PaymentRepositories PaymentService PaymentTransactions
open PaymentSystem SystemSteps AttemptAccounting ColumnCoherence

theorem step_clock {s t : System} {e : Event} (step : Step s e t) : s.now ≤ t.now := by
  obtain ⟨a, -, done⟩ := step
  have move := exec_move done
  cases move with
  | tick ms =>
    change s.now ≤ s.now + ms
    omega
  | _ => exact Nat.le_refl _

theorem run_clock {s t : System} {later : List Event} (run : Run Step s later t) :
    s.now ≤ t.now := by
  induction run with
  | nil => omega
  | snoc before last ih =>
    have ticked := step_clock last
    omega

/-- The sweep still works on rows of its own SELECT, under its own settings. -/
def Selection (sweep : Nat) (config : Config) (stale : List Payment) (s : System) : Prop :=
  ∃ w, s.sweeps sweep = some w ∧ w.config = config ∧ ∀ row ∈ sweepRows w.phase, row ∈ stale

theorem selection_step {sweep : Nat} {config : Config} {stale : List Payment} {s t : System}
    {e : Event} (h : Selection sweep config stale s) (step : Step s e t) :
    Selection sweep config stale t := by
  obtain ⟨w, present, same, rows⟩ := h
  obtain ⟨a, -, done⟩ := step
  have move := exec_move done
  cases move with
  | reconcile other config' fresh =>
    have apart : sweep ≠ other := fresh_apart present fresh
    exact ⟨w, by simp [apart, present], same, rows⟩
  | sweep other move here spec =>
    by_cases mine : sweep = other
    · subst mine
      obtain rfl := Option.some.inj (present.symm.trans here)
      refine ⟨_, if_pos rfl, same, ?_⟩
      intro row there
      exact rows row (sweep_rows spec row there)
    · exact ⟨w, by simp [mine, present], same, rows⟩
  | _ => exact ⟨w, present, same, rows⟩

/-- `after` is what happened since the SELECT of a sweep, which left state `n`. -/
def Since (sweep : Nat) (history : List Event) (s n : System) (after : List Event) : Prop :=
  ∃ before m config, history = before ++ .other :: after ∧ Run Step System.init before m ∧
    exec m (.reconcile sweep config) = some (.other, n) ∧ Run Step n after s

theorem since_snoc {sweep : Nat} {history after : List Event} {s n t : System} {e : Event}
    (h : Since sweep history s n after) (step : Step s e t) :
    Since sweep (history ++ [e]) t n (after ++ [e]) := by
  obtain ⟨before, m, config, rfl, first, selected, later⟩ := h
  exact ⟨before, m, config, by simp, first, selected, Run.snoc later step⟩

theorem run_since {history : List Event} {s : System} (run : Run Step System.init history s)
    {sweep : Nat} {w : Sweep} (present : s.sweeps sweep = some w) :
    ∃ n after, Since sweep history s n after := by
  have every : ∀ sweep w, s.sweeps sweep = some w → ∃ n after, Since sweep history s n after := by
    apply run_induction (fun h u => ∀ sweep w, u.sweeps sweep = some w →
      ∃ n after, Since sweep h u n after) ?_ ?_ run
    · intro sweep w there
      simp [System.init] at there
    · intro h u e t before inv step sweep w there
      have extended : ∀ old, u.sweeps sweep = some old →
          ∃ n after, Since sweep (h ++ [e]) t n after := by
        intro old known
        obtain ⟨n, after, since⟩ := inv sweep old known
        exact ⟨n, _, since_snoc since step⟩
      obtain ⟨a, ok, done⟩ := step
      have move := exec_move done
      cases move with
      | reconcile other config fresh =>
        rcases set_some there with ⟨rfl, -⟩ | ⟨-, old⟩
        · exact ⟨_, [], h, u, config, rfl, before, done, Run.nil⟩
        · exact extended w old
      | sweep other move here spec =>
        rcases set_some there with ⟨rfl, -⟩ | ⟨-, old⟩
        · exact extended _ here
        · exact extended w old
      | _ => exact extended w there
  exact every sweep w present

/-- The rows still to be recovered were stale at the SELECT, and the clock has
    not gone back since. -/
theorem since_selected {sweep : Nat} {history after : List Event} {s n : System}
    (since : Since sweep history s n after) {w : Sweep} (present : s.sweeps sweep = some w)
    {selected : Payment} (working : selected ∈ sweepRows w.phase) :
    Run Step n after s ∧ row n selected.id = some selected ∧ selected.status = .processing ∧
      ∃ started, selected.processingStartedAt = some started ∧
        started + w.config.staleProcessingMs < n.now := by
  obtain ⟨before, m, config, -, -, picked, later⟩ := since
  have move := exec_move picked
  generalize label : Event.other = e at move
  cases move with
  | reconcile _ _ fresh =>
    have begun : Selection sweep config (findStale m.db m.now config.staleProcessingMs)
        { m with sweeps := set m.sweeps sweep (startSweep m.db m.now config) } := by
      refine ⟨_, if_pos rfl, rfl, ?_⟩
      intro row there
      simpa [startSweep, rows_nextRow] using there
    obtain ⟨w', present', same, rows⟩ :=
      run_preserves (Selection sweep config _) (fun _ _ _ => selection_step) later begun
    obtain rfl := Option.some.inj (present.symm.trans present')
    obtain ⟨found, held, started, stamped, old⟩ := (mem_findStale _ _ _ _).mp (rows selected working)
    exact ⟨later, found, held, started, stamped, by rw [same]; exact old⟩

def StampedFrom (id time : Nat) (s : System) : Prop :=
  time ≤ s.now ∧ ∀ p, row s id = some p → p.status = .processing →
    ∃ started, p.processingStartedAt = some started ∧ time ≤ started

theorem stampedFrom_step {id time : Nat} {s t : System} {e : Event} (h : StampedFrom id time s)
    (step : Step s e t) : StampedFrom id time t := by
  obtain ⟨past, stamped⟩ := h
  have ticked := step_clock step
  refine ⟨by omega, ?_⟩
  intro q after held
  cases row_before (does_commit step) after with
  | kept before quiet => exact stamped q before held
  | created call _ _ _ _ _ absent label made => simp [made, newPayment] at held
  | written before w =>
    obtain ⟨run, claim, rfl⟩ := CallTraces.write_processing w held
    have won : wonClaim id (.claim run id (.claimed claim)) = true := by simp [wonClaim]
    obtain ⟨p, -, -, claimed⟩ := claim_step (does_runs step) won
    obtain rfl := Option.some.inj (after.symm.trans claimed)
    exact ⟨s.now, rfl, past⟩

theorem stamp_after_claim {id : Nat} {m k s : System} {e : Event} {later : List Event}
    (step : Step m e k) (won : wonClaim id e = true) (run : Run Step k later s) {p : Payment}
    (found : row s id = some p) (held : p.status = .processing) :
    ∃ started, p.processingStartedAt = some started ∧ m.now ≤ started := by
  have begun : StampedFrom id m.now k := by
    refine ⟨step_clock step, ?_⟩
    intro q claimed _
    obtain ⟨_, -, -, stamped⟩ := claim_step (does_runs step) won
    obtain rfl := Option.some.inj (claimed.symm.trans stamped)
    exact ⟨m.now, rfl, Nat.le_refl _⟩
  exact (run_preserves (StampedFrom id m.now) (fun _ _ _ => stampedFrom_step) run begun).2 p found held

/-- A step in which a sweep, working on the row it selected, takes the claim of
    the row it finds away: it releases or fails the payment. -/
structure Takes (s : System) (e : Event) (t : System) (sweep : Nat) (w : Sweep)
    (selected p : Payment) : Prop where
  present : s.sweeps sweep = some w
  working : ∃ rest, w.phase = .recovering selected rest
  recovers : exec s (.sweep sweep (.recover none)) = some (e, t)
  acts : (∃ status, e = .recover selected.id (.released status)) ∨
    ∃ status, e = .recover selected.id (.failed status)
  found : row s selected.id = some p

theorem takes_held {s t : System} {e : Event} {sweep : Nat} {w : Sweep} {selected p : Payment}
    (takes : Takes s e t sweep w selected p) : p.status = .processing := by
  have move := exec_move takes.recovers
  have found : s.db.payments.find selected.id = some p := takes.found
  cases move with
  | sweep _ _ here spec =>
    obtain ⟨rest, working⟩ := takes.working
    obtain rfl := Option.some.inj (here.symm.trans takes.present)
    cases spec with
    | recover here =>
      obtain ⟨rfl, rfl⟩ : _ = selected ∧ _ = rest := by simpa using here.symm.trans working
      by_contra moved
      have acts := takes.acts
      simp [recoverStalePayment, findById, found, moved] at acts

theorem takes_rows {s t : System} {e : Event} {sweep : Nat} {w : Sweep} {selected p : Payment}
    (takes : Takes s e t sweep w selected p) : selected ∈ sweepRows w.phase := by
  obtain ⟨rest, working⟩ := takes.working
  simp [working, sweepRows]

def TakesStale (_ : List Event) (s : System) (e : Event) (t : System) : Prop :=
  ∀ sweep w selected p, Takes s e t sweep w selected p →
    ∃ started, p.processingStartedAt = some started ∧ started + w.config.staleProcessingMs < s.now

/-- Every claim since the SELECT is stale at the lock itself. -/
def NoFreshClaim (history : List Event) (s : System) (e : Event) (t : System) : Prop :=
  ∀ sweep w selected p, Takes s e t sweep w selected p →
    ∀ n after, Since sweep history s n after →
      ∀ earlier claim later m k, after = earlier ++ claim :: later →
        wonClaim selected.id claim = true → Run Step n earlier m → Step m claim k →
        Run Step k later s → m.now + w.config.staleProcessingMs < s.now

def TakesSelected (_ : List Event) (s : System) (e : Event) (t : System) : Prop :=
  ∀ sweep w selected p, Takes s e t sweep w selected p →
    p.processingStartedAt = selected.processingStartedAt

def NoClaimSince (history : List Event) (s : System) (e : Event) (t : System) : Prop :=
  ∀ sweep w selected p, Takes s e t sweep w selected p →
    ∀ n after, Since sweep history s n after → ∀ x ∈ after, wonClaim selected.id x = false

theorem takes_stale_iff {history : List Event} {s t : System} {e : Event}
    (run : Run Step System.init history s) :
    TakesStale history s e t ↔ NoFreshClaim history s e t := by
  constructor
  · intro stale sweep w selected p takes n after since earlier claim later m k shape won first step
      last
    obtain ⟨started, stamped, old⟩ := stale sweep w selected p takes
    obtain ⟨started', stamped', afterClaim⟩ :=
      stamp_after_claim step won last takes.found (takes_held takes)
    obtain rfl : started = started' := Option.some.inj (stamped.symm.trans stamped')
    omega
  · intro noFresh sweep w selected p takes
    obtain ⟨n, after, since⟩ := run_since run takes.present
    obtain ⟨later, found, held, started, stamped, old⟩ :=
      since_selected since takes.present (takes_rows takes)
    have busy := takes_held takes
    cases last : lastWith (wonClaim selected.id) after with
    | none =>
      have unclaimed : ∀ x ∈ after, wonClaim selected.id x = false := by
        intro x there
        have none_ := List.find?_eq_none.mp last x (List.mem_reverse.mpr there)
        simpa using none_
      obtain rfl := unclaimed_held later unclaimed found takes.found busy
      have ticked := run_clock later
      exact ⟨started, stamped, by omega⟩
    | some claim =>
      obtain ⟨earlier, rest, shape, won, unclaimed⟩ := lastWith_split last
      rw [shape] at later
      obtain ⟨m, k, first, step, afterwards⟩ := run_at later
      have old := noFresh sweep w selected p takes n after since earlier claim rest m k shape won
        first step afterwards
      obtain ⟨q, -, -, claimed⟩ := claim_step (does_runs step) won
      obtain rfl := unclaimed_held afterwards unclaimed claimed takes.found busy
      exact ⟨m.now, rfl, old⟩

theorem takes_selected_iff {history : List Event} {s t : System} {e : Event}
    (run : Run Step System.init history s) :
    TakesSelected history s e t ↔ NoClaimSince history s e t := by
  constructor
  · intro same sweep w selected p takes n after since x there
    obtain ⟨later, found, held, started, stamped, old⟩ :=
      since_selected since takes.present (takes_rows takes)
    by_contra claimed
    have won : wonClaim selected.id x = true := by simpa using claimed
    obtain ⟨earlier, rest, shape⟩ := List.append_of_mem there
    rw [shape] at later
    obtain ⟨m, k, first, step, last⟩ := run_at later
    obtain ⟨started', stamped', afterClaim⟩ :=
      stamp_after_claim step won last takes.found (takes_held takes)
    rw [same sweep w selected p takes, stamped] at stamped'
    obtain rfl := Option.some.inj stamped'
    have ticked := run_clock first
    omega
  · intro none_ sweep w selected p takes
    obtain ⟨n, after, since⟩ := run_since run takes.present
    obtain ⟨later, found, -, -⟩ := since_selected since takes.present (takes_rows takes)
    have unclaimed := none_ sweep w selected p takes n after since
    rw [unclaimed_held later unclaimed found takes.found (takes_held takes)]

def config : Config := ⟨2, 2000, 3000⟩

def abandoned : Payment :=
  ⟨1, "order-123", 4200, "INR", .processing, 1, 2, none, none, some 0, 0, 0⟩

/-- Both sweeps select the payment of a dead worker; the first releases it, and
    a second worker claims and charges it before the second sweep gets there. -/
def crossedSweeps : List Action :=
  [.initiate 0 config ⟨"order-123", 4200, "INR"⟩, .api 0 .insert, .process 0 1,
    .worker 0 (.claim none), .tick 2001, .reconcile 0 config, .reconcile 1 config,
    .sweep 0 (.recover none), .process 1 1, .worker 1 (.claim none),
    .worker 1 (.charge 3000 (attempt 3000 .success 0 "gw_b"))]

/-- On the last permitted attempt the second sweep fails a payment that was
    claimed in the same millisecond and is being charged. -/
theorem second_sweep_takes_fresh_claim :
    ¬ ∀ history s, Run Step System.init history s → ∀ e t, Step s e t → TakesStale history s e t := by
  intro law
  have recovered : (exec (replay exec Action.any System.init crossedSweeps).2
      (.sweep 1 (.recover none))).map Prod.fst = some (.recover 1 (.failed .failed)) := by decide
  obtain ⟨⟨e, t⟩, done, rfl⟩ := Option.map_eq_some_iff.mp recovered
  have stamps : (row (replay exec Action.any System.init crossedSweeps).2 1).map
      Payment.processingStartedAt = some (some 2001) := by decide
  obtain ⟨p, found, stamped⟩ := Option.map_eq_some_iff.mp stamps
  have present : (replay exec Action.any System.init crossedSweeps).2.sweeps 1 =
      some ⟨config, [abandoned], .recovering abandoned []⟩ := by decide
  have takes : Takes (replay exec Action.any System.init crossedSweeps).2 _ t 1 _ abandoned p :=
    ⟨present, ⟨[], rfl⟩, done, Or.inr ⟨.failed, rfl⟩, found⟩
  obtain ⟨started, same, old⟩ := law _ _ (replay_run exec Action.any System.init crossedSweeps)
    _ t ⟨_, trivial, done⟩ 1 _ _ _ takes
  have late : (replay exec Action.any System.init crossedSweeps).2.now = 2001 := by decide
  rw [stamped] at same
  obtain rfl := Option.some.inj same
  rw [late] at old
  simp [config] at old

/-- A sweep takes only stale claims away exactly when no claim of the payment
    that was won after its SELECT is still younger than the threshold at the
    lock, and only the claims it selected exactly when none was won at all; step
    by step and over whole runs. -/
theorem sweep_takes_stale_iff {history : List Event} {s : System}
    (run : Run Step System.init history s) :
    ((∀ e t, Step s e t → (TakesStale history s e t ↔ NoFreshClaim history s e t)) ∧
        (Throughout Step TakesStale System.init history s ↔
          Throughout Step NoFreshClaim System.init history s)) ∧
      (∀ e t, Step s e t → (TakesSelected history s e t ↔ NoClaimSince history s e t)) ∧
        (Throughout Step TakesSelected System.init history s ↔
          Throughout Step NoClaimSince System.init history s) := by
  refine ⟨⟨fun _ _ _ => takes_stale_iff run, ?_⟩, fun _ _ _ => takes_selected_iff run, ?_⟩
  · apply throughout_iff ?_ history s
    intro before m e n first _
    exact takes_stale_iff first
  · apply throughout_iff ?_ history s
    intro before m e n first _
    exact takes_selected_iff first

def loneSweep : List Action :=
  [.initiate 0 config ⟨"order-123", 4200, "INR"⟩, .api 0 .insert, .process 0 1,
    .worker 0 (.claim none), .tick 2001, .reconcile 0 config]

theorem lone_sweep_takes_stale :
    ∃ t, Step (replay exec Action.any System.init loneSweep).2 (.recover 1 (.released .pending)) t ∧
      NoFreshClaim (replay exec Action.any System.init loneSweep).1
        (replay exec Action.any System.init loneSweep).2 (.recover 1 (.released .pending)) t := by
  have recovered : (exec (replay exec Action.any System.init loneSweep).2
      (.sweep 0 (.recover none))).map Prod.fst = some (.recover 1 (.released .pending)) := by decide
  obtain ⟨⟨e, t⟩, done, rfl⟩ := Option.map_eq_some_iff.mp recovered
  have step : Step (replay exec Action.any System.init loneSweep).2 _ t := ⟨_, trivial, done⟩
  have law := sweep_takes_stale_iff (replay_run exec Action.any System.init loneSweep)
  refine ⟨t, step, (law.1.1 _ t step).mp ?_⟩
  intro sweep w selected p takes
  have stamps : (row (replay exec Action.any System.init loneSweep).2 1).map
      Payment.processingStartedAt = some (some 0) := by decide
  have present : (replay exec Action.any System.init loneSweep).2.sweeps 0 =
      some ⟨config, [abandoned], .recovering abandoned []⟩ := by decide
  have late : (replay exec Action.any System.init loneSweep).2.now = 2001 := by decide
  cases sweep with
  | zero =>
    obtain rfl := Option.some.inj (takes.present.symm.trans present)
    have ours : 1 = selected.id := by simpa using takes.acts
    rw [ours, takes.found] at stamps
    exact ⟨0, by simpa using stamps, by rw [late]; decide⟩
  | succ other =>
    have absent : (replay exec Action.any System.init loneSweep).2.sweeps (other + 1) = none := rfl
    have present := takes.present
    simp [absent] at present

end StaleSweeps
