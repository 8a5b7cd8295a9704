import PaymentProcessing.ColumnCoherence

/-!
How long a payment can stay PROCESSING. The reconcile worker starts a sweep at
least every RECONCILE_INTERVAL_MS, one at a time, and no sweep fails; workers
may be as slow as they like, throw or die. A payment is then out of reach of the
sweeps for no longer than the threshold, one interval and one sweep.
-/
namespace SweepLatency
open KeyedTable TransitionRuns PaymentStateMachine PaymentRepositories PaymentService
open PaymentTransactions PaymentSystem SystemSteps ColumnCoherence

/-- STALE_PROCESSING_MS and RECONCILE_INTERVAL_MS, and how long a sweep takes. -/
structure Timing where
  staleMs : Nat
  intervalMs : Nat
  sweepMs : Nat
  deriving DecidableEq, Repr

/-- The system with its latest sweep, or the start of the scheduler before the first. -/
structure Watched where
  system : System
  began : Nat
  latest : Option Nat

def Watched.init : Watched := ⟨System.init, 0, none⟩

def inProgress (w : Watched) : Bool :=
  match w.latest.bind w.system.sweeps with
  | none => false
  | some sweep => !sweep.phase.over

def watch (w : Watched) (a : Action) : Option (Event × Watched) :=
  (exec w.system a).map fun (e, s) =>
    match a with
    | .reconcile sweep _ => (e, ⟨s, s.now, some sweep⟩)
    | _ => (e, { w with system := s })

/-- The clock waits for a sweep that is due or late; a sweep waits for the one
    before it. -/
def onSchedule (timing : Timing) (w : Watched) : Action → Bool
  | .tick ms =>
    w.system.now + ms ≤ w.began + timing.intervalMs &&
      (!inProgress w || w.system.now + ms ≤ w.began + timing.sweepMs)
  | .reconcile _ config => !inProgress w && config.staleProcessingMs == timing.staleMs
  | .sweep _ (.recover (some _)) | .sweep _ (.enqueue (some _)) | .sweep _ .crash => false
  | _ => true

def OnSchedule (timing : Timing) (w : Watched) (a : Action) : Prop := onSchedule timing w a = true

instance (timing : Timing) (w : Watched) (a : Action) : Decidable (OnSchedule timing w a) :=
  inferInstanceAs (Decidable (onSchedule timing w a = true))

def toRecover : SweepPhase → List Payment
  | .recovering row rest => row :: rest
  | .removing _ rest | .enqueuing _ rest => rest
  | _ => []

theorem toRecover_nextRow (stale rest : List Payment) : toRecover (nextRow stale rest) = rest := by
  cases rest <;> rfl

theorem toRecover_afterRecover (stale : List Payment) (p : Payment) (rest : List Payment)
    (result : RecoverResult) : toRecover (afterRecover stale p rest result) = rest := by
  cases result with
  | released status => rfl
  | skip reason status => exact toRecover_nextRow stale rest
  | failed status => exact toRecover_nextRow stale rest

def Coming (w : Watched) (id : Nat) : Prop :=
  ∃ sweep v p, w.latest = some sweep ∧ w.system.sweeps sweep = some v ∧
    p ∈ toRecover v.phase ∧ p.id = id

theorem coming_inProgress {w : Watched} {id : Nat} (h : Coming w id) : inProgress w = true := by
  obtain ⟨sweep, v, p, latest, present, there, -⟩ := h
  have running : v.phase.over = false := by
    cases phase : v.phase <;> simp_all [toRecover, SweepPhase.over]
  simp [inProgress, latest, present, running]

/-- What the schedule keeps: the clock within its bounds, and every PROCESSING
    row claimed since the cutoff of the latest sweep or still ahead of it. -/
structure OnTime (timing : Timing) (w : Watched) : Prop where
  begun : w.began ≤ w.system.now
  due : w.system.now ≤ w.began + timing.intervalMs
  running : inProgress w = true → w.system.now ≤ w.began + timing.sweepMs
  fresh : ∀ id p at_, row w.system id = some p → p.status = .processing →
    p.processingStartedAt = some at_ → w.began ≤ at_ + timing.staleMs + timing.intervalMs
  coming : ∀ id p at_, row w.system id = some p → p.status = .processing →
    p.processingStartedAt = some at_ → at_ + timing.staleMs < w.began → Coming w id

theorem watch_cases {w w' : Watched} {a : Action} {e : Event} (h : watch w a = some (e, w')) :
    exec w.system a = some (e, w'.system) ∧
      ((∃ sweep config, a = .reconcile sweep config ∧ w'.began = w'.system.now ∧
          w'.latest = some sweep) ∨
        (∀ sweep config, a ≠ .reconcile sweep config) ∧ w'.began = w.began ∧
          w'.latest = w.latest) := by
  obtain ⟨⟨e', s⟩, done, eq⟩ := Option.map_eq_some_iff.mp h
  cases a with
  | reconcile sweep config =>
    cases eq
    exact ⟨done, Or.inl ⟨sweep, config, rfl, rfl, rfl⟩⟩
  | _ =>
    cases eq
    exact ⟨done, Or.inr ⟨by simp, rfl, rfl⟩⟩

theorem move_now {s t : System} {a : Action} {e : Event} (move : SystemMove s a e t) :
    t.now = s.now ∨ ∃ ms, a = .tick ms ∧ t.now = s.now + ms := by
  cases move with
  | tick ms => exact Or.inr ⟨ms, rfl, rfl⟩
  | _ => exact Or.inl rfl

theorem sweep_after {s t : System} {a : Action} {e : Event} (move : SystemMove s a e t)
    {sweep : Nat} {v : Sweep} (present : s.sweeps sweep = some v) :
    t.sweeps sweep = some v ∨ ∃ step db queue phase, a = .sweep sweep step ∧ t.db = db ∧
      t.sweeps sweep = some { v with phase } ∧
      SweepSpec s.now s.db s.queue sweep v step e db queue phase := by
  cases move with
  | reconcile other config fresh =>
    have apart : sweep ≠ other := fresh_apart present fresh
    exact Or.inl (by simp [apart, present])
  | sweep other step here spec =>
    by_cases same : sweep = other
    · subst same
      obtain rfl := Option.some.inj (present.symm.trans here)
      exact Or.inr ⟨step, _, _, _, rfl, rfl, if_pos rfl, spec⟩
    · exact Or.inl (by simp [same, present])
  | _ => exact Or.inl present

/-- A row that stays PROCESSING through a step of the sweep was not the one it locked. -/
theorem coming_kept {timing : Timing} {w w' : Watched} {a : Action} {e : Event}
    (ok : OnSchedule timing w a) (move : SystemMove w.system a e w'.system)
    (same : w'.latest = w.latest) {id : Nat} {p : Payment} (found : row w.system id = some p)
    (held : p.status = .processing) (after : row w'.system id = some p) (h : Coming w id) :
    Coming w' id := by
  obtain ⟨sweep, v, selected, latest, present, there, named⟩ := h
  rcases sweep_after move present with
    kept | ⟨step, db, queue, phase, rfl, committed, stepped, spec⟩
  · exact ⟨sweep, v, selected, same.trans latest, kept, there, named⟩
  · refine ⟨sweep, { v with phase }, selected, same.trans latest, stepped, ?_, named⟩
    cases spec with
    | @recover head rest here =>
      rw [here] at there
      rcases List.mem_cons.mp there with first | later
      · subst first
        subst named
        obtain ⟨-, written⟩ := recoverStalePayment_held found held w.system.now
        rw [row, committed, written, if_pos rfl] at after
        have status := congrArg Payment.status (Option.some.inj after)
        rw [held] at status
        unfold recoveredRow at status
        split at status <;> simp [writeStatus] at status
      · dsimp only
        rw [toRecover_afterRecover]
        exact later
    | removed here removal =>
      rw [here] at there
      exact there
    | kept here refused =>
      rw [here] at there
      exact there
    | @enqueued head rest here =>
      rw [here] at there
      dsimp only
      rw [toRecover_nextRow]
      exact there
    | recoverThrew err here => simp [OnSchedule, onSchedule] at ok
    | enqueueThrew err here => simp [OnSchedule, onSchedule] at ok
    | crash => simp [OnSchedule, onSchedule] at ok

theorem written_claimed {s t : System} {a : Action} {e : Event} (move : SystemMove s a e t)
    {id : Nat} {p q : Payment} (w : Write id p e q) (held : q.status = .processing)
    (after : row t id = some q) : q.processingStartedAt = some s.now := by
  obtain ⟨run, claim, rfl⟩ := CallTraces.write_processing w held
  have won : AttemptAccounting.wonClaim id (.claim run id (.claimed claim)) = true := by
    simp [AttemptAccounting.wonClaim]
  obtain ⟨p', -, -, stamped⟩ := claim_step (move_runs move) won
  obtain rfl := Option.some.inj (after.symm.trans stamped)
  rfl

theorem onTime_clock {timing : Timing} {w w' : Watched} {a : Action} {e : Event}
    (h : OnTime timing w) (ok : OnSchedule timing w a)
    (move : SystemMove w.system a e w'.system) (began : w'.began = w.began)
    (calm : inProgress w' = true → inProgress w = true) :
    w'.began ≤ w'.system.now ∧ w'.system.now ≤ w'.began + timing.intervalMs ∧
      (inProgress w' = true → w'.system.now ≤ w'.began + timing.sweepMs) := by
  have begun := h.begun
  have due := h.due
  have running := h.running
  rw [began]
  rcases move_now move with same | ⟨ms, rfl, later⟩
  · rw [same]
    exact ⟨begun, due, fun busy => running (calm busy)⟩
  · rw [later]
    simp only [OnSchedule, onSchedule, Bool.and_eq_true, Bool.or_eq_true, decide_eq_true_eq,
      Bool.not_eq_true'] at ok
    refine ⟨by omega, ok.1, ?_⟩
    intro busy
    rcases ok.2 with idle | bounded
    · rw [calm busy] at idle
      cases idle
    · exact bounded

theorem sweep_absent {s t : System} {a : Action} {e : Event} (move : SystemMove s a e t)
    (other : ∀ sweep config, a ≠ .reconcile sweep config) {sweep : Nat}
    (absent : s.sweeps sweep = none) : t.sweeps sweep = none := by
  cases move with
  | reconcile k config fresh => exact absurd rfl (other k config)
  | sweep k step present spec =>
    have apart : k ≠ sweep := fresh_apart present absent
    simp [Ne.symm apart, absent]
  | _ => exact absent

theorem inProgress_before {w w' : Watched} {a : Action} {e : Event}
    (move : SystemMove w.system a e w'.system) (other : ∀ sweep config, a ≠ .reconcile sweep config)
    (same : w'.latest = w.latest) (busy : inProgress w' = true) : inProgress w = true := by
  unfold inProgress at busy ⊢
  rw [same] at busy
  cases latest : w.latest with
  | none => simp [latest] at busy
  | some sweep =>
    rw [latest, Option.bind_some] at busy
    rw [Option.bind_some]
    cases before : w.system.sweeps sweep with
    | none =>
      have absent := sweep_absent move other before
      simp [absent] at busy
    | some v =>
      rcases sweep_after move before with kept | ⟨step, db, queue, phase, rfl, -, stepped, spec⟩
      · simpa [kept] using busy
      · cases spec <;> simp_all [SweepPhase.over]

/-- A row PROCESSING after the step was so before, or was claimed just now. -/
theorem held_before {s t : System} {a : Action} {e : Event} (move : SystemMove s a e t) {id : Nat}
    {q : Payment} (after : row t id = some q) (held : q.status = .processing) :
    row s id = some q ∨ q.processingStartedAt = some s.now := by
  cases row_before (move_commit move) after with
  | kept old quiet => exact Or.inl old
  | created call _ _ _ _ _ absent label made => simp [made, newPayment] at held
  | written old w => exact Or.inr (written_claimed move w held after)

theorem onTime_other {timing : Timing} {w w' : Watched} {a : Action} {e : Event}
    (h : OnTime timing w) (ok : OnSchedule timing w a)
    (move : SystemMove w.system a e w'.system) (other : ∀ sweep config, a ≠ .reconcile sweep config)
    (began : w'.began = w.began) (same : w'.latest = w.latest) : OnTime timing w' := by
  obtain ⟨begun, due, running⟩ :=
    onTime_clock h ok move began (inProgress_before move other same)
  have start := h.begun
  refine ⟨begun, due, running, ?_, ?_⟩
  · intro id q at_ after held stamped
    rcases held_before move after held with old | now
    · rw [began]
      exact h.fresh id q at_ old held stamped
    · obtain rfl := Option.some.inj (stamped.symm.trans now)
      omega
  · intro id q at_ after held stamped stale
    rcases held_before move after held with old | now
    · rw [began] at stale
      exact coming_kept ok move same old held after (h.coming id q at_ old held stamped stale)
    · obtain rfl := Option.some.inj (stamped.symm.trans now)
      omega

theorem onTime_select {timing : Timing} {w w' : Watched} {sweep : Nat} {config : Config} {e : Event}
    (h : OnTime timing w) (ok : OnSchedule timing w (.reconcile sweep config))
    (move : SystemMove w.system (.reconcile sweep config) e w'.system)
    (began : w'.began = w'.system.now) (latest : w'.latest = some sweep) : OnTime timing w' := by
  simp only [OnSchedule, onSchedule, Bool.and_eq_true, Bool.not_eq_true', beq_iff_eq] at ok
  obtain ⟨idle, threshold⟩ := ok
  have due := h.due
  have settled : ∀ id p at_, row w.system id = some p → p.status = .processing →
      p.processingStartedAt = some at_ → w.began ≤ at_ + timing.staleMs := by
    intro id p at_ found held stamped
    by_contra late
    have busy := coming_inProgress (h.coming id p at_ found held stamped (by omega))
    rw [idle] at busy
    cases busy
  generalize after : w'.system = t at move began
  cases move with
  | reconcile _ _ fresh =>
    have now : w'.began = w.system.now := began
    refine ⟨by rw [after]; omega, by rw [after]; dsimp only; omega,
      fun _ => by rw [after]; dsimp only; omega, ?_, ?_⟩
    · intro id p at_ found held stamped
      rw [after] at found
      have old := settled id p at_ found held stamped
      omega
    · intro id p at_ found held stamped stale
      rw [after] at found
      have named := w.system.db.payments.keyed id p found
      change p.id = id at named
      have selected : p ∈ findStale w.system.db w.system.now config.staleProcessingMs := by
        rw [mem_findStale, named, threshold]
        exact ⟨found, held, at_, stamped, by omega⟩
      refine ⟨sweep, startSweep w.system.db w.system.now config, p, latest, ?_, ?_, named⟩
      · rw [after]
        exact if_pos rfl
      · dsimp only [startSweep]
        rw [toRecover_nextRow]
        exact selected

theorem run_onTime {timing : Timing} {history : List Event} {w : Watched}
    (run : Run (Does watch (OnSchedule timing)) Watched.init history w) : OnTime timing w := by
  apply run_invariant (fun _ u => OnTime timing u) ?_ ?_ run
  · constructor
    · exact Nat.le_refl _
    · exact Nat.zero_le _
    · intro busy
      cases busy
    · intro id p at_ found
      simp [Watched.init] at found
    · intro id p at_ found
      simp [Watched.init] at found
  · intro history u e v inv step
    obtain ⟨a, ok, done⟩ := step
    obtain ⟨moved, ⟨sweep, config, rfl, began, latest⟩ | ⟨other, began, latest⟩⟩ := watch_cases done
    · exact onTime_select inv ok (exec_move moved) began latest
    · exact onTime_other inv ok (exec_move moved) other began latest

theorem watch_run {timing : Timing} {history : List Event} {w : Watched}
    (run : Run (Does watch (OnSchedule timing)) Watched.init history w) :
    Run Step System.init history w.system := by
  apply run_viewed Watched.system ?_ run
  intro u e v step
  obtain ⟨a, -, done⟩ := step
  exact ⟨a, trivial, (watch_cases done).1⟩

abbrev Scheduled (timing : Timing) : Watched → Action × Event → Watched → Prop :=
  Picks watch (OnSchedule timing)

/-- The latest claim that a payment was taken by, at this time of the run. -/
def LatestClaim (timing : Timing) (id : Nat) (history : List (Action × Event)) (w : Watched)
    (claimedAt : Nat) : Prop :=
  ∃ before claim after u v, history = before ++ claim :: after ∧
    AttemptAccounting.wonClaim id claim.2 = true ∧
    (∀ l ∈ after, AttemptAccounting.wonClaim id l.2 = false) ∧
    Run (Scheduled timing) Watched.init before u ∧ Scheduled timing u claim v ∧
    Run (Scheduled timing) v after w ∧ u.system.now = claimedAt

theorem latestClaim_step {timing : Timing} {id claimedAt : Nat} {history : List (Action × Event)}
    {w w' : Watched} {l : Action × Event} (h : LatestClaim timing id history w claimedAt)
    (step : Scheduled timing w l w') (other : AttemptAccounting.wonClaim id l.2 = false) :
    LatestClaim timing id (history ++ [l]) w' claimedAt := by
  obtain ⟨before, claim, after, u, v, rfl, won, unclaimed, first, one, later, now⟩ := h
  refine ⟨before, claim, after ++ [l], u, v, by simp, won, ?_, first, one, Run.snoc later step, now⟩
  intro x there
  rcases List.mem_append.mp there with old | new
  · exact unclaimed x old
  · obtain rfl := List.mem_singleton.mp new
    exact other

theorem processing_claimed {timing : Timing} {history : List (Action × Event)} {w : Watched}
    (run : Run (Scheduled timing) Watched.init history w) {id : Nat} :
    ∀ p, row w.system id = some p → p.status = .processing →
      ∃ claimedAt, LatestClaim timing id history w claimedAt ∧
        p.processingStartedAt = some claimedAt := by
  refine run_induction (fun history w => ∀ p, row w.system id = some p → p.status = .processing →
      ∃ claimedAt, LatestClaim timing id history w claimedAt ∧
        p.processingStartedAt = some claimedAt) ?_ ?_ run
  · intro p found
    simp [Watched.init] at found
  · intro history u l w before ih step p after held
    have move := exec_move (watch_cases step.2).1
    cases row_before (move_commit move) after with
    | kept old quiet =>
      obtain ⟨claimedAt, latest, stamped⟩ := ih p old held
      have other := (AttemptAccounting.unwritten_uncounted quiet).1
      exact ⟨claimedAt, latestClaim_step latest step other, stamped⟩
    | created call _ _ _ _ _ absent label made => simp [made, newPayment] at held
    | written old wrote =>
      have now := written_claimed move wrote held after
      obtain ⟨run, claim, label⟩ := CallTraces.write_processing wrote held
      refine ⟨u.system.now, ⟨history, l, [], u, w, rfl, ?_, ?_, before, step, Run.nil, rfl⟩, now⟩
      · rw [label]
        simp [AttemptAccounting.wonClaim]
      · simp

/-- Whatever the workers do or die of, no payment is PROCESSING for longer than
    the threshold, one interval and one sweep after its latest claim. -/
theorem processing_recovered_in_time {timing : Timing} {history : List (Action × Event)}
    {w : Watched} (run : Run (Scheduled timing) Watched.init history w) {id : Nat} {p : Payment}
    (found : row w.system id = some p) (held : p.status = .processing) :
    ∃ claimedAt, LatestClaim timing id history w claimedAt ∧
      p.processingStartedAt = some claimedAt ∧
      w.system.now ≤ claimedAt + timing.staleMs + timing.intervalMs + timing.sweepMs := by
  have onTime := run_onTime (picks_does run)
  obtain ⟨at_, latest, claimed⟩ := processing_claimed run p found held
  refine ⟨at_, latest, claimed, ?_⟩
  have fresh := onTime.fresh id p at_ found held claimed
  have due := onTime.due
  by_cases stale : at_ + timing.staleMs < w.began
  · have bounded := onTime.running (coming_inProgress (onTime.coming id p at_ found held claimed stale))
    omega
  · omega

def timing : Timing := ⟨60000, 30000, 1000⟩

def config : Config := ⟨3, 60000, 3000⟩

/-- The worker dies after its claim. The sweep at 60000 finds the claim not yet
    older than the threshold, so the payment waits for the one at 90000. -/
def orphanedRun : List Action :=
  [.initiate 0 config ⟨"order-123", 4200, "INR"⟩, .api 0 .insert, .api 0 .read,
    .api 0 (.enqueue none), .pick 0 "payment-1", .worker 0 (.claim none), .worker 0 .crash,
    .tick 30000, .reconcile 0 config, .tick 30000, .reconcile 1 config, .tick 30000,
    .reconcile 2 config, .tick 1000]

theorem orphaned_recovered_in_time :
    let labels := (replay (shown watch) (OnSchedule timing) Watched.init orphanedRun).1
    let w := (replay (shown watch) (OnSchedule timing) Watched.init orphanedRun).2
    labels.map Prod.fst = orphanedRun ∧ w.system.now = 91000 ∧
      ∃ claimedAt, LatestClaim timing 1 labels w claimedAt ∧
        91000 ≤ claimedAt + timing.staleMs + timing.intervalMs + timing.sweepMs := by
  have status : (row (replay (shown watch) (OnSchedule timing) Watched.init orphanedRun).2.system
      1).map Payment.status = some .processing := by decide
  obtain ⟨p, found, held⟩ := Option.map_eq_some_iff.mp status
  have now : (replay (shown watch) (OnSchedule timing) Watched.init orphanedRun).2.system.now =
      91000 := by decide
  obtain ⟨at_, latest, -, bound⟩ := processing_recovered_in_time
    (shown_picks (replay_run (shown watch) (OnSchedule timing) Watched.init orphanedRun)) found held
  rw [now] at bound
  exact ⟨rfl, now, at_, latest, bound⟩

end SweepLatency
