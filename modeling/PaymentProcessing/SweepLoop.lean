import PaymentProcessing.SystemSteps

/-!
One sweep on its own, with every choice of the calls that throw. The loop body
has up to three effects on one row and its job; what it leaves of them is said
as a function of the row, the job and the choice, and the loop is the list of
rows it gets to.
-/
namespace SweepLoop
open JobStore TransitionRuns PaymentStateMachine PaymentRepositories PaymentService
open PaymentTransactions PaymentSystem SystemSteps

/-- Which of the three calls made for one payment throw, and what. -/
structure Faults where
  recover : Option JsError
  remove : Option JsError
  enqueue : Option JsError

/-- The call that the sweep makes next. A payment is selected once, so `faults`
    has one answer for each call of a sweep. -/
def nextMove (faults : Nat → Faults) : SweepPhase → Option SweepMove
  | .recovering row _ => some (.recover (faults row.id).recover)
  | .removing row _ => some (.remove (faults row.id).remove)
  | .enqueuing row _ => some (.enqueue (faults row.id).enqueue)
  | _ => none

def sweepsUnder (faults : Nat → Faults) (sweep : Nat) (s : System) : Action → Bool
  | .sweep other move =>
    other == sweep && (s.sweeps sweep).bind (fun w => nextMove faults w.phase) == some move
  | _ => false

/-- No other actor runs, and the process of the sweep stays up. -/
def Under (faults : Nat → Faults) (sweep : Nat) (s : System) (a : Action) : Prop :=
  sweepsUnder faults sweep s a = true

instance (faults : Nat → Faults) (sweep : Nat) (s : System) (a : Action) :
    Decidable (Under faults sweep s a) :=
  inferInstanceAs (Decidable (sweepsUnder faults sweep s a = true))

def Over (sweep : Nat) (s : System) : Prop :=
  ∃ w, s.sweeps sweep = some w ∧ w.phase.over = true

variable {faults : Nat → Faults} {sweep : Nat}

theorem under_iff (s : System) (a : Action) : Under faults sweep s a ↔
    ∃ w move, s.sweeps sweep = some w ∧ nextMove faults w.phase = some move ∧
      a = .sweep sweep move := by
  constructor
  · intro chosen
    cases a with
    | sweep other move =>
      obtain ⟨rfl, picked⟩ : other = sweep ∧
          (s.sweeps sweep).bind (fun w => nextMove faults w.phase) = some move := by
        simpa [Under, sweepsUnder] using chosen
      obtain ⟨w, present, next⟩ := Option.bind_eq_some_iff.mp picked
      exact ⟨w, move, present, next, rfl⟩
    | _ => simp [Under, sweepsUnder] at chosen
  · rintro ⟨w, move, present, next, rfl⟩
    simp [Under, sweepsUnder, present, next]

theorem under_functional (s : System) (l l' : Event) (t t' : System)
    (one : Does exec (Under faults sweep) s l t) (other : Does exec (Under faults sweep) s l' t') :
    l = l' ∧ t = t' := by
  obtain ⟨a, chosen, done⟩ := one
  obtain ⟨a', chosen', done'⟩ := other
  obtain ⟨w, move, present, next, rfl⟩ := (under_iff s a).mp chosen
  obtain ⟨w', move', present', next', rfl⟩ := (under_iff s a').mp chosen'
  obtain rfl := Option.some.inj (present.symm.trans present')
  obtain rfl := Option.some.inj (next.symm.trans next')
  exact Prod.mk.inj (Option.some.inj (done.symm.trans done'))

theorem over_stuck {s : System} (finished : Over sweep s) (l : Event) (t : System) :
    ¬ Does exec (Under faults sweep) s l t := by
  rintro ⟨a, chosen, -⟩
  obtain ⟨w, move, present, next, -⟩ := (under_iff s a).mp chosen
  obtain ⟨w', present', done⟩ := finished
  obtain rfl := Option.some.inj (present.symm.trans present')
  cases here : w.phase <;> simp [here, nextMove, SweepPhase.over] at next done

theorem call_runs (faults : Nat → Faults) {s : System} {w w' : Sweep} (move : SweepMove)
    {e : Event} {db : Database} {queue : PaymentQueue} (present : s.sweeps sweep = some w)
    (next : nextMove faults w.phase = some move)
    (done : sweepStep s.now s.db s.queue sweep w move = some (e, db, queue, w')) :
    Run (Does exec (Under faults sweep)) s [e]
      { s with db, queue, sweeps := set s.sweeps sweep w' } := by
  apply run_single
  refine ⟨.sweep sweep move, (under_iff s _).mpr ⟨w, move, present, next, rfl⟩, ?_⟩
  simp [exec, present, done]

/-- A call of the loop body throws, past the removal that drops its error. -/
def stops (f : Faults) (p : Payment) : Bool :=
  f.recover.isSome || (decide (p.attempts < p.maxAttempts) && f.enqueue.isSome)

def reached (faults : Nat → Faults) : List Payment → List Payment
  | [] => []
  | p :: rest => if stops (faults p.id) p then [p] else p :: reached faults rest

theorem reached_subset (rows : List Payment) : reached faults rows ⊆ rows := by
  induction rows with
  | nil => simp [reached]
  | cons p rest ih =>
    intro q there
    simp only [reached] at there
    split at there
    · rw [List.mem_singleton] at there
      simp [there]
    · rcases List.mem_cons.mp there with rfl | later
      · exact List.mem_cons_self
      · exact List.mem_cons_of_mem p (ih later)

def rowAfter (now : Nat) (f : Faults) (p : Payment) : Payment :=
  if f.recover.isSome then p else recoveredRow now p

/-- What the removal leaves of the job: one that a worker has locked stays. -/
def clearedJob (error : Option JsError) : Option (Job JobData) → Option (Job JobData)
  | none => none
  | some j =>
    match error, j.state with
    | none, .active _ => some j
    | none, _ => none
    | some _, _ => some j

def freshJob (config : Config) (id : Nat) : Job JobData :=
  { data := ⟨id⟩, attempts := config.maxPaymentAttempts, attemptsMade := 0, state := .waiting }

/-- What the removal and the enqueue leave of the job of a released payment. -/
def handedOver (config : Config) (f : Faults) (id : Nat) (j : Option (Job JobData)) :
    Option (Job JobData) :=
  match f.enqueue with
  | none => some ((clearedJob f.remove j).getD (freshJob config id))
  | some _ => clearedJob f.remove j

def jobAfter (config : Config) (f : Faults) (p : Payment) (j : Option (Job JobData)) :
    Option (Job JobData) :=
  if f.recover = none ∧ p.attempts < p.maxAttempts then handedOver config f p.id j else j

/-- The loop body has run on these rows and touched nothing else. -/
structure Swept (config : Config) (faults : Nat → Faults) (rows : List Payment)
    (s t : System) : Prop where
  clock : t.now = s.now
  written : ∀ p ∈ rows, row t p.id = some (rowAfter s.now (faults p.id) p)
  jobs : ∀ p ∈ rows, t.queue.job (jobIdFor p.id) =
    jobAfter config (faults p.id) p (s.queue.job (jobIdFor p.id))
  otherRows : ∀ id, (∀ p ∈ rows, id ≠ p.id) → row t id = row s id
  otherJobs : ∀ key, (∀ p ∈ rows, key ≠ jobIdFor p.id) → t.queue.job key = s.queue.job key

theorem swept_nil (config : Config) (s : System) : Swept config faults [] s s := by
  constructor <;> simp

theorem swept_one {config : Config} {p : Payment} {s t : System} (clock : t.now = s.now)
    (written : row t p.id = some (rowAfter s.now (faults p.id) p))
    (job : t.queue.job (jobIdFor p.id) =
      jobAfter config (faults p.id) p (s.queue.job (jobIdFor p.id)))
    (otherRows : ∀ id, id ≠ p.id → row t id = row s id)
    (otherJobs : ∀ key, key ≠ jobIdFor p.id → t.queue.job key = s.queue.job key) :
    Swept config faults [p] s t := by
  constructor
  · exact clock
  · simpa using written
  · simpa using job
  · simpa using otherRows
  · simpa using otherJobs

theorem swept_cons {config : Config} {p : Payment} {rows : List Payment} {s m t : System}
    (first : Swept config faults [p] s m) (later : Swept config faults rows m t)
    (apart : ∀ q ∈ rows, p.id ≠ q.id) : Swept config faults (p :: rows) s t := by
  have jobsApart : ∀ q ∈ rows, jobIdFor p.id ≠ jobIdFor q.id := by
    intro q there same
    exact apart q there (jobIdFor_injective same)
  constructor
  · rw [later.clock, first.clock]
  · rw [List.forall_mem_cons]
    constructor
    · rw [later.otherRows p.id apart]
      exact first.written p List.mem_cons_self
    · intro q after
      rw [later.written q after, first.clock]
  · rw [List.forall_mem_cons]
    constructor
    · rw [later.otherJobs _ jobsApart]
      exact first.jobs p List.mem_cons_self
    · intro q after
      rw [later.jobs q after, first.otherJobs _ (by simpa using (jobsApart q after).symm)]
  · intro id others
    rw [List.forall_mem_cons] at others
    rw [later.otherRows id others.2, first.otherRows id (by simpa using others.1)]
  · intro key others
    rw [List.forall_mem_cons] at others
    rw [later.otherJobs key others.2, first.otherJobs key (by simpa using others.1)]

structure Stale (config : Config) (s : System) (p : Payment) : Prop where
  found : row s p.id = some p
  busy : p.status = .processing
  old : ∃ started, p.processingStartedAt = some started ∧
    started + config.staleProcessingMs < s.now

theorem stale_iff (config : Config) (s : System) (p : Payment) :
    p ∈ findStale s.db s.now config.staleProcessingMs ↔ Stale config s p := by
  rw [mem_findStale]
  constructor
  · rintro ⟨found, busy, old⟩
    exact ⟨found, busy, old⟩
  · rintro ⟨found, busy, old⟩
    exact ⟨found, busy, old⟩

theorem recovered_status (now : Nat) (p : Payment) : (recoveredRow now p).status =
    if p.attempts < p.maxAttempts then .pending else .failed := by
  unfold recoveredRow
  split <;> rfl

def cleared (queue : PaymentQueue) (error : Option JsError) (key : String) : PaymentQueue :=
  match error with
  | none => (queue.remove key).getD queue
  | some _ => queue

theorem cleared_job (queue : PaymentQueue) (error : Option JsError) (key : String) :
    (cleared queue error key).job key = clearedJob error (queue.job key) ∧
      ∀ other, other ≠ key → (cleared queue error key).job other = queue.job other := by
  cases error with
  | some err => cases entry : queue.job key <;> simp [cleared, clearedJob, entry]
  | none =>
    cases entry : queue.job key with
    | none => simp [cleared, clearedJob, Jobs.remove, entry]
    | some j =>
      cases state : j.state with
      | active holder => simp [cleared, clearedJob, Jobs.remove, entry, state]
      | _ =>
        refine ⟨by simp [cleared, clearedJob, Jobs.remove, entry, state], ?_⟩
        intro other ne
        simp [cleared, Jobs.remove, entry, state, ne]

theorem recover_runs {s : System} {w : Sweep} {p : Payment} {rest : List Payment}
    (present : s.sweeps sweep = some w) (here : w.phase = .recovering p rest)
    (found : row s p.id = some p) (held : p.status = .processing)
    (answer : (faults p.id).recover = none) :
    ∃ e t phase, Run (Does exec (Under faults sweep)) s [e] t ∧
      t.now = s.now ∧ t.queue = s.queue ∧ t.sweeps sweep = some { w with phase } ∧
      row t p.id = some (recoveredRow s.now p) ∧ (∀ id, id ≠ p.id → row t id = row s id) ∧
      phase = if p.attempts < p.maxAttempts then .removing p rest else nextRow w.stale rest := by
  obtain ⟨result, written⟩ := recoverStalePayment_held found held s.now
  have recovered := call_runs faults (.recover none) present
    (by simp [nextMove, here, answer]) (by simp only [sweepStep, here]; rfl)
  refine ⟨_, _, _, recovered, rfl, rfl, if_pos rfl, ?_, ?_, ?_⟩
  · rw [row, written, if_pos rfl]
  · intro id ne
    rw [row, written, if_neg ne]
    rfl
  · rw [result]
    split <;> rfl

theorem handover_runs (faults : Nat → Faults) {s : System} {w : Sweep} {p : Payment}
    {rest : List Payment} (present : s.sweeps sweep = some w) (here : w.phase = .removing p rest) :
    ∃ history t phase, Run (Does exec (Under faults sweep)) s history t ∧
      t.now = s.now ∧ t.db = s.db ∧ t.sweeps sweep = some { w with phase } ∧
      t.queue.job (jobIdFor p.id) =
        handedOver w.config (faults p.id) p.id (s.queue.job (jobIdFor p.id)) ∧
      (∀ key, key ≠ jobIdFor p.id → t.queue.job key = s.queue.job key) ∧
      ((faults p.id).enqueue = none → phase = nextRow w.stale rest) ∧
      ∀ err, (faults p.id).enqueue = some err → phase = .threw err := by
  have removed : Run (Does exec (Under faults sweep)) s [.other]
      { s with
        queue := cleared s.queue (faults p.id).remove (jobIdFor p.id)
        sweeps := set s.sweeps sweep { w with phase := .enqueuing p rest } } := by
    apply call_runs faults (.remove (faults p.id).remove) present
    · simp [nextMove, here]
    · simp only [sweepStep, here]
      rfl
  obtain ⟨cleaned, elsewhere⟩ := cleared_job s.queue (faults p.id).remove (jobIdFor p.id)
  cases answer : (faults p.id).enqueue with
  | some err =>
    have enqueued := run_append removed
      (call_runs faults (.enqueue (some err)) (if_pos rfl) (by simp [nextMove, answer]) rfl)
    refine ⟨_, _, .threw err, enqueued, rfl, rfl, if_pos rfl, ?_, elsewhere, by simp, by simp⟩
    simpa [handedOver, answer] using cleaned
  | none =>
    have enqueued := run_append removed
      (call_runs faults (.enqueue none) (if_pos rfl) (by simp [nextMove, answer]) rfl)
    refine ⟨_, _, nextRow w.stale rest, enqueued, rfl, rfl, if_pos rfl, ?_, ?_, by simp, by simp⟩
    · have added := add_same (cleared s.queue (faults p.id).remove (jobIdFor p.id))
        (⟨p.id⟩ : JobData) w.config.maxPaymentAttempts
      rw [cleaned] at added
      simpa [handedOver, answer, freshJob, enqueuePayment] using added
    · intro key ne
      rw [← elsewhere key ne]
      exact add_other _ (⟨p.id⟩ : JobData) _ ne

/-- The loop body runs on one row and goes on to the next one, or throws. -/
def BodyRuns (faults : Nat → Faults) (sweep : Nat) (s : System) (w : Sweep) (p : Payment)
    (rest : List Payment) : Prop :=
  ∃ history t phase, Run (Does exec (Under faults sweep)) s history t ∧
    Swept w.config faults [p] s t ∧ t.sweeps sweep = some { w with phase } ∧
    (stops (faults p.id) p = false → phase = nextRow w.stale rest) ∧
    (stops (faults p.id) p = true → ∃ err, phase = .threw err)

theorem body_threw {s : System} {w : Sweep} {p : Payment} {rest : List Payment}
    (present : s.sweeps sweep = some w) (here : w.phase = .recovering p rest)
    (found : row s p.id = some p) {err : JsError} (answer : (faults p.id).recover = some err) :
    BodyRuns faults sweep s w p rest := by
  have threw := call_runs faults (.recover (some err)) present
    (by simp [nextMove, here, answer]) (by simp only [sweepStep, here]; rfl)
  refine ⟨_, _, .threw err, threw, ?_, if_pos rfl, by simp [stops, answer], by simp⟩
  apply swept_one
  · rfl
  · rw [rowAfter, answer]
    exact found
  · simp [jobAfter, answer]
  · intro id ne
    rfl
  · intro key ne
    rfl

theorem body_failed {s : System} {w : Sweep} {p : Payment} {rest : List Payment}
    (present : s.sweeps sweep = some w) (here : w.phase = .recovering p rest)
    (found : row s p.id = some p) (held : p.status = .processing)
    (answer : (faults p.id).recover = none) (spent : ¬ p.attempts < p.maxAttempts) :
    BodyRuns faults sweep s w p rest := by
  obtain ⟨e, t, phase, recovered, clock, queue, working, written, otherRows, goesOn⟩ :=
    recover_runs present here found held answer
  rw [if_neg spent] at goesOn
  refine ⟨_, t, phase, recovered, ?_, working, fun _ => goesOn, by simp [stops, answer, spent]⟩
  apply swept_one
  · exact clock
  · simpa [rowAfter, answer] using written
  · simp [jobAfter, spent, queue]
  · exact otherRows
  · intro key ne
    rw [queue]

theorem body_released {s : System} {w : Sweep} {p : Payment} {rest : List Payment}
    (present : s.sweeps sweep = some w) (here : w.phase = .recovering p rest)
    (found : row s p.id = some p) (held : p.status = .processing)
    (answer : (faults p.id).recover = none) (left : p.attempts < p.maxAttempts) :
    BodyRuns faults sweep s w p rest := by
  obtain ⟨e, m, phase, recovered, clock, queue, working, written, otherRows, goesOn⟩ :=
    recover_runs present here found held answer
  rw [if_pos left] at goesOn
  obtain ⟨later, t, last, handed, clock', tables, done, job, otherJobs, returns, throws⟩ :=
    handover_runs faults working goesOn
  refine ⟨_, t, last, run_append recovered handed, ?_, done, ?_, ?_⟩
  · apply swept_one
    · rw [clock', clock]
    · rw [row, tables]
      simpa [rowAfter, answer, row] using written
    · rw [job, queue]
      simp [jobAfter, answer, left]
    · intro id ne
      rw [row, tables]
      exact otherRows id ne
    · intro key ne
      rw [otherJobs key ne, queue]
  · intro quiet
    exact returns (by simpa [stops, answer, left] using quiet)
  · intro throwing
    have enqueueThrew : (faults p.id).enqueue.isSome := by
      simpa [stops, answer, left] using throwing
    obtain ⟨err, threw⟩ := Option.isSome_iff_exists.mp enqueueThrew
    exact ⟨err, throws err threw⟩

theorem body_runs (faults : Nat → Faults) {s : System} {w : Sweep} {p : Payment}
    {rest : List Payment} (present : s.sweeps sweep = some w)
    (here : w.phase = .recovering p rest) (found : row s p.id = some p)
    (held : p.status = .processing) : BodyRuns faults sweep s w p rest := by
  cases answer : (faults p.id).recover with
  | some err => exact body_threw present here found answer
  | none =>
    by_cases left : p.attempts < p.maxAttempts
    · exact body_released present here found held answer left
    · exact body_failed present here found held answer left

/-- The sweep is over after the rows it got to, with the count of all selected
    rows or with the error of the last one it got to. -/
def Ends (faults : Nat → Faults) (sweep : Nat) (stale rows : List Payment) (t : System) : Prop :=
  ∃ w, t.sweeps sweep = some w ∧
    ((∀ p ∈ rows, stops (faults p.id) p = false) ∧ w.phase = .returned stale.length ∨
      (∃ p ∈ rows, stops (faults p.id) p = true) ∧ ∃ err, w.phase = .threw err)

theorem ends_over {stale rows : List Payment} {t : System}
    (ended : Ends faults sweep stale rows t) : Over sweep t := by
  obtain ⟨w, present, ⟨-, here⟩ | ⟨-, err, here⟩⟩ := ended
  · exact ⟨w, present, by rw [here]; rfl⟩
  · exact ⟨w, present, by rw [here]; rfl⟩

theorem ends_cons {p : Payment} {stale rows : List Payment} {t : System}
    (quiet : stops (faults p.id) p = false) (ended : Ends faults sweep stale rows t) :
    Ends faults sweep stale (p :: rows) t := by
  obtain ⟨w, present, ⟨all, here⟩ | ⟨⟨q, there, throws⟩, here⟩⟩ := ended
  · refine ⟨w, present, Or.inl ⟨?_, here⟩⟩
    simpa [quiet] using all
  · exact ⟨w, present, Or.inr ⟨⟨q, List.mem_cons_of_mem p there, throws⟩, here⟩⟩

theorem loop_runs (faults : Nat → Faults) (rows : List Payment) {s : System} {w : Sweep}
    (present : s.sweeps sweep = some w) (here : w.phase = nextRow w.stale rows)
    (held : ∀ p ∈ rows, row s p.id = some p ∧ p.status = .processing)
    (distinct : rows.Pairwise (fun p q => p.id ≠ q.id)) :
    ∃ history t, Run (Does exec (Under faults sweep)) s history t ∧
      Swept w.config faults (reached faults rows) s t ∧ Ends faults sweep w.stale rows t := by
  induction rows generalizing s w with
  | nil => exact ⟨[], s, Run.nil, swept_nil _ s, w, present, Or.inl ⟨by simp, here⟩⟩
  | cons p rest ih =>
    obtain ⟨apart, others⟩ := List.pairwise_cons.mp distinct
    obtain ⟨found, busy⟩ := held p List.mem_cons_self
    obtain ⟨first, m, phase, body, swept, working, returns, throws⟩ :=
      body_runs faults present here found busy
    cases stop : stops (faults p.id) p with
    | true =>
      refine ⟨first, m, body, by simpa [reached, stop] using swept, _, working, Or.inr ⟨?_, ?_⟩⟩
      · exact ⟨p, List.mem_cons_self, stop⟩
      · exact throws stop
    | false =>
      have untouched : ∀ q ∈ rest, row m q.id = some q ∧ q.status = .processing := by
        intro q later
        obtain ⟨there, waiting⟩ := held q (List.mem_cons_of_mem p later)
        refine ⟨?_, waiting⟩
        rw [swept.otherRows q.id (by simpa using (apart q later).symm), there]
      obtain ⟨after, t, loop, sweptRest, ended⟩ :=
        ih working (returns stop) untouched others
      refine ⟨first ++ after, t, run_append body loop, ?_, ends_cons stop ended⟩
      rw [reached, stop]
      apply swept_cons swept sweptRest
      intro q there
      exact apart q (reached_subset rest there)

/-- A sweep with any choice of throwing calls comes to an end, and what it
    leaves is determined: the loop body has run on the rows it got to. -/
theorem sweep_outcome {s t : System} {e : Event} {config : Config}
    (start : exec s (.reconcile sweep config) = some (e, t)) (faults : Nat → Faults) :
    (∃ history u, Run (Does exec (Under faults sweep)) t history u ∧ Over sweep u) ∧
      ∀ history u, Run (Does exec (Under faults sweep)) t history u → Over sweep u →
        Swept config faults (reached faults (findStale s.db s.now config.staleProcessingMs)) s u ∧
        Ends faults sweep (findStale s.db s.now config.staleProcessingMs)
          (findStale s.db s.now config.staleProcessingMs) u := by
  have move := exec_move start
  cases move with
  | reconcile _ _ fresh =>
    have held : ∀ p ∈ findStale s.db s.now config.staleProcessingMs,
        row s p.id = some p ∧ p.status = .processing := by
      intro p selected
      have stale := (stale_iff config s p).mp selected
      exact ⟨stale.found, stale.busy⟩
    have begun : ({ s with sweeps := set s.sweeps sweep (startSweep s.db s.now config) } :
        System).sweeps sweep = some (startSweep s.db s.now config) := if_pos rfl
    obtain ⟨history, u, run, swept, ended⟩ :=
      loop_runs faults (findStale s.db s.now config.staleProcessingMs) begun rfl held
        (findStale_distinct _ _ _)
    refine ⟨⟨history, u, run, ends_over ended⟩, ?_⟩
    intro history' u' run' finished
    obtain ⟨-, rfl⟩ := run_determined under_functional run run' (over_stuck (ends_over ended))
      (over_stuck finished)
    exact ⟨⟨swept.clock, swept.written, swept.jobs, swept.otherRows, swept.otherJobs⟩, ended⟩

end SweepLoop
