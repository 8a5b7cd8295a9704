import Mathlib.Algebra.Order.BigOperators.Group.List
import Mathlib.Algebra.Order.Ring.Nat
import PaymentProcessing.ReleaseHandover
import PaymentProcessing.RetryBudget

/-!
What the workers finish on their own. Once no request and no sweep is in
progress, every step of a worker uses up part of the budget of a job, so there
are only so many of them; and when no worker can do anything more, every
payment is settled.
-/
namespace WorkerDrain
open KeyedTable JobStore TransitionRuns PaymentStateMachine PaymentRepositories PaymentService
open WebhookService PaymentTransactions PaymentSystem SystemSteps IdempotentCreation JobHolding
open ReleaseHandover RetryBudget

/-- Runs without failed calls in which no released payment is handed to a queue
    that ignores it. -/
def Handed (max : Nat) (s : System) (a : Action) : Prop :=
  Orderly s a ∧ steady max a = true

instance (max : Nat) (s : System) (a : Action) : Decidable (Handed max s a) :=
  inferInstanceAs (Decidable (_ ∧ _))

/-- Only workers, the clock and the provider are left. -/
def draining (max : Nat) : Action → Bool
  | .tick _ | .webhook _ | .pick _ _ => true
  | .worker run move => undisturbed (.worker run move) && steady max (.worker run move)
  | _ => false

def Draining (max : Nat) (_ : System) (a : Action) : Prop := draining max a = true

def byWorker : Action → Bool
  | .pick _ _ | .worker _ _ => true
  | _ => false

structure Rested (s : System) : Prop where
  calls : ∀ call c, s.calls call = some c → c.phase.over = true
  sweeps : ∀ sweep w, s.sweeps sweep = some w → w.phase.over = true

theorem draining_handed {max : Nat} {s : System} {a : Action} (h : Draining max s a) :
    Handed max s a := by
  have parts : undisturbed a = true ∧ steady max a = true := by
    cases a <;> simp_all [Draining, draining, undisturbed, steady]
  refine ⟨⟨parts.1, ?_⟩, parts.2⟩
  intro id back
  cases a with
  | sweep sweep move => simp [Draining, draining] at h
  | _ => simp [handedBack] at back

theorem handed_budgeted {max : Nat} {s : System} {a : Action} (h : Handed max s a) :
    Budgeted max s a :=
  ⟨h.1.1, h.2⟩

/-- The awaits that a run has ahead of it, its bookkeeping included. -/
def phaseWork : ProcessPhase → Nat
  | .claiming => 5
  | .claimed _ => 4
  | .charging _ _ => 3
  | .settling _ _ => 2
  | .returned _ | .threw _ => 1
  | _ => 0

def jobWork (s : System) (id : Nat) : Nat :=
  match s.queue.job (jobIdFor id) with
  | none => 0
  | some j =>
    match j.state with
    | .waiting | .delayed => 6 * (j.attempts - j.attemptsMade)
    | .active run =>
      6 * (j.attempts - j.attemptsMade - 1) + ((s.runs run).map (fun r => phaseWork r.phase)).getD 0
    | .unlocked | .failed => 0

def work (ids : List Nat) (s : System) : Nat := (ids.map (jobWork s)).sum

theorem jobWork_idle {s : System} {id : Nat} {j : Job JobData}
    (queued : s.queue.job (jobIdFor id) = some j) (idle : j.state = .waiting ∨ j.state = .delayed) :
    jobWork s id = 6 * (j.attempts - j.attemptsMade) := by
  unfold jobWork
  rcases idle with waiting | delayed
  · simp [queued, waiting]
  · simp [queued, delayed]

theorem jobWork_active {s : System} {id run : Nat} {j : Job JobData} {r : ProcessCall}
    (queued : s.queue.job (jobIdFor id) = some j) (active : j.state = .active run)
    (present : s.runs run = some r) :
    jobWork s id = 6 * (j.attempts - j.attemptsMade - 1) + phaseWork r.phase := by
  unfold jobWork
  simp [queued, active, present]

theorem jobWork_frame {s t : System} {id : Nat}
    (job : t.queue.job (jobIdFor id) = s.queue.job (jobIdFor id))
    (holder : ∀ j run, s.queue.job (jobIdFor id) = some j → j.state = .active run →
      t.runs run = s.runs run) : jobWork t id = jobWork s id := by
  unfold jobWork
  rw [job]
  cases queued : s.queue.job (jobIdFor id) with
  | none => rfl
  | some j =>
    cases state : j.state with
    | active run => simp [state, holder j run queued state]
    | _ => simp [state]

theorem run_left {max : Nat} {history : List Event} {s : System} (positive : 1 ≤ max)
    (run : Run (Does exec (Budgeted max)) System.init history s) :
    ∀ id j, s.queue.job (jobIdFor id) = some j → j.attemptsMade < j.attempts := by
  refine run_induction
    (fun _ u => ∀ id j, u.queue.job (jobIdFor id) = some j → j.attemptsMade < j.attempts) ?_ ?_ run
  · intro id j queued
    simp [System.init, Jobs.empty] at queued
  · intro history u e t before inv step id j queued
    obtain ⟨a, ⟨calm, -⟩, done⟩ := step
    have calmRun := undisturbed_run before
    have origin : JobOrigin max u id j :=
      job_origin (run_held calmRun) (run_oneBound before) calm (exec_move done) queued
    cases origin with
    | filed idle unused budget => omega
    | kept old => exact inv id j old
    | picked old run present fresh active =>
      rw [active]
      exact inv id old present
    | thrown old run r err present here mine threw idle budget counted =>
      obtain ⟨k, -, queued', -, left⟩ := thrown_left calmRun (run_coupled before) here threw
      rw [mine, present] at queued'
      obtain rfl := Option.some.inj queued'
      omega

theorem afterClaim_work (result : ClaimResult) :
    phaseWork (afterClaim result) < 5 ∧ live (afterClaim result) = true := by
  cases result <;> simp [afterClaim, phaseWork, live]

theorem afterReply_work (claim : Claim) (answer : Except JsError ChargeResult) :
    phaseWork (afterReply claim answer) < 3 ∧ live (afterReply claim answer) = true := by
  cases answer with
  | ok result => simp [afterReply, phaseWork, live]
  | error err => cases err <;> simp [afterReply, phaseWork, live]

theorem afterSettle_work (result : SettleResult) :
    phaseWork (afterSettle result) < 2 ∧ live (afterSettle result) = true := by
  cases result <;> simp [afterSettle, phaseWork, live]

inductive Rethrown (j : Job JobData) : ProcessPhase → Prop where
  | again (delayed : j.state = .delayed) (left : j.attemptsMade < j.attempts) : Rethrown j .closed
  | spent (reason : String) (failed : j.state = .failed) (none_ : j.attempts ≤ j.attemptsMade) :
      Rethrown j (.failing reason)

/-- The jobs and the runs through a draining step; `id` is the payment that a
    worker was busy with. -/
inductive DrainMove (s t : System) (id : Nat) : Prop where
  | picked {run : Nat} {j : Job JobData} (fresh : s.runs run = none)
      (queued : s.queue.job (jobIdFor id) = some j)
      (idle : j.state = .waiting ∨ j.state = .delayed)
      (queue : t.queue = s.queue.put { j with state := .active run })
      (runs : t.runs = set s.runs run ⟨id, some (jobIdFor id), .claiming⟩)
  | advanced {run : Nat} {r : ProcessCall} {phase : ProcessPhase} (present : s.runs run = some r)
      (mine : r.paymentId = id) (alive : live r.phase = true) (still : live phase = true)
      (less : phaseWork phase < phaseWork r.phase)
      (claims : r.phase = .claiming → t.db = (claim s.db id s.now).2) (queue : t.queue = s.queue)
      (runs : t.runs = set s.runs run { r with phase })
  | completed {run : Nat} {r : ProcessCall} {result : ProcessResult}
      (present : s.runs run = some r) (mine : r.paymentId = id) (here : r.phase = .returned result)
      (queue : t.queue = s.queue.delete (jobIdFor id))
      (runs : t.runs = set s.runs run { r with phase := .closed })
  | threw {run : Nat} {r : ProcessCall} {err : JsError} {j j' : Job JobData}
      {phase : ProcessPhase} (present : s.runs run = some r) (mine : r.paymentId = id)
      (here : r.phase = .threw err) (queued : s.queue.job (jobIdFor id) = some j)
      (active : j.state = .active run) (queue : t.queue = s.queue.put j') (data : j'.data = j.data)
      (attempts : j'.attempts = j.attempts) (made : j'.attemptsMade = j.attemptsMade + 1)
      (outcome : Rethrown j' phase) (runs : t.runs = set s.runs run { r with phase })
  | handled {run : Nat} {r : ProcessCall} {reason : String} (present : s.runs run = some r)
      (mine : r.paymentId = id) (here : r.phase = .failing reason) (queue : t.queue = s.queue)
      (runs : t.runs = set s.runs run { r with phase := .closed })

theorem thrown_move {s t : System} (held : JobsHeld s.runs s.queue) {run : Nat} {r : ProcessCall}
    {err : JsError} {jobId : String} {config : Config} (present : s.runs run = some r)
    (here : r.phase = .threw err) (job : r.job = some jobId)
    (granted : ∀ j, s.queue.job (jobIdFor r.paymentId) = some j → 0 < j.attempts)
    (queue : t.queue = (failJob s.queue config jobId run err).1)
    (runs : t.runs =
      set s.runs run { r with phase := (failJob s.queue config jobId run err).2 }) :
    DrainMove s t r.paymentId := by
  obtain ⟨j, job', queued, active⟩ := job_of held present (by rw [here]; rfl)
  obtain rfl : jobId = jobIdFor r.paymentId := Option.some.inj (job.symm.trans job')
  obtain ⟨j', put, data, attempts, made, state, phase⟩ := throw_counted queued active config err
  have positive := granted j queued
  have budget : jobBudget config j' = j'.attempts := by
    rw [jobBudget, if_neg (by omega)]
  rw [put] at queue
  refine DrainMove.threw present rfl here queued active queue data attempts made ?_ runs
  rw [phase, budget]
  rcases state with ⟨delayed, left⟩ | ⟨failed, spent⟩
  · rw [if_neg (by omega)]
    exact Rethrown.again delayed left
  · rw [if_pos spent]
    exact Rethrown.spent _ failed spent

theorem worker_move {s t : System} {run : Nat} {r : ProcessCall} {move : WorkerMove} {e : Event}
    {phase : ProcessPhase} (held : JobsHeld s.runs s.queue)
    (granted : ∀ j, s.queue.job (jobIdFor r.paymentId) = some j → 0 < j.attempts)
    (calm : Undisturbed s (.worker run move)) (present : s.runs run = some r)
    (spec : WorkerSpec s.now s.db s.queue run r move e t.db t.queue phase)
    (runs : t.runs = set s.runs run { r with phase }) : DrainMove s t r.paymentId := by
  generalize queue : t.queue = q at spec
  generalize tables : t.db = db at spec
  cases spec with
  | claim here =>
    obtain ⟨less, still⟩ := afterClaim_work (PaymentService.claim s.db r.paymentId s.now).1
    exact DrainMove.advanced present rfl (by rw [here]; rfl) still (by rw [here]; exact less)
      (fun _ => tables) queue runs
  | charge timeoutMs a here =>
    exact DrainMove.advanced present rfl (by rw [here]; rfl) rfl (by rw [here]; simp [phaseWork])
      (by simp [here]) queue runs
  | @reply claim answer here =>
    obtain ⟨less, still⟩ := afterReply_work claim answer
    exact DrainMove.advanced present rfl (by rw [here]; rfl) still (by rw [here]; exact less)
      (by simp [here]) queue runs
  | @settle claim answer here =>
    obtain ⟨less, still⟩ := afterSettle_work (PaymentService.settle s.db r.paymentId answer s.now).1
    exact DrainMove.advanced present rfl (by rw [here]; rfl) still (by rw [here]; exact less)
      (by simp [here]) queue runs
  | @completed result jobId config here job =>
    have alive : live r.phase = true := by rw [here]; rfl
    obtain ⟨j, job', -, -⟩ := job_of held present alive
    obtain rfl : jobId = jobIdFor r.paymentId := Option.some.inj (job.symm.trans job')
    rw [completed_queue held present alive job, Option.getD_some] at queue
    exact DrainMove.completed present rfl here queue runs
  | failed config here job => exact thrown_move held present here job granted queue runs
  | handled here => exact DrainMove.handled present rfl here queue runs
  | claimThrew err here => exact calm_absurd calm rfl
  | settleThrew err here => exact calm_absurd calm rfl
  | handlerErrored err here => exact calm_absurd calm rfl
  | crash => exact calm_absurd calm rfl

theorem drain_move {max : Nat} {s t : System} {a : Action} {e : Event}
    (held : JobsHeld s.runs s.queue)
    (granted : ∀ id j, s.queue.job (jobIdFor id) = some j → 0 < j.attempts)
    (drains : Draining max s a) (move : SystemMove s a e t) :
    (∃ id, DrainMove s t id) ∨ byWorker a = false ∧ t.queue = s.queue ∧ t.runs = s.runs := by
  have calm := (draining_handed drains).1.1
  cases move with
  | tick ms => exact Or.inr ⟨rfl, rfl, rfl⟩
  | webhook callback => exact Or.inr ⟨rfl, rfl, rfl⟩
  | pick run jobId fresh took =>
    obtain ⟨j, queued, rfl, idle, rfl⟩ := take_some took
    obtain rfl := s.queue.filed jobId j queued
    exact Or.inl ⟨_, DrainMove.picked fresh queued idle rfl rfl⟩
  | worker run move present spec =>
    exact Or.inl ⟨_, worker_move held (granted _) calm present spec rfl⟩
  | _ => simp [Draining, draining] at drains

structure Own (s t : System) (id : Nat) : Prop where
  jobs : ∀ other, other ≠ id → t.queue.job (jobIdFor other) = s.queue.job (jobIdFor other)
  runs : ∃ run r', t.runs = set s.runs run r' ∧ r'.paymentId = id ∧
    ∀ r, s.runs run = some r → r.paymentId = id

theorem drain_own {s t : System} {id : Nat} (move : DrainMove s t id) : Own s t id := by
  have apart : ∀ other, other ≠ id → jobIdFor other ≠ jobIdFor id :=
    fun other ne same => ne (jobIdFor_injective same)
  have present_ : ∀ {run r}, s.runs run = some r → r.paymentId = id →
      ∀ r', s.runs run = some r' → r'.paymentId = id := by
    intro run r present mine r' present'
    rw [← Option.some.inj (present.symm.trans present'), mine]
  cases move with
  | @picked run j fresh queued idle queue runs =>
    refine ⟨?_, run, _, runs, rfl, by simp [fresh]⟩
    intro other ne
    rw [queue]
    exact put_other queued rfl (apart other ne)
  | advanced present mine alive still less claims queue runs =>
    exact ⟨fun _ _ => by rw [queue], _, _, runs, mine, present_ present mine⟩
  | completed present mine here queue runs =>
    refine ⟨?_, _, _, runs, mine, present_ present mine⟩
    intro other ne
    rw [queue, job_delete, if_neg (apart other ne)]
  | threw present mine here queued active queue data attempts made outcome runs =>
    refine ⟨?_, _, _, runs, mine, present_ present mine⟩
    intro other ne
    rw [queue, put_other queued data (apart other ne)]
  | handled present mine here queue runs =>
    exact ⟨fun _ _ => by rw [queue], _, _, runs, mine, present_ present mine⟩

theorem own_run {s t : System} {id c : Nat} {r : ProcessCall} (own : Own s t id)
    (other : r.paymentId ≠ id) : t.runs c = some r ↔ s.runs c = some r := by
  obtain ⟨run, r', moved, mine, old⟩ := own.runs
  rw [moved, set_apply]
  by_cases same : c = run
  · rw [if_pos same, same]
    constructor
    · intro eq
      rw [← Option.some.inj eq] at other
      exact absurd mine other
    · intro present
      exact absurd (old r present) other
  · rw [if_neg same]

theorem own_work {s t : System} {id other : Nat} (held : JobsHeld s.runs s.queue)
    (own : Own s t id) (ne : other ≠ id) : jobWork t other = jobWork s other := by
  apply jobWork_frame (own.jobs other ne)
  intro j run queued active
  obtain ⟨r, present, -, mine⟩ := holder_of held queued active
  rw [present]
  exact (own_run own (by rw [mine]; exact ne)).mpr present

/-- The step used up work of one payment and left the others their own. -/
structure Uses (s t : System) (id : Nat) : Prop where
  queued : ∃ j, s.queue.job (jobIdFor id) = some j
  less : jobWork t id < jobWork s id
  others : ∀ other, other ≠ id → jobWork t other = jobWork s other

/-- Unless the job of the payment is used up, and then it fails. -/
theorem drain_uses {s t : System} {id : Nat} (held : JobsHeld s.runs s.queue)
    (left : ∀ j, s.queue.job (jobIdFor id) = some j → j.state ≠ .failed →
      j.attemptsMade < j.attempts)
    (move : DrainMove s t id) (going : ¬ Failing s id) (gone : ¬ Failing t id) : Uses s t id := by
  have others : ∀ other, other ≠ id → jobWork t other = jobWork s other :=
    fun other ne => own_work held (drain_own move) ne
  cases move with
  | @picked run j fresh queued idle queue runs =>
    have attempts := left j queued (by rcases idle with eq | eq <;> simp [eq])
    have own : t.queue.job (jobIdFor id) = some { j with state := .active run } := by
      rw [queue]
      exact put_own queued rfl
    refine ⟨⟨j, queued⟩, ?_, others⟩
    rw [jobWork_idle queued idle, jobWork_active own rfl (by rw [runs]; exact if_pos rfl)]
    simp only [phaseWork]
    omega
  | advanced present mine alive still less claims queue runs =>
    subst mine
    obtain ⟨j, -, queued, active⟩ := job_of held present alive
    refine ⟨⟨j, queued⟩, ?_, others⟩
    rw [jobWork_active queued active present,
      jobWork_active (by rw [queue, queued]) active (by rw [runs]; exact if_pos rfl)]
    dsimp only
    omega
  | @completed run r result present mine here queue runs =>
    subst mine
    obtain ⟨j, -, queued, active⟩ := job_of held present (by rw [here]; rfl)
    have empty : jobWork t r.paymentId = 0 := by simp [jobWork, queue]
    refine ⟨⟨j, queued⟩, ?_, others⟩
    rw [empty, jobWork_active queued active present, here]
    simp only [phaseWork]
    omega
  | @threw run r err j j' phase present mine here queued active queue data attempts made outcome
      runs =>
    refine ⟨⟨j, queued⟩, ?_, others⟩
    have own : t.queue.job (jobIdFor id) = some j' := by rw [queue, put_own queued data]
    cases outcome with
    | again delayed more =>
      rw [jobWork_idle own (Or.inr delayed), jobWork_active queued active present, here]
      simp only [phaseWork]
      omega
    | spent reason failed none_ =>
      have failing : t.runs run = some { r with phase := .failing reason } := by
        rw [runs]
        exact if_pos rfl
      exact absurd ⟨run, _, reason, failing, mine, rfl⟩ gone
  | handled present mine here queue runs => exact absurd ⟨_, _, _, present, mine, here⟩ going

theorem drain_step {max : Nat} {history : List Event} {s t : System} {a : Action} {e : Event}
    (positive : 1 ≤ max) (before : Run (Does exec (Budgeted max)) System.init history s)
    (drains : Draining max s a) (done : exec s a = some (e, t)) :
    (∃ id, Uses s t id) ∨ byWorker a = false ∧ t.queue = s.queue ∧ t.runs = s.runs := by
  have after := Run.snoc before ⟨a, handed_budgeted (draining_handed drains), done⟩
  have left := run_left positive before
  -- the budgets agree, so no job fails its payment
  have quiet : ∀ {history u}, Run (Does exec (Budgeted max)) System.init history u →
      ∀ id, ¬ Failing u id := by
    rintro history u run id ⟨c, r, reason, present, -, failing⟩
    have expected := (run_coupled run).expected c r present
    simp [failing, unexpected] at expected
  have held := run_held (undisturbed_run before)
  rcases drain_move held (fun id j queued => Nat.zero_lt_of_lt (left id j queued)) drains
    (exec_move done) with ⟨id, move⟩ | outside
  · exact Or.inl ⟨id, drain_uses held (fun j queued _ => left id j queued) move (quiet before id)
      (quiet after id)⟩
  · exact Or.inr outside

theorem sum_lowers {f g : Nat → Nat} {ids : List Nat} {id : Nat} (there : id ∈ ids)
    (less : g id < f id) (others : ∀ other, other ≠ id → g other = f other) :
    (ids.map g).sum < (ids.map f).sum := by
  apply List.sum_lt_sum
  · intro other _
    by_cases same : other = id
    · rw [same]
      exact Nat.le_of_lt less
    · rw [others other same]
  · exact ⟨id, there, less⟩

theorem work_used {s t : System} {ids : List Nat} {id : Nat} (uses : Uses s t id)
    (there : id ∈ ids) : work ids t < work ids s :=
  sum_lowers there uses.less uses.others

theorem phaseWork_le (phase : ProcessPhase) : phaseWork phase ≤ 5 := by
  cases phase <;> simp [phaseWork]

/-- Six steps for each attempt that the queue grants. -/
theorem jobWork_le {max : Nat} {s : System} {id : Nat} (positive : 1 ≤ max)
    (granted : ∀ j, s.queue.job (jobIdFor id) = some j → j.attempts ≤ max) :
    jobWork s id ≤ 6 * max := by
  unfold jobWork
  cases queued : s.queue.job (jobIdFor id) with
  | none => exact Nat.zero_le _
  | some j =>
    have budget := granted j queued
    cases state : j.state with
    | active run =>
      have phase : ((s.runs run).map (fun r => phaseWork r.phase)).getD 0 ≤ 5 := by
        cases s.runs run with
        | none => simp
        | some r => exact phaseWork_le r.phase
      simp only [state]
      omega
    | _ =>
      simp only [state]
      omega

theorem sum_bounded {f : Nat → Nat} {bound : Nat} (ids : List Nat) (each : ∀ id, f id ≤ bound) :
    (ids.map f).sum ≤ ids.length * bound := by
  have total := List.sum_le_card_nsmul (ids.map f) bound (by simpa using fun id _ => each id)
  simpa using total

theorem work_le {max : Nat} {history : List Event} {s : System} (positive : 1 ≤ max)
    (run : Run (Does exec (Budgeted max)) System.init history s) (ids : List Nat) :
    work ids s ≤ ids.length * (6 * max) := by
  apply sum_bounded
  intro id
  exact jobWork_le positive (fun j queued => Nat.le_of_eq ((run_coupled run).budget id j queued))

theorem drain_rested {max : Nat} {s t : System} {a : Action} {e : Event}
    (drains : Draining max s a) (move : SystemMove s a e t) (h : Rested s) : Rested t := by
  have same : t.calls = s.calls ∧ t.sweeps = s.sweeps := by
    cases move with
    | tick ms => exact ⟨rfl, rfl⟩
    | webhook callback => exact ⟨rfl, rfl⟩
    | pick run jobId fresh took => exact ⟨rfl, rfl⟩
    | worker run move present spec => exact ⟨rfl, rfl⟩
    | _ => simp [Draining, draining] at drains
  constructor
  · rw [same.1]
    exact h.calls
  · rw [same.2]
    exact h.sweeps

theorem drain_listed {max : Nat} {ids : List Nat} {s t : System} {a : Action} {e : Event}
    (drains : Draining max s a) (move : SystemMove s a e t)
    (h : ∀ id j, s.queue.job (jobIdFor id) = some j → id ∈ ids) :
    ∀ id j, t.queue.job (jobIdFor id) = some j → id ∈ ids := by
  intro id j queued
  cases move_queue move with
  | keep keeps quiet =>
    obtain ⟨old, before, -⟩ := keeps _ j queued
    exact h id old before
  | add source config pid label added =>
    cases move with
    | worker run move present spec => cases spec <;> simp at label
    | api call move present spec => simp [Draining, draining] at drains
    | sweep sweep move present spec => simp [Draining, draining] at drains
    | _ => simp at label

structure Kept (max : Nat) (ids : List Nat) (s : System) : Prop where
  reached : ∃ history, Run (Does exec (Handed max)) System.init history s
  rested : Rested s
  jobs : ∀ id j, s.queue.job (jobIdFor id) = some j → id ∈ ids

theorem kept_step {max : Nat} {ids : List Nat} {s t : System} {a : Action} {e : Event}
    (h : Kept max ids s) (drains : Draining max s a) (done : exec s a = some (e, t)) :
    Kept max ids t := by
  obtain ⟨history, run⟩ := h.reached
  have move := exec_move done
  exact ⟨⟨_, Run.snoc run ⟨a, draining_handed drains, done⟩⟩, drain_rested drains move h.rested,
    drain_listed drains move h.jobs⟩

theorem kept_budgeted {max : Nat} {ids : List Nat} {s : System} (h : Kept max ids s) :
    ∃ history, Run (Does exec (Budgeted max)) System.init history s := by
  obtain ⟨history, run⟩ := h.reached
  exact ⟨history, run_mono (does_mono fun _ _ => handed_budgeted) run⟩

theorem drain_bounded {max : Nat} {ids : List Nat} {s t : System}
    {later : List (Action × Event)} (positive : 1 ≤ max) (start : Kept max ids s)
    (run : Run (Picks exec (Draining max)) s later t) :
    later.countP (fun l => byWorker l.1) + work ids t ≤ work ids s := by
  apply run_ranked (Kept max ids) (work ids) (fun l => byWorker l.1) ?_ ?_ ?_ run start
  · intro u l v good step
    exact kept_step good step.1 step.2
  · intro u l v good step
    obtain ⟨history, before⟩ := kept_budgeted good
    rcases drain_step positive before step.1 step.2 with ⟨id, uses⟩ | ⟨-, same, runs⟩
    · obtain ⟨j, queued⟩ := uses.queued
      exact Nat.le_of_lt (work_used uses (good.jobs id j queued))
    · have each : jobWork v = jobWork u := by
        funext id
        exact jobWork_frame (by rw [same]) (fun _ _ _ _ => by rw [runs])
      rw [work, work, each]
  · intro u l v good step working
    obtain ⟨history, before⟩ := kept_budgeted good
    rcases drain_step positive before step.1 step.2 with ⟨id, uses⟩ | ⟨idle, -, -⟩
    · obtain ⟨j, queued⟩ := uses.queued
      exact work_used uses (good.jobs id j queued)
    · simp [idle] at working

def Owned (s : System) (id : Nat) : Prop :=
  ∃ run r claim, s.runs run = some r ∧ r.paymentId = id ∧ r.phase.claimOf = some claim

theorem settle_leaves {db : Database} {id now : Nat} {p q : Payment}
    {answer : Except GatewayError ChargeResult} (found : db.payments.find id = some p)
    (held : p.status = .processing)
    (after : (settle db id answer now).2.payments.find id = some q) : q.status ≠ .processing := by
  obtain ⟨q', written, status⟩ := settle_held found held answer now
  obtain rfl := Option.some.inj (after.symm.trans written)
  rw [status]
  cases answer with
  | ok result => simp [settledStatus]
  | error err =>
    simp only [settledStatus]
    split <;> simp

/-- No run has an answer of charge() that is neither a result nor a GatewayError. -/
def Plain (s : System) : Prop :=
  ∀ run r claim message code errno, s.runs run = some r →
    r.phase ≠ .charging claim (.error (.error message code errno))

theorem run_plain {max : Nat} {history : List Event} {s : System}
    (run : Run (Does exec (Budgeted max)) System.init history s) : Plain s := by
  intro c r claim message code errno present here
  have expected := (run_coupled run).expected c r present
  simp [here, unexpected] at expected

theorem plain_step {max : Nat} {s t : System} {a : Action} {e : Event} (plain : Plain s)
    (drains : Draining max s a) (move : SystemMove s a e t) : Plain t := by
  intro run r' claim message code errno after here
  rcases run_before move after with
    ⟨-, claiming⟩ | present | ⟨r, step, db, queue, phase, present, rfl, -, -, rfl, spec⟩
  · simp [claiming] at here
  · exact plain run r' claim message code errno present here
  · have last : phase = .charging claim (.error (.error message code errno)) := here
    have steady_ := (draining_handed drains).2
    cases spec with
    | claim phase' =>
      cases won : (PaymentService.claim s.db r.paymentId s.now).1 <;> simp [won, afterClaim] at last
    | charge timeoutMs attempt phase' =>
      obtain ⟨ms, result⟩ := attempt
      unfold PaymentService.charge at last
      split at last
      · cases result with
        | ok result => simp at last
        | error err =>
          cases err with
          | gatewayError err => simp at last
          | error message code errno => simp [steady] at steady_
      · simp at last
    | @reply claim' answer phase' =>
      cases answer with
      | ok result => simp [afterReply] at last
      | error err => cases err <;> simp [afterReply] at last
    | @settle claim' answer phase' =>
      have ended := (afterSettle_over (PaymentService.settle s.db r.paymentId answer s.now).1).1
      simp [last, ProcessPhase.claimOf] at ended
    | @failed err jobId config phase' job =>
      rcases failJob_over s.queue config jobId run err with closed | ⟨reason, failing⟩
      · simp [closed] at last
      · simp [failing] at last
    | _ => simp at last

theorem owned_kept {s t : System} {a : Action} {e : Event} (plain : Plain s)
    (calm : Undisturbed s a) (move : SystemMove s a e t) {id : Nat} {p q : Payment}
    (found : row s id = some p) (held : p.status = .processing) (after : row t id = some q)
    (still : q.status = .processing) (h : Owned s id) : Owned t id := by
  obtain ⟨run, r, claim, present, mine, open_⟩ := h
  rcases run_after move present with
    same | ⟨move, db, queue, phase, rfl, committed, -, stepped, spec⟩
  · exact ⟨run, r, claim, same, mine, open_⟩
  · subst mine
    cases spec with
    | charge timeoutMs a here => exact ⟨run, _, _, stepped, rfl, rfl⟩
    | @reply claim answer here =>
      cases answer with
      | ok result => exact ⟨run, _, _, stepped, rfl, rfl⟩
      | error err =>
        cases err with
        | gatewayError err => exact ⟨run, _, _, stepped, rfl, rfl⟩
        | error message code errno => exact absurd here (plain run r _ _ _ _ present)
    | settle here =>
      rw [row, committed] at after
      exact absurd still (settle_leaves found held after)
    | settleThrew err here => exact calm_absurd calm rfl
    | crash => exact calm_absurd calm rfl
    | _ => simp_all [ProcessPhase.claimOf]

theorem owned_claimed {s t : System} {run id : Nat} {claim : Claim}
    (move : RunsMove s t (.claim run id (.claimed claim))) : Owned t id := by
  generalize label : Event.claim run id (.claimed claim) = e at move
  cases move with
  | frame same outside =>
    subst label
    simp [byProcess] at outside
  | start other r fresh begun claiming other_ => simp [other_] at label
  | work other r move phase db queue present moved committed spec =>
    cases spec with
    | claim here =>
      obtain ⟨rfl, rfl, won⟩ : run = other ∧ id = r.paymentId ∧ _ := by simpa using label
      have present' : t.runs run = some { r with phase := .claimed claim } := by
        rw [moved, ← won]
        exact if_pos rfl
      exact ⟨run, _, claim, present', rfl, rfl⟩
    | _ => simp at label

theorem owned_step {s t : System} {a : Action} {e : Event} (plain : Plain s)
    (calm : Undisturbed s a) (move : SystemMove s a e t)
    (owned : ∀ id p, row s id = some p → p.status = .processing → Owned s id) {id : Nat}
    {q : Payment} (after : row t id = some q) (held : q.status = .processing) : Owned t id := by
  cases row_before (move_commit move) after with
  | kept old quiet => exact owned_kept plain calm move old held after held (owned id q old held)
  | created call _ _ _ _ _ absent label made => simp [made, newPayment] at held
  | written old w =>
    obtain ⟨run, claim, rfl⟩ := CallTraces.write_processing w held
    exact owned_claimed (move_runs move)

theorem run_owned {max : Nat} {history : List Event} {s : System}
    (run : Run (Does exec (Budgeted max)) System.init history s) :
    ∀ id p, row s id = some p → p.status = .processing → Owned s id := by
  refine run_induction
    (fun _ u => ∀ id p, row u id = some p → p.status = .processing → Owned u id) ?_ ?_ run
  · intro id p found
    simp at found
  · intro history u e t before inv step id q after held
    obtain ⟨a, ⟨calm, -⟩, done⟩ := step
    exact owned_step (run_plain before) calm (exec_move done) inv after held

theorem run_fresh {allowed : System → Action → Prop} {history : List Event} {s : System}
    (run : Run (Does exec allowed) System.init history s) :
    ∃ bound, ∀ n, bound ≤ n → s.runs n = none := by
  apply run_invariant (fun _ u => ∃ bound, ∀ n, bound ≤ n → u.runs n = none) ?_ ?_ run
  · exact ⟨0, fun n _ => rfl⟩
  · intro history u e t inv step
    obtain ⟨bound, free⟩ := inv
    obtain ⟨a, -, done⟩ := step
    have grown : ∀ run r, t.runs = set u.runs run r →
        ∃ bound, ∀ n, bound ≤ n → t.runs n = none := by
      intro run r moved
      refine ⟨max bound (run + 1), ?_⟩
      intro n above
      rw [moved, set_apply, if_neg (by omega)]
      exact free n (by omega)
    cases move_runs (exec_move done) with
    | frame same outside => exact ⟨bound, by rw [same]; exact free⟩
    | start run r fresh begun claiming label => exact grown run r begun
    | work run r move phase db queue present moved committed spec => exact grown run _ moved

def Exhausted (max : Nat) (t : System) : Prop :=
  ∀ a, Draining max t a → byWorker a = true → exec t a = none

theorem exhausted_queue {max : Nat} {allowed : System → Action → Prop} {history : List Event}
    {t : System} (run : Run (Does exec allowed) System.init history t) (stuck : Exhausted max t)
    (id : Nat) : ¬ Runnable t id := by
  rintro ⟨j, queued, idle⟩
  obtain ⟨bound, free⟩ := run_fresh run
  have none_ := stuck (.pick bound (jobIdFor id)) rfl rfl
  have fresh := free bound (Nat.le_refl _)
  have took : ∃ data queue, t.queue.take (jobIdFor id) bound = some (data, queue) := by
    unfold Jobs.take
    rcases idle with waiting | delayed
    · simp [queued, waiting]
    · simp [queued, delayed]
  obtain ⟨data, queue, took⟩ := took
  simp [exec, fresh, took] at none_

def nextMove (max : Nat) : ProcessPhase → WorkerMove
  | .claiming => .claim none
  | .claimed _ => .charge 1 ⟨0, .ok ⟨true, "", .success⟩⟩
  | .charging _ _ => .reply
  | .settling _ _ => .settle none
  | _ => .finish ⟨max, 0, 0⟩

theorem exhausted_runs {max : Nat} {t : System} (held : JobsHeld t.runs t.queue)
    (stuck : Exhausted max t) {c : Nat} {r : ProcessCall} (present : t.runs c = some r) :
    live r.phase = false := by
  cases alive : live r.phase with
  | false => rfl
  | true =>
    obtain ⟨j, job, -, -⟩ := job_of held present alive
    have allowed : Draining max t (.worker c (nextMove max r.phase)) := by
      cases r.phase <;> simp [nextMove, Draining, draining, undisturbed, steady]
    have none_ := stuck _ allowed rfl
    cases here : r.phase <;>
      simp_all [nextMove, exec, workerStep, live]

/-- With no request and no sweep in progress, a PENDING payment is up to the queue
    and the workers. -/
theorem attended_rested {t : System} {id : Nat} (rested : Rested t) (attended : Attended t id) :
    Runnable t id ∨ Taken t id ∨ Failing t id := by
  cases attended with
  | creating h =>
    obtain ⟨call, c, present, reading | ⟨q, enqueuing, -⟩⟩ := h
    · simpa [reading, ApiPhase.over] using rested.calls call c present
    · simpa [enqueuing, ApiPhase.over] using rested.calls call c present
  | queued h => exact Or.inl h
  | taken h => exact Or.inr (Or.inl h)
  | released h =>
    obtain ⟨sweep, w, row, rest, present, -, removing | enqueuing⟩ := h
    · simpa [removing, SweepPhase.over] using rested.sweeps sweep w present
    · simpa [enqueuing, SweepPhase.over] using rested.sweeps sweep w present
  | failing h => exact Or.inr (Or.inr h)

section
variable {max : Nat} {allowed : System → Action → Prop} {history : List Event} {t : System}
  {id : Nat} (held : JobsHeld t.runs t.queue) (stuck : Exhausted max t)
include held stuck

theorem exhausted_attended (run : Run (Does exec allowed) System.init history t)
    (rested : Rested t) (attended : Attended t id) : Failing t id := by
  rcases attended_rested rested attended with queued | ⟨c, r, present, -, again⟩ | failing
  · exact absurd queued (exhausted_queue run stuck id)
  · have stopped := exhausted_runs held stuck present
    rw [retries_live again] at stopped
    cases stopped
  · exact failing

theorem exhausted_unowned : ¬ Owned t id := by
  rintro ⟨c, r, claim, present, -, open_⟩
  have stopped := exhausted_runs held stuck present
  cases here : r.phase <;> simp_all [ProcessPhase.claimOf, live]

end

theorem exhausted_settled {max : Nat} {history : List Event} {t : System}
    (run : Run (Does exec (Handed max)) System.init history t) (rested : Rested t)
    (stuck : Exhausted max t) {id : Nat} {p : Payment} (found : row t id = some p) :
    isTerminal p.status = true := by
  have budgeted := run_mono (does_mono fun _ _ => handed_budgeted) run
  have held := run_held (undisturbed_run budgeted)
  cases settled : isTerminal p.status with
  | true => rfl
  | false =>
    rcases AttemptAccounting.unsettled_cases settled with free | busy
    · have orderly := run_mono (does_mono fun _ _ (h : Handed max _ _) => h.1) run
      obtain ⟨c, r, reason, present, -, failing⟩ :=
        exhausted_attended held stuck run rested (run_attended orderly found free)
      have expected := (run_coupled budgeted).expected c r present
      simp [failing, unexpected] at expected
    · exact absurd (run_owned budgeted id p found busy) (exhausted_unowned held stuck)

/-- The workers' part of a run from `s` on: how long it can get, and where it ends. -/
structure Drains (max : Nat) (s : System) : Prop where
  bounded : ∀ later t, Run (Picks exec (Draining max)) s later t →
    later.countP (fun l => byWorker l.1) ≤ s.db.payments.all.length * (6 * max)
  settled : ∀ later t, Run (Picks exec (Draining max)) s later t → Exhausted max t →
    ∀ id p, row t id = some p → isTerminal p.status = true

/-- With no request and no sweep in progress, whatever the gateway answers and
    the provider reports, the workers come to an end after at most six steps for
    each attempt of each payment, and leave every payment settled. -/
theorem workers_drain {max : Nat} {history : List Event} {s : System} (positive : 1 ≤ max)
    (run : Run (Does exec (Handed max)) System.init history s) (rested : Rested s) :
    Drains max s := by
  have budgeted := run_mono (does_mono fun _ _ => handed_budgeted) run
  have start : Kept max (s.db.payments.all.map Record.id) s := by
    refine ⟨⟨history, run⟩, rested, ?_⟩
    intro id j queued
    obtain ⟨p, found⟩ := job_row (undisturbed_run budgeted) queued
    have named := s.db.payments.keyed id p found
    refine List.mem_map.mpr ⟨p, ?_, named⟩
    rw [mem_all, named]
    exact found
  have kept : ∀ later t, Run (Picks exec (Draining max)) s later t →
      Kept max (s.db.payments.all.map Record.id) t := by
    intro later t more
    exact run_preserves (Kept max (s.db.payments.all.map Record.id))
      (fun _ _ _ good step => kept_step good step.1 step.2) more start
  constructor
  · intro later t more
    have steps := drain_bounded positive start more
    have total := work_le positive budgeted (s.db.payments.all.map Record.id)
    rw [List.length_map] at total
    omega
  · intro later t more stuck id p found
    obtain ⟨history', reached⟩ := (kept later t more).reached
    exact exhausted_settled reached (kept later t more).rested stuck found

def config : Config := ⟨2, 2000, 3000⟩

def claimedRun : List Action :=
  [.initiate 0 config ⟨"order-123", 4200, "INR"⟩, .api 0 .insert, .api 0 .read,
    .api 0 (.enqueue none), .pick 0 "payment-1", .worker 0 (.claim none)]

/-- Chosen actions of the first call, run and sweep bring in no others. -/
theorem replay_others {allowed : System → Action → Prop} [∀ s a, Decidable (allowed s a)]
    {actions : List Action} (first : actions.all onlyFirst = true) (k : Nat) (other : k ≠ 0) :
    ((replay exec allowed System.init actions).2.calls k,
      (replay exec allowed System.init actions).2.runs k,
      (replay exec allowed System.init actions).2.sweeps k) = (none, none, none) := by
  apply replay_view (fun u : System => (u.calls k, u.runs k, u.sweeps k))
    (fun a => onlyFirst a = true) ?_ ?_
  · intro s a e t quiet done
    exact others_kept quiet done other
  · intro a there
    exact List.all_eq_true.mp first a there

theorem claimedRun_rested : Rested (replay exec (Handed 2) System.init claimedRun).2 := by
  have first : claimedRun.all onlyFirst = true := by decide
  have untouched := fun k => @replay_others (Handed 2) _ claimedRun first k
  constructor
  · intro call c present
    by_cases first : call = 0
    · subst first
      have ended : ((replay exec (Handed 2) System.init claimedRun).2.calls 0).all
          (fun c => c.phase.over) = true := by decide
      simpa [present] using ended
    · simp_all
  · intro sweep w present
    by_cases first : sweep = 0
    · subst first
      have none_ : ((replay exec (Handed 2) System.init claimedRun).2.sweeps 0).isSome = false := by
        decide
      simp [present] at none_
    · simp_all

theorem claimed_payment_drains : Drains 2 (replay exec (Handed 2) System.init claimedRun).2 :=
  workers_drain (by decide) (replay_run exec (Handed 2) System.init claimedRun) claimedRun_rested

end WorkerDrain
