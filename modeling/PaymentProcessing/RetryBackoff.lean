import PaymentProcessing.SystemSteps
import Mathlib.Data.Rat.Floor
import Mathlib.Tactic.Linarith
import Mathlib.Tactic.Positivity

/-!
The pace of the retries. A job that failed is not taken again before the delay
that the worker's backoffStrategy gave it, and those delays double, so the time
that a job has been around grows exponentially with the attempts it has made.
Stalled jobs run again at once and count no attempt.
-/
namespace RetryBackoff
open JobStore TransitionRuns PaymentService PaymentTransactions PaymentSystem SystemSteps

/-- Math.round: halves go up. -/
def mathRound (x : Rat) : Int := ⌊x + 1 / 2⌋

/-- `random` is what Math.random drew. -/
def backoffStrategy (delayMs : Nat) (random : Rat) (attemptsMade : Nat) : Int :=
  let base : Rat := delayMs * 2 ^ (attemptsMade - 1)
  let jitter := random * base * (1 / 5)
  mathRound (base + jitter)

theorem backoff_least (delayMs : Nat) {random : Rat} (drawn : 0 ≤ random) (attemptsMade : Nat) :
    ((delayMs * 2 ^ (attemptsMade - 1) : Nat) : Int) ≤
      backoffStrategy delayMs random attemptsMade := by
  apply Int.le_floor.mpr
  have base : (0 : Rat) ≤ delayMs * 2 ^ (attemptsMade - 1) := by positivity
  have jitter : 0 ≤ random * (delayMs * 2 ^ (attemptsMade - 1)) * (1 / 5) := by positivity
  push_cast
  linarith

inductive JobStep (a : Action) (id : String) :
    Option (Job JobData) → Option (Job JobData) → Prop where
  | kept (job : Option (Job JobData)) : JobStep a id job job
  | added (j : Job JobData) (idle : j.state = .waiting) (unmade : j.attemptsMade = 0) :
      JobStep a id none (some j)
  | picked (j : Job JobData) (run : Nat) (label : a = .pick run id)
      (idle : j.state = .waiting ∨ j.state = .delayed) :
      JobStep a id (some j) (some { j with state := .active run })
  | gone (j : Job JobData) : JobStep a id (some j) none
  | thrown (j j' : Job JobData) (run : Nat) (active : j.state = .active run)
      (made : j'.attemptsMade = j.attemptsMade + 1)
      (after : j'.state = .delayed ∨ j'.state = .failed) : JobStep a id (some j) (some j')
  | expired (j : Job JobData) (run : Nat) (active : j.state = .active run) :
      JobStep a id (some j) (some { j with state := .unlocked })
  | stalled (j : Job JobData) (unlocked : j.state = .unlocked) :
      JobStep a id (some j) (some { j with state := .waiting })

variable {queue : PaymentQueue} {a : Action}

theorem add_step (config : Config) (pid : Nat) (id : String) :
    JobStep a id (queue.job id) ((enqueuePayment queue config pid).job id) := by
  cases after : (enqueuePayment queue config pid).job id with
  | none =>
    cases before : queue.job id with
    | none => exact JobStep.kept none
    | some j => exact JobStep.gone j
  | some j =>
    rcases add_origin after with same | ⟨-, fresh, rfl⟩
    · rw [same]
      exact JobStep.kept _
    · rw [fresh]
      exact JobStep.added _ rfl rfl

theorem put_step {j j' : Job JobData} {at_ : String} (present : queue.job at_ = some j)
    (same : j'.data = j.data) {id : String} (step : id = at_ → JobStep a id (some j) (some j')) :
    JobStep a id (queue.job id) ((queue.put j').job id) := by
  by_cases here : id = at_
  · have moved := step here
    rw [here, put_own present same, present]
    rwa [here] at moved
  · rw [put_other present same here]
    exact JobStep.kept _

theorem delete_step (at_ id : String) :
    JobStep a id (queue.job id) ((queue.delete at_).job id) := by
  rw [job_delete]
  split
  · cases queue.job id with
    | none => exact JobStep.kept none
    | some j => exact JobStep.gone j
  · exact JobStep.kept _

theorem remove_step {queue' : PaymentQueue} {at_ : String} (h : queue.remove at_ = some queue')
    (id : String) : JobStep a id (queue.job id) (queue'.job id) := by
  obtain ⟨-, gone, rest⟩ := remove_some h
  by_cases here : id = at_
  · rw [here, gone]
    cases queue.job at_ with
    | none => exact JobStep.kept none
    | some j => exact JobStep.gone j
  · rw [rest id here]
    exact JobStep.kept _

theorem pick_step {queue' : PaymentQueue} {run : Nat} {jobId : String} {data : JobData}
    (h : queue.take jobId run = some (data, queue')) (id : String) :
    JobStep (.pick run jobId) id (queue.job id) (queue'.job id) := by
  obtain ⟨j, present, -, idle, rfl⟩ := take_some h
  refine put_step present ?_ ?_
  · rfl
  · intro here
    exact JobStep.picked j run (by rw [here]) idle

theorem fail_step {config : Config} {jobId : String} {run : Nat} {err : JsError} (id : String) :
    JobStep a id (queue.job id) ((failJob queue config jobId run err).1.job id) := by
  have thrown : ∀ {job : Job JobData} {queue' : PaymentQueue},
      queue.fail jobId run = some (job, queue') → JobStep a id (queue.job id) (queue'.job id) := by
    intro job queue' failed
    obtain ⟨j, present, active, rfl, same, -, made, after⟩ := fail_some failed
    apply put_step present same
    intro _
    exact JobStep.thrown j job run active made (after.imp And.left And.left)
  rcases failJob_spec queue config jobId run err with
    ⟨-, same⟩ | ⟨job, queue', failed, ⟨-, same⟩ | ⟨-, same⟩⟩
  · rw [same]
    exact JobStep.kept _
  · rw [same]
    exact thrown failed
  · rw [same]
    exact thrown failed

theorem expire_step (jobId id : String) :
    JobStep a id (queue.job id) ((queue.expire jobId).job id) := by
  unfold Jobs.expire
  split
  · exact JobStep.kept _
  · rename_i j present
    split
    · rename_i run active
      refine put_step present ?_ ?_
      · rfl
      · intro _
        exact JobStep.expired j run active
    · exact JobStep.kept _

theorem stall_step (jobId id : String) :
    JobStep a id (queue.job id) ((queue.stall jobId).job id) := by
  unfold Jobs.stall
  split
  · exact JobStep.kept _
  · rename_i j present
    split
    · rename_i unlocked
      refine put_step present ?_ ?_
      · rfl
      · intro _
        exact JobStep.stalled j unlocked
    · exact JobStep.kept _

theorem move_job {s t : System} {e : Event} (move : SystemMove s a e t) (id : String) :
    JobStep a id (s.queue.job id) (t.queue.job id) := by
  cases move with
  | api call move present spec =>
    cases spec with
    | enqueued here => exact add_step _ _ id
    | _ => exact JobStep.kept _
  | pick run jobId fresh took => exact pick_step took id
  | worker run move present spec =>
    cases spec with
    | @completed result jobId config here job =>
      cases done : s.queue.complete jobId run with
      | none => exact JobStep.kept _
      | some queue' =>
        obtain ⟨-, -, -, rfl⟩ := complete_some done
        exact delete_step jobId id
    | failed config here job => exact fail_step id
    | _ => exact JobStep.kept _
  | expire jobId => exact expire_step jobId id
  | stall jobId => exact stall_step jobId id
  | sweep sweep move present spec =>
    cases spec with
    | removed here removal => exact remove_step removal id
    | enqueued here => exact add_step _ _ id
    | _ => exact JobStep.kept _
  | _ => exact JobStep.kept _

/-- When a job was added, and when its present delay is over. -/
structure Stamp where
  queued : Nat
  ready : Nat

structure Paced where
  system : System
  stamps : String → Stamp

def Paced.init : Paced := ⟨System.init, fun _ => ⟨0, 0⟩⟩

/-- A new job is runnable at once, a rescheduled one after its backoff. -/
def restamp (delayMs : Nat) (random : Rat) (now : Nat) (before after : Option (Job JobData))
    (stamp : Stamp) : Stamp :=
  match before, after with
  | none, some _ => ⟨now, now⟩
  | some j, some j' =>
    if j.state ≠ .delayed ∧ j'.state = .delayed then
      { stamp with ready := now + (backoffStrategy delayMs random j'.attemptsMade).toNat }
    else stamp
  | _, none => stamp

/-- An action, and the jitter that is drawn if it reschedules a job. -/
structure PacedAction where
  action : Action
  random : Rat

def pace (delayMs : Nat) (w : Paced) (a : PacedAction) : Option (Event × Paced) :=
  (exec w.system a.action).map fun done =>
    (done.1, ⟨done.2, fun id => restamp delayMs a.random w.system.now (w.system.queue.job id)
      (done.2.queue.job id) (w.stamps id)⟩)

/-- Math.random stays in its range, and a delayed job is left alone until its time. -/
def onPace (w : Paced) (a : PacedAction) : Bool :=
  decide (0 ≤ a.random) && decide (a.random < 1) &&
    match a.action with
    | .pick _ id =>
      match w.system.queue.job id with
      | some j => j.state != .delayed || decide ((w.stamps id).ready ≤ w.system.now)
      | none => true
    | _ => true

def OnPace (w : Paced) (a : PacedAction) : Prop := onPace w a = true

instance (w : Paced) (a : PacedAction) : Decidable (OnPace w a) :=
  inferInstanceAs (Decidable (onPace w a = true))

theorem onPace_parts {w : Paced} {a : PacedAction} (h : OnPace w a) :
    0 ≤ a.random ∧ a.random < 1 ∧ ∀ run id, a.action = .pick run id →
      ∀ j, w.system.queue.job id = some j → j.state = .delayed →
        (w.stamps id).ready ≤ w.system.now := by
  simp only [OnPace, onPace, Bool.and_eq_true, decide_eq_true_eq] at h
  refine ⟨h.1.1, h.1.2, ?_⟩
  intro run id label j present delayed
  have due := h.2
  rw [label] at due
  simpa [present, delayed] using due

/-- The moment that the clock has passed, or is bound to pass before the job runs. -/
def reached (now ready : Nat) : JobState → Nat
  | .delayed => ready
  | _ => now

/-- The delays that a job has waited out or is waiting out. -/
def waits (j : Job JobData) : Nat :=
  if j.state = .failed then j.attemptsMade - 1 else j.attemptsMade

def InPace (delayMs : Nat) (now : Nat) (stamp : Stamp) (j : Job JobData) : Prop :=
  stamp.queued + delayMs * (2 ^ waits j - 1) ≤ reached now stamp.ready j.state

theorem inPace_later {delayMs now now' : Nat} {stamp : Stamp} {j : Job JobData}
    (h : InPace delayMs now stamp j) (clock : now ≤ now') : InPace delayMs now' stamp j := by
  unfold InPace at h ⊢
  cases state : j.state with
  | delayed => simpa [reached, state] using h
  | _ =>
    simp only [state, reached] at h ⊢
    omega

theorem inPace_taken {delayMs now now' : Nat} {stamp : Stamp} {j : Job JobData} {run : Nat}
    (h : InPace delayMs now stamp j) (idle : j.state = .waiting ∨ j.state = .delayed)
    (due : j.state = .delayed → stamp.ready ≤ now) (clock : now ≤ now') :
    InPace delayMs now' stamp { j with state := .active run } := by
  unfold InPace at h ⊢
  rcases idle with waiting | delayed
  · simp only [waits, waiting, reached, reduceCtorEq, if_false] at h ⊢
    omega
  · have passed := due delayed
    simp only [waits, delayed, reached, reduceCtorEq, if_false] at h ⊢
    omega

theorem doubled (delayMs made : Nat) :
    delayMs * (2 ^ made - 1) + delayMs * 2 ^ made = delayMs * (2 ^ (made + 1) - 1) := by
  have positive := Nat.two_pow_pos made
  rw [← Nat.mul_add, Nat.pow_succ]
  congr 1
  omega

/-- The delay that a thrown attempt earns makes up for the attempt. -/
theorem inPace_thrown {delayMs now now' : Nat} {stamp : Stamp} {j j' : Job JobData} {run : Nat}
    {random : Rat} (h : InPace delayMs now stamp j) (active : j.state = .active run)
    (made : j'.attemptsMade = j.attemptsMade + 1)
    (after : j'.state = .delayed ∨ j'.state = .failed) (drawn : 0 ≤ random) (clock : now ≤ now') :
    InPace delayMs now' (restamp delayMs random now (some j) (some j') stamp) j' := by
  have least := backoff_least delayMs drawn j'.attemptsMade
  have sum := doubled delayMs j.attemptsMade
  simp only [InPace, waits, active, reached, reduceCtorEq, if_false] at h
  rcases after with delayed | failed
  · simp only [InPace, waits, restamp, active, delayed, reached, reduceCtorEq, if_false, ne_eq,
      not_false_eq_true, and_self, if_true]
    rw [made] at least ⊢
    simp only [Nat.add_sub_cancel] at least
    omega
  · simp only [InPace, waits, restamp, active, failed, reached, reduceCtorEq, if_false, if_true,
      and_false, made, Nat.add_sub_cancel]
    omega

theorem inPace_step {delayMs now now' : Nat} {a : Action} {id : String} {random : Rat}
    {stamp : Stamp} {before after : Option (Job JobData)} (step : JobStep a id before after)
    (drawn : 0 ≤ random) (clock : now ≤ now')
    (due : ∀ run, a = .pick run id → ∀ j, before = some j → j.state = .delayed →
      stamp.ready ≤ now)
    (h : ∀ j, before = some j → InPace delayMs now stamp j) {j' : Job JobData}
    (present : after = some j') :
    InPace delayMs now' (restamp delayMs random now before after stamp) j' := by
  cases step with
  | kept job =>
    subst present
    have same : restamp delayMs random now (some j') (some j') stamp = stamp :=
      if_neg (fun both => both.1 both.2)
    rw [same]
    exact inPace_later (h j' rfl) clock
  | added j idle unmade =>
    obtain rfl := Option.some.inj present
    simp only [InPace, waits, restamp, idle, unmade, reached, reduceCtorEq, if_false, Nat.pow_zero,
      Nat.sub_self, Nat.mul_zero, Nat.add_zero]
    exact clock
  | picked j run label idle =>
    obtain rfl := Option.some.inj present
    have same : restamp delayMs random now (some j) (some { j with state := .active run }) stamp =
        stamp := if_neg (by simp)
    rw [same]
    exact inPace_taken (h j rfl) idle (due run label j rfl) clock
  | gone j => cases present
  | thrown j j' run active made after =>
    obtain rfl := Option.some.inj present
    exact inPace_thrown (h j rfl) active made after drawn clock
  | expired j run active =>
    obtain rfl := Option.some.inj present
    have same : restamp delayMs random now (some j) (some { j with state := .unlocked }) stamp =
        stamp := if_neg (by simp)
    have held := h j rfl
    rw [same]
    simp only [InPace, waits, active, reached, reduceCtorEq, if_false] at held ⊢
    omega
  | stalled j unlocked =>
    obtain rfl := Option.some.inj present
    have same : restamp delayMs random now (some j) (some { j with state := .waiting }) stamp =
        stamp := if_neg (by simp)
    have held := h j rfl
    rw [same]
    simp only [InPace, waits, unlocked, reached, reduceCtorEq, if_false] at held ⊢
    omega

theorem move_clock {s t : System} {a : Action} {e : Event} (move : SystemMove s a e t) :
    s.now ≤ t.now := by
  cases move with
  | tick ms => exact Nat.le_add_right s.now ms
  | _ => exact Nat.le_refl _

theorem run_inPace {delayMs : Nat} {history : List Event} {w : Paced}
    (run : Run (Does (pace delayMs) OnPace) Paced.init history w) {id : String} {j : Job JobData}
    (present : w.system.queue.job id = some j) :
    InPace delayMs w.system.now (w.stamps id) j := by
  have all : ∀ id j, w.system.queue.job id = some j →
      InPace delayMs w.system.now (w.stamps id) j := by
    apply run_invariant (fun _ u => ∀ id j, u.system.queue.job id = some j →
      InPace delayMs u.system.now (u.stamps id) j) ?_ ?_ run
    · intro id j there
      simp [Paced.init, System.init, Jobs.empty] at there
    · intro history u e v inv step id j there
      obtain ⟨a, allowed, done⟩ := step
      obtain ⟨drawn, -, due⟩ := onPace_parts allowed
      obtain ⟨⟨e', s⟩, moved, eq⟩ := Option.map_eq_some_iff.mp done
      cases eq
      have move := exec_move moved
      exact inPace_step (move_job move id) drawn (move_clock move)
        (fun run label => due run id label) (inv id) there
  exact all id j present

theorem paced_run {delayMs : Nat} {history : List Event} {w : Paced}
    (run : Run (Does (pace delayMs) OnPace) Paced.init history w) :
    Run Step System.init history w.system := by
  apply run_viewed Paced.system ?_ run
  intro u e v step
  obtain ⟨a, -, done⟩ := step
  obtain ⟨⟨e', s⟩, moved, eq⟩ := Option.map_eq_some_iff.mp done
  cases eq
  exact ⟨a.action, trivial, moved⟩

/-- However the workers and the sweeps interleave, a job that runs its handler
    again has been around for all the delays of its failed attempts. -/
theorem retries_keep_pace {delayMs : Nat} {history : List Event} {w : Paced}
    (run : Run (Does (pace delayMs) OnPace) Paced.init history w) {id : String} {j : Job JobData}
    {holder : Nat} (present : w.system.queue.job id = some j) (active : j.state = .active holder) :
    (w.stamps id).queued + delayMs * (2 ^ j.attemptsMade - 1) ≤ w.system.now := by
  have pace := run_inPace run present
  simpa [InPace, waits, active, reached] using pace

def pacedRun : List PacedAction :=
  let config : Config := ⟨3, 60000, 3000⟩
  let steps := [.initiate 0 config ⟨"order-123", 4200, "INR"⟩, .api 0 .insert, .api 0 .read,
    .api 0 (.enqueue none), .pick 0 "payment-1", .worker 0 (.claim none),
    .worker 0 (.charge 3000 (attempt 3000 .timeout 0 "gw_a")), .tick 3000, .worker 0 .reply,
    .worker 0 (.settle none), .worker 0 (.finish config), .tick 5500, .pick 1 "payment-1",
    .worker 1 (.claim none), .worker 1 (.charge 3000 (attempt 3000 .timeout 0 "gw_b")),
    .tick 3000, .worker 1 .reply, .worker 1 (.settle none), .worker 1 (.finish config),
    .tick 11000, .pick 2 "payment-1"]
  steps.map (fun a => ⟨a, 1 / 2⟩)

theorem second_retry_paced :
    (replay (pace 5000) OnPace Paced.init pacedRun).2.system.now = 22500 ∧
      ((replay (pace 5000) OnPace Paced.init pacedRun).2.stamps "payment-1").queued +
        5000 * (2 ^ 2 - 1) ≤ (replay (pace 5000) OnPace Paced.init pacedRun).2.system.now := by
  have shape : ((replay (pace 5000) OnPace Paced.init pacedRun).2.system.queue.job "payment-1").map
      (fun j => (j.attemptsMade, j.state)) = some (2, .active 2) := by decide +kernel
  obtain ⟨j, present, eq⟩ := Option.map_eq_some_iff.mp shape
  obtain ⟨made, active⟩ := Prod.mk.inj eq
  have paced := retries_keep_pace (replay_run (pace 5000) OnPace Paced.init pacedRun) present active
  rw [made] at paced
  exact ⟨by decide +kernel, paced⟩

end RetryBackoff
