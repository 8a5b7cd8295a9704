import PaymentProcessing.JobGrants
import PaymentProcessing.SweepRecovery
import PaymentProcessing.WorkerDrain

/-!
From a crash to rest. The run before may contain every kind of failure; all it
leaves is dead processes, their jobs back in the queue and stale rows. One sweep
and then the workers settle every payment except those that were PENDING with no
job that will run: these stay as they are until the provider calls back.
-/
namespace CrashRecovery
open KeyedTable JobStore TransitionRuns PaymentStateMachine PaymentRepositories PaymentService
open WebhookService PaymentTransactions PaymentSystem SystemSteps JobHolding JobGrants
open ReleaseHandover RetryBudget WorkerDrain SweepLoop SweepRecovery

variable {max : Nat}

/-- Every process is gone or at rest, and the queue has taken back the jobs of
    the dead ones. -/
structure Down (s : System) : Prop where
  quiet : Quiescent s
  free : ∀ id j, s.queue.job id = some j → j.state ≠ .unlocked ∧ ∀ holder, j.state ≠ .active holder

theorem under_frame {sweep : Nat} {s u : System} {history : List Event}
    (run : Run (Does exec (Under noFaults sweep)) s history u) :
    u.calls = s.calls ∧ u.runs = s.runs ∧
      ∀ other, other ≠ sweep → u.sweeps other = s.sweeps other := by
  apply run_preserves (fun v => v.calls = s.calls ∧ v.runs = s.runs ∧
    ∀ other, other ≠ sweep → v.sweeps other = s.sweeps other) ?_ run ⟨rfl, rfl, fun _ _ => rfl⟩
  rintro v e w ⟨calls, runs, sweeps⟩ ⟨a, under, done⟩
  obtain ⟨-, move, -, -, rfl⟩ := (under_iff v a).mp under
  cases exec_move done with
  | sweep _ move present spec =>
    refine ⟨calls, runs, ?_⟩
    intro other ne
    rw [← sweeps other ne]
    exact if_neg ne

theorem under_serving {sweep : Nat} {s : System} {a : Action} (h : Under noFaults sweep s a) :
    Serving max s a := by
  obtain ⟨-, move, -, -, rfl⟩ := (under_iff s a).mp h
  exact ⟨trivial, rfl⟩

section
variable {sweep : Nat} {config : Config} {s t u : System} {e : Event} {history : List Event}
  (start : exec s (.reconcile sweep config) = some (e, t))
  (run : Run (Does exec (Under noFaults sweep)) t history u) (finished : Over sweep u)
include start run finished

theorem sweep_swept :
    Swept config noFaults (findStale s.db s.now config.staleProcessingMs) s u := by
  have swept := ((sweep_outcome start noFaults).2 history u run finished).1
  rwa [reached_all] at swept

theorem swept_down (down : Down s) : Down u := by
  have swept := sweep_swept start run finished
  obtain ⟨calls, runs, sweeps⟩ := under_frame run
  cases exec_move start with
  | reconcile _ _ fresh =>
    refine ⟨⟨?_, ?_, ?_⟩, ?_⟩
    · rw [calls]
      exact down.quiet.calls
    · rw [runs]
      exact down.quiet.runs
    · intro other w present
      by_cases mine : other = sweep
      · subst mine
        obtain ⟨w', present', ended⟩ := finished
        obtain rfl := Option.some.inj (present.symm.trans present')
        exact ended
      · rw [sweeps other mine] at present
        exact down.quiet.sweeps other w ((if_neg mine).symm.trans present)
    · intro id j present
      by_cases mine : ∃ p, Released config s p ∧ id = jobIdFor p.id
      · obtain ⟨p, released, rfl⟩ := mine
        have job := swept_released swept released
        rw [cleared_inactive (fun k run there => (down.free _ k there).2 run), present] at job
        obtain rfl : j = freshJob config p.id := Option.some.inj job
        simp [freshJob]
      · rw [swept_other_job swept (fun p released same => mine ⟨p, released, same⟩)] at present
        exact down.free id j present

theorem swept_unclaimed (stale : ∀ id p, row s id = some p → p.status = .processing →
    Stale config s p) {id : Nat} {q : Payment} (found : row u id = some q) :
    q.status ≠ .processing := by
  have swept := sweep_swept start run finished
  intro busy
  by_cases mine : ∃ p, Stale config s p ∧ id = p.id
  · obtain ⟨p, old, rfl⟩ := mine
    rw [swept_row swept old] at found
    obtain rfl := Option.some.inj found
    rw [recovered_status] at busy
    split at busy <;> simp at busy
  · have others : ∀ p, Stale config s p → id ≠ p.id := fun p old same => mine ⟨p, old, same⟩
    rw [swept_elsewhere swept others] at found
    have old := stale id q found busy
    exact others q old (payment_id s.db found).symm

theorem swept_rows {id : Nat} {q : Payment} (found : row u id = some q) :
    ∃ p, row s id = some p := by
  have swept := sweep_swept start run finished
  by_cases mine : ∃ p, Stale config s p ∧ id = p.id
  · obtain ⟨p, old, rfl⟩ := mine
    exact ⟨p, old.found⟩
  · rw [swept_elsewhere swept (fun p old same => mine ⟨p, old, same⟩)] at found
    exact ⟨q, found⟩

end

/-- A run that is about to fail its payment is the only one of its payment, and
    the job has failed with it. -/
structure Closing (s : System) : Prop where
  failed : ∀ run r reason, s.runs run = some r → r.phase = .failing reason →
    ∃ j, s.queue.job (jobIdFor r.paymentId) = some j ∧ j.state = .failed
  once : ∀ run r reason run' r' reason', s.runs run = some r → r.phase = .failing reason →
    s.runs run' = some r' → r'.phase = .failing reason' → r.paymentId = r'.paymentId → run = run'

structure Recovering (max : Nat) (ids : List Nat) (s : System) : Prop where
  reached : ∃ history, Run (Does exec (Serving max)) System.init history s
  rested : Rested s
  held : JobsHeld s.runs s.queue
  plain : Plain s
  closing : Closing s
  owned : ∀ id p, row s id = some p → p.status = .processing → Owned s id
  listed : ∀ id j, s.queue.job (jobIdFor id) = some j → id ∈ ids

theorem down_recovering {ids : List Nat} {history : List Event} {u : System}
    (run : Run (Does exec (Serving max)) System.init history u) (down : Down u)
    (unclaimed : ∀ id p, row u id = some p → p.status ≠ .processing)
    (listed : ∀ id p, row u id = some p → id ∈ ids) : Recovering max ids u := by
  have dead : ∀ run r, u.runs run = some r → live r.phase = false := by
    intro run r present
    rcases down.quiet.runs run r present with eq | eq <;> rw [eq] <;> rfl
  have closed : ∀ run r reason, u.runs run = some r → r.phase ≠ .failing reason := by
    intro run r reason present
    rcases down.quiet.runs run r present with eq | eq <;> simp [eq]
  refine ⟨⟨history, run⟩, ⟨down.quiet.calls, down.quiet.sweeps⟩, ⟨?_, ?_⟩, ?_, ⟨?_, ?_⟩, ?_, ?_⟩
  · intro c r present alive
    rw [dead c r present] at alive
    simp at alive
  · intro id j holder queued active
    exact absurd active ((down.free id j queued).2 holder)
  · intro c r claim message code errno present here
    have gone := dead c r present
    simp [here, live] at gone
  · intro c r reason present here
    exact absurd here (closed c r reason present)
  · intro c r reason c' r' reason' present here
    exact absurd here (closed c r reason present)
  · intro id p found busy
    exact absurd busy (unclaimed id p found)
  · intro id j queued
    obtain ⟨p, found⟩ := job_payment_row run queued
    exact listed id p found

variable {ids : List Nat} {s t : System} {a : Action} {e : Event}

theorem draining_serving (drains : Draining max s a) : Serving max s a := by
  cases a <;> first | exact ⟨trivial, rfl⟩ | simp [Draining, draining] at drains

theorem recovering_granted (h : Recovering max ids s) (id : Nat) (j : Job JobData)
    (queued : s.queue.job (jobIdFor id) = some j) : Granted max j := by
  obtain ⟨history, run⟩ := h.reached
  exact (run_granted run).2 _ j queued

theorem recovering_move (h : Recovering max ids s) (drains : Draining max s a)
    (move : SystemMove s a e t) :
    (∃ id, DrainMove s t id) ∨ byWorker a = false ∧ t.queue = s.queue ∧ t.runs = s.runs :=
  drain_move h.held (fun id j queued => (recovering_granted h id j queued).positive) drains move

theorem failing_origin {id run : Nat} {r : ProcessCall} {reason : String}
    (move : DrainMove s t id) (present : t.runs run = some r) (here : r.phase = .failing reason) :
    s.runs run = some r ∨ r.paymentId = id ∧
      (∃ j, s.queue.job (jobIdFor id) = some j ∧ j.state = .active run) ∧
      ∃ j, t.queue.job (jobIdFor id) = some j ∧ j.state = .failed := by
  have unchanged : ∀ {c r'}, t.runs = set s.runs c r' → r'.phase ≠ .failing reason →
      s.runs run = some r := by
    intro c r' runs other
    rw [runs] at present
    rcases set_some present with ⟨-, rfl⟩ | ⟨-, old⟩
    · exact absurd here other
    · exact old
  cases move with
  | picked fresh queued idle queue runs => exact Or.inl (unchanged runs (by simp))
  | @advanced c r₀ phase before mine alive still less claims queue runs =>
    have other : phase ≠ .failing reason := by
      intro failing
      simp [failing, live] at still
    exact Or.inl (unchanged runs other)
  | completed before mine phase queue runs => exact Or.inl (unchanged runs (by simp))
  | @threw c r₀ err j j' phase before mine threw queued active queue data attempts made outcome
      runs =>
    have own : t.queue.job (jobIdFor id) = some j' := by rw [queue, put_own queued data]
    cases outcome with
    | again delayed left => exact Or.inl (unchanged runs (by simp))
    | spent _ failed _ =>
      rw [runs] at present
      rcases set_some present with ⟨rfl, rfl⟩ | ⟨-, old⟩
      · exact Or.inr ⟨mine, ⟨j, queued, active⟩, j', own, failed⟩
      · exact Or.inl old
  | handled before mine phase queue runs => exact Or.inl (unchanged runs (by simp))

/-- While its job is not active, a payment can only have the job picked, or be
    failed by the listener of an earlier run. -/
theorem inactive_move {id : Nat} {j : Job JobData} (held : JobsHeld s.runs s.queue)
    (move : DrainMove s t id) (queued : s.queue.job (jobIdFor id) = some j)
    (free : ∀ holder, j.state ≠ .active holder) :
    ((j.state = .waiting ∨ j.state = .delayed) ∧
        ∃ run, t.runs run = some ⟨id, some (jobIdFor id), .claiming⟩) ∨
      ∃ run r reason, s.runs run = some r ∧ r.paymentId = id ∧ r.phase = .failing reason ∧
        t.queue = s.queue ∧ t.runs = set s.runs run { r with phase := .closed } := by
  have ended : ∀ {run r}, s.runs run = some r → r.paymentId = id → live r.phase ≠ true := by
    rintro run r present rfl alive
    obtain ⟨k, -, queued', active⟩ := job_of held present alive
    obtain rfl := Option.some.inj (queued.symm.trans queued')
    exact free run active
  cases move with
  | @picked run k fresh queued' idle queue runs =>
    obtain rfl := Option.some.inj (queued.symm.trans queued')
    exact Or.inl ⟨idle, run, by rw [runs]; exact if_pos rfl⟩
  | advanced present mine alive still less claims queue runs =>
    exact absurd alive (ended present mine)
  | completed present mine here queue runs =>
    exact absurd (by rw [here]; rfl) (ended present mine)
  | threw present mine here queued' active queue data attempts made outcome runs =>
    exact absurd (by rw [here]; rfl) (ended present mine)
  | handled present mine here queue runs =>
    exact Or.inr ⟨_, _, _, present, mine, here, queue, runs⟩

theorem failed_kept {id other : Nat} {j : Job JobData} (held : JobsHeld s.runs s.queue)
    (move : DrainMove s t id) (queued : s.queue.job (jobIdFor other) = some j)
    (failed : j.state = .failed) : t.queue.job (jobIdFor other) = some j := by
  by_cases same : other = id
  · subst same
    rcases inactive_move held move queued (by simp [failed]) with
      ⟨idle, -⟩ | ⟨run, r, reason, -, -, -, queue, -⟩
    · simp [failed] at idle
    · rw [queue, queued]
  · rw [(drain_own move).jobs other same, queued]

theorem closing_step (h : Recovering max ids s) (drains : Draining max s a)
    (move : SystemMove s a e t) : Closing t := by
  rcases recovering_move h drains move with ⟨id, step⟩ | ⟨-, queue, runs⟩
  · constructor
    · intro run r reason present here
      rcases failing_origin step present here with old | ⟨mine, -, now⟩
      · obtain ⟨j, queued, failed⟩ := h.closing.failed run r reason old here
        exact ⟨j, failed_kept h.held step queued failed, failed⟩
      · rw [mine]
        exact now
    · intro run r reason run' r' reason' present here present' here' same
      -- two of them would need one job to be active and failed
      have clash : ∀ run r reason, s.runs run = some r → r.phase = .failing reason →
          r.paymentId = id → ∀ holder j, s.queue.job (jobIdFor id) = some j →
            j.state = .active holder → False := by
        intro run r reason old here mine holder j queued active
        obtain ⟨k, queued', failed⟩ := h.closing.failed run r reason old here
        rw [mine, queued] at queued'
        obtain rfl := Option.some.inj queued'
        simp [active] at failed
      rcases failing_origin step present here with old | ⟨mine, ⟨j, queued, active⟩, -⟩
      · rcases failing_origin step present' here' with old' | ⟨mine', ⟨j, queued, active⟩, -⟩
        · exact h.closing.once run r reason run' r' reason' old here old' here' same
        · exact (clash run r reason old here (same.trans mine') run' j queued active).elim
      · rcases failing_origin step present' here' with old' | ⟨-, ⟨j', queued', active'⟩, -⟩
        · exact (clash run' r' reason' old' here' (same.symm.trans mine) run j queued active).elim
        · obtain rfl := Option.some.inj (queued.symm.trans queued')
          exact JobState.active.inj (active.symm.trans active')
  · exact ⟨by rw [runs, queue]; exact h.closing.failed, by rw [runs]; exact h.closing.once⟩

theorem recovering_step (h : Recovering max ids s) (drains : Draining max s a)
    (done : exec s a = some (e, t)) : Recovering max ids t := by
  obtain ⟨history, run⟩ := h.reached
  have calm := (draining_handed drains).1.1
  have move := exec_move done
  constructor
  · exact ⟨_, Run.snoc run ⟨a, draining_serving drains, done⟩⟩
  · exact drain_rested drains move h.rested
  · exact held_step h.held calm move
  · exact plain_step h.plain drains move
  · exact closing_step h drains move
  · intro id q after busy
    exact owned_step h.plain calm move h.owned after busy
  · exact drain_listed drains move h.listed

open Classical in
/-- The work of the job, and one step more for the payment that fails with it. -/
noncomputable def remaining (s : System) (id : Nat) : Nat :=
  match s.queue.job (jobIdFor id) with
  | none => 0
  | some j => if j.state = .failed then if Failing s id then 1 else 0 else jobWork s id + 1

theorem remaining_open {id : Nat} {j : Job JobData} (queued : s.queue.job (jobIdFor id) = some j)
    (going : j.state ≠ .failed) : remaining s id = jobWork s id + 1 := by
  simp [remaining, queued, going]

theorem remaining_closing {id : Nat} {j : Job JobData}
    (queued : s.queue.job (jobIdFor id) = some j) (failed : j.state = .failed)
    (failing : Failing s id) : remaining s id = 1 := by
  simp [remaining, queued, failed, failing]

theorem remaining_over {id : Nat} {j : Job JobData} (queued : s.queue.job (jobIdFor id) = some j)
    (failed : j.state = .failed) (failing : ¬ Failing s id) : remaining s id = 0 := by
  simp [remaining, queued, failed, failing]

theorem own_failing {id other : Nat} (own : Own s t id) (ne : other ≠ id) :
    Failing t other ↔ Failing s other := by
  constructor
  · rintro ⟨c, r, reason, present, rfl, here⟩
    exact ⟨c, r, reason, (own_run own ne).mp present, rfl, here⟩
  · rintro ⟨c, r, reason, present, rfl, here⟩
    exact ⟨c, r, reason, (own_run own ne).mpr present, rfl, here⟩

theorem own_remaining {id other : Nat} (held : JobsHeld s.runs s.queue) (own : Own s t id)
    (ne : other ≠ id) : remaining t other = remaining s other := by
  unfold remaining
  rw [own.jobs other ne, own_work held own ne, propext (own_failing own ne)]

theorem remaining_le (h : Recovering max ids s) (positive : 1 ≤ max) (id : Nat) :
    remaining s id ≤ 6 * max + 1 := by
  have work_ : jobWork s id ≤ 6 * max :=
    jobWork_le positive (fun j queued => (recovering_granted h id j queued).bounded)
  unfold remaining
  split
  · exact Nat.zero_le _
  · split
    · split <;> omega
    · omega

theorem remaining_work {id : Nat} (going : ¬ Failing s id) : remaining s id ≤ jobWork s id + 1 := by
  unfold remaining
  split
  · exact Nat.zero_le _
  · simp only [if_neg going]
    split <;> omega

/-- A worker is busy with a job that has not failed, or with its failure. -/
theorem drain_busy (h : Recovering max ids s) {id : Nat} (move : DrainMove s t id)
    (going : ¬ Failing s id) :
    ∃ j, s.queue.job (jobIdFor id) = some j ∧ j.state ≠ .failed ∧ 0 < jobWork s id := by
  have active_ : ∀ {run r}, s.runs run = some r → r.paymentId = id → live r.phase = true →
      0 < phaseWork r.phase →
      ∃ j, s.queue.job (jobIdFor id) = some j ∧ j.state ≠ .failed ∧ 0 < jobWork s id := by
    rintro run r present rfl alive more
    obtain ⟨j, -, queued, active⟩ := job_of h.held present alive
    refine ⟨j, queued, by simp [active], ?_⟩
    rw [jobWork_active queued active present]
    omega
  cases move with
  | @picked run j fresh queued idle queue runs =>
    have going : j.state ≠ .failed := by
      rcases idle with waiting | delayed
      · simp [waiting]
      · simp [delayed]
    have left := (recovering_granted h id j queued).left going
    refine ⟨j, queued, going, ?_⟩
    rw [jobWork_idle queued idle]
    omega
  | advanced present mine alive still less claims queue runs =>
    exact active_ present mine alive (Nat.zero_lt_of_lt less)
  | completed present mine here queue runs =>
    exact active_ present mine (by rw [here]; rfl) (by rw [here]; exact Nat.one_pos)
  | threw present mine here queued active queue data attempts made outcome runs =>
    exact active_ present mine (by rw [here]; rfl) (by rw [here]; exact Nat.one_pos)
  | handled present mine here queue runs => exact absurd ⟨_, _, _, present, mine, here⟩ going

theorem handled_over (h : Recovering max ids s) {id : Nat} (move : DrainMove s t id)
    (failing : Failing s id) : ¬ Failing t id := by
  obtain ⟨c, r, reason, present, mine, here⟩ := failing
  obtain ⟨j, queued, failed⟩ := h.closing.failed c r reason present here
  rw [mine] at queued
  rcases inactive_move h.held move queued (by simp [failed]) with
    ⟨idle, -⟩ | ⟨c₀, r₀, reason₀, present₀, mine₀, here₀, -, runs⟩
  · simp [failed] at idle
  · rintro ⟨c', r', reason', after, mine', here'⟩
    rw [runs] at after
    rcases set_some after with ⟨-, rfl⟩ | ⟨apart, old⟩
    · simp at here'
    · have same : r'.paymentId = r₀.paymentId := mine'.trans mine₀.symm
      exact apart (h.closing.once c' r' reason' c₀ r₀ reason₀ old here' present₀ here₀ same)

/-- The handler of a job that uses up its attempts leaves one step, and every
    other step leaves less work. -/
theorem remaining_less (h : Recovering max ids s) {id : Nat} (move : DrainMove s t id)
    (closing : Closing t) : remaining t id < remaining s id := by
  by_cases failing : Failing s id
  · have closed := handled_over h move failing
    obtain ⟨c, r, reason, present, rfl, here⟩ := failing
    obtain ⟨j, queued, failed⟩ := h.closing.failed c r reason present here
    rw [remaining_closing queued failed ⟨c, r, reason, present, rfl, here⟩,
      remaining_over (failed_kept h.held move queued failed) failed closed]
    exact Nat.one_pos
  · obtain ⟨j, queued, going, busy⟩ := drain_busy h move failing
    rw [remaining_open queued going]
    by_cases failing' : Failing t id
    · obtain ⟨c, r, reason, present, rfl, here⟩ := failing'
      obtain ⟨j', queued', failed⟩ := closing.failed c r reason present here
      rw [remaining_closing queued' failed ⟨c, r, reason, present, rfl, here⟩]
      omega
    · have left : ∀ k, s.queue.job (jobIdFor id) = some k → k.state ≠ .failed →
          k.attemptsMade < k.attempts := fun k there => (recovering_granted h id k there).left
      have less := (drain_uses h.held left move failing failing').less
      have most := remaining_work failing'
      omega

noncomputable def remainder (ids : List Nat) (s : System) : Nat := (ids.map (remaining s)).sum

theorem remainder_step (h : Recovering max ids s) (drains : Draining max s a)
    (done : exec s a = some (e, t)) :
    remainder ids t < remainder ids s ∨ byWorker a = false ∧ remainder ids t = remainder ids s := by
  have after := recovering_step h drains done
  rcases recovering_move h drains (exec_move done) with ⟨id, move⟩ | ⟨idle, queue, runs⟩
  · have less := remaining_less h move after.closing
    apply Or.inl
    apply sum_lowers ?_ less (fun other ne => own_remaining h.held (drain_own move) ne)
    cases queued : s.queue.job (jobIdFor id) with
    | some j => exact h.listed id j queued
    | none =>
      simp [remaining, queued] at less
  · have same : remaining t = remaining s := by
      funext id
      have work_ : jobWork t id = jobWork s id :=
        jobWork_frame (by rw [queue]) (fun _ _ _ _ => by rw [runs])
      have failing : Failing t id = Failing s id := by
        rw [Failing, Failing, runs]
      unfold remaining
      rw [queue, work_, failing]
    exact Or.inr ⟨idle, by rw [remainder, remainder, same]⟩

structure Promised (s : System) (id : Nat) : Prop where
  exists_ : ∃ p, row s id = some p
  attended : ∀ p, row s id = some p → p.status = .pending → Attended s id

theorem queued_drained (h : Recovering max ids s) {busy id : Nat} (move : DrainMove s t busy)
    (queued : Runnable s id) : Attended t id := by
  obtain ⟨j, queued, idle⟩ := queued
  by_cases same : id = busy
  · subst same
    have free : ∀ holder, j.state ≠ .active holder := by
      rcases idle with waiting | delayed
      · simp [waiting]
      · simp [delayed]
    rcases inactive_move h.held move queued free with
      ⟨-, run, begun⟩ | ⟨run, r, reason, -, -, -, queue, -⟩
    · exact Attended.taken ⟨run, _, begun, rfl, rfl⟩
    · exact Attended.queued ⟨j, by rw [queue, queued], idle⟩
  · exact Attended.queued ⟨j, by rw [(drain_own move).jobs id same, queued], idle⟩

theorem taken_advanced (plain : Plain s) {run : Nat} {r : ProcessCall} {phase : ProcessPhase}
    (present : s.runs run = some r) (again : retries r.phase = true) (still : live phase = true)
    (less : phaseWork phase < phaseWork r.phase) : r.phase = .claiming := by
  cases here : r.phase with
  | claiming => rfl
  | threw err =>
    rw [here] at less
    cases phase <;> simp [phaseWork, live] at less still
  | charging claim answer =>
    cases answer with
    | ok result => simp [here, retries] at again
    | error err =>
      cases err with
      | gatewayError err => simp [here, retries] at again
      | error message code errno => exact absurd here (plain run r _ _ _ _ present)
  | _ => simp [here, retries] at again

theorem taken_drained (h : Recovering max ids s) {busy id : Nat} {p q : Payment}
    (move : DrainMove s t busy) (found : row s id = some p) (free : p.status = .pending)
    (found' : row t id = some q) (free' : q.status = .pending) (taken : Taken s id) :
    Attended t id := by
  obtain ⟨run, r, present, rfl, again⟩ := taken
  by_cases same : r.paymentId = busy
  · subst same
    have others : ∀ c r', t.runs = set s.runs c r' → run ≠ c → Attended t r.paymentId := by
      intro c r' runs ne
      exact Attended.taken ⟨run, r, by rw [runs, set_apply, if_neg ne, present], rfl, again⟩
    cases move with
    | picked fresh queued waits queue runs => exact others _ _ runs (fresh_apart present fresh)
    | @advanced c r₀ phase present' mine alive still less claims queue runs =>
      by_cases one : run = c
      · subst one
        obtain rfl := Option.some.inj (present.symm.trans present')
        -- the payment is PENDING, so this claim wins and it is no longer
        have claimed := claims (taken_advanced h.plain present again still less)
        obtain ⟨q', written, processing⟩ := claim_pending found free s.now
        rw [row, claimed, written] at found'
        obtain rfl := Option.some.inj found'
        simp [free'] at processing
      · exact others _ _ runs one
    | @completed c r₀ result present' mine here queue runs =>
      by_cases one : run = c
      · subst one
        obtain rfl := Option.some.inj (present.symm.trans present')
        simp [here, retries] at again
      · exact others _ _ runs one
    | @threw c r₀ err j j' phase present' mine here queued active queue data attempts made outcome
        runs =>
      have own : t.queue.job (jobIdFor r.paymentId) = some j' := by rw [queue, put_own queued data]
      cases outcome with
      | again delayed left => exact Attended.queued ⟨j', own, Or.inr delayed⟩
      | spent reason failed none_ =>
        have failing : t.runs c = some { r₀ with phase := .failing reason } := by
          rw [runs]
          exact if_pos rfl
        exact Attended.failing ⟨c, _, reason, failing, mine, rfl⟩
    | @handled c r₀ reason present' mine here queue runs =>
      by_cases one : run = c
      · subst one
        obtain rfl := Option.some.inj (present.symm.trans present')
        simp [here, retries] at again
      · exact others _ _ runs one
  · exact Attended.taken ⟨run, r, (own_run (drain_own move) same).mpr present, rfl, again⟩

theorem attended_drained (h : Recovering max ids s) (drains : Draining max s a)
    (move : SystemMove s a e t) {id : Nat} {p q : Payment} (found : row s id = some p)
    (free : p.status = .pending) (found' : row t id = some q) (free' : q.status = .pending)
    (attended : Attended s id) : Attended t id := by
  have moved := recovering_move h drains move
  rcases attended_rested h.rested attended with queued | taken | failing
  · rcases moved with ⟨busy, step⟩ | ⟨-, queue, -⟩
    · exact queued_drained h step queued
    · exact Attended.queued (by rwa [Runnable, queue])
  · rcases moved with ⟨busy, step⟩ | ⟨-, -, runs⟩
    · exact taken_drained h step found free found' free' taken
    · exact Attended.taken (by rwa [Taken, runs])
  · exact failing_kept (draining_handed drains).1.1 move found found' free' failing

theorem promised_step (h : Recovering max ids s) (drains : Draining max s a)
    (move : SystemMove s a e t) {id : Nat} (promised : Promised s id) : Promised t id := by
  obtain ⟨⟨p, found⟩, attended⟩ := promised
  constructor
  · obtain ⟨q, after, -⟩ := commit_keeps_row (move_commit move) found
    exact ⟨q, after⟩
  · intro q after free
    cases row_before (move_commit move) after with
    | kept old quiet =>
      exact attended_drained h drains move old free after free (attended q old free)
    | created call _ _ _ _ _ absent label made => simp [found] at absent
    | written old w => exact attended_written (draining_handed drains).1.1 move w free

theorem promised_settled (h : Recovering max ids s) (stuck : Exhausted max s) {id : Nat}
    (promised : Promised s id) : Settled s id := by
  obtain ⟨⟨p, found⟩, attended⟩ := promised
  obtain ⟨history, run⟩ := h.reached
  cases settled : isTerminal p.status with
  | true => exact ⟨p, found, settled⟩
  | false =>
    rcases AttemptAccounting.unsettled_cases settled with free | busy
    · obtain ⟨c, r, reason, present, -, here⟩ :=
        exhausted_attended h.held stuck run h.rested (attended p found free)
      have none_ := stuck (.worker c (.failedHandler none)) rfl rfl
      simp [exec, workerStep, present, here] at none_
    · exact absurd (h.owned id p found busy) (exhausted_unowned h.held stuck)

/-- PENDING, with no job that will run. -/
def Abandoned (s : System) (id : Nat) : Prop :=
  (∃ p, row s id = some p ∧ p.status = .pending) ∧ ¬ Runnable s id

/-- No worker has the payment or will be given it. -/
structure Unattended (s : System) (id : Nat) : Prop where
  jobs : ∀ j, s.queue.job (jobIdFor id) = some j → j.state = .failed
  closing : ¬ Failing s id

theorem unattended_step (h : Recovering max ids s) (drains : Draining max s a)
    (move : SystemMove s a e t) {id : Nat} (alone : Unattended s id) : Unattended t id := by
  rcases recovering_move h drains move with ⟨busy, step⟩ | ⟨-, queue, runs⟩
  · by_cases same : id = busy
    · subst same
      obtain ⟨j, queued, going, -⟩ := drain_busy h step alone.closing
      exact absurd (alone.jobs j queued) going
    · have own := drain_own step
      constructor
      · rw [own.jobs id same]
        exact alone.jobs
      · rw [own_failing own same]
        exact alone.closing
  · constructor
    · rw [queue]
      exact alone.jobs
    · rw [Failing, runs]
      exact alone.closing

theorem unattended_writes (h : Recovering max ids s) (drains : Draining max s a)
    (move : SystemMove s a e t) {id : Nat} (alone : Unattended s id) :
    e.writes id = false ∨
      ∃ callback status, e = .webhook callback (.applied status) ∧ callback.paymentId = id := by
  have ended : ∀ {run r}, s.runs run = some r → live r.phase = true → r.paymentId ≠ id := by
    rintro run r present alive rfl
    obtain ⟨j, -, queued, active⟩ := job_of h.held present alive
    simp [alone.jobs j queued] at active
  cases move with
  | tick ms => exact Or.inl rfl
  | pick run jobId fresh took => exact Or.inl rfl
  | webhook callback =>
    cases (handleWebhook s.db callback s.now).1 with
    | applied status =>
      by_cases mine : callback.paymentId = id
      · exact Or.inr ⟨callback, status, rfl, mine⟩
      · exact Or.inl (by simp [Event.writes, mine])
    | _ => exact Or.inl rfl
  | @worker run move r e db queue phase present spec =>
    apply Or.inl
    cases spec with
    | claim here =>
      have other := ended present (by rw [here]; rfl)
      cases (PaymentService.claim s.db r.paymentId s.now).1 <;> simp [Event.writes, other]
    | @settle claim answer here =>
      have other := ended present (by rw [here]; rfl)
      cases (PaymentService.settle s.db r.paymentId answer s.now).1 <;> simp [Event.writes, other]
    | @handled reason here =>
      have other : r.paymentId ≠ id :=
        fun mine => alone.closing ⟨run, r, reason, present, mine, here⟩
      cases (PaymentService.failPayment s.db r.paymentId reason s.now).1 <;>
        simp [Event.writes, other]
    | _ => rfl
  | _ => simp [Draining, draining] at drains

def CalledBack (id : Nat) (later : List (Action × Event)) : Prop :=
  ∃ action callback status, (action, .webhook callback (.applied status)) ∈ later ∧
    callback.paymentId = id

/-- The row is as the crash left it, or the provider has settled it. -/
theorem unattended_kept {u : System} {later : List (Action × Event)} (h : Recovering max ids u)
    (run : Run (Picks exec (Draining max)) u later t) {id : Nat} {p : Payment}
    (found : row u id = some p) (alone : Unattended u id) :
    row t id = some p ∨ CalledBack id later ∧ Settled t id := by
  have all : Recovering max ids t ∧ Unattended t id ∧
      (row t id = some p ∨ CalledBack id later ∧ Settled t id) := by
    apply run_invariant (fun later v => Recovering max ids v ∧ Unattended v id ∧
      (row v id = some p ∨ CalledBack id later ∧ Settled v id)) ?_ ?_ run
    · exact ⟨h, alone, Or.inl found⟩
    · rintro later v ⟨a, e⟩ w ⟨good, alone, state⟩ ⟨drains, done⟩
      have move := exec_move done
      refine ⟨recovering_step good drains done, unattended_step good drains move alone, ?_⟩
      rcases state with same | ⟨⟨action, callback, status, there, mine⟩, settled⟩
      · obtain ⟨q, after, ⟨rfl, -⟩ | wrote⟩ := commit_keeps_row (move_commit move) same
        · exact Or.inl after
        · have marked := write_label wrote
          rcases unattended_writes good drains move alone with
            quiet | ⟨callback, status, rfl, mine⟩
          · simp [quiet] at marked
          · cases wrote with
            | webhook _ now target legal =>
              have settled := WebhookService.reported_terminal callback.reported
              have called : CalledBack id
                  (later ++ [(a, .webhook callback (.applied callback.reported.status))]) :=
                ⟨a, callback, _, List.mem_append_right _ (List.mem_singleton.mpr rfl), mine⟩
              exact Or.inr ⟨called, _, after, settled⟩
      · exact Or.inr ⟨⟨action, callback, status, List.mem_append_left _ there, mine⟩,
          settled_step move settled⟩
  exact all.2.2

section
variable {sweep : Nat} {config : Config} {s t u : System} {e : Event} {history : List Event}
  (start : exec s (.reconcile sweep config) = some (e, t))
  (run : Run (Does exec (Under noFaults sweep)) t history u) (finished : Over sweep u)
include start run finished

theorem swept_apart {id : Nat} {p : Payment} (found : row s id = some p)
    (free : p.status ≠ .processing) :
    row u id = some p ∧ u.queue.job (jobIdFor id) = s.queue.job (jobIdFor id) := by
  have swept := sweep_swept start run finished
  have others : ∀ q, Stale config s q → id ≠ q.id := by
    rintro q stale rfl
    obtain rfl := Option.some.inj (found.symm.trans stale.found)
    exact free stale.busy
  constructor
  · rw [swept_elsewhere swept others, found]
  · apply swept_other_job swept
    intro q released same
    exact others q released.1 (jobIdFor_injective same)

theorem crash_promised (down : Down s) (stale : ∀ id p, row s id = some p →
    p.status = .processing → Stale config s p) {id : Nat} {p : Payment}
    (found : row s id = some p) (kept : ¬ Abandoned s id) : Promised u id := by
  have swept := sweep_swept start run finished
  by_cases busy : p.status = .processing
  · have old := stale id p found busy
    obtain rfl := payment_id s.db found
    have written := swept_row swept old
    refine ⟨⟨_, written⟩, ?_⟩
    intro q after free
    obtain rfl := Option.some.inj (written.symm.trans after)
    rw [recovered_status] at free
    split at free
    · rename_i left
      have job := swept_released swept ⟨old, left⟩
      rw [cleared_inactive (fun j holder there => (down.free _ j there).2 holder)] at job
      exact Attended.queued ⟨_, job, Or.inl rfl⟩
    · simp at free
  · obtain ⟨same, job⟩ := swept_apart start run finished found busy
    refine ⟨⟨p, same⟩, ?_⟩
    intro q after free
    obtain rfl := Option.some.inj (same.symm.trans after)
    have runnable : Runnable s id := not_not.mp fun idle => kept ⟨⟨p, found, free⟩, idle⟩
    exact Attended.queued (by rwa [Runnable, job])

theorem crash_unattended (down : Down s) {id : Nat} {p : Payment} (found : row s id = some p)
    (left : Abandoned s id) : row u id = some p ∧ Unattended u id := by
  obtain ⟨⟨q, found', free⟩, idle⟩ := left
  obtain rfl := Option.some.inj (found.symm.trans found')
  obtain ⟨same, job⟩ := swept_apart start run finished found (by simp [free])
  refine ⟨same, ?_, ?_⟩
  · rw [job]
    intro j queued
    cases state : j.state with
    | waiting => exact absurd ⟨j, queued, Or.inl state⟩ idle
    | delayed => exact absurd ⟨j, queued, Or.inr state⟩ idle
    | active holder => exact absurd state ((down.free _ j queued).2 holder)
    | unlocked => exact absurd state (down.free _ j queued).1
    | failed => rfl
  · rintro ⟨c, r, reason, present, -, here⟩
    rcases (swept_down start run finished down).quiet.runs c r present with eq | eq <;>
      simp [eq] at here

end

/-- What becomes of a crash in `s` once the sweep has left `u`. -/
structure Recovered (max : Nat) (s u : System) : Prop where
  bounded : ∀ later t, Run (Picks exec (Draining max)) u later t →
    later.countP (fun l => byWorker l.1) ≤ s.db.payments.all.length * (6 * max + 1)
  finishes : ∀ later t, Run (Picks exec (Draining max)) u later t →
    ∃ more v, Run (Picks exec (Draining max)) t more v ∧ Exhausted max v
  settled : ∀ later t, Run (Picks exec (Draining max)) u later t → Exhausted max t →
    ∀ id p, row s id = some p → ¬ Abandoned s id → Settled t id
  left : ∀ later t, Run (Picks exec (Draining max)) u later t →
    ∀ id p, row s id = some p → Abandoned s id →
      row t id = some p ∨ CalledBack id later ∧ Settled t id

theorem recovering_kept {u : System} {later : List (Action × Event)} (h : Recovering max ids u)
    (run : Run (Picks exec (Draining max)) u later t) : Recovering max ids t :=
  run_preserves (Recovering max ids) (fun _ _ _ good step => recovering_step good step.1 step.2)
    run h

theorem recovering_lowers (v : System) (l : Action × Event) (w : System)
    (good : Recovering max ids v) (step : Picks exec (Draining max) v l w)
    (working : byWorker l.1 = true) : remainder ids w < remainder ids v := by
  rcases remainder_step good step.1 step.2 with less | ⟨idle, -⟩
  · exact less
  · simp [idle] at working

theorem recovering_bounded {u : System} {later : List (Action × Event)}
    (h : Recovering max ids u) (run : Run (Picks exec (Draining max)) u later t) :
    later.countP (fun l => byWorker l.1) + remainder ids t ≤ remainder ids u := by
  apply run_ranked (Recovering max ids) (remainder ids) (fun l => byWorker l.1) ?_ ?_
    recovering_lowers run h
  · intro v l w good step
    exact recovering_step good step.1 step.2
  · intro v l w good step
    rcases remainder_step good step.1 step.2 with less | ⟨-, same⟩
    · exact Nat.le_of_lt less
    · exact Nat.le_of_eq same

theorem recovering_finishes (h : Recovering max ids s) :
    ∃ more v, Run (Picks exec (Draining max)) s more v ∧ Exhausted max v := by
  have spent : ∃ more v, Run (Picks exec (Draining max)) s more v ∧
      ∀ l w, Picks exec (Draining max) v l w → byWorker l.1 = false := by
    apply run_exhausts (Recovering max ids) (remainder ids)
      (fun l : Action × Event => byWorker l.1) ?_ recovering_lowers h
    intro v l w good step
    exact recovering_step good step.1 step.2
  obtain ⟨more, v, run, last⟩ := spent
  refine ⟨more, v, run, ?_⟩
  intro a drains working
  cases done : exec v a with
  | none => rfl
  | some result =>
    have idle : byWorker a = false := last (a, result.1) result.2 ⟨drains, done⟩
    simp [working] at idle

theorem promised_kept {u : System} {later : List (Action × Event)} (h : Recovering max ids u)
    (run : Run (Picks exec (Draining max)) u later t) {id : Nat} (promised : Promised u id) :
    Promised t id := by
  have both : Recovering max ids t ∧ Promised t id := by
    apply run_preserves (fun v => Recovering max ids v ∧ Promised v id) ?_ run ⟨h, promised⟩
    rintro v l w ⟨good, there⟩ ⟨drains, done⟩
    exact ⟨recovering_step good drains done, promised_step good drains (exec_move done) there⟩
  exact both.2

/-- After any run, however it failed, once the processes are gone and every
    PROCESSING row is stale, one sweep lets the workers settle all payments but
    the abandoned ones, in a bounded number of steps. -/
theorem crash_recovered {history swept : List Event} {s t u : System} {sweep : Nat}
    {config : Config} {e : Event} (positive : 1 ≤ max)
    (run : Run (Does exec (Serving max)) System.init history s) (down : Down s)
    (stale : ∀ id p, row s id = some p → p.status = .processing → Stale config s p)
    (setting : Setting max config) (start : exec s (.reconcile sweep config) = some (e, t))
    (sweeps : Run (Does exec (Under noFaults sweep)) t swept u) (finished : Over sweep u) :
    Recovered max s u := by
  have begun : Run (Does exec (Serving max)) s [e] t :=
    run_single ⟨.reconcile sweep config, ⟨trivial, decide_eq_true setting⟩, start⟩
  have served : Run (Does exec (Serving max)) t swept u :=
    run_mono (does_mono fun _ _ => under_serving) sweeps
  have reached := run_append run (run_append begun served)
  have h : Recovering max (s.db.payments.all.map Record.id) u := by
    apply down_recovering reached (swept_down start sweeps finished down)
    · intro id q found
      exact swept_unclaimed start sweeps finished stale found
    · intro id q found
      obtain ⟨p, before⟩ := swept_rows start sweeps finished found
      have named := s.db.payments.keyed id p before
      refine List.mem_map.mpr ⟨p, ?_, named⟩
      rw [mem_all, named]
      exact before
  constructor
  · intro later v more
    have steps := recovering_bounded h more
    have total := sum_bounded (s.db.payments.all.map Record.id) (remaining_le h positive)
    rw [List.length_map] at total
    exact Nat.le_trans (Nat.le_of_add_right_le steps) total
  · intro later v more
    exact recovering_finishes (recovering_kept h more)
  · intro later v more stuck id p found kept
    have promised := crash_promised start sweeps finished down stale found kept
    exact promised_settled (recovering_kept h more) stuck (promised_kept h more promised)
  · intro later v more id p found left
    obtain ⟨same, alone⟩ := crash_unattended start sweeps finished down found left
    exact unattended_kept h more same alone

def crashedRun : List Action := InterruptedSweeps.stalledRun ++ [.stall "payment-1"]

def crashed : System := (replay exec (Serving 3) System.init crashedRun).2

def sweeping : System :=
  { crashed with
    sweeps := set crashed.sweeps 0 (startSweep crashed.db crashed.now InterruptedSweeps.config) }

def swept : System := (replay exec (Under noFaults 0) sweeping sweepsOnce).2

theorem crashed_run : ∃ history, Run (Does exec (Serving 3)) System.init history crashed :=
  ⟨_, replay_run exec (Serving 3) System.init crashedRun⟩

theorem crashed_row {id : Nat} {p : Payment} (found : row crashed id = some p) :
    id = 1 ∧ p = InterruptedSweeps.stalledPayment := by
  have all : crashed.db.payments.all = [InterruptedSweeps.stalledPayment] := by decide
  have named := payment_id crashed.db found
  have listed : p ∈ crashed.db.payments.all := by
    rw [mem_all]
    change crashed.db.payments.find p.id = some p
    rw [named]
    exact found
  obtain rfl : p = InterruptedSweeps.stalledPayment := by simpa [all] using listed
  exact ⟨named.symm, rfl⟩

theorem crashed_stale {id : Nat} {p : Payment} (found : row crashed id = some p) :
    Stale InterruptedSweeps.config crashed p := by
  obtain ⟨-, rfl⟩ := crashed_row found
  exact ⟨by decide, rfl, 0, rfl, by decide⟩

theorem crashed_down : Down crashed := by
  have first : crashedRun.all onlyFirst = true := by decide
  have untouched := fun k => @replay_others (Serving 3) _ crashedRun first k
  refine ⟨⟨?_, ?_, ?_⟩, ?_⟩
  · intro call c present
    by_cases one : call = 0
    · subst one
      have ended : (crashed.calls 0).all (fun c => c.phase.over) = true := by decide
      simpa [present] using ended
    · simp_all [crashed]
  · intro run r present
    by_cases one : run = 0
    · subst one
      have ended : (crashed.runs 0).all (fun r => r.phase == .crashed) = true := by decide
      exact Or.inr (by simpa [present] using ended)
    · simp_all [crashed]
  · intro sweep w present
    by_cases one : sweep = 0
    · subst one
      have none_ : (crashed.sweeps 0).isSome = false := by decide
      simp [present] at none_
    · simp_all [crashed]
  · intro key j queued
    obtain ⟨history, run⟩ := crashed_run
    obtain rfl := crashed.queue.filed key j queued
    obtain ⟨p, found⟩ := job_payment_row run queued
    rw [(crashed_row found).1] at queued
    have waits : (crashed.queue.job (jobIdFor 1)).map Job.state = some .waiting := by decide
    have idle : j.state = .waiting := by simpa [queued] using waits
    simp [idle]

theorem crashed_payment_settles : Recovered 3 crashed swept ∧
    row crashed 1 = some InterruptedSweeps.stalledPayment ∧ ¬ Abandoned crashed 1 := by
  obtain ⟨history, run⟩ := crashed_run
  have started : exec crashed (.reconcile 0 InterruptedSweeps.config) = some (.other, sweeping) :=
    rfl
  have done := replay_run exec (Under noFaults 0) sweeping sweepsOnce
  have finished : Over 0 swept := ⟨_, rfl, rfl⟩
  refine ⟨?_, by decide, ?_⟩
  · exact crash_recovered (by decide) run crashed_down (fun id p found _ => crashed_stale found)
      (by decide) started done finished
  · rintro ⟨⟨p, found, free⟩, -⟩
    obtain ⟨-, rfl⟩ := crashed_row found
    simp [InterruptedSweeps.stalledPayment] at free

end CrashRecovery
