import PaymentProcessing.ClaimExclusion
import PaymentProcessing.ColumnCoherence

/-!
A charge that succeeded and a settle that was rolled back. The row stays
PROCESSING, and nothing remembers the charge: rescheduled runs of the job find
nothing to claim, and a handler that throws on the last attempt of its job makes
the failure listener take the payment for a stuck one.
-/
namespace RolledBackSettles
open KeyedTable JobStore TransitionRuns PaymentStateMachine PaymentRepositories PaymentService
open PaymentTransactions PaymentSystem SystemSteps AttemptAccounting CallTraces ClaimExclusion

/-- Payments are created and processed, with any failed calls, crashes and
    stalls, but no sweep, no callback and no other recovery touches them. -/
def workerDriven : Action → Bool
  | .reconcile _ _ | .sweep _ _ | .recover _ | .failPayment _ _ | .webhook _ => false
  | _ => true

def WorkerDriven (_ : System) (a : Action) : Prop := workerDriven a = true

instance (s : System) (a : Action) : Decidable (WorkerDriven s a) :=
  inferInstanceAs (Decidable (workerDriven a = true))

theorem driven_absurd {s : System} {a : Action} {P : Prop} (driven : WorkerDriven s a)
    (other : workerDriven a = false) : P := by
  rw [WorkerDriven, other] at driven
  simp at driven

theorem driven_write {s t : System} {a : Action} {e : Event} (driven : WorkerDriven s a)
    (move : SystemMove s a e t) : (∀ pid result, e ≠ .recover pid result) ∧
      ∀ callback result, e ≠ .webhook callback result := by
  cases move with
  | api call move present spec => cases spec <;> simp
  | worker run move present spec => cases spec <;> simp
  | sweep sweep move present spec => exact driven_absurd driven rfl
  | recover paymentId => exact driven_absurd driven rfl
  | webhook callback => exact driven_absurd driven rfl
  | failPayment paymentId reason => exact driven_absurd driven rfl
  | _ => simp

theorem run_unreleased {history : List Event} {s : System}
    (run : Run (Does exec WorkerDriven) System.init history s) (id : Nat) :
    Unreleased id history := by
  intro status
  apply run_invariant (fun h _ => .recover id (.released status) ∉ h) ?_ ?_ run
  · simp
  · intro h u e t absent step
    obtain ⟨a, driven, done⟩ := step
    have other := (driven_write driven (exec_move done)).1 id (.released status)
    simp [absent, Ne.symm other]

def FinalThrow (id : Nat) (s : System) (e : Event) (t : System) : Prop :=
  ∃ run r err jobId j config, s.runs run = some r ∧ r.paymentId = id ∧ r.phase = .threw err ∧
    r.job = some jobId ∧ s.queue.job jobId = some j ∧ j.state = .active run ∧
    jobBudget config j ≤ j.attemptsMade + 1 ∧
    exec s (.worker run (.finish config)) = some (e, t)

def FinallyThrown (id : Nat) (history : List Event) (s : System) : Prop :=
  ∃ before e after m n, history = before ++ e :: after ∧
    Run (Does exec WorkerDriven) System.init before m ∧ FinalThrow id m e n ∧
    Run (Does exec WorkerDriven) n after s

theorem finallyThrown_later {id : Nat} {history : List Event} {s t : System} {e : Event}
    (h : FinallyThrown id history s) (step : Does exec WorkerDriven s e t) :
    FinallyThrown id (history ++ [e]) t := by
  obtain ⟨before, l, after, m, n, rfl, first, thrown, later⟩ := h
  exact ⟨before, l, after ++ [e], m, n, by simp, first, thrown, Run.snoc later step⟩

theorem failing_thrown {s t : System} {e : Event} {run : Nat} {config : Config} {err : JsError}
    {jobId reason : String} {r : ProcessCall} (present : s.runs run = some r)
    (threw : r.phase = .threw err) (job : r.job = some jobId)
    (done : exec s (.worker run (.finish config)) = some (e, t))
    (failing : (failJob s.queue config jobId run err).2 = .failing reason) :
    FinalThrow r.paymentId s e t := by
  rcases failJob_spec s.queue config jobId run err with
    ⟨-, same⟩ | ⟨j', queue', failed, ⟨spent, -⟩ | ⟨-, same⟩⟩
  · simp [same] at failing
  · obtain ⟨j, queued, active, -, -, budget, counted, -⟩ := fail_some failed
    have same : jobBudget config j = jobBudget config j' := by simp [jobBudget, budget]
    exact ⟨run, r, err, jobId, j, config, present, rfl, threw, job, queued, active,
      by omega, done⟩
  · simp [same] at failing

theorem failing_step {history : List Event} {s t : System} {a : Action} {e : Event}
    (run : Run (Does exec WorkerDriven) System.init history s)
    (h : ∀ c r reason, s.runs c = some r → r.phase = .failing reason →
      FinallyThrown r.paymentId history s)
    (driven : WorkerDriven s a) (done : exec s a = some (e, t)) {c : Nat} {r' : ProcessCall}
    {reason : String} (present' : t.runs c = some r') (failing : r'.phase = .failing reason) :
    FinallyThrown r'.paymentId (history ++ [e]) t := by
  have step : Does exec WorkerDriven s e t := ⟨a, driven, done⟩
  rcases run_before (exec_move done) present' with
    ⟨-, claiming⟩ | present | ⟨r, move, db, queue, phase, present, rfl, -, -, rfl, spec⟩
  · simp [claiming] at failing
  · exact finallyThrown_later (h c r' reason present failing) step
  · have last : phase = .failing reason := failing
    cases spec with
    | claim here =>
      cases won : (PaymentService.claim s.db r.paymentId s.now).1 <;> simp [won, afterClaim] at last
    | @reply claim answer here =>
      cases answer with
      | ok result => simp [afterReply] at last
      | error err => cases err <;> simp [afterReply] at last
    | @settle claim answer here =>
      cases result : (PaymentService.settle s.db r.paymentId answer s.now).1 <;>
        simp [result, afterSettle] at last
    | failed config here job =>
      have thrown := failing_thrown present here job done last
      exact ⟨history, .other, [], s, t, rfl, run, thrown, Run.nil⟩
    | _ => simp at last

theorem run_failing {history : List Event} {s : System}
    (run : Run (Does exec WorkerDriven) System.init history s) :
    ∀ c r reason, s.runs c = some r → r.phase = .failing reason →
      FinallyThrown r.paymentId history s := by
  apply run_induction (fun h u => ∀ c r reason, u.runs c = some r → r.phase = .failing reason →
    FinallyThrown r.paymentId h u) ?_ ?_ run
  · intro c r reason present
    simp [System.init] at present
  · intro h u e t before inv step c r reason present failing
    obtain ⟨a, driven, done⟩ := step
    exact failing_step before inv driven done present failing

/-- The row stays as the rolled-back settle found it, and no call is past a
    claim of it any more. -/
structure Abandoned (id : Nat) (p : Payment) (s : System) : Prop where
  row : row s id = some p
  idle : ∀ c r, s.runs c = some r → r.paymentId = id → r.phase.claimOf = none

structure Defended (id : Nat) (history later : List Event) (s : System) : Prop where
  failed : ∃ q, row s id = some q ∧ q.status = .failed
  handled : ∃ reason, .fail id reason (.failed .failed) ∈ later
  thrown : FinallyThrown id history s

theorem claim_held {s t : System} {e : Event} {id : Nat} {p : Payment} (move : RunsMove s t e)
    (found : row s id = some p) (held : p.status ≠ .pending) : wonClaim id e = false := by
  by_contra won
  obtain ⟨q, found', free, -⟩ := ColumnCoherence.claim_step move (by simpa using won)
  obtain rfl := Option.some.inj (found.symm.trans found')
  exact held free

theorem abandoned_idle {id : Nat} {p : Payment} {s t : System} {e : Event} (h : Abandoned id p s)
    (held : p.status ≠ .pending) (move : RunsMove s t e) :
    ∀ c r, t.runs c = some r → r.paymentId = id → r.phase.claimOf = none := by
  have unclaimed := claim_held move h.row held
  intro c r' present' mine
  cases move with
  | frame same outside =>
    rw [same] at present'
    exact h.idle c r' present' mine
  | start run r fresh begun claiming label =>
    rw [begun] at present'
    rcases set_some present' with ⟨-, rfl⟩ | ⟨-, old⟩
    · rw [claiming]
      rfl
    · exact h.idle c r' old mine
  | work run r move phase db queue present moved committed spec =>
    rw [moved] at present'
    rcases set_some present' with ⟨rfl, rfl⟩ | ⟨-, old⟩
    · have before := h.idle c r present mine
      have target : r.paymentId = id := mine
      have life := worker_life spec
      generalize r.phase = old at life before
      cases life with
      | won claim => simp [wonClaim, target] at unclaimed
      | charging claim a answer => simp [ProcessPhase.claimOf] at before
      | answered claim reply answer => simp [ProcessPhase.claimOf] at before
      | settled claim answer result => exact (afterSettle_over result).1
      | idle outside done noReturn ended => exact done
      | _ => rfl
    · exact h.idle c r' old mine

theorem abandoned_unsettled {id : Nat} {p : Payment} {s t : System} {c : Nat}
    {result : SettleResult} (h : Abandoned id p s) (move : RunsMove s t (.settle c id result)) :
    False := by
  obtain ⟨r, claim, answer, present, target, settling, -⟩ := settle_step move
  have idle := h.idle c r present target
  simp [settling, ProcessPhase.claimOf] at idle

theorem handled_thrown {history : List Event} {id : Nat} {s t : System} {reason : String}
    {result : FailResult} (run : Run (Does exec WorkerDriven) System.init history s)
    (step : Does exec WorkerDriven s (.fail id reason result) t) :
    FinallyThrown id history s := by
  obtain ⟨a, driven, done⟩ := step
  have move := exec_move done
  generalize label : Event.fail id reason result = e at move
  cases move with
  | api call move present spec => cases spec <;> simp at label
  | @worker c move r e db queue phase present spec =>
    cases spec with
    | @handled reason' here =>
      obtain ⟨rfl, -⟩ : id = r.paymentId ∧ _ := by simpa using label
      exact run_failing run c r reason' present here
    | _ => simp at label
  | sweep sweep move present spec => exact driven_absurd driven rfl
  | failPayment paymentId reason => exact driven_absurd driven rfl
  | _ => simp at label

theorem abandoned_step {history later : List Event} {id : Nat} {p : Payment} {s t : System}
    {e : Event} (run : Run (Does exec WorkerDriven) System.init history s)
    (h : Abandoned id p s) (held : p.status = .processing) (step : Does exec WorkerDriven s e t) :
    Abandoned id p t ∨ Defended id (history ++ [e]) (later ++ [e]) t := by
  have moves := does_runs step
  obtain ⟨q, after, ⟨rfl, -⟩ | w⟩ := commit_keeps_row (does_commit step) h.row
  · exact Or.inl ⟨after, abandoned_idle h (by simp [held]) moves⟩
  · have others : (∀ pid result, e ≠ .recover pid result) ∧
        ∀ callback result, e ≠ .webhook callback result := by
      obtain ⟨a, driven, done⟩ := step
      exact driven_write driven (exec_move done)
    cases w with
    | claim c now free => simp [held] at free
    | settleSuccess c now result _ => exact absurd moves (abandoned_unsettled h)
    | settleRetry c now err _ _ _ => exact absurd moves (abandoned_unsettled h)
    | settleFailed c now err _ _ => exact absurd moves (abandoned_unsettled h)
    | recoverFailed now _ _ => exact absurd rfl (others.1 id _)
    | recoverReleased now _ _ => exact absurd rfl (others.1 id _)
    | fail reason now legal =>
      have thrown := finallyThrown_later (handled_thrown run step) step
      exact Or.inr ⟨⟨_, after, rfl⟩, ⟨reason, by simp⟩, thrown⟩
    | webhook callback now target legal => exact absurd rfl (others.2 callback _)

theorem defended_step {history later : List Event} {id : Nat} {s t : System} {e : Event}
    (h : Defended id history later s) (step : Does exec WorkerDriven s e t) :
    Defended id (history ++ [e]) (later ++ [e]) t := by
  obtain ⟨⟨q, found, failed⟩, ⟨reason, handled⟩, thrown⟩ := h
  have terminal : isTerminal q.status = true := by
    rw [failed]
    rfl
  exact ⟨⟨q, PaymentLifecycle.commit_keeps_settled (does_commit step) found terminal, failed⟩,
    ⟨reason, List.mem_append_left _ handled⟩, finallyThrown_later thrown step⟩

theorem abandoned_run {history later : List Event} {id : Nat} {p : Payment} {t u : System}
    (run : Run (Does exec WorkerDriven) System.init history t) (h : Abandoned id p t)
    (held : p.status = .processing) (continuation : Run (Does exec WorkerDriven) t later u) :
    Abandoned id p u ∨ Defended id (history ++ later) later u := by
  induction continuation with
  | nil => exact Or.inl h
  | @snoc later mid stop e before last ih =>
    have reached := run_append run before
    rw [← List.append_assoc]
    rcases ih with abandoned | defended
    · exact abandoned_step reached abandoned held last
    · exact Or.inr (defended_step defended last)

theorem rolled_back_idle {history : List Event} {s : System}
    (run : Run (Does exec WorkerDriven) System.init history s) {c : Nat} {r : ProcessCall}
    (present : s.runs c = some r) (flying : r.phase.claimOf ≠ none) :
    (∃ p, row s r.paymentId = some p ∧ p.status ≠ .pending) ∧
      ∀ d r', s.runs d = some r' → r'.paymentId = r.paymentId → r'.phase.claimOf ≠ none → d = c := by
  have traced := run_traced run
  have episodes := run_episodes run r.paymentId (run_unreleased run r.paymentId)
  have between : ∀ d r', s.runs d = some r' → r'.paymentId = r.paymentId →
      r'.phase.claimOf ≠ none → Between r.paymentId history d := by
    intro d r' present' same flying'
    have steps := traced_call traced present'
    rw [same] at steps
    obtain ⟨claimed, unsettled⟩ := in_flight_history steps flying'
    exact ⟨claimed, unsettled r.paymentId⟩
  obtain ⟨claim, last, found⟩ := between_last episodes (between c r present rfl flying)
  refine ⟨found, ?_⟩
  intro d r' present' same flying'
  obtain ⟨claim', last', -⟩ := between_last episodes (between d r' present' same flying')
  rw [last] at last'
  have labels := Option.some.inj last'
  simp only [Event.claim.injEq] at labels
  exact labels.1.symm

/-- The transaction that settles a successful charge throws and is rolled back. -/
structure RolledBack (s : System) (c : Nat) (r : ProcessCall) (result : ChargeResult)
    (t : System) : Prop where
  present : s.runs c = some r
  settling : ∃ claim, r.phase = .settling claim (.ok result)
  threw : ∃ err, exec s (.worker c (.settle (some err))) = some (.other, t)

theorem rolled_back_frame {s t : System} {c : Nat} {r : ProcessCall} {result : ChargeResult}
    (h : RolledBack s c r result t) :
    t.db = s.db ∧ ∃ err, t.runs = set s.runs c { r with phase := .threw err } := by
  obtain ⟨err, done⟩ := h.threw
  have move := exec_move done
  generalize label : Event.other = e at move
  cases move with
  | worker _ _ there spec =>
    obtain rfl := Option.some.inj (h.present.symm.trans there)
    cases spec with
    | settleThrew _ here => exact ⟨rfl, err, rfl⟩

theorem rolled_back_abandoned {history : List Event} {s t : System} {c : Nat} {r : ProcessCall}
    {result : ChargeResult} (run : Run (Does exec WorkerDriven) System.init history s)
    (h : RolledBack s c r result t) :
    ∃ p, row s r.paymentId = some p ∧ p.status ≠ .pending ∧ Abandoned r.paymentId p t := by
  obtain ⟨claim, settling⟩ := h.settling
  obtain ⟨⟨p, found, taken⟩, alone⟩ :=
    rolled_back_idle run h.present (by simp [settling, ProcessPhase.claimOf])
  obtain ⟨committed, err, moved⟩ := rolled_back_frame h
  refine ⟨p, found, taken, by rw [row, committed]; exact found, ?_⟩
  intro d r' present' same
  rw [moved] at present'
  rcases set_some present' with ⟨-, rfl⟩ | ⟨apart, old⟩
  · rfl
  · by_contra flying
    exact apart (alone d r' old same flying)

/-- The law without the defence against stuck payments. -/
def CapturedNeverFailed : Prop :=
  ∀ history s c r result t later u, Run (Does exec WorkerDriven) System.init history s →
    RolledBack s c r result t → Run (Does exec WorkerDriven) t later u →
    ∀ p q, row t r.paymentId = some p → p.status ≠ .failed → row u r.paymentId = some q →
      q.status ≠ .failed

def databaseGone : JsError := .error "Connection lost" none none

def chargedJob (maxAttempts : Nat) : List Action :=
  [.initiate 0 ⟨maxAttempts, 60000, 3000⟩ ⟨"order-123", 4200, "INR"⟩, .api 0 .insert, .api 0 .read,
    .api 0 (.enqueue none), .pick 0 "payment-1", .worker 0 (.claim none),
    .worker 0 (.charge 3000 (attempt 3000 .success 0 "gw_a")), .worker 0 .reply]

def settling (maxAttempts : Nat) : System :=
  (replay exec WorkerDriven System.init (chargedJob maxAttempts)).2

def rolledBack (maxAttempts : Nat) : System :=
  (replay exec WorkerDriven (settling maxAttempts) [.worker 0 (.settle (some databaseGone))]).2

/-- The only attempt of the job is the one whose settle is rolled back. -/
theorem captured_payment_failed : ¬ CapturedNeverFailed := by
  intro law
  have rolled : RolledBack (settling 1) 0
      ⟨1, some "payment-1", .settling ⟨1, 1, 4200, "INR"⟩ (.ok ⟨true, "gw_a", .success⟩)⟩
      ⟨true, "gw_a", .success⟩ (rolledBack 1) :=
    ⟨by decide, ⟨_, rfl⟩, databaseGone, rfl⟩
  have before : (row (rolledBack 1) 1).map Payment.status = some .processing := by decide
  have after : (row (replay exec WorkerDriven (rolledBack 1)
      [.worker 0 (.finish ⟨1, 60000, 3000⟩), .worker 0 (.failedHandler none)]).2 1).map
      Payment.status = some .failed := by decide
  obtain ⟨p, found, held⟩ := Option.map_eq_some_iff.mp before
  obtain ⟨q, found', failed⟩ := Option.map_eq_some_iff.mp after
  exact law _ _ 0 _ _ _ _ _ (replay_run exec WorkerDriven System.init (chargedJob 1)) rolled
    (replay_run exec WorkerDriven (rolledBack 1) _) p q found (by simp [held]) found' failed

structure AfterRollback (id : Nat) (history later : List Event) (s t u : System) : Prop where
  rolledBack : row t id = row s id
  outcome : row u id = row t id ∨ Defended id history later u
  defence : ∀ d r reason e v, u.runs d = some r → r.paymentId = id → r.phase = .failing reason →
    exec u (.worker d (.failedHandler none)) = some (e, v) →
    ∀ p, row u id = some p → p.status = .processing →
      ∃ q, row v id = some q ∧ q.status = .failed

theorem listener_fails {u v : System} {d id : Nat} {r : ProcessCall} {e : Event} {p : Payment}
    (present : u.runs d = some r) (mine : r.paymentId = id)
    (done : exec u (.worker d (.failedHandler none)) = some (e, v)) (found : row u id = some p)
    (held : p.status = .processing) : ∃ q, row v id = some q ∧ q.status = .failed := by
  have move := exec_move done
  cases move with
  | worker _ _ there spec =>
    obtain rfl := Option.some.inj (present.symm.trans there)
    subst mine
    cases spec with
    | @handled reason' here =>
      have stored : u.db.payments.find r.paymentId = some p := found
      have legal : canTransition p.status .failed = true := by
        rw [held]
        decide
      refine ⟨writeStatus .failed { lastError := some (some reason') } u.now p, ?_, rfl⟩
      simp [row, PaymentService.failPayment, findById, stored, legal]

/-- After the rollback no step of the worker changes the payment, until a job of
    it has thrown on its last permitted attempt and the listener fails it. -/
theorem failed_only_after_final_throw {history later : List Event} {s t u : System} {c : Nat}
    {r : ProcessCall} {result : ChargeResult}
    (run : Run (Does exec WorkerDriven) System.init history s) (h : RolledBack s c r result t)
    (continuation : Run (Does exec WorkerDriven) t later u) :
    AfterRollback r.paymentId (history ++ .other :: later) later s t u := by
  obtain ⟨p, found, taken, abandoned⟩ := rolled_back_abandoned run h
  obtain ⟨err, threw⟩ := h.threw
  have allowed : WorkerDriven s (.worker c (.settle (some err))) := rfl
  have reached : Run (Does exec WorkerDriven) System.init (history ++ [.other]) t :=
    Run.snoc run ⟨_, allowed, threw⟩
  refine ⟨abandoned.row.trans found.symm, ?_, ?_⟩
  · rw [abandoned.row]
    cases settled : isTerminal p.status with
    | true => exact Or.inl (PaymentLifecycle.run_keeps_settled continuation abandoned.row settled)
    | false =>
      have held : p.status = .processing := by
        rcases unsettled_cases settled with free | held
        · exact absurd free taken
        · exact held
      rcases abandoned_run reached abandoned held continuation with still | defended
      · exact Or.inl still.row
      · rw [List.append_assoc] at defended
        exact Or.inr defended
  · intro d r' reason e v present mine _ done q found' held
    exact listener_fails present mine done found' held

/-- With attempts left the next run of the job finds nothing to claim. -/
def rescheduledJob : List Action :=
  [.worker 0 (.finish ⟨3, 60000, 3000⟩), .pick 1 "payment-1", .worker 1 (.claim none),
    .worker 1 (.finish ⟨3, 60000, 3000⟩)]

theorem rescheduled_job_leaves_payment :
    (row (replay exec WorkerDriven (rolledBack 3) rescheduledJob).2 1).map Payment.status =
        some .processing ∧
      AfterRollback 1
        ((replay exec WorkerDriven System.init (chargedJob 3)).1 ++
          .other :: (replay exec WorkerDriven (rolledBack 3) rescheduledJob).1)
        (replay exec WorkerDriven (rolledBack 3) rescheduledJob).1 (settling 3) (rolledBack 3)
        (replay exec WorkerDriven (rolledBack 3) rescheduledJob).2 := by
  have rolled : RolledBack (settling 3) 0
      ⟨1, some "payment-1", .settling ⟨1, 3, 4200, "INR"⟩ (.ok ⟨true, "gw_a", .success⟩)⟩
      ⟨true, "gw_a", .success⟩ (rolledBack 3) :=
    ⟨by decide, ⟨_, rfl⟩, databaseGone, rfl⟩
  exact ⟨by decide, failed_only_after_final_throw
    (replay_run exec WorkerDriven System.init (chargedJob 3)) rolled
    (replay_run exec WorkerDriven (rolledBack 3) rescheduledJob)⟩

end RolledBackSettles
