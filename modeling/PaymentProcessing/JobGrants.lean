import PaymentProcessing.JobHolding

/-!
What every job has in any run, whatever fails, stalls or dies: it is for a
payment in the table, it was granted attempts, and it has some left until it
fails.
-/
namespace JobGrants
open KeyedTable JobStore TransitionRuns PaymentStateMachine PaymentRepositories PaymentService
open PaymentTransactions PaymentSystem SystemSteps IdempotentCreation QueuedPayments JobHolding

def Setting (max : Nat) (config : Config) : Prop :=
  0 < config.maxPaymentAttempts ∧ config.maxPaymentAttempts ≤ max

instance (max : Nat) (config : Config) : Decidable (Setting max config) :=
  inferInstanceAs (Decidable (_ ∧ _))

/-- Calls and sweeps that read MAX_PAYMENT_ATTEMPTS from config.js. -/
def granting (max : Nat) : Action → Bool
  | .initiate _ settings _ | .reconcile _ settings => decide (Setting max settings)
  | _ => true

/-- Whatever fails, stalls or dies; process() runs only as a job handler. -/
def Serving (max : Nat) (s : System) (a : Action) : Prop := JobDriven s a ∧ granting max a = true

instance (max : Nat) (s : System) (a : Action) : Decidable (Serving max s a) :=
  inferInstanceAs (Decidable (_ ∧ _))

structure Settings (max : Nat) (s : System) : Prop where
  calls : ∀ call c, s.calls call = some c → Setting max c.config
  sweeps : ∀ sweep w, s.sweeps sweep = some w → Setting max w.config

structure Granted (max : Nat) (j : Job JobData) : Prop where
  positive : 0 < j.attempts
  bounded : j.attempts ≤ max
  left : j.state ≠ .failed → j.attemptsMade < j.attempts

def AllGranted (max : Nat) (queue : PaymentQueue) : Prop :=
  ∀ id j, queue.job id = some j → Granted max j

variable {max : Nat} {queue queue' : PaymentQueue}

theorem granted_put (h : AllGranted max queue) {j : Job JobData} (own : Granted max j) :
    AllGranted max (queue.put j) := by
  intro id k present
  rw [job_put] at present
  split at present
  · obtain rfl := Option.some.inj present
    exact own
  · exact h id k present

theorem granted_delete (h : AllGranted max queue) (id : String) :
    AllGranted max (queue.delete id) := by
  intro other k present
  rw [job_delete] at present
  split at present
  · simp at present
  · exact h other k present

theorem granted_added (h : AllGranted max queue) {config : Config} (setting : Setting max config)
    (pid : Nat) : AllGranted max (enqueuePayment queue config pid) := by
  intro id j present
  rcases add_origin present with before | ⟨-, -, rfl⟩
  · exact h id j before
  · exact ⟨setting.1, setting.2, fun _ => setting.1⟩

theorem granted_removed (h : AllGranted max queue) {id : String}
    (removal : queue.remove id = some queue') : AllGranted max queue' := by
  obtain ⟨-, gone, rest⟩ := remove_some removal
  intro other j present
  have apart : other ≠ id := fresh_apart present gone
  rw [rest other apart] at present
  exact h other j present

theorem granted_taken (h : AllGranted max queue) {id : String} {run : Nat} {data : JobData}
    (took : queue.take id run = some (data, queue')) : AllGranted max queue' := by
  obtain ⟨j, present, -, idle, rfl⟩ := take_some took
  obtain ⟨positive, bounded, left⟩ := h id j present
  refine granted_put h ⟨positive, bounded, ?_⟩
  intro _
  apply left
  rcases idle with waiting | delayed
  · simp [waiting]
  · simp [delayed]

theorem granted_failed (h : AllGranted max queue) (config : Config) (jobId : String) (run : Nat)
    (err : JsError) : AllGranted max (failJob queue config jobId run err).1 := by
  have failed : ∀ {job : Job JobData} {queue' : PaymentQueue},
      queue.fail jobId run = some (job, queue') → AllGranted max queue' := by
    intro job queue' failed
    obtain ⟨j, present, active, rfl, -, attempts, made, state⟩ := fail_some failed
    obtain ⟨positive, bounded, -⟩ := h jobId j present
    refine granted_put h ⟨by omega, by omega, ?_⟩
    intro open_
    rcases state with ⟨-, left⟩ | ⟨closed, -⟩
    · exact left
    · exact absurd closed open_
  rcases failJob_spec queue config jobId run err with
    ⟨-, same⟩ | ⟨job, queue', done, ⟨-, same⟩ | ⟨-, same⟩⟩
  · rw [same]
    exact h
  · rw [same]
    exact failed done
  · rw [same]
    exact failed done

theorem granted_expired (h : AllGranted max queue) (id : String) :
    AllGranted max (queue.expire id) := by
  unfold Jobs.expire
  split
  · exact h
  · rename_i j present
    split
    · rename_i holder active
      obtain ⟨positive, bounded, left⟩ := h id j present
      exact granted_put h ⟨positive, bounded, fun _ => left (by simp [active])⟩
    · exact h

theorem granted_stalled (h : AllGranted max queue) (id : String) :
    AllGranted max (queue.stall id) := by
  unfold Jobs.stall
  split
  · exact h
  · rename_i j present
    split
    · rename_i unlocked
      obtain ⟨positive, bounded, left⟩ := h id j present
      exact granted_put h ⟨positive, bounded, fun _ => left (by simp [unlocked])⟩
    · exact h

theorem granted_step {s t : System} {a : Action} {e : Event} (h : AllGranted max s.queue)
    (settings : Settings max s) (move : SystemMove s a e t) : AllGranted max t.queue := by
  cases move with
  | api call move present spec =>
    cases spec with
    | enqueued here => exact granted_added h (settings.calls call _ present) _
    | _ => exact h
  | pick run jobId fresh took => exact granted_taken h took
  | worker run move present spec =>
    cases spec with
    | @completed result jobId config here job =>
      cases done : s.queue.complete jobId run with
      | none => exact h
      | some queue =>
        obtain ⟨-, -, -, rfl⟩ := complete_some done
        exact granted_delete h jobId
    | failed config here job => exact granted_failed h _ _ _ _
    | _ => exact h
  | expire jobId => exact granted_expired h jobId
  | stall jobId => exact granted_stalled h jobId
  | sweep sweep move present spec =>
    cases spec with
    | removed here removal => exact granted_removed h removal
    | enqueued here => exact granted_added h (settings.sweeps sweep _ present) _
    | _ => exact h
  | _ => exact h

theorem settings_step {s t : System} {a : Action} {e : Event} (h : Settings max s)
    (grants : granting max a = true) (move : SystemMove s a e t) : Settings max t := by
  cases move with
  | initiate call config request fresh =>
    refine ⟨?_, h.sweeps⟩
    intro other c present
    rcases set_some present with ⟨-, rfl⟩ | ⟨-, old⟩
    · simpa [granting] using grants
    · exact h.calls other c old
  | @api call move c e db queue phase here spec =>
    refine ⟨?_, h.sweeps⟩
    intro other c' present
    rcases set_some present with ⟨-, rfl⟩ | ⟨-, old⟩
    · exact h.calls call c here
    · exact h.calls other c' old
  | reconcile sweep config fresh =>
    refine ⟨h.calls, ?_⟩
    intro other w present
    rcases set_some present with ⟨-, rfl⟩ | ⟨-, old⟩
    · simpa [granting, startSweep] using grants
    · exact h.sweeps other w old
  | @sweep sweep move w e db queue phase here spec =>
    refine ⟨h.calls, ?_⟩
    intro other w' present
    rcases set_some present with ⟨-, rfl⟩ | ⟨-, old⟩
    · exact h.sweeps sweep w here
    · exact h.sweeps other w' old
  | _ => exact ⟨h.calls, h.sweeps⟩

theorem run_granted {history : List Event} {s : System}
    (run : Run (Does exec (Serving max)) System.init history s) :
    Settings max s ∧ AllGranted max s.queue := by
  apply run_invariant (fun _ u => Settings max u ∧ AllGranted max u.queue) ?_ ?_ run
  · refine ⟨⟨?_, ?_⟩, ?_⟩
    · intro call c present
      simp [System.init] at present
    · intro sweep w present
      simp [System.init] at present
    · intro id j present
      simp [System.init, Jobs.empty] at present
  · intro history u e t inv step
    obtain ⟨a, ⟨-, grants⟩, done⟩ := step
    have move := exec_move done
    exact ⟨settings_step inv.1 grants move, granted_step inv.2 inv.1 move⟩

theorem job_payment_row {history : List Event} {s : System}
    (run : Run (Does exec (Serving max)) System.init history s) {id : Nat} {j : Job JobData}
    (queued : s.queue.job (jobIdFor id) = some j) : ∃ p, row s id = some p := by
  have driven := run_mono (does_mono fun _ _ (h : Serving max _ _) => h.1) run
  have accepted := (run_queued driven).jobs _ j queued
  rw [job_payment queued] at accepted
  obtain ⟨call, sent⟩ := accepted
  have inserted := enqueue_inserted (run_api_traced run) sent
  obtain ⟨c, p, -, found, -⟩ := (run_creators run).made call id inserted
  exact ⟨p, found⟩

end JobGrants
