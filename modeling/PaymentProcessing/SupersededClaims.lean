import PaymentProcessing.CallTraces

/-!
Settles that come after the reconciler took the claim away. _settle recognises
its own claim by the status PROCESSING alone: after a release the status is
PENDING and even a success is dropped, and once another call has claimed the
payment the status is PROCESSING again and the old call settles the new claim.
-/
namespace SupersededClaims
open TransitionRuns PaymentStateMachine PaymentRepositories PaymentService PaymentTransactions
open PaymentSystem SystemSteps CallTraces

/-- The reconciler released the payment after this call had claimed it. -/
def Superseded (id c : Nat) (history : List Event) : Prop :=
  ∃ claim status before mid after,
    history = before ++ .claim c id (.claimed claim) :: mid ++ .recover id (.released status) :: after

/-- The last write of the row is the claim of another call. -/
def Reclaimed (id c : Nat) (history : List Event) : Prop :=
  ∃ d claim, d ≠ c ∧ lastWrite id history = some (.claim d id (.claimed claim))

theorem settle_row_kept {db : Database} {id : Nat} {p : Payment}
    (found : db.payments.find id = some p) (answer : Except GatewayError ChargeResult) (now : Nat) :
    (settle db id answer now).2.payments.find id = some p ↔ p.status ≠ .processing := by
  constructor
  · intro kept held
    obtain ⟨q, after, status⟩ := settle_held found held answer now
    rw [kept] at after
    obtain rfl := Option.some.inj after
    rw [held] at status
    cases answer with
    | ok result => simp [settledStatus] at status
    | error err =>
      simp only [settledStatus] at status
      split at status <;> simp at status
  · intro moved
    rw [settle_noop found moved]
    exact found

theorem superseded_reclaimed {history : List Event} {s : System}
    (run : Run Step System.init history s) {id c : Nat} (superseded : Superseded id c history)
    {p : Payment} (found : row s id = some p) :
    p.status = .processing ↔ Reclaimed id c history := by
  constructor
  · intro held
    obtain ⟨d, claim', last⟩ := processing_claimed run found held
    refine ⟨d, claim', ?_, last⟩
    obtain ⟨claim, status, before, mid, after, shape⟩ := superseded
    intro same
    subst same
    -- the last write is at the release or after it, and the release is no claim
    have cut : lastWrite id history = (lastWith (Event.writes id) after).or
        (some (.recover id (.released status))) := by
      have shape' : history = (before ++ .claim d id (.claimed claim) :: mid ++
          [.recover id (.released status)]) ++ after := by simp [shape]
      rw [lastWrite, shape', lastWith_append, lastWith_snoc]
      simp [Event.writes]
    rw [last] at cut
    cases late : lastWith (Event.writes id) after with
    | none => simp [late] at cut
    | some e =>
      rw [late, Option.some_or] at cut
      obtain rfl := Option.some.inj cut
      have there := (lastWith_mem late).1
      have first : history = before ++ .claim d id (.claimed claim) ::
          (mid ++ .recover id (.released status) :: after) := by simp [shape]
      exact no_second_claim (run_traced run) first id (.claimed claim') (by simp [there])
  · rintro ⟨d, claim, -, last⟩
    have status := run_status run id
    rw [found, last] at status
    simpa [written] using status

/-- A call whose gateway call failed, about to settle a claim it no longer holds. -/
structure StaleFailure (history : List Event) (s : System) (c : Nat) (r : ProcessCall)
    (err : GatewayError) : Prop where
  present : s.runs c = some r
  settling : ∃ claim, r.phase = .settling claim (.error err)
  superseded : Superseded r.paymentId c history

def Fenced (history : List Event) (s : System) (e : Event) (t : System) : Prop :=
  ∀ c r err result, StaleFailure history s c r err → e = .settle c r.paymentId result →
    row t r.paymentId = row s r.paymentId

def NotReclaimed (history : List Event) (s : System) (e : Event) (_ : System) : Prop :=
  ∀ c r err result, StaleFailure history s c r err → e = .settle c r.paymentId result →
    ¬ Reclaimed r.paymentId c history

theorem claimed_row {history : List Event} {s : System} (run : Run Step System.init history s)
    {id c : Nat} {claim : Claim} (there : .claim c id (.claimed claim) ∈ history) :
    ∃ p, row s id = some p := by
  obtain ⟨before, after, rfl⟩ := List.append_of_mem there
  obtain ⟨m, n, first, step, last⟩ := run_at run
  have label : Event.writes id (.claim c id (.claimed claim)) = true := by simp [Event.writes]
  cases absent : row s id with
  | some p => exact ⟨p, rfl⟩
  | none =>
    have known : (row n id).isSome := by
      have written_ := run_status (Run.snoc first step) id
      rw [lastWrite, lastWith_snoc, if_pos label] at written_
      cases here : row n id with
      | none => simp [here, written] at written_
      | some p => rfl
    obtain ⟨p, here⟩ := Option.isSome_iff_exists.mp known
    obtain ⟨q, found, -⟩ := PaymentLifecycle.run_refines_table last here
    rw [absent] at found
    simp at found

theorem fenced_iff {history : List Event} {s t : System} {e : Event}
    (run : Run Step System.init history s) (step : Step s e t) :
    Fenced history s e t ↔ NotReclaimed history s e t := by
  have kept : ∀ c r err result, StaleFailure history s c r err → e = .settle c r.paymentId result →
      (row t r.paymentId = row s r.paymentId ↔ ¬ Reclaimed r.paymentId c history) := by
    intro c r err result stale label
    obtain ⟨present, ⟨claim, settling⟩, superseded⟩ := stale
    have move := does_runs step
    rw [label] at move
    obtain ⟨r', claim', answer, present', -, settling', committed⟩ := settle_step move
    obtain rfl : r = r' := Option.some.inj (present.symm.trans present')
    obtain ⟨rfl, rfl⟩ : claim = claim' ∧ .error err = answer := by
      simpa using settling.symm.trans settling'
    have there : ∃ claim, .claim c r.paymentId (.claimed claim) ∈ history := by
      obtain ⟨claim, status, before, mid, after, rfl⟩ := superseded
      exact ⟨claim, by simp⟩
    obtain ⟨claim', claimed⟩ := there
    obtain ⟨p, found⟩ := claimed_row run claimed
    rw [← superseded_reclaimed run superseded found, found]
    have same := settle_row_kept found (.error err) s.now
    rw [committed] at same
    exact same
  constructor
  · intro fenced c r err result stale label
    exact (kept c r err result stale label).mp (fenced c r err result stale label)
  · intro free c r err result stale label
    exact (kept c r err result stale label).mpr (free c r err result stale label)

def config : Config := ⟨3, 2000, 3000⟩

/-- A slow worker loses its claim to a sweep before its gateway call times out. -/
def releasedRun : List Action :=
  [.initiate 0 config ⟨"order-123", 4200, "INR"⟩, .api 0 .insert, .process 0 1,
    .worker 0 (.claim none), .worker 0 (.charge 3000 (attempt 3000 .timeout 0 "gw_a")),
    .tick 3000, .reconcile 0 config, .sweep 0 (.recover none), .worker 0 .reply]

/-- The same, and a second worker claims the payment and charges it meanwhile. -/
def reclaimedRun : List Action :=
  [.initiate 0 config ⟨"order-123", 4200, "INR"⟩, .api 0 .insert, .process 0 1,
    .worker 0 (.claim none), .worker 0 (.charge 3000 (attempt 3000 .timeout 0 "gw_a")),
    .tick 3000, .reconcile 0 config, .sweep 0 (.recover none), .process 1 1,
    .worker 1 (.claim none), .worker 1 (.charge 3000 (attempt 3000 .success 0 "gw_b")),
    .worker 0 .reply]

/-- The old timeout puts the payment back to PENDING while the second worker
    is charging it. -/
theorem old_timeout_reopens_new_claim :
    ¬ ∀ history s, Run Step System.init history s → ∀ e t, Step s e t → Fenced history s e t := by
  intro law
  have settled : (exec (replay exec Action.any System.init reclaimedRun).2
      (.worker 0 (.settle none))).map (fun (e, t) => (e, (row t 1).map Payment.status)) =
      some (.settle 0 1 (.retry "timeout" .pending), some .pending) := by decide
  obtain ⟨⟨e, t⟩, done, eq⟩ := Option.map_eq_some_iff.mp settled
  obtain ⟨label, after⟩ := Prod.mk.inj eq
  have present : (replay exec Action.any System.init reclaimedRun).2.runs 0 =
      some ⟨1, none, .settling ⟨1, 3, 4200, "INR"⟩ (.error ⟨"timeout", true⟩)⟩ := by decide
  have superseded : Superseded 1 0 (replay exec Action.any System.init reclaimedRun).1 :=
    ⟨⟨1, 3, 4200, "INR"⟩, .pending, [.other, .insert 0 (some 1), .other],
      [.charge 0 1 (attempt 3000 .timeout 0 "gw_a"), .other, .other],
      [.other, .claim 1 1 (.claimed ⟨2, 3, 4200, "INR"⟩),
        .charge 1 1 (attempt 3000 .success 0 "gw_b"),
        .reply 0 1 (.error (.gatewayError ⟨"timeout", true⟩))], by decide⟩
  have stale : StaleFailure (replay exec Action.any System.init reclaimedRun).1
      (replay exec Action.any System.init reclaimedRun).2 0 _ ⟨"timeout", true⟩ :=
    ⟨present, ⟨_, rfl⟩, superseded⟩
  have same := law _ _ (replay_run exec Action.any System.init reclaimedRun) e t
    ⟨_, trivial, done⟩ 0 _ _ _ stale label
  have before : (row (replay exec Action.any System.init reclaimedRun).2 1).map Payment.status =
      some .processing := by decide
  rw [← same, after] at before
  simp at before

/-- A superseded failure leaves the row alone exactly when no other call has the
    payment claimed at that moment, step by step and over whole runs. -/
theorem superseded_failure_fenced_iff {history : List Event} {s : System}
    (run : Run Step System.init history s) :
    (∀ e t, Step s e t → (Fenced history s e t ↔ NotReclaimed history s e t)) ∧
      (Throughout Step Fenced System.init history s ↔
        Throughout Step NotReclaimed System.init history s) := by
  refine ⟨fun _ _ step => fenced_iff run step, ?_⟩
  apply throughout_iff ?_ history s
  intro before m e n first step
  exact fenced_iff first step

theorem released_timeout_fenced :
    ∃ t, Step (replay exec Action.any System.init releasedRun).2
        (.settle 0 1 (.noop "not_processing" (some .pending))) t ∧
      Fenced (replay exec Action.any System.init releasedRun).1
        (replay exec Action.any System.init releasedRun).2
        (.settle 0 1 (.noop "not_processing" (some .pending))) t := by
  have settled : (exec (replay exec Action.any System.init releasedRun).2
      (.worker 0 (.settle none))).map Prod.fst =
      some (.settle 0 1 (.noop "not_processing" (some .pending))) := by decide
  obtain ⟨⟨e, t⟩, done, rfl⟩ := Option.map_eq_some_iff.mp settled
  have step : Step (replay exec Action.any System.init releasedRun).2 _ t := ⟨_, trivial, done⟩
  refine ⟨t, step, ((superseded_failure_fenced_iff
    (replay_run exec Action.any System.init releasedRun)).1 _ t step).mpr ?_⟩
  intro c r err result stale label
  obtain ⟨rfl, target, -⟩ : 0 = c ∧ 1 = r.paymentId ∧ _ = result := by simpa using label
  rintro ⟨d, claim, -, last⟩
  have released : lastWrite 1 (replay exec Action.any System.init releasedRun).1 =
      some (.recover 1 (.released .pending)) := by decide
  rw [← target, released] at last
  simp at last

/-- Released after the call's own claim, and claimed by nobody since. -/
def Unclaimed (id c : Nat) (history : List Event) : Prop :=
  ∃ claim before after e, history = before ++ .claim c id (.claimed claim) :: after ∧
    lastWrite id after = some e ∧ AttemptAccounting.release id e = true

/-- From a claim on the payment is PENDING exactly when its last write is a release. -/
def FollowsWrites (id : Nat) (history : List Event) (row : Option Payment) : Prop :=
  ∀ q, row = some q → (q.status = .pending ↔
    ∃ e, lastWrite id history = some e ∧ AttemptAccounting.release id e = true)

theorem follows_step {id : Nat} {history : List Event} {before after : Option Payment} {e : Event}
    (known : before.isSome) (h : FollowsWrites id history before) (move : RowMove id before e after) :
    FollowsWrites id (history ++ [e]) after := by
  intro q same
  cases move with
  | stay quiet =>
    rw [lastWrite, lastWith_snoc, quiet]
    exact h q same
  | create => simp at known
  | @write _ q' _ w =>
    obtain rfl : q' = q := Option.some.inj same
    rw [lastWrite, lastWith_snoc, write_label w]
    have moved : q'.status = .pending ↔ AttemptAccounting.release id e = true := by
      rcases AttemptAccounting.write_kinds w with ⟨-, now, -, -, kept⟩ | ⟨-, now, -, -, -, freed⟩ |
          ⟨-, now, -, -, kept⟩
      · simp [now, kept]
      · simp [now, freed]
      · rw [kept]
        constructor
        · intro free
          simp [free, isTerminal, transitions] at now
        · simp
    simpa using moved

theorem run_follows {n s : System} {after : List Event} (run : Run Step n after s) {id : Nat}
    {p : Payment} (found : row n id = some p) (busy : p.status = .processing) :
    FollowsWrites id after (row s id) := by
  have both : (row s id).isSome ∧ FollowsWrites id after (row s id) := by
    apply run_induction (fun h u => (row u id).isSome ∧ FollowsWrites id h (row u id)) ?_ ?_ run
    · refine ⟨by simp [found], ?_⟩
      intro q same
      obtain rfl := Option.some.inj (found.symm.trans same)
      simp [busy, lastWrite, lastWith]
    · intro h u e t _ inv step
      obtain ⟨q, there⟩ := Option.isSome_iff_exists.mp inv.1
      obtain ⟨q', later, -⟩ := commit_keeps_row (does_commit step) there
      exact ⟨by simp [row, later], follows_step inv.1 inv.2 (commit_row (does_commit step) id)⟩
  exact both.2

theorem pending_unclaimed {history : List Event} {s : System}
    (run : Run Step System.init history s) {id c : Nat} {claim : Claim}
    (there : .claim c id (.claimed claim) ∈ history) {p : Payment} (found : row s id = some p) :
    p.status = .pending ↔ Unclaimed id c history := by
  have since : ∀ before after claim, history = before ++ .claim c id (.claimed claim) :: after →
      (p.status = .pending ↔
        ∃ e, lastWrite id after = some e ∧ AttemptAccounting.release id e = true) := by
    intro before after claim shape
    rw [shape] at run
    obtain ⟨m, n, first, step, last⟩ := run_at run
    have status := run_status (Run.snoc first step) id
    rw [lastWrite, lastWith_snoc, if_pos (by simp [Event.writes])] at status
    obtain ⟨q, at_n, busy⟩ := Option.map_eq_some_iff.mp status
    exact run_follows last at_n busy p found
  constructor
  · intro free
    obtain ⟨before, after, shape⟩ := List.append_of_mem there
    obtain ⟨e, last, freed⟩ := (since before after claim shape).mp free
    exact ⟨claim, before, after, e, shape, last, freed⟩
  · rintro ⟨claim', before, after, e, shape, last, freed⟩
    exact (since before after claim' shape).mpr ⟨e, last, freed⟩

/-- A success handed to the settle of a payment that is still open makes it SUCCESS. -/
def Honoured (_ : List Event) (s : System) (e : Event) (t : System) : Prop :=
  ∀ c r claim charged result, s.runs c = some r → r.phase = .settling claim (.ok charged) →
    e = .settle c r.paymentId result → ∀ p, row s r.paymentId = some p →
    isTerminal p.status = false → ∃ q, row t r.paymentId = some q ∧ q.status = .success

def NotUnclaimed (history : List Event) (s : System) (e : Event) (_ : System) : Prop :=
  ∀ c r claim charged result, s.runs c = some r → r.phase = .settling claim (.ok charged) →
    e = .settle c r.paymentId result → ¬ Unclaimed r.paymentId c history

theorem honoured_iff {history : List Event} {s t : System} {e : Event}
    (run : Run Step System.init history s) (step : Step s e t) :
    Honoured history s e t ↔ NotUnclaimed history s e t := by
  constructor
  · intro honoured c r claim charged result present settling label unclaimed
    have there : ∃ claim, .claim c r.paymentId (.claimed claim) ∈ history := by
      obtain ⟨claim, before, after, e, rfl, -⟩ := unclaimed
      exact ⟨claim, by simp⟩
    obtain ⟨claim', claimed⟩ := there
    obtain ⟨p, found⟩ := claimed_row run claimed
    have free := (pending_unclaimed run claimed found).mpr unclaimed
    have open_ : isTerminal p.status = false := by rw [free]; rfl
    obtain ⟨q, after, success⟩ := honoured c r claim charged result present settling label p found open_
    have move := does_runs step
    rw [label] at move
    obtain ⟨r', claim'', answer, present', -, -, committed⟩ := settle_step move
    have noop := settle_noop found (by simp [free]) answer s.now
    rw [row, (Prod.mk.inj (committed.symm.trans noop)).2] at after
    obtain rfl := Option.some.inj (found.symm.trans after)
    simp [free] at success
  · intro taken c r claim charged result present settling label p found open_
    have steps := traced_call (run_traced run) present
    rw [settling] at steps
    obtain ⟨⟨own, claimed⟩, -⟩ := in_flight_history steps (by simp [ProcessPhase.claimOf])
    have move := does_runs step
    rw [label] at move
    obtain ⟨r', claim', answer, present', -, settling', committed⟩ := settle_step move
    obtain rfl : r = r' := Option.some.inj (present.symm.trans present')
    obtain ⟨-, rfl⟩ : claim = claim' ∧ .ok charged = answer := by
      simpa using settling.symm.trans settling'
    have held : p.status = .processing := by
      rcases AttemptAccounting.unsettled_cases open_ with free | held
      · have unclaimed := (pending_unclaimed run claimed found).mp free
        exact absurd unclaimed (taken c r claim charged result present settling label)
      · exact held
    obtain ⟨q, after, status⟩ := settle_held found held (.ok charged) s.now
    rw [committed] at after
    exact ⟨q, after, status⟩

/-- Here the gateway has up to 5000 ms, so a delayed success takes up to 2999 ms. -/
def patient : Config := ⟨3, 2000, 5000⟩

def lateSuccessRun : List Action :=
  [.initiate 0 patient ⟨"order-123", 4200, "INR"⟩, .api 0 .insert, .process 0 1,
    .worker 0 (.claim none), .worker 0 (.charge 5000 (attempt 5000 .delay 2500 "gw_a")),
    .tick 2500, .reconcile 0 patient, .sweep 0 (.recover none), .worker 0 .reply]

theorem late_success_dropped :
    ¬ ∀ history s, Run Step System.init history s → ∀ e t, Step s e t → Honoured history s e t := by
  intro law
  have settled : (exec (replay exec Action.any System.init lateSuccessRun).2
      (.worker 0 (.settle none))).map (fun (e, t) => (e, (row t 1).map Payment.status)) =
      some (.settle 0 1 (.noop "not_processing" (some .pending)), some .pending) := by decide
  obtain ⟨⟨e, t⟩, done, eq⟩ := Option.map_eq_some_iff.mp settled
  obtain ⟨label, after⟩ := Prod.mk.inj eq
  have present : (replay exec Action.any System.init lateSuccessRun).2.runs 0 =
      some ⟨1, none, .settling ⟨1, 3, 4200, "INR"⟩ (.ok ⟨true, "gw_a", .delay⟩)⟩ := by decide
  have before : (row (replay exec Action.any System.init lateSuccessRun).2 1).map Payment.status =
      some .pending := by decide
  obtain ⟨p, found, free⟩ := Option.map_eq_some_iff.mp before
  obtain ⟨q, here, success⟩ := law _ _ (replay_run exec Action.any System.init lateSuccessRun) e t
    ⟨_, trivial, done⟩ 0 _ _ _ _ present rfl label p found (by rw [free]; rfl)
  rw [here] at after
  simp [success] at after

/-- The success is honoured exactly when the payment was not released after the
    call's own claim without a later one. -/
theorem success_honoured_iff {history : List Event} {s : System}
    (run : Run Step System.init history s) :
    (∀ e t, Step s e t → (Honoured history s e t ↔ NotUnclaimed history s e t)) ∧
      (Throughout Step Honoured System.init history s ↔
        Throughout Step NotUnclaimed System.init history s) := by
  refine ⟨fun _ _ step => honoured_iff run step, ?_⟩
  apply throughout_iff ?_ history s
  intro before m e n first step
  exact honoured_iff first step

def promptRun : List Action :=
  [.initiate 0 patient ⟨"order-123", 4200, "INR"⟩, .api 0 .insert, .process 0 1,
    .worker 0 (.claim none), .worker 0 (.charge 5000 (attempt 5000 .delay 2500 "gw_a")),
    .tick 2500, .worker 0 .reply]

theorem prompt_success_honoured :
    ∃ t, Step (replay exec Action.any System.init promptRun).2 (.settle 0 1 (.success .success)) t ∧
      Honoured (replay exec Action.any System.init promptRun).1
        (replay exec Action.any System.init promptRun).2 (.settle 0 1 (.success .success)) t := by
  have settled : (exec (replay exec Action.any System.init promptRun).2
      (.worker 0 (.settle none))).map Prod.fst = some (.settle 0 1 (.success .success)) := by decide
  obtain ⟨⟨e, t⟩, done, rfl⟩ := Option.map_eq_some_iff.mp settled
  have step : Step (replay exec Action.any System.init promptRun).2 _ t := ⟨_, trivial, done⟩
  refine ⟨t, step, ((success_honoured_iff
    (replay_run exec Action.any System.init promptRun)).1 _ t step).mpr ?_⟩
  intro c r claim charged result present settling label
  obtain ⟨rfl, target, -⟩ : 0 = c ∧ 1 = r.paymentId ∧ _ = result := by simpa using label
  rintro ⟨own, before, after, e, shape, last, freed⟩
  -- the run has no release at all
  have quiet : (replay exec Action.any System.init promptRun).1.all
      (fun e => !AttemptAccounting.release 1 e) = true := by decide
  have there : e ∈ (replay exec Action.any System.init promptRun).1 := by
    rw [shape]
    simp [(lastWith_mem last).1]
  have unfreed := List.all_eq_true.mp quiet e there
  rw [target, freed] at unfreed
  simp at unfreed

end SupersededClaims
