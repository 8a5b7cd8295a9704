import PaymentProcessing.PaymentSystem

/-!
What one step of the system can do, said once: a case for each await of
initiatePayment, process() and reconcileStale, then a case for each action. The
invariants are proved by cases on these relations, never by unfolding `exec`.
-/
namespace SystemSteps
open KeyedTable JobStore TransitionRuns PaymentStateMachine PaymentRepositories PaymentService
open WebhookService PaymentTransactions PaymentSystem

inductive ApiSpec (now : Nat) (db : Database) (queue : PaymentQueue) (call : Nat) (c : ApiCall) :
    ApiMove → Event → Database → PaymentQueue → ApiPhase → Prop where
  | inserted {id : Nat} {db' : Database} (here : c.phase = .inserting)
      (wrote : insertPayment db c.request.idempotencyKey c.request.amount c.request.currency
        c.config.maxPaymentAttempts now = (some id, db')) :
      ApiSpec now db queue call c .insert (.insert call (some id)) db' queue (.reading id)
  | refused {db' : Database} (here : c.phase = .inserting)
      (wrote : insertPayment db c.request.idempotencyKey c.request.amount c.request.currency
        c.config.maxPaymentAttempts now = (none, db')) :
      ApiSpec now db queue call c .insert (.insert call none) db' queue .lookingUp
  | read {id : Nat} {payment : Payment} (here : c.phase = .reading id)
      (found : db.payments.find id = some payment) :
      ApiSpec now db queue call c .read .other db queue (.enqueuing payment)
  | unread {id : Nat} (here : c.phase = .reading id) (absent : db.payments.find id = none) :
      ApiSpec now db queue call c .read .other db queue (.threw undefinedPayment)
  | enqueued {payment : Payment} (here : c.phase = .enqueuing payment) :
      ApiSpec now db queue call c (.enqueue none) (.enqueue (.api call) payment.id none) db
        (enqueuePayment queue c.config payment.id) (.returned (some payment) true)
  | enqueueThrew {payment : Payment} (err : JsError) (here : c.phase = .enqueuing payment) :
      ApiSpec now db queue call c (.enqueue (some err))
        (.enqueue (.api call) payment.id (some err)) db queue (caught err)
  | lookedUp (here : c.phase = .lookingUp) :
      ApiSpec now db queue call c .lookUp .other db queue
        (.returned (findByIdempotencyKey db c.request.idempotencyKey) false)
  | crash (running : c.phase.over = false) :
      ApiSpec now db queue call c .crash .other db queue .crashed

theorem apiStep_spec {now : Nat} {db db' : Database} {queue queue' : PaymentQueue} {call : Nat}
    {c c' : ApiCall} {move : ApiMove} {e : Event}
    (h : apiStep now db queue call c move = some (e, db', queue', c')) :
    ∃ phase, c' = { c with phase } ∧ ApiSpec now db queue call c move e db' queue' phase := by
  unfold apiStep at h
  split at h
  · split at h
    · rename_i here
      split at h
      · rename_i wrote
        cases h
        exact ⟨_, rfl, ApiSpec.inserted here wrote⟩
      · rename_i wrote
        cases h
        exact ⟨_, rfl, ApiSpec.refused here wrote⟩
    · cases h
  · split at h
    · rename_i here
      split at h
      · rename_i found
        cases h
        exact ⟨_, rfl, ApiSpec.read here found⟩
      · rename_i absent
        cases h
        exact ⟨_, rfl, ApiSpec.unread here absent⟩
    · cases h
  · split at h
    · rename_i here
      split at h
      · cases h
        exact ⟨_, rfl, ApiSpec.enqueued here⟩
      · rename_i err
        cases h
        exact ⟨_, rfl, ApiSpec.enqueueThrew err here⟩
    · cases h
  · split at h
    · rename_i here
      cases h
      exact ⟨_, rfl, ApiSpec.lookedUp here⟩
    · cases h
  · cases here : c.phase with
    | returned payment created => simp [here] at h
    | threw err => simp [here] at h
    | crashed => simp [here] at h
    | _ =>
      rw [here] at h
      cases h
      exact ⟨_, rfl, ApiSpec.crash (by rw [here]; rfl)⟩

inductive WorkerSpec (now : Nat) (db : Database) (queue : PaymentQueue) (run : Nat)
    (r : ProcessCall) :
    WorkerMove → Event → Database → PaymentQueue → ProcessPhase → Prop where
  | claim (here : r.phase = .claiming) :
      WorkerSpec now db queue run r (.claim none)
        (.claim run r.paymentId (claim db r.paymentId now).1) (claim db r.paymentId now).2 queue
        (afterClaim (claim db r.paymentId now).1)
  | claimThrew (err : JsError) (here : r.phase = .claiming) :
      WorkerSpec now db queue run r (.claim (some err)) .other db queue (.threw err)
  | charge {claim : Claim} (timeoutMs : Nat) (a : Attempt) (here : r.phase = .claimed claim) :
      WorkerSpec now db queue run r (.charge timeoutMs a) (.charge run r.paymentId a) db queue
        (.charging claim (PaymentService.charge timeoutMs a))
  | reply {claim : Claim} {answer : Except JsError ChargeResult}
      (here : r.phase = .charging claim answer) :
      WorkerSpec now db queue run r .reply (.reply run r.paymentId answer) db queue
        (afterReply claim answer)
  | settle {claim : Claim} {answer : Except GatewayError ChargeResult}
      (here : r.phase = .settling claim answer) :
      WorkerSpec now db queue run r (.settle none)
        (.settle run r.paymentId (settle db r.paymentId answer now).1)
        (settle db r.paymentId answer now).2 queue
        (afterSettle (settle db r.paymentId answer now).1)
  | settleThrew {claim : Claim} {answer : Except GatewayError ChargeResult} (err : JsError)
      (here : r.phase = .settling claim answer) :
      WorkerSpec now db queue run r (.settle (some err)) .other db queue (.threw err)
  | completed {result : ProcessResult} {jobId : String} (config : Config)
      (here : r.phase = .returned result) (job : r.job = some jobId) :
      WorkerSpec now db queue run r (.finish config) .other db
        ((queue.complete jobId run).getD queue) .closed
  | failed {err : JsError} {jobId : String} (config : Config) (here : r.phase = .threw err)
      (job : r.job = some jobId) :
      WorkerSpec now db queue run r (.finish config) .other db
        (failJob queue config jobId run err).1 (failJob queue config jobId run err).2
  | handled {reason : String} (here : r.phase = .failing reason) :
      WorkerSpec now db queue run r (.failedHandler none)
        (.fail r.paymentId reason (failPayment db r.paymentId reason now).1)
        (failPayment db r.paymentId reason now).2 queue .closed
  | handlerErrored {reason : String} (err : JsError) (here : r.phase = .failing reason) :
      WorkerSpec now db queue run r (.failedHandler (some err)) .other db queue .closed
  | crash : WorkerSpec now db queue run r .crash .other db queue .crashed

theorem workerStep_spec {now : Nat} {db db' : Database} {queue queue' : PaymentQueue} {run : Nat}
    {r r' : ProcessCall} {move : WorkerMove} {e : Event}
    (h : workerStep now db queue run r move = some (e, db', queue', r')) :
    ∃ phase, r' = { r with phase } ∧ WorkerSpec now db queue run r move e db' queue' phase := by
  unfold workerStep at h
  split at h
  · split at h
    · rename_i here
      cases h
      exact ⟨_, rfl, WorkerSpec.claim here⟩
    · rename_i err here
      cases h
      exact ⟨_, rfl, WorkerSpec.claimThrew err here⟩
    · cases h
  · split at h
    · rename_i here
      cases h
      exact ⟨_, rfl, WorkerSpec.charge _ _ here⟩
    · cases h
  · split at h
    · rename_i here
      cases h
      exact ⟨_, rfl, WorkerSpec.reply here⟩
    · cases h
  · split at h
    · rename_i here
      cases h
      exact ⟨_, rfl, WorkerSpec.settle here⟩
    · rename_i err here
      cases h
      exact ⟨_, rfl, WorkerSpec.settleThrew err here⟩
    · cases h
  · split at h
    · rename_i here job
      cases h
      exact ⟨_, rfl, WorkerSpec.completed _ here job⟩
    · rename_i here job
      cases h
      exact ⟨_, rfl, WorkerSpec.failed _ here job⟩
    · cases h
  · split at h
    · rename_i here
      cases h
      exact ⟨_, rfl, WorkerSpec.handled here⟩
    · rename_i err here
      cases h
      exact ⟨_, rfl, WorkerSpec.handlerErrored err here⟩
    · cases h
  · split at h
    · cases h
    · cases h
    · split at h
      · cases h
      · cases h
        exact ⟨_, rfl, WorkerSpec.crash⟩
    · split at h
      · cases h
      · cases h
        exact ⟨_, rfl, WorkerSpec.crash⟩
    · cases h
      exact ⟨_, rfl, WorkerSpec.crash⟩

inductive SweepSpec (now : Nat) (db : Database) (queue : PaymentQueue) (sweep : Nat) (w : Sweep) :
    SweepMove → Event → Database → PaymentQueue → SweepPhase → Prop where
  | recover {row : Payment} {rest : List Payment} (here : w.phase = .recovering row rest) :
      SweepSpec now db queue sweep w (.recover none)
        (.recover row.id (recoverStalePayment db row.id now).1)
        (recoverStalePayment db row.id now).2 queue
        (afterRecover w.stale row rest (recoverStalePayment db row.id now).1)
  | recoverThrew {row : Payment} {rest : List Payment} (err : JsError)
      (here : w.phase = .recovering row rest) :
      SweepSpec now db queue sweep w (.recover (some err)) .other db queue (.threw err)
  | removed {row : Payment} {rest : List Payment} {queue' : PaymentQueue}
      (here : w.phase = .removing row rest) (removal : queue.remove (jobIdFor row.id) = some queue') :
      SweepSpec now db queue sweep w (.remove none) .other db queue' (.enqueuing row rest)
  | kept {row : Payment} {rest : List Payment} {error : Option JsError}
      (here : w.phase = .removing row rest)
      (refused : error = none → queue.remove (jobIdFor row.id) = none) :
      SweepSpec now db queue sweep w (.remove error) .other db queue (.enqueuing row rest)
  | enqueued {row : Payment} {rest : List Payment} (here : w.phase = .enqueuing row rest) :
      SweepSpec now db queue sweep w (.enqueue none) (.enqueue (.sweep sweep) row.id none) db
        (enqueuePayment queue w.config row.id) (nextRow w.stale rest)
  | enqueueThrew {row : Payment} {rest : List Payment} (err : JsError)
      (here : w.phase = .enqueuing row rest) :
      SweepSpec now db queue sweep w (.enqueue (some err))
        (.enqueue (.sweep sweep) row.id (some err)) db queue (.threw err)
  | crash : SweepSpec now db queue sweep w .crash .other db queue .crashed

theorem sweepStep_spec {now : Nat} {db db' : Database} {queue queue' : PaymentQueue} {sweep : Nat}
    {w w' : Sweep} {move : SweepMove} {e : Event}
    (h : sweepStep now db queue sweep w move = some (e, db', queue', w')) :
    ∃ phase, w' = { w with phase } ∧ SweepSpec now db queue sweep w move e db' queue' phase := by
  unfold sweepStep at h
  split at h
  · split at h
    · rename_i here
      cases h
      exact ⟨_, rfl, SweepSpec.recover here⟩
    · rename_i err here
      cases h
      exact ⟨_, rfl, SweepSpec.recoverThrew err here⟩
    · cases h
  · rename_i error
    split at h
    · rename_i row rest here
      cases error with
      | some err =>
        cases h
        exact ⟨_, rfl, SweepSpec.kept here (by simp)⟩
      | none =>
        cases removal : queue.remove (jobIdFor row.id) with
        | none =>
          simp only [removal, Option.getD_none] at h
          cases h
          exact ⟨_, rfl, SweepSpec.kept here (fun _ => removal)⟩
        | some left =>
          simp only [removal, Option.getD_some] at h
          cases h
          exact ⟨_, rfl, SweepSpec.removed here removal⟩
    · cases h
  · split at h
    · rename_i here
      cases h
      exact ⟨_, rfl, SweepSpec.enqueued here⟩
    · rename_i err here
      cases h
      exact ⟨_, rfl, SweepSpec.enqueueThrew err here⟩
    · cases h
  · split at h
    · cases h
    · cases h
    · cases h
    · cases h
      exact ⟨_, rfl, SweepSpec.crash⟩

inductive SystemMove (s : System) : Action → Event → System → Prop where
  | tick (ms : Nat) : SystemMove s (.tick ms) .other { s with now := s.now + ms }
  | initiate (call : Nat) (config : Config) (request : PaymentRequest)
      (fresh : s.calls call = none) :
      SystemMove s (.initiate call config request) .other
        { s with calls := set s.calls call ⟨config, request, .inserting⟩ }
  | api (call : Nat) (move : ApiMove) {c : ApiCall} {e : Event} {db : Database}
      {queue : PaymentQueue} {phase : ApiPhase} (present : s.calls call = some c)
      (spec : ApiSpec s.now s.db s.queue call c move e db queue phase) :
      SystemMove s (.api call move) e
        { s with db, queue, calls := set s.calls call { c with phase } }
  | process (run paymentId : Nat) (fresh : s.runs run = none) :
      SystemMove s (.process run paymentId) .other
        { s with runs := set s.runs run ⟨paymentId, none, .claiming⟩ }
  | pick (run : Nat) (jobId : String) {data : JobData} {queue : PaymentQueue}
      (fresh : s.runs run = none) (took : s.queue.take jobId run = some (data, queue)) :
      SystemMove s (.pick run jobId) .other
        { s with queue, runs := set s.runs run ⟨data.paymentId, some jobId, .claiming⟩ }
  | worker (run : Nat) (move : WorkerMove) {r : ProcessCall} {e : Event} {db : Database}
      {queue : PaymentQueue} {phase : ProcessPhase} (present : s.runs run = some r)
      (spec : WorkerSpec s.now s.db s.queue run r move e db queue phase) :
      SystemMove s (.worker run move) e
        { s with db, queue, runs := set s.runs run { r with phase } }
  | expire (jobId : String) :
      SystemMove s (.expire jobId) .other { s with queue := s.queue.expire jobId }
  | stall (jobId : String) :
      SystemMove s (.stall jobId) .other { s with queue := s.queue.stall jobId }
  | reconcile (sweep : Nat) (config : Config) (fresh : s.sweeps sweep = none) :
      SystemMove s (.reconcile sweep config) .other
        { s with sweeps := set s.sweeps sweep (startSweep s.db s.now config) }
  | sweep (sweep : Nat) (move : SweepMove) {w : Sweep} {e : Event} {db : Database}
      {queue : PaymentQueue} {phase : SweepPhase} (present : s.sweeps sweep = some w)
      (spec : SweepSpec s.now s.db s.queue sweep w move e db queue phase) :
      SystemMove s (.sweep sweep move) e
        { s with db, queue, sweeps := set s.sweeps sweep { w with phase } }
  | recover (paymentId : Nat) :
      SystemMove s (.recover paymentId)
        (.recover paymentId (recoverStalePayment s.db paymentId s.now).1)
        { s with db := (recoverStalePayment s.db paymentId s.now).2 }
  | failPayment (paymentId : Nat) (reason : String) :
      SystemMove s (.failPayment paymentId reason)
        (.fail paymentId reason (failPayment s.db paymentId reason s.now).1)
        { s with db := (failPayment s.db paymentId reason s.now).2 }
  | webhook (callback : Callback) :
      SystemMove s (.webhook callback) (.webhook callback (handleWebhook s.db callback s.now).1)
        { s with db := (handleWebhook s.db callback s.now).2 }

theorem exec_move {s t : System} {a : Action} {e : Event} (h : exec s a = some (e, t)) :
    SystemMove s a e t := by
  cases a with
  | tick ms =>
    cases h
    exact SystemMove.tick ms
  | initiate call config request =>
    simp only [exec] at h
    split at h
    · cases h
    · rename_i fresh
      cases h
      exact SystemMove.initiate call config request fresh
  | api call move =>
    simp only [exec] at h
    split at h
    · cases h
    · rename_i c present
      obtain ⟨⟨e', db, queue, c'⟩, one, eq⟩ := Option.map_eq_some_iff.mp h
      cases eq
      obtain ⟨phase, rfl, spec⟩ := apiStep_spec one
      exact SystemMove.api call move present spec
  | process run paymentId =>
    simp only [exec] at h
    split at h
    · cases h
    · rename_i fresh
      cases h
      exact SystemMove.process run paymentId fresh
  | pick run jobId =>
    simp only [exec] at h
    split at h
    · cases h
    · rename_i fresh
      obtain ⟨⟨data, queue⟩, took, eq⟩ := Option.map_eq_some_iff.mp h
      cases eq
      exact SystemMove.pick run jobId fresh took
  | worker run move =>
    simp only [exec] at h
    split at h
    · cases h
    · rename_i r present
      obtain ⟨⟨e', db, queue, r'⟩, one, eq⟩ := Option.map_eq_some_iff.mp h
      cases eq
      obtain ⟨phase, rfl, spec⟩ := workerStep_spec one
      exact SystemMove.worker run move present spec
  | expire jobId =>
    cases h
    exact SystemMove.expire jobId
  | stall jobId =>
    cases h
    exact SystemMove.stall jobId
  | reconcile sweep config =>
    simp only [exec] at h
    split at h
    · cases h
    · rename_i fresh
      cases h
      exact SystemMove.reconcile sweep config fresh
  | sweep sweep move =>
    simp only [exec] at h
    split at h
    · cases h
    · rename_i w present
      obtain ⟨⟨e', db, queue, w'⟩, one, eq⟩ := Option.map_eq_some_iff.mp h
      cases eq
      obtain ⟨phase, rfl, spec⟩ := sweepStep_spec one
      exact SystemMove.sweep sweep move present spec
  | recover paymentId =>
    cases h
    exact SystemMove.recover paymentId
  | failPayment paymentId reason =>
    cases h
    exact SystemMove.failPayment paymentId reason
  | webhook callback =>
    cases h
    exact SystemMove.webhook callback

theorem api_commit {now : Nat} {db db' : Database} {queue queue' : PaymentQueue} {call : Nat}
    {c : ApiCall} {move : ApiMove} {e : Event} {phase : ApiPhase}
    (spec : ApiSpec now db queue call c move e db' queue' phase) : Commit db e db' := by
  cases spec with
  | inserted here wrote =>
    have commit := Commit.insert db call c.request.idempotencyKey c.request.amount
      c.request.currency c.config.maxPaymentAttempts now
    rwa [wrote] at commit
  | refused here wrote =>
    have commit := Commit.insert db call c.request.idempotencyKey c.request.amount
      c.request.currency c.config.maxPaymentAttempts now
    rwa [wrote] at commit
  | _ => exact Commit.idle _ _ rfl

theorem worker_commit {now : Nat} {db db' : Database} {queue queue' : PaymentQueue} {run : Nat}
    {r : ProcessCall} {move : WorkerMove} {e : Event} {phase : ProcessPhase}
    (spec : WorkerSpec now db queue run r move e db' queue' phase) : Commit db e db' := by
  cases spec with
  | claim here => exact Commit.claim db run r.paymentId now
  | settle here => exact Commit.settle db run r.paymentId _ now
  | handled here => exact Commit.fail db r.paymentId _ now
  | _ => exact Commit.idle _ _ rfl

theorem sweep_commit {now : Nat} {db db' : Database} {queue queue' : PaymentQueue} {sweep : Nat}
    {w : Sweep} {move : SweepMove} {e : Event} {phase : SweepPhase}
    (spec : SweepSpec now db queue sweep w move e db' queue' phase) : Commit db e db' := by
  cases spec with
  | recover here => exact Commit.recover db _ now
  | _ => exact Commit.idle _ _ rfl

/-- A step of the system is one transaction on the database, or none. -/
theorem move_commit {s t : System} {a : Action} {e : Event} (move : SystemMove s a e t) :
    Commit s.db e t.db := by
  cases move with
  | api call move present spec => exact api_commit spec
  | worker run move present spec => exact worker_commit spec
  | sweep sweep move present spec => exact sweep_commit spec
  | recover paymentId => exact Commit.recover s.db paymentId s.now
  | failPayment paymentId reason => exact Commit.fail s.db paymentId reason s.now
  | webhook callback => exact Commit.webhook s.db callback s.now
  | _ => exact Commit.idle _ _ rfl

theorem does_commit {allowed : System → Action → Prop} {s t : System} {e : Event}
    (step : Does exec allowed s e t) : Commit s.db e t.db := by
  obtain ⟨a, -, done⟩ := step
  exact move_commit (exec_move done)

inductive RowOrigin (s : System) (id : Nat) (e : Event) (q : Payment) : Prop where
  | kept (before : row s id = some q) (quiet : e.writes id = false)
  | created (call : Nat) (key : String) (amount : Int) (currency : String)
      (maxAttempts now : Nat) (absent : row s id = none) (label : e = .insert call (some id))
      (made : q = newPayment key amount currency maxAttempts now id)
  | written {p : Payment} (before : row s id = some p) (w : Write id p e q)

theorem row_before {s t : System} {e : Event} (commit : Commit s.db e t.db) {id : Nat} {q : Payment}
    (after : row t id = some q) : RowOrigin s id e q := by
  have move := commit_row commit id
  rw [show t.db.payments.find id = some q from after] at move
  generalize before : s.db.payments.find id = old at move
  generalize present : some q = new at move
  cases move with
  | stay quiet =>
    rw [← present] at before
    exact RowOrigin.kept before quiet
  | create call key amount currency maxAttempts now =>
    exact RowOrigin.created call key amount currency maxAttempts now before rfl
      (Option.some.inj present)
  | write w =>
    obtain rfl := Option.some.inj present
    exact RowOrigin.written before w

def byApi : Event → Bool
  | .insert _ _ | .enqueue (.api _) _ _ => true
  | _ => false

inductive CallsMove (s t : System) (e : Event) : Prop where
  | frame (same : t.calls = s.calls) (outside : byApi e = false)
  | start (call : Nat) (c : ApiCall) (fresh : s.calls call = none)
      (begun : t.calls = set s.calls call c) (inserting : c.phase = .inserting) (label : e = .other)
  | work (call : Nat) (c : ApiCall) (move : ApiMove) (phase : ApiPhase) (db : Database)
      (queue : PaymentQueue) (present : s.calls call = some c)
      (moved : t.calls = set s.calls call { c with phase }) (committed : t.db = db)
      (spec : ApiSpec s.now s.db s.queue call c move e db queue phase)

theorem move_calls {s t : System} {a : Action} {e : Event} (move : SystemMove s a e t) :
    CallsMove s t e := by
  cases move with
  | initiate call config request fresh => exact CallsMove.start call _ fresh rfl rfl rfl
  | api call move present spec => exact CallsMove.work call _ move _ _ _ present rfl rfl spec
  | worker run move present spec => exact CallsMove.frame rfl (by cases spec <;> rfl)
  | sweep sweep move present spec => exact CallsMove.frame rfl (by cases spec <;> rfl)
  | _ => exact CallsMove.frame rfl rfl

theorem does_calls {allowed : System → Action → Prop} {s t : System} {e : Event}
    (step : Does exec allowed s e t) : CallsMove s t e := by
  obtain ⟨a, -, done⟩ := step
  exact move_calls (exec_move done)

theorem inserting_call {s t : System} {call id : Nat}
    (move : CallsMove s t (.insert call (some id))) :
    ∃ c, s.calls call = some c ∧ t.calls = set s.calls call { c with phase := .reading id } ∧
      insertPayment s.db c.request.idempotencyKey c.request.amount c.request.currency
        c.config.maxPaymentAttempts s.now = (some id, t.db) := by
  generalize label : Event.insert call (some id) = e at move
  cases move with
  | frame same outside =>
    subst label
    simp [byApi] at outside
  | start other c fresh begun inserting quiet =>
    rw [quiet] at label
    simp at label
  | work other c move phase db queue present moved committed spec =>
    cases spec with
    | inserted here wrote =>
      obtain ⟨rfl, rfl⟩ : call = other ∧ id = _ := by simpa using label
      exact ⟨c, present, moved, by rw [wrote, committed]⟩
    | _ => simp at label

def byProcess : Event → Bool
  | .claim _ _ _ | .charge _ _ _ | .reply _ _ _ | .settle _ _ _ => true
  | _ => false

inductive RunsMove (s t : System) (e : Event) : Prop where
  | frame (same : t.runs = s.runs) (outside : byProcess e = false)
  | start (run : Nat) (r : ProcessCall) (fresh : s.runs run = none)
      (begun : t.runs = set s.runs run r) (claiming : r.phase = .claiming) (label : e = .other)
  | work (run : Nat) (r : ProcessCall) (move : WorkerMove) (phase : ProcessPhase)
      (db : Database) (queue : PaymentQueue) (present : s.runs run = some r)
      (moved : t.runs = set s.runs run { r with phase }) (committed : t.db = db)
      (spec : WorkerSpec s.now s.db s.queue run r move e db queue phase)

theorem move_runs {s t : System} {a : Action} {e : Event} (move : SystemMove s a e t) :
    RunsMove s t e := by
  cases move with
  | api call move present spec => exact RunsMove.frame rfl (by cases spec <;> rfl)
  | process run paymentId fresh => exact RunsMove.start run _ fresh rfl rfl rfl
  | pick run jobId fresh took => exact RunsMove.start run _ fresh rfl rfl rfl
  | worker run move present spec => exact RunsMove.work run _ move _ _ _ present rfl rfl spec
  | sweep sweep move present spec => exact RunsMove.frame rfl (by cases spec <;> rfl)
  | _ => exact RunsMove.frame rfl rfl

theorem does_runs {allowed : System → Action → Prop} {s t : System} {e : Event}
    (step : Does exec allowed s e t) : RunsMove s t e := by
  obtain ⟨a, -, done⟩ := step
  exact move_runs (exec_move done)

theorem settle_step {s t : System} {c id : Nat} {result : SettleResult}
    (move : RunsMove s t (.settle c id result)) :
    ∃ r claim answer, s.runs c = some r ∧ r.paymentId = id ∧ r.phase = .settling claim answer ∧
      settle s.db id answer s.now = (result, t.db) := by
  generalize label : Event.settle c id result = e at move
  cases move with
  | frame same outside =>
    subst label
    simp [byProcess] at outside
  | start run r fresh begun claiming other =>
    rw [other] at label
    simp at label
  | work run r move phase db queue present moved committed spec =>
    cases spec with
    | settle here =>
      obtain ⟨rfl, rfl, rfl⟩ : c = run ∧ id = r.paymentId ∧ result = _ := by simpa using label
      exact ⟨r, _, _, present, rfl, here, by rw [committed]⟩
    | _ => simp at label

/-- A run is untouched by a step, or the step is its own. -/
theorem run_after {s t : System} {a : Action} {e : Event} (move : SystemMove s a e t) {run : Nat}
    {r : ProcessCall} (present : s.runs run = some r) :
    t.runs run = some r ∨ ∃ move db queue phase, a = .worker run move ∧ t.db = db ∧
      t.queue = queue ∧ t.runs run = some { r with phase } ∧
      WorkerSpec s.now s.db s.queue run r move e db queue phase := by
  have apart : ∀ other, s.runs other = none → run ≠ other := by
    intro other fresh
    exact fresh_apart present fresh
  cases move with
  | process other paymentId fresh => exact Or.inl (by simp [apart other fresh, present])
  | pick other jobId fresh took => exact Or.inl (by simp [apart other fresh, present])
  | worker other move here spec =>
    by_cases same : run = other
    · subst same
      obtain rfl := Option.some.inj (present.symm.trans here)
      exact Or.inr ⟨move, _, _, _, rfl, rfl, rfl, if_pos rfl, spec⟩
    · exact Or.inl (by simp [same, present])
  | _ => exact Or.inl present

/-- A run in the state after a step is new, was there before, or took the step. -/
theorem run_before {s t : System} {a : Action} {e : Event} (move : SystemMove s a e t) {run : Nat}
    {r' : ProcessCall} (after : t.runs run = some r') :
    s.runs run = none ∧ r'.phase = .claiming ∨ s.runs run = some r' ∨
      ∃ r move db queue phase, s.runs run = some r ∧ a = .worker run move ∧ t.db = db ∧
        t.queue = queue ∧ r' = { r with phase } ∧
        WorkerSpec s.now s.db s.queue run r move e db queue phase := by
  cases present : s.runs run with
  | none =>
    refine Or.inl ⟨rfl, ?_⟩
    cases move_runs move with
    | frame same outside => simp [same, present] at after
    | start other r fresh begun claiming label =>
      rw [begun] at after
      rcases set_some after with ⟨-, rfl⟩ | ⟨-, old⟩
      · exact claiming
      · simp [present] at old
    | work other r move phase db queue there moved committed spec =>
      rw [moved] at after
      rcases set_some after with ⟨rfl, -⟩ | ⟨-, old⟩
      · simp [present] at there
      · simp [present] at old
  | some r =>
    rcases run_after move present with
      same | ⟨step, db, queue, phase, rfl, committed, left, stepped, spec⟩
    · exact Or.inr (Or.inl (same.symm.trans after))
    · have same : r' = { r with phase } := Option.some.inj (after.symm.trans stepped)
      exact Or.inr (Or.inr ⟨r, step, db, queue, phase, rfl, rfl, committed, left, same, spec⟩)

/-- The life of one process() call: only the first four cases leave it between
    its winning claim and its settle, and nothing leads back to the claim. -/
inductive CallLife (run id : Nat) : ProcessPhase → Event → ProcessPhase → Prop where
  | won (claim : Claim) :
      CallLife run id .claiming (.claim run id (.claimed claim)) (.claimed claim)
  | charging (claim : Claim) (a : Attempt) (answer : Except JsError ChargeResult) :
      CallLife run id (.claimed claim) (.charge run id a) (.charging claim answer)
  | answered (claim : Claim) (reply : Except JsError ChargeResult)
      (answer : Except GatewayError ChargeResult) :
      CallLife run id (.charging claim reply) (.reply run id reply) (.settling claim answer)
  | exception (claim : Claim) (reply : Except JsError ChargeResult) (err : JsError) :
      CallLife run id (.charging claim reply) (.reply run id reply) (.threw err)
  | lost (reason : String) (status : Option PaymentStatus) :
      CallLife run id .claiming (.claim run id (.refused reason status))
        (.returned (.notClaimable reason status))
  | settled (claim : Claim) (answer : Except GatewayError ChargeResult) (result : SettleResult) :
      CallLife run id (.settling claim answer) (.settle run id result) (afterSettle result)
  | idle {before after : ProcessPhase} {e : Event} (outside : byProcess e = false)
      (done : after.claimOf = none) (noReturn : after ≠ .claiming)
      (ended : before.ended = true → after = .closed ∨ after = .crashed) :
      CallLife run id before e after

theorem afterSettle_over (result : SettleResult) :
    (afterSettle result).claimOf = none ∧ afterSettle result ≠ .claiming := by
  cases result <;> simp [afterSettle, ProcessPhase.claimOf]

/-- The budget that the 'failed' listener compares with the attempts made. -/
def jobBudget (config : Config) (job : Job JobData) : Nat :=
  if job.attempts = 0 then config.maxPaymentAttempts else job.attempts

theorem failJob_spec (queue : PaymentQueue) (config : Config) (jobId : String) (run : Nat)
    (err : JsError) :
    (queue.fail jobId run = none ∧ failJob queue config jobId run err = (queue, .closed)) ∨
      ∃ job queue', queue.fail jobId run = some (job, queue') ∧
        (jobBudget config job ≤ job.attemptsMade ∧
            failJob queue config jobId run err = (queue', .failing ("worker: " ++ err.message)) ∨
          job.attemptsMade < jobBudget config job ∧
            failJob queue config jobId run err = (queue', .closed)) := by
  cases h : queue.fail jobId run with
  | none => exact Or.inl ⟨rfl, by simp only [failJob, h]⟩
  | some failed =>
    refine Or.inr ⟨failed.1, failed.2, rfl, ?_⟩
    have unfolded : failJob queue config jobId run err =
        if jobBudget config failed.1 ≤ failed.1.attemptsMade then
          (failed.2, .failing ("worker: " ++ err.message)) else (failed.2, .closed) := by
      rw [failJob, h]
      rfl
    by_cases spent : jobBudget config failed.1 ≤ failed.1.attemptsMade
    · exact Or.inl ⟨spent, by rw [unfolded, if_pos spent]⟩
    · exact Or.inr ⟨by omega, by rw [unfolded, if_neg spent]⟩

theorem failJob_over (queue : PaymentQueue) (config : Config) (jobId : String) (run : Nat)
    (err : JsError) : (failJob queue config jobId run err).2 = .closed ∨
      ∃ reason, (failJob queue config jobId run err).2 = .failing reason := by
  rcases failJob_spec queue config jobId run err with
    ⟨-, same⟩ | ⟨job, queue', -, ⟨-, same⟩ | ⟨-, same⟩⟩
  · exact Or.inl (by rw [same])
  · exact Or.inr ⟨_, by rw [same]⟩
  · exact Or.inl (by rw [same])

theorem worker_life {now : Nat} {db db' : Database} {queue queue' : PaymentQueue} {run : Nat}
    {r : ProcessCall} {move : WorkerMove} {e : Event} {phase : ProcessPhase}
    (spec : WorkerSpec now db queue run r move e db' queue' phase) :
    CallLife run r.paymentId r.phase e phase := by
  cases spec with
  | claim here =>
    rw [here]
    cases (PaymentService.claim db r.paymentId now).1 with
    | claimed claim => exact CallLife.won claim
    | refused reason status => exact CallLife.lost reason status
  | charge timeoutMs a here =>
    rw [here]
    exact CallLife.charging _ a _
  | reply here =>
    rw [here]
    rename_i claim answer
    cases answer with
    | ok result => exact CallLife.answered claim _ _
    | error err =>
      cases err with
      | gatewayError err => exact CallLife.answered claim _ _
      | error message code errno => exact CallLife.exception claim _ _
  | settle here =>
    rw [here]
    exact CallLife.settled _ _ _
  | completed config here job => exact CallLife.idle rfl rfl (by simp) (fun _ => Or.inl rfl)
  | failed config here job =>
    rcases failJob_over queue config _ run _ with closed | ⟨reason, failing⟩
    · rw [closed]
      exact CallLife.idle rfl rfl (by simp) (fun _ => Or.inl rfl)
    · rw [failing]
      exact CallLife.idle rfl rfl (by simp) (by simp [here, ProcessPhase.ended])
  | crash => exact CallLife.idle rfl rfl (by simp) (fun _ => Or.inr rfl)
  | claimThrew err here => exact CallLife.idle rfl rfl (by simp) (by simp [here, ProcessPhase.ended])
  | settleThrew err here => exact CallLife.idle rfl rfl (by simp) (by simp [here, ProcessPhase.ended])
  | handled here => exact CallLife.idle rfl rfl (by simp) (by simp [here, ProcessPhase.ended])
  | handlerErrored err here =>
    exact CallLife.idle rfl rfl (by simp) (by simp [here, ProcessPhase.ended])

/-- Only an accepted enqueue, of an API call or of a sweep, brings in a job. -/
inductive QueueMove (s t : System) (e : Event) : Prop where
  | keep (keeps : Keeps s.queue t.queue) (quiet : ∀ source pid, e ≠ .enqueue source pid none)
  | add (source : Enqueuer) (config : Config) (pid : Nat) (label : e = .enqueue source pid none)
      (added : t.queue = enqueuePayment s.queue config pid)

theorem failJob_keeps (queue : PaymentQueue) (config : Config) (jobId : String) (run : Nat)
    (err : JsError) : Keeps queue (failJob queue config jobId run err).1 := by
  rcases failJob_spec queue config jobId run err with
    ⟨-, same⟩ | ⟨job, queue', failed, ⟨-, same⟩ | ⟨-, same⟩⟩
  · rw [same]
    exact keeps_refl queue
  · rw [same]
    exact fail_keeps failed
  · rw [same]
    exact fail_keeps failed

theorem move_queue {s t : System} {a : Action} {e : Event} (move : SystemMove s a e t) :
    QueueMove s t e := by
  cases move with
  | api call move present spec =>
    cases spec with
    | enqueued here => exact QueueMove.add (.api call) _ _ rfl rfl
    | _ => exact QueueMove.keep (keeps_refl _) (by simp)
  | pick run jobId fresh took => exact QueueMove.keep (take_keeps took) (by simp)
  | worker run move present spec =>
    cases spec with
    | @completed result jobId config here job =>
      apply QueueMove.keep ?_ (by simp)
      cases done : s.queue.complete jobId run with
      | none => exact keeps_refl _
      | some queue => exact complete_keeps done
    | failed config here job => exact QueueMove.keep (failJob_keeps _ _ _ _ _) (by simp)
    | _ => exact QueueMove.keep (keeps_refl _) (by simp)
  | expire jobId => exact QueueMove.keep (expire_keeps _ _) (by simp)
  | stall jobId => exact QueueMove.keep (stall_keeps _ _) (by simp)
  | sweep sweep move present spec =>
    cases spec with
    | removed here removal => exact QueueMove.keep (remove_keeps removal) (by simp)
    | enqueued here => exact QueueMove.add (.sweep sweep) _ _ rfl rfl
    | _ => exact QueueMove.keep (keeps_refl _) (by simp)
  | _ => exact QueueMove.keep (keeps_refl _) (by simp)

def sweepRows : SweepPhase → List Payment
  | .recovering row rest | .removing row rest | .enqueuing row rest => row :: rest
  | _ => []

theorem rows_nextRow (stale rest : List Payment) : sweepRows (nextRow stale rest) = rest := by
  cases rest <;> rfl

theorem sweep_suffix {now : Nat} {db db' : Database} {queue queue' : PaymentQueue} {sweep : Nat}
    {w : Sweep} {move : SweepMove} {e : Event} {phase : SweepPhase}
    (spec : SweepSpec now db queue sweep w move e db' queue' phase) :
    sweepRows phase <:+ sweepRows w.phase := by
  cases spec with
  | @recover p rest here =>
    rw [here]
    cases (recoverStalePayment db p.id now).1 with
    | released status => exact List.suffix_rfl
    | skip reason status =>
      rw [afterRecover, rows_nextRow]
      · exact List.suffix_cons p rest
      · simp
    | failed status =>
      rw [afterRecover, rows_nextRow]
      · exact List.suffix_cons p rest
      · simp
  | removed here removal =>
    rw [here]
    exact List.suffix_rfl
  | kept here refused =>
    rw [here]
    exact List.suffix_rfl
  | @enqueued p rest here =>
    rw [here, rows_nextRow]
    exact List.suffix_cons p rest
  | _ => exact List.nil_suffix

theorem sweep_rows {now : Nat} {db db' : Database} {queue queue' : PaymentQueue} {sweep : Nat}
    {w : Sweep} {move : SweepMove} {e : Event} {phase : SweepPhase}
    (spec : SweepSpec now db queue sweep w move e db' queue' phase) :
    ∀ row ∈ sweepRows phase, row ∈ sweepRows w.phase :=
  fun _ there => (sweep_suffix spec).subset there

end SystemSteps
