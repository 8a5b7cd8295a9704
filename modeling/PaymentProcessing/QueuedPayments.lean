import PaymentProcessing.CallTraces
import PaymentProcessing.IdempotentCreation

/-!
Which payments ever reach the queue when process() runs only as the handler of a
job. Jobs, their runs, PROCESSING rows and sweeps all go back to the enqueue of
the call that created the payment, so when that one fails nothing else brings
the payment in: a retried request takes the duplicate branch, which does not
enqueue.
-/
namespace QueuedPayments
open KeyedTable JobStore TransitionRuns PaymentStateMachine PaymentRepositories PaymentService
open PaymentTransactions PaymentSystem SystemSteps CallTraces IdempotentCreation

def JobDriven (_ : System) : Action → Prop
  | .process _ _ => False
  | _ => True

instance (s : System) (a : Action) : Decidable (JobDriven s a) := by
  cases a <;> simp only [JobDriven] <;> infer_instance

/-- The queue has accepted a job for the payment. -/
def Accepted (pid : Nat) (history : List Event) : Prop :=
  ∃ source, .enqueue source pid none ∈ history

def ByApi (pid : Nat) (history : List Event) : Prop :=
  ∃ call, .enqueue (.api call) pid none ∈ history

theorem byApi_mono {pid : Nat} {history : List Event} (h : ByApi pid history) (e : Event) :
    ByApi pid (history ++ [e]) := by
  obtain ⟨call, there⟩ := h
  exact ⟨call, List.mem_append_left _ there⟩

structure Queued (history : List Event) (s : System) : Prop where
  accepted : ∀ pid, Accepted pid history → ByApi pid history
  jobs : ∀ id j, s.queue.job id = some j → ByApi j.data.paymentId history
  runs : ∀ run r, s.runs run = some r → ByApi r.paymentId history
  held : ∀ id p, row s id = some p → p.status = .processing → ByApi id history
  swept : ∀ sweep w, s.sweeps sweep = some w → ∀ p ∈ sweepRows w.phase, ByApi p.id history

theorem accepted_step {history : List Event} {s t : System} {a : Action} {e : Event}
    (h : Queued history s) (move : SystemMove s a e t) (pid : Nat)
    (there : Accepted pid (history ++ [e])) : ByApi pid (history ++ [e]) := by
  obtain ⟨source, listed⟩ := there
  rcases List.mem_append.mp listed with old | new
  · exact byApi_mono (h.accepted pid ⟨source, old⟩) e
  · obtain rfl : .enqueue source pid none = e := by simpa using new
    cases source with
    | api call => exact ⟨call, by simp⟩
    | sweep sweep =>
      -- the row that a sweep hands back was PROCESSING when the sweep selected it
      generalize label : Event.enqueue (.sweep sweep) pid none = e at move
      cases move with
      | api call move present spec => cases spec <;> simp at label
      | worker run move present spec => cases spec <;> simp at label
      | sweep sweep' move present spec =>
        cases spec with
        | @enqueued row rest here =>
          obtain ⟨rfl, rfl⟩ : sweep = sweep' ∧ pid = row.id := by simpa using label
          have mine := h.swept sweep _ present row
          rw [here] at mine
          exact byApi_mono (mine List.mem_cons_self) _
        | _ => simp at label
      | _ => simp at label

theorem jobs_step {history : List Event} {s t : System} {a : Action} {e : Event}
    (h : Queued history s) (move : SystemMove s a e t) (id : String) (j : Job JobData)
    (present : t.queue.job id = some j) : ByApi j.data.paymentId (history ++ [e]) := by
  cases move_queue move with
  | keep keeps quiet =>
    obtain ⟨old, before, same⟩ := keeps id j present
    rw [← same]
    exact byApi_mono (h.jobs id old before) e
  | add source config pid label added =>
    rw [added] at present
    rcases add_origin present with before | ⟨-, -, rfl⟩
    · exact byApi_mono (h.jobs id j before) e
    · exact accepted_step h move pid ⟨source, by simp [label]⟩

theorem runs_step {history : List Event} {s t : System} {a : Action} {e : Event}
    (h : Queued history s) (driven : JobDriven s a) (move : SystemMove s a e t) (run : Nat)
    (r : ProcessCall) (present : t.runs run = some r) : ByApi r.paymentId (history ++ [e]) := by
  have before : ∀ r, s.runs run = some r → ByApi r.paymentId (history ++ [e]) := by
    intro r old
    exact byApi_mono (h.runs run r old) e
  cases move with
  | process other paymentId fresh => exact absurd driven (by simp [JobDriven])
  | pick other jobId fresh took =>
    rcases set_some present with ⟨-, rfl⟩ | ⟨-, old⟩
    · obtain ⟨j, queued, rfl, -, -⟩ := take_some took
      exact byApi_mono (h.jobs jobId j queued) _
    · exact before r old
  | worker other move here spec =>
    rcases set_some present with ⟨rfl, rfl⟩ | ⟨-, old⟩
    · exact byApi_mono (h.runs run _ here) e
    · exact before r old
  | _ => exact before r present

theorem held_from_run {history : List Event} {s t : System} {a : Action} {e : Event}
    (h : Queued history s) (move : SystemMove s a e t) (id : Nat) (q : Payment)
    (found : row t id = some q) (busy : q.status = .processing) : ByApi id (history ++ [e]) := by
  cases row_before (move_commit move) found with
  | kept before quiet => exact byApi_mono (h.held id q before busy) e
  | created call _ _ _ _ _ absent label made => simp [made, newPayment] at busy
  | written before w =>
    obtain ⟨c, claim, rfl⟩ := write_processing w busy
    have mine : ofCall c (.claim c id (.claimed claim)) = true := by simp [ofCall]
    obtain ⟨r, phase, present, -, life⟩ := step_of_call (move_runs move) mine
    have owner : r.paymentId = id := by
      generalize r.phase = old at life
      generalize r.paymentId = pid at life
      cases life with
      | won => rfl
      | idle outside _ _ _ => simp [byProcess] at outside
    rw [← owner]
    exact byApi_mono (h.runs c r present) _

theorem swept_step {history : List Event} {s t : System} {a : Action} {e : Event}
    (h : Queued history s) (move : SystemMove s a e t) (sweep : Nat) (w : Sweep)
    (present : t.sweeps sweep = some w) (p : Payment) (mine : p ∈ sweepRows w.phase) :
    ByApi p.id (history ++ [e]) := by
  have before : ∀ w, s.sweeps sweep = some w → p ∈ sweepRows w.phase →
      ByApi p.id (history ++ [e]) := by
    intro w old there
    exact byApi_mono (h.swept sweep w old p there) e
  cases move with
  | reconcile other config fresh =>
    rcases set_some present with ⟨-, rfl⟩ | ⟨-, old⟩
    · have selected : p ∈ findStale s.db s.now config.staleProcessingMs := by
        simp only [startSweep] at mine
        generalize findStale s.db s.now config.staleProcessingMs = stale at mine ⊢
        cases stale with
        | nil => simp [nextRow, sweepRows] at mine
        | cons row rest => exact mine
      obtain ⟨found, busy, -⟩ := (mem_findStale _ _ _ _).mp selected
      exact byApi_mono (h.held p.id p found busy) _
    · exact before w old mine
  | sweep other move here spec =>
    rcases set_some present with ⟨rfl, rfl⟩ | ⟨-, old⟩
    · exact byApi_mono (h.swept sweep _ here p (sweep_rows spec p mine)) e
    · exact before w old mine
  | _ => exact before w present mine

theorem run_queued {history : List Event} {s : System}
    (run : Run (Does exec JobDriven) System.init history s) : Queued history s := by
  apply run_invariant Queued ?_ ?_ run
  · constructor
    · intro pid accepted
      obtain ⟨source, there⟩ := accepted
      simp at there
    · intro id j present
      simp [System.init, Jobs.empty] at present
    · intro run r present
      simp [System.init] at present
    · intro id p found
      simp at found
    · intro sweep w present
      simp [System.init] at present
  · intro history u e t inv step
    obtain ⟨a, driven, done⟩ := step
    have move := exec_move done
    exact ⟨accepted_step inv move, jobs_step inv move, runs_step inv driven move,
      held_from_run inv move, swept_step inv move⟩

/-- A call that reached its enqueue left exactly its INSERT and that enqueue. -/
theorem enqueue_trace {history : List Event} {s : System} (traced : ApiTraced history s)
    {call id : Nat} {error : Option JsError}
    (there : .enqueue (.api call) id error ∈ history) :
    apiTrace call history = [.insert call (some id), .enqueue (.api call) id error] := by
  have listed : .enqueue (.api call) id error ∈ apiTrace call history :=
    mem_apiTrace.mpr ⟨there, by simp [ofApi]⟩
  have mine := traced call
  cases present : s.calls call with
  | none =>
    rw [present] at mine
    simp [mine] at listed
  | some c =>
    rw [present] at mine
    have steps : ApiTrace call c.phase (apiTrace call history) := mine
    generalize apiTrace call history = labels at steps listed
    generalize c.phase = phase at steps
    cases steps with
    | created payment =>
      obtain ⟨rfl, rfl⟩ : id = payment.id ∧ error = none := by simpa using listed
      rfl
    | failed other err after =>
      obtain ⟨rfl, rfl⟩ : id = other ∧ error = some err := by simpa using listed
      rfl
    | _ => simp at listed

theorem enqueue_inserted {history : List Event} {s : System} (traced : ApiTraced history s)
    {call id : Nat} {error : Option JsError}
    (there : .enqueue (.api call) id error ∈ history) : .insert call (some id) ∈ history := by
  have listed : .insert call (some id) ∈ apiTrace call history := by
    rw [enqueue_trace traced there]
    simp
  exact (mem_apiTrace.mp listed).1

def ForKey (s : System) (key : String) (call : Nat) (c : ApiCall) : Prop :=
  s.calls call = some c ∧ c.request.idempotencyKey = key

/-- Some call with the key returned normally, and none is in progress. -/
structure Answered (s : System) (key : String) : Prop where
  returned : ∃ call c payment created, ForKey s key call c ∧ c.phase = .returned payment created
  completed : ∀ call c, ForKey s key call c → Completed c

def onCall (call : Nat) : Action → Bool
  | .initiate c _ _ | .api c _ => c == call
  | _ => false

theorem other_call_kept {s t : System} {a : Action} {e : Event} {call : Nat}
    (apart : onCall call a = false) (done : exec s a = some (e, t)) :
    t.calls call = s.calls call := by
  cases exec_move done with
  | initiate c config request fresh =>
    have ne : call ≠ c := by
      intro same
      simp [onCall, same] at apart
    exact if_neg ne
  | api c move present spec =>
    have ne : call ≠ c := by
      intro same
      simp [onCall, same] at apart
    exact if_neg ne
  | _ => rfl

theorem two_calls_answered {actions : List Action} {key : String} {s : System}
    (reached : (replay exec JobDriven System.init actions).2 = s)
    (only : actions.all (fun a => (List.range 2).any (fun call => onCall call a)) = true)
    {first second : ApiCall} (one : s.calls 0 = some first) (two : s.calls 1 = some second)
    (done : Completed first) {payment : Option Payment} {created : Bool}
    (returned : second.phase = .returned payment created)
    (keyed : second.request.idempotencyKey = key) : Answered s key := by
  refine ⟨⟨1, second, payment, created, ⟨two, keyed⟩, returned⟩, ?_⟩
  intro call c mine
  obtain ⟨present, -⟩ := mine
  by_cases isFirst : call = 0
  · rw [isFirst, one] at present
    obtain rfl := Option.some.inj present
    exact done
  · by_cases isSecond : call = 1
    · rw [isSecond, two] at present
      obtain rfl := Option.some.inj present
      exact Or.inl ⟨payment, created, returned⟩
    · have untouched : s.calls call = System.init.calls call := by
        rw [← reached]
        apply replay_view (fun u : System => u.calls call) (fun a => onCall call a = false) ?_ ?_
        · intro u a e v apart done
          exact other_call_kept apart done
        · intro a there
          have someone := List.all_eq_true.mp only a there
          cases a with
          | initiate c config request => simp [onCall] at someone ⊢; omega
          | api c move => simp [onCall] at someone ⊢; omega
          | _ => rfl
      rw [untouched] at present
      simp [System.init] at present

def redisDown : JsError := .error "Connection is closed." none none

def order : Config := ⟨3, 60000, 3000⟩

def repeatedRun : List Action :=
  [.initiate 0 order ⟨"order-123", 4200, "INR"⟩, .api 0 .insert, .api 0 .read,
    .api 0 (.enqueue (some redisDown)), .initiate 1 order ⟨"order-123", 4200, "INR"⟩,
    .api 1 .insert, .api 1 .lookUp]

theorem repeated_request_never_queued :
    ¬ ∀ history s, Run (Does exec JobDriven) System.init history s → ∀ key, Answered s key →
      ∀ id p, row s id = some p → p.idempotencyKey = key → Accepted id history := by
  intro law
  have first : (replay exec JobDriven System.init repeatedRun).2.calls 0 =
      some ⟨order, ⟨"order-123", 4200, "INR"⟩, .threw redisDown⟩ := by decide
  have second : ((replay exec JobDriven System.init repeatedRun).2.calls 1).map
      (fun c => (c.phase, c.request.idempotencyKey)) =
      some (.returned (some (newPayment "order-123" 4200 "INR" 3 0 1)) false, "order-123") := by
    decide
  obtain ⟨c, two, eq⟩ := Option.map_eq_some_iff.mp second
  obtain ⟨returned, keyed⟩ := Prod.mk.inj eq
  have answered := two_calls_answered rfl (by decide) first two (Or.inr ⟨_, rfl⟩) returned keyed
  have found : row (replay exec JobDriven System.init repeatedRun).2 1 =
      some (newPayment "order-123" 4200 "INR" 3 0 1) := by decide
  obtain ⟨source, there⟩ := law _ _ (replay_run exec JobDriven System.init repeatedRun) _ answered
    1 _ found rfl
  have quiet : (replay exec JobDriven System.init repeatedRun).1.all
      (fun e => match e with | .enqueue _ _ none => false | _ => true) = true := by decide
  simpa using List.all_eq_true.mp quiet _ there

/-- When all calls with a key are over, its payment has been accepted by the
    queue if and only if none of them saw its enqueue throw. -/
theorem queued_iff_no_enqueue_threw {history : List Event} {s : System}
    (run : Run (Does exec JobDriven) System.init history s) {key : String} (h : Answered s key) :
    ∃ id p, row s id = some p ∧ p.idempotencyKey = key ∧
      (Accepted id history ↔ ∀ call c, ForKey s key call c → ¬ EnqueueThrew call history) := by
  have traced := run_api_traced run
  have creators := run_creators run
  have data := run_calls_data run
  obtain ⟨call, c, payment, created, ⟨present, keyed⟩, here⟩ := h.returned
  obtain ⟨read, -, reads⟩ := returned_reads data present here
  obtain ⟨p, found, filed⟩ := reads_row reads
  have rowKey : p.idempotencyKey = key := filed.trans keyed
  generalize read.id = id at found
  refine ⟨id, p, found, rowKey, ?_⟩
  constructor
  · intro accepted call c mine threw
    obtain ⟨present, keyed⟩ := mine
    obtain ⟨creator, sent⟩ := (run_queued run).accepted id accepted
    obtain ⟨other, err, failed⟩ := threw
    -- the failed enqueue is of the same payment, so of the same call
    obtain ⟨c', q, present', found', made⟩ :=
      creators.made call other (enqueue_inserted traced failed)
    obtain rfl : c = c' := Option.some.inj (present.symm.trans present')
    have sameKey : q.idempotencyKey = p.idempotencyKey := by rw [made.key, keyed, rowKey]
    have sameRow : other = id := s.db.payments.distinct other id q p found' found sameKey
    subst sameRow
    have sameCall := creators.once call creator other (enqueue_inserted traced failed)
      (enqueue_inserted traced sent)
    subst sameCall
    have both := (enqueue_trace traced failed).symm.trans (enqueue_trace traced sent)
    simp at both
  · intro healthy
    obtain ⟨creator, c, inserted, present, made⟩ := creator_of creators found
    have mine : ForKey s key creator c := ⟨present, made.key.symm.trans rowKey⟩
    obtain ⟨q, here, same⟩ :=
      creator_reports traced data present inserted (h.completed creator c mine) (healthy creator c mine)
    have sent := (reporter_created traced present here).2
    rw [same] at sent
    exact ⟨.api creator, sent⟩

def healthyRun : List Action :=
  [.initiate 0 order ⟨"order-123", 4200, "INR"⟩, .api 0 .insert, .api 0 .read,
    .api 0 (.enqueue none), .initiate 1 order ⟨"order-123", 4200, "INR"⟩, .api 1 .insert,
    .api 1 .lookUp]

theorem healthy_request_queued :
    ∃ id p, row (replay exec JobDriven System.init healthyRun).2 id = some p ∧
      p.idempotencyKey = "order-123" ∧
      (Accepted id (replay exec JobDriven System.init healthyRun).1 ↔
        ∀ call c, ForKey (replay exec JobDriven System.init healthyRun).2 "order-123" call c →
          ¬ EnqueueThrew call (replay exec JobDriven System.init healthyRun).1) := by
  have first : ((replay exec JobDriven System.init healthyRun).2.calls 0).map ApiCall.phase =
      some (.returned (some (newPayment "order-123" 4200 "INR" 3 0 1)) true) := by decide
  have second : ((replay exec JobDriven System.init healthyRun).2.calls 1).map
      (fun c => (c.phase, c.request.idempotencyKey)) =
      some (.returned (some (newPayment "order-123" 4200 "INR" 3 0 1)) false, "order-123") := by
    decide
  obtain ⟨c, one, created⟩ := Option.map_eq_some_iff.mp first
  obtain ⟨d, two, eq⟩ := Option.map_eq_some_iff.mp second
  obtain ⟨returned, keyed⟩ := Prod.mk.inj eq
  have answered := two_calls_answered rfl (by decide) one two (Or.inl ⟨_, _, created⟩) returned keyed
  exact queued_iff_no_enqueue_threw (replay_run exec JobDriven System.init healthyRun) answered

end QueuedPayments
