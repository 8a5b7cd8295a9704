import PaymentProcessing.Lifecycle

/-!
initiatePayment calls with one idempotency key, interleaved with each other and
with the rest of the system. The labels that a call left say how far it came;
the INSERT that made a row names its creator, and a key has at most one row, so
at most one call with that key creates.
-/
namespace IdempotentCreation
open KeyedTable TransitionRuns PaymentRepositories PaymentService PaymentTransactions
open PaymentSystem SystemSteps

def ofApi (call : Nat) : Event → Bool
  | .insert c _ => c == call
  | .enqueue (.api c) _ _ => c == call
  | _ => false

def apiTrace (call : Nat) (history : List Event) : List Event := history.filter (ofApi call)

/-- Phases without a created payment to enqueue: the fallback lookup, its
    answer, and the calls that failed. -/
def late : ApiPhase → Bool
  | .lookingUp | .returned _ false | .threw _ | .crashed => true
  | _ => false

def dead : ApiPhase → Bool
  | .threw _ | .crashed => true
  | _ => false

inductive ApiLife (call : Nat) : ApiPhase → Event → ApiPhase → Prop where
  | inserted (id : Nat) : ApiLife call .inserting (.insert call (some id)) (.reading id)
  | refused : ApiLife call .inserting (.insert call none) .lookingUp
  | read (payment : Payment) : ApiLife call (.reading payment.id) .other (.enqueuing payment)
  | unread (id : Nat) : ApiLife call (.reading id) .other (.threw undefinedPayment)
  | enqueued (payment : Payment) :
      ApiLife call (.enqueuing payment) (.enqueue (.api call) payment.id none)
        (.returned (some payment) true)
  | enqueueThrew (payment : Payment) (err : JsError) :
      ApiLife call (.enqueuing payment) (.enqueue (.api call) payment.id (some err)) (caught err)
  | lookedUp (payment : Option Payment) : ApiLife call .lookingUp .other (.returned payment false)
  | crash {phase : ApiPhase} (running : phase.over = false) : ApiLife call phase .other .crashed

theorem api_life {now : Nat} {db db' : Database} {queue queue' : PaymentQueue} {call : Nat}
    {c : ApiCall} {move : ApiMove} {e : Event} {phase : ApiPhase}
    (spec : ApiSpec now db queue call c move e db' queue' phase) : ApiLife call c.phase e phase := by
  cases spec with
  | inserted here wrote =>
    rw [here]
    exact ApiLife.inserted _
  | refused here wrote =>
    rw [here]
    exact ApiLife.refused
  | read here found =>
    rw [here, ← payment_id db found]
    exact ApiLife.read _
  | unread here absent =>
    rw [here]
    exact ApiLife.unread _
  | enqueued here =>
    rw [here]
    exact ApiLife.enqueued _
  | enqueueThrew err here =>
    rw [here]
    exact ApiLife.enqueueThrew _ err
  | lookedUp here =>
    rw [here]
    exact ApiLife.lookedUp _
  | crash running => exact ApiLife.crash running

theorem caught_late (err : JsError) : late (caught err) = true := by
  unfold caught
  split <;> rfl

/-- The phase of a call and the labels it left, oldest first. -/
inductive ApiTrace (call : Nat) : ApiPhase → List Event → Prop where
  | inserting : ApiTrace call .inserting []
  | reading (id : Nat) : ApiTrace call (.reading id) [.insert call (some id)]
  | enqueuing (payment : Payment) :
      ApiTrace call (.enqueuing payment) [.insert call (some payment.id)]
  | created (payment : Payment) :
      ApiTrace call (.returned (some payment) true)
        [.insert call (some payment.id), .enqueue (.api call) payment.id none]
  | duplicate {phase : ApiPhase} (after : late phase = true) :
      ApiTrace call phase [.insert call none]
  | failed (id : Nat) (err : JsError) {phase : ApiPhase} (after : late phase = true) :
      ApiTrace call phase [.insert call (some id), .enqueue (.api call) id (some err)]
  | diedInserting {phase : ApiPhase} (after : dead phase = true) : ApiTrace call phase []
  | diedCreated (id : Nat) {phase : ApiPhase} (after : dead phase = true) :
      ApiTrace call phase [.insert call (some id)]

theorem api_trace_step {call : Nat} {before after : ApiPhase} {e : Event} {labels : List Event}
    (h : ApiTrace call before labels) (life : ApiLife call before e after) :
    ApiTrace call after (labels ++ if ofApi call e then [e] else []) := by
  cases life with
  | inserted id =>
    cases h with
    | inserting => simpa [ofApi] using ApiTrace.reading id
    | duplicate after | failed _ _ after => simp [late] at after
    | diedInserting after | diedCreated _ after => simp [dead] at after
  | refused =>
    cases h with
    | inserting =>
      have last : ApiTrace call .lookingUp _ := ApiTrace.duplicate rfl
      simpa [ofApi] using last
    | duplicate after | failed _ _ after => simp [late] at after
    | diedInserting after | diedCreated _ after => simp [dead] at after
  | read payment =>
    cases h with
    | reading _ => simpa [ofApi] using ApiTrace.enqueuing payment
    | duplicate after | failed _ _ after => simp [late] at after
    | diedInserting after | diedCreated _ after => simp [dead] at after
  | unread id =>
    cases h with
    | reading _ =>
      have last : ApiTrace call (.threw undefinedPayment) _ := ApiTrace.diedCreated id rfl
      simpa [ofApi] using last
    | duplicate after | failed _ _ after => simp [late] at after
    | diedInserting after | diedCreated _ after => simp [dead] at after
  | enqueued payment =>
    cases h with
    | enqueuing _ => simpa [ofApi] using ApiTrace.created payment
    | duplicate after | failed _ _ after => simp [late] at after
    | diedInserting after | diedCreated _ after => simp [dead] at after
  | enqueueThrew payment err =>
    cases h with
    | enqueuing _ => simpa [ofApi] using ApiTrace.failed payment.id err (caught_late err)
    | duplicate after | failed _ _ after => simp [late] at after
    | diedInserting after | diedCreated _ after => simp [dead] at after
  | lookedUp payment =>
    have done : late (.returned payment false) = true := rfl
    simp only [ofApi, Bool.false_eq_true, if_false, List.append_nil]
    cases h with
    | duplicate _ => exact ApiTrace.duplicate done
    | failed id err _ => exact ApiTrace.failed id err done
    | diedInserting after | diedCreated _ after => simp [dead] at after
  | crash running =>
    have done : late .crashed = true := rfl
    have gone : dead .crashed = true := rfl
    simp only [ofApi, Bool.false_eq_true, if_false, List.append_nil]
    cases h with
    | inserting => exact ApiTrace.diedInserting gone
    | reading id => exact ApiTrace.diedCreated id gone
    | enqueuing payment => exact ApiTrace.diedCreated payment.id gone
    | created payment => simp [ApiPhase.over] at running
    | duplicate _ => exact ApiTrace.duplicate done
    | failed id err _ => exact ApiTrace.failed id err done
    | diedInserting _ => exact ApiTrace.diedInserting gone
    | diedCreated id _ => exact ApiTrace.diedCreated id gone

theorem apiTrace_snoc (call : Nat) (history : List Event) (e : Event) :
    apiTrace call (history ++ [e]) = apiTrace call history ++ if ofApi call e then [e] else [] := by
  cases mine : ofApi call e <;> simp [apiTrace, mine]

theorem mem_apiTrace {call : Nat} {history : List Event} {e : Event} :
    e ∈ apiTrace call history ↔ e ∈ history ∧ ofApi call e = true := by
  simp [apiTrace]

theorem api_unlabelled {e : Event} (outside : byApi e = false) (call : Nat) :
    ofApi call e = false := by
  cases e with
  | enqueue source pid error => cases source <;> simp_all [byApi, ofApi]
  | _ => simp_all [byApi, ofApi]

theorem api_life_label {call : Nat} {before after : ApiPhase} {e : Event}
    (life : ApiLife call before e after) {other : Nat} (apart : other ≠ call) :
    ofApi other e = false := by
  cases life <;> simp [ofApi, Ne.symm apart]

def ApiTraced (history : List Event) (s : System) : Prop :=
  ∀ call, match s.calls call with
    | none => apiTrace call history = []
    | some c => ApiTrace call c.phase (apiTrace call history)

theorem api_traced_step {history : List Event} {s t : System} {e : Event}
    (h : ApiTraced history s) (move : CallsMove s t e) : ApiTraced (history ++ [e]) t := by
  intro other
  have before := h other
  rw [apiTrace_snoc]
  cases move with
  | frame same outside =>
    rw [same, api_unlabelled outside]
    simpa using before
  | start call c fresh begun inserting label =>
    subst label
    rw [begun, set_apply]
    by_cases same : other = call
    · rw [same, fresh] at before
      rw [if_pos same, same, before]
      simpa [inserting, ofApi] using ApiTrace.inserting
    · rw [if_neg same]
      simpa [ofApi] using before
  | work call c move phase db queue present moved committed spec =>
    have life := api_life spec
    rw [moved, set_apply]
    by_cases same : other = call
    · rw [same, present] at before
      rw [if_pos same, same]
      exact api_trace_step before life
    · rw [if_neg same, api_life_label life same]
      simpa using before

theorem run_api_traced {allowed : System → Action → Prop} {history : List Event} {s : System}
    (run : Run (Does exec allowed) System.init history s) : ApiTraced history s := by
  apply run_invariant ApiTraced ?_ ?_ run
  · intro call
    rfl
  · intro h u e t inv step
    exact api_traced_step inv (does_calls step)

theorem traced_api {history : List Event} {s : System} (h : ApiTraced history s) {call : Nat}
    {c : ApiCall} (present : s.calls call = some c) :
    ApiTrace call c.phase (apiTrace call history) := by
  have mine := h call
  rwa [present] at mine

/-- The row with this id was written by an INSERT with the terms of this call. -/
structure Made (c : ApiCall) (id : Nat) (p : Payment) : Prop where
  id : p.id = id
  key : p.idempotencyKey = c.request.idempotencyKey
  amount : p.amount = c.request.amount
  currency : p.currency = c.request.currency
  maxAttempts : p.maxAttempts = c.config.maxPaymentAttempts

theorem made_terms {c : ApiCall} {id : Nat} {p q : Payment} (h : Made c id p)
    (same : terms q = terms p) : Made c id q := by
  simp only [terms, Prod.mk.injEq] at same
  obtain ⟨sameId, key, amount, currency, maxAttempts, -⟩ := same
  exact ⟨sameId.trans h.id, key.trans h.key, amount.trans h.amount, currency.trans h.currency,
    maxAttempts.trans h.maxAttempts⟩

theorem made_by {c c' : ApiCall} {id : Nat} {p : Payment} (h : Made c id p)
    (request : c'.request = c.request) (config : c'.config = c.config) : Made c' id p := by
  obtain ⟨sameId, key, amount, currency, maxAttempts⟩ := h
  rw [← request] at key amount currency
  rw [← config] at maxAttempts
  exact ⟨sameId, key, amount, currency, maxAttempts⟩

/-- Every row has one creator, and its terms are those of that call. -/
structure Creators (history : List Event) (s : System) : Prop where
  made : ∀ call id, .insert call (some id) ∈ history →
    ∃ c p, s.calls call = some c ∧ row s id = some p ∧ Made c id p
  owned : ∀ id p, row s id = some p → ∃ call, .insert call (some id) ∈ history
  once : ∀ call other id, .insert call (some id) ∈ history → .insert other (some id) ∈ history →
    call = other

theorem creator_of {history : List Event} {s : System} (h : Creators history s) {id : Nat}
    {p : Payment} (found : row s id = some p) :
    ∃ call c, .insert call (some id) ∈ history ∧ s.calls call = some c ∧ Made c id p := by
  obtain ⟨call, inserted⟩ := h.owned id p found
  obtain ⟨c, p', present, found', made⟩ := h.made call id inserted
  obtain rfl : p = p' := Option.some.inj (found.symm.trans found')
  exact ⟨call, c, inserted, present, made⟩

theorem call_kept {s t : System} {e : Event} (move : CallsMove s t e) {call : Nat} {c : ApiCall}
    (present : s.calls call = some c) :
    ∃ c', t.calls call = some c' ∧ c'.request = c.request ∧ c'.config = c.config := by
  cases move with
  | frame same outside => exact ⟨c, by rw [same, present], rfl, rfl⟩
  | start other c' fresh begun inserting label =>
    have apart : call ≠ other := fresh_apart present fresh
    exact ⟨c, by rw [begun, set_apply, if_neg apart, present], rfl, rfl⟩
  | work other c' move phase db queue here moved committed spec =>
    by_cases same : call = other
    · rw [same, here] at present
      obtain rfl := Option.some.inj present
      exact ⟨{ c' with phase }, by rw [moved, set_apply, if_pos same], rfl, rfl⟩
    · exact ⟨c, by rw [moved, set_apply, if_neg same, present], rfl, rfl⟩

theorem insert_step {s t : System} {call id : Nat} (move : CallsMove s t (.insert call (some id))) :
    ∃ c, s.calls call = some c ∧ row s id = none ∧ ∃ p, row t id = some p ∧ Made c id p := by
  obtain ⟨c, present, -, wrote⟩ := inserting_call move
  obtain ⟨free, shape⟩ := insertPayment_some wrote
  refine ⟨c, present, free, newPayment c.request.idempotencyKey c.request.amount
    c.request.currency c.config.maxPaymentAttempts s.now id, ?_, ⟨rfl, rfl, rfl, rfl, rfl⟩⟩
  rw [row, shape]
  exact if_pos rfl

theorem row_origin {db db' : Database} {e : Event} (commit : Commit db e db') {id : Nat}
    {q : Payment} (found : db'.payments.find id = some q) :
    (∃ p, db.payments.find id = some p) ∨ ∃ call, e = .insert call (some id) := by
  have move := commit_row commit id
  rw [found] at move
  generalize db.payments.find id = before at move ⊢
  cases move with
  | stay quiet => exact Or.inl ⟨q, rfl⟩
  | create call => exact Or.inr ⟨call, rfl⟩
  | write w => exact Or.inl ⟨_, rfl⟩

theorem creators_step {history : List Event} {s t : System} {e : Event} (h : Creators history s)
    (commit : Commit s.db e t.db) (move : CallsMove s t e) : Creators (history ++ [e]) t := by
  have earlier : ∀ call id, .insert call (some id) ∈ history →
      ∃ c p, t.calls call = some c ∧ row t id = some p ∧ Made c id p := by
    intro call id there
    obtain ⟨c, p, present, found, made⟩ := h.made call id there
    obtain ⟨c', still, request, config⟩ := call_kept move present
    obtain ⟨q, after, same, -⟩ := PaymentLifecycle.commit_follows_table commit found
    exact ⟨c', q, still, after, made_by (made_terms made same) request config⟩
  have fresh : ∀ call id, .insert call (some id) = e → row s id = none := by
    intro call id label
    subst label
    obtain ⟨c, -, free, -⟩ := insert_step move
    exact free
  constructor
  · intro call id there
    rcases List.mem_append.mp there with old | new
    · exact earlier call id old
    · obtain rfl : .insert call (some id) = e := by simpa using new
      obtain ⟨c, present, -, p, found, made⟩ := insert_step move
      obtain ⟨c', still, request, config⟩ := call_kept move present
      exact ⟨c', p, still, found, made_by made request config⟩
  · intro id q found
    rcases row_origin commit found with ⟨p, before⟩ | ⟨call, rfl⟩
    · obtain ⟨call, there⟩ := h.owned id p before
      exact ⟨call, List.mem_append_left _ there⟩
    · exact ⟨call, by simp⟩
  · intro call other id there thereOther
    -- an id inserted before has its row, so no later INSERT gets it
    have taken : ∀ c, .insert c (some id) ∈ history → row s id ≠ none := by
      intro c old absent
      obtain ⟨-, p, -, found, -⟩ := h.made c id old
      rw [absent] at found
      simp at found
    rcases List.mem_append.mp there with old | new <;>
      rcases List.mem_append.mp thereOther with oldOther | newOther
    · exact h.once call other id old oldOther
    · exact absurd (fresh other id (by simpa using newOther)) (taken call old)
    · exact absurd (fresh call id (by simpa using new)) (taken other oldOther)
    · have first : .insert call (some id) = e := by simpa using new
      have second : .insert other (some id) = e := by simpa using newOther
      rw [← second] at first
      simpa using first

theorem run_creators {allowed : System → Action → Prop} {history : List Event} {s : System}
    (run : Run (Does exec allowed) System.init history s) : Creators history s := by
  apply run_invariant Creators ?_ ?_ run
  · constructor
    · intro call id there
      simp at there
    · intro id p found
      simp at found
    · intro call other id there
      simp at there
  · intro h u e t inv step
    exact creators_step inv (does_commit step) (does_calls step)

/-- The payment in the hands of a call is a reading of a row under the call's key. -/
def Reads (s : System) (key : String) (p : Payment) : Prop :=
  p.idempotencyKey = key ∧ ∃ q, row s p.id = some q ∧ terms q = terms p

theorem reads_row {s : System} {key : String} {p : Payment} (h : Reads s key p) :
    ∃ q, row s p.id = some q ∧ q.idempotencyKey = key := by
  obtain ⟨keyed, q, found, same⟩ := h
  simp only [terms, Prod.mk.injEq] at same
  exact ⟨q, found, same.2.1.trans keyed⟩

def PhaseData (history : List Event) (s : System) (call : Nat) (key : String) : ApiPhase → Prop
  | .enqueuing payment => Reads s key payment
  | .lookingUp => ∃ id p, row s id = some p ∧ p.idempotencyKey = key
  | .returned payment _ => ∃ p, payment = some p ∧ Reads s key p
  | .threw _ => ∃ id err, .enqueue (.api call) id (some err) ∈ history
  | _ => True

theorem reads_kept {s t : System} {e : Event} (commit : Commit s.db e t.db) {key : String}
    {p : Payment} (h : Reads s key p) : Reads t key p := by
  obtain ⟨keyed, q, found, same⟩ := h
  obtain ⟨q', after, kept, -⟩ := PaymentLifecycle.commit_follows_table commit found
  exact ⟨keyed, q', after, kept.trans same⟩

theorem phase_data_kept {history : List Event} {s t : System} {e : Event}
    (commit : Commit s.db e t.db) {call : Nat} {key : String} {phase : ApiPhase}
    (h : PhaseData history s call key phase) : PhaseData (history ++ [e]) t call key phase := by
  cases phase with
  | enqueuing payment => exact reads_kept commit h
  | lookingUp =>
    obtain ⟨id, p, found, keyed⟩ := h
    obtain ⟨q, after, same, -⟩ := PaymentLifecycle.commit_follows_table commit found
    simp only [terms, Prod.mk.injEq] at same
    exact ⟨id, q, after, same.2.1.trans keyed⟩
  | returned payment created =>
    obtain ⟨p, rfl, reads⟩ := h
    exact ⟨p, rfl, reads_kept commit reads⟩
  | threw err =>
    obtain ⟨id, err', there⟩ := h
    exact ⟨id, err', List.mem_append_left _ there⟩
  | _ => trivial

theorem reading_made {history : List Event} {s : System} (traced : ApiTraced history s)
    (creators : Creators history s) {call id : Nat} {c : ApiCall} (present : s.calls call = some c)
    (here : c.phase = .reading id) : ∃ p, row s id = some p ∧ Made c id p := by
  have steps := traced_api traced present
  rw [here] at steps
  generalize labels : apiTrace call history = seen at steps
  have inserted : .insert call (some id) ∈ history := by
    cases steps with
    | reading _ =>
      have listed : .insert call (some id) ∈ apiTrace call history := by simp [labels]
      exact (mem_apiTrace.mp listed).1
    | duplicate after | failed _ _ after => simp [late] at after
    | diedInserting after | diedCreated _ after => simp [dead] at after
  obtain ⟨c', p, present', found, made⟩ := creators.made call id inserted
  obtain rfl : c = c' := Option.some.inj (present.symm.trans present')
  exact ⟨p, found, made⟩

theorem phase_data_step {history : List Event} {s : System} {call : Nat} {c : ApiCall}
    {move : ApiMove} {e : Event} {db : Database} {queue : PaymentQueue} {phase : ApiPhase}
    (traced : ApiTraced history s) (creators : Creators history s)
    (present : s.calls call = some c)
    (h : PhaseData history s call c.request.idempotencyKey c.phase)
    (spec : ApiSpec s.now s.db s.queue call c move e db queue phase) (t : System)
    (committed : t.db = db) :
    PhaseData (history ++ [e]) t call c.request.idempotencyKey phase := by
  cases spec with
  | inserted here wrote => trivial
  | refused here wrote =>
    obtain ⟨same, i, p, found, keyed⟩ := insertPayment_none wrote
    refine ⟨i, p, ?_, keyed⟩
    rw [row, committed, same]
    exact found
  | read here found =>
    obtain ⟨p, found', made⟩ := reading_made traced creators present here
    obtain rfl := Option.some.inj (found.symm.trans found')
    refine ⟨made.key, _, ?_, rfl⟩
    rw [row, committed, made.id]
    exact found
  | unread here absent =>
    obtain ⟨p, found, -⟩ := reading_made traced creators present here
    rw [row, absent] at found
    simp at found
  | enqueued here =>
    rw [here] at h
    obtain ⟨keyed, q, found, same⟩ := h
    refine ⟨_, rfl, keyed, q, ?_, same⟩
    rw [row, committed]
    exact found
  | @enqueueThrew payment err here =>
    rw [here] at h
    obtain ⟨q, found, keyed⟩ := reads_row h
    unfold caught
    split
    · refine ⟨payment.id, q, ?_, keyed⟩
      rw [row, committed]
      exact found
    · exact ⟨payment.id, err, by simp⟩
  | lookedUp here =>
    rw [here] at h
    obtain ⟨id, p, found, keyed⟩ := h
    refine ⟨p, ?_, keyed, p, ?_, rfl⟩
    · rw [← keyed]
      exact findByIdempotencyKey_found s.db found
    · rw [row, committed, payment_id s.db found]
      exact found
  | crash running => trivial

def CallsData (history : List Event) (s : System) : Prop :=
  ∀ call c, s.calls call = some c → PhaseData history s call c.request.idempotencyKey c.phase

theorem calls_data_step {history : List Event} {s t : System} {e : Event}
    (h : CallsData history s) (traced : ApiTraced history s) (creators : Creators history s)
    (commit : Commit s.db e t.db) (move : CallsMove s t e) : CallsData (history ++ [e]) t := by
  intro call c present
  cases move with
  | frame same outside =>
    rw [same] at present
    exact phase_data_kept commit (h call c present)
  | start other c' fresh begun inserting label =>
    rw [begun] at present
    rcases set_some present with ⟨-, rfl⟩ | ⟨-, old⟩
    · rw [inserting]
      trivial
    · exact phase_data_kept commit (h call c old)
  | work other c' move phase db queue here moved committed spec =>
    rw [moved] at present
    rcases set_some present with ⟨rfl, rfl⟩ | ⟨-, old⟩
    · exact phase_data_step traced creators here (h call c' here) spec t committed
    · exact phase_data_kept commit (h call c old)

theorem run_calls_data {allowed : System → Action → Prop} {history : List Event} {s : System}
    (run : Run (Does exec allowed) System.init history s) : CallsData history s := by
  apply run_induction CallsData ?_ ?_ run
  · intro call c present
    simp [System.init] at present
  · intro h u e t before inv step
    exact calls_data_step inv (run_api_traced before) (run_creators before) (does_commit step)
      (does_calls step)

/-- The call ran to completion: it returned or it threw. -/
def Completed (c : ApiCall) : Prop :=
  (∃ payment created, c.phase = .returned payment created) ∨ ∃ err, c.phase = .threw err

def EnqueueThrew (call : Nat) (history : List Event) : Prop :=
  ∃ id err, .enqueue (.api call) id (some err) ∈ history

/-- A creator that completed without a failed enqueue reports what it created. -/
theorem creator_reports {history : List Event} {s : System} (traced : ApiTraced history s)
    (data : CallsData history s) {call id : Nat} {c : ApiCall} (present : s.calls call = some c)
    (inserted : .insert call (some id) ∈ history) (completed : Completed c)
    (healthy : ¬ EnqueueThrew call history) :
    ∃ p, c.phase = .returned (some p) true ∧ p.id = id := by
  have steps := traced_api traced present
  have facts := data call c present
  have listed : .insert call (some id) ∈ apiTrace call history :=
    mem_apiTrace.mpr ⟨inserted, by simp [ofApi]⟩
  have threw : ∀ other err, .enqueue (.api call) other (some err) ∉ apiTrace call history := by
    intro other err there
    exact healthy ⟨other, err, (mem_apiTrace.mp there).1⟩
  have finished : (∃ payment created, c.phase = .returned payment created) := by
    rcases completed with returned | ⟨err, ended⟩
    · exact returned
    · rw [ended] at facts
      exact absurd facts healthy
  generalize apiTrace call history = labels at steps listed threw
  generalize c.phase = phase at steps finished
  obtain ⟨payment, created, rfl⟩ := finished
  cases steps with
  | created p =>
    obtain rfl : id = p.id := by simpa using listed
    exact ⟨p, rfl, rfl⟩
  | duplicate after => simp at listed
  | failed other err after => exact absurd (by simp) (threw other err)
  | diedInserting after => simp at listed
  | diedCreated _ after => simp [dead] at after

theorem reporter_created {history : List Event} {s : System} (traced : ApiTraced history s)
    {call : Nat} {c : ApiCall} (present : s.calls call = some c) {p : Payment}
    (here : c.phase = .returned (some p) true) :
    .insert call (some p.id) ∈ history ∧ .enqueue (.api call) p.id none ∈ history := by
  have steps := traced_api traced present
  rw [here] at steps
  have listed : ∀ e, e ∈ apiTrace call history → e ∈ history := by
    intro e there
    exact (mem_apiTrace.mp there).1
  generalize apiTrace call history = labels at steps listed
  cases steps with
  | created _ => exact ⟨listed _ (by simp), listed _ (by simp)⟩
  | duplicate after | failed _ _ after => simp [late] at after
  | diedInserting after | diedCreated _ after => simp [dead] at after

structure Idempotent (history : List Event) (s : System) : Prop where
  unique : ∀ i j p q, row s i = some p → row s j = some q →
    p.idempotencyKey = q.idempotencyKey → i = j
  defined : ∀ call c payment created, s.calls call = some c →
    c.phase = .returned payment created →
    ∃ p, payment = some p ∧ p.idempotencyKey = c.request.idempotencyKey ∧
      ∃ q, row s p.id = some q ∧ terms q = terms p
  same : ∀ call call' c c' p p' created created', s.calls call = some c →
    s.calls call' = some c' → c.phase = .returned (some p) created →
    c'.phase = .returned (some p') created' →
    c.request.idempotencyKey = c'.request.idempotencyKey → p.id = p'.id
  atMostOne : ∀ call call' c c' p p', s.calls call = some c → s.calls call' = some c' →
    c.phase = .returned (some p) true → c'.phase = .returned (some p') true →
    c.request.idempotencyKey = c'.request.idempotencyKey → call = call'
  exactlyOne : ∀ key,
    (∃ call c, s.calls call = some c ∧ c.request.idempotencyKey = key) →
    (∀ call c, s.calls call = some c → c.request.idempotencyKey = key →
      Completed c ∧ ¬ EnqueueThrew call history) →
    ∃ call c p, s.calls call = some c ∧ c.request.idempotencyKey = key ∧
      c.phase = .returned (some p) true
  -- the columns of the creating INSERT, now and later
  written : ∀ id p, row s id = some p →
    ∃ call c, .insert call (some id) ∈ history ∧ s.calls call = some c ∧ Made c id p
  kept : ∀ later t, Run Step s later t → ∀ id p, row s id = some p →
    ∃ q, row t id = some q ∧ terms q = terms p

theorem returned_reads {history : List Event} {s : System} (data : CallsData history s) {call : Nat}
    {c : ApiCall} (present : s.calls call = some c) {payment : Option Payment} {created : Bool}
    (here : c.phase = .returned payment created) :
    ∃ p, payment = some p ∧ Reads s c.request.idempotencyKey p := by
  have facts := data call c present
  rwa [here] at facts

theorem same_payment {history : List Event} {s : System} (data : CallsData history s)
    {call call' : Nat} {c c' : ApiCall} (present : s.calls call = some c)
    (present' : s.calls call' = some c') {p p' : Payment} {created created' : Bool}
    (here : c.phase = .returned (some p) created) (here' : c'.phase = .returned (some p') created')
    (key : c.request.idempotencyKey = c'.request.idempotencyKey) : p.id = p'.id := by
  obtain ⟨r, eq, reads⟩ := returned_reads data present here
  obtain ⟨r', eq', reads'⟩ := returned_reads data present' here'
  obtain rfl := Option.some.inj eq
  obtain rfl := Option.some.inj eq'
  obtain ⟨q, found, keyed⟩ := reads_row reads
  obtain ⟨q', found', keyed'⟩ := reads_row reads'
  have rowKey : q.idempotencyKey = q'.idempotencyKey := by rw [keyed, keyed', key]
  exact s.db.payments.distinct _ _ q q' found found' rowKey

/-- When a call with the key has returned or thrown, the key has a row, unless
    its enqueue threw. -/
theorem completed_filed {history : List Event} {s : System} (data : CallsData history s)
    {call : Nat} {c : ApiCall} (present : s.calls call = some c) (completed : Completed c)
    (healthy : ¬ EnqueueThrew call history) :
    ∃ id p, row s id = some p ∧ p.idempotencyKey = c.request.idempotencyKey := by
  rcases completed with ⟨payment, created, here⟩ | ⟨err, here⟩
  · obtain ⟨p, -, reads⟩ := returned_reads data present here
    obtain ⟨q, found, keyed⟩ := reads_row reads
    exact ⟨p.id, q, found, keyed⟩
  · have facts := data call c present
    rw [here] at facts
    exact absurd facts healthy

theorem creation_idempotent {history : List Event} {s : System}
    (run : Run Step System.init history s) : Idempotent history s := by
  have traced := run_api_traced run
  have creators := run_creators run
  have data := run_calls_data run
  constructor
  · exact s.db.payments.distinct
  · intro call c payment created present here
    obtain ⟨p, rfl, keyed, stored⟩ := returned_reads data present here
    exact ⟨p, rfl, keyed, stored⟩
  · intro call call' c c' p p' created created' present present' here here' key
    exact same_payment data present present' here here' key
  · intro call call' c c' p p' present present' here here' key
    have ids := same_payment data present present' here here' key
    have first := (reporter_created traced present here).1
    have second := (reporter_created traced present' here').1
    rw [← ids] at second
    exact creators.once call call' p.id first second
  · intro key ⟨call, c, present, keyed⟩ all
    -- the key has a row, the row a creator, and the creator reports it
    obtain ⟨completed, healthy⟩ := all call c present keyed
    obtain ⟨id, p, found, rowKey⟩ := completed_filed data present completed healthy
    obtain ⟨creator, c', inserted, present', made⟩ := creator_of creators found
    have keyed' : c'.request.idempotencyKey = key := made.key.symm.trans (rowKey.trans keyed)
    obtain ⟨completed', healthy'⟩ := all creator c' present' keyed'
    obtain ⟨q, here, -⟩ := creator_reports traced data present' inserted completed' healthy'
    exact ⟨creator, c', q, present', keyed', here⟩
  · intro id p found
    exact creator_of creators found
  · intro later t rest id p found
    obtain ⟨q, after, kept, -⟩ := PaymentLifecycle.run_refines_table rest found
    exact ⟨q, after, kept⟩

def sameKeyRun : List Action :=
  [.initiate 0 ⟨3, 60000, 3000⟩ ⟨"order-123", 4200, "INR"⟩,
    .initiate 1 ⟨5, 60000, 3000⟩ ⟨"order-123", 9900, "USD"⟩,
    .api 0 .insert, .api 1 .insert, .api 0 .read, .api 1 .lookUp, .api 0 (.enqueue none)]

theorem same_key_created_once :
    Idempotent (replay exec Action.any System.init sameKeyRun).1
        (replay exec Action.any System.init sameKeyRun).2 ∧
      (row (replay exec Action.any System.init sameKeyRun).2 1).map terms =
        some (1, "order-123", 4200, "INR", 3, 0) :=
  ⟨creation_idempotent (replay_run exec Action.any System.init sameKeyRun), by decide⟩

end IdempotentCreation
