import PaymentProcessing.IdempotentCreation
import PaymentProcessing.AttemptAccounting

/-!
What a client is told about its payment. A response carries a reading of the
row, taken while the request was served and answered some time later. Readings
are compared by what the row can do in between: a request sent after an answer
never reports anything older than that answer.
-/
namespace ClientReadings
open TransitionRuns PaymentStateMachine PaymentRepositories PaymentService PaymentTransactions
open PaymentSystem SystemSteps AttemptAccounting IdempotentCreation

/-- `q` may be read from the row that `p` was read from, at the same time or later. -/
structure Behind (p q : Payment) : Prop where
  terms : terms q = terms p
  attempts : p.attempts ≤ q.attempts
  moves : Relation.ReflTransGen Move p.status q.status
  frozen : isTerminal p.status = true → q = p

theorem behind_refl (p : Payment) : Behind p p :=
  ⟨rfl, Nat.le_refl _, Relation.ReflTransGen.refl, fun _ => rfl⟩

theorem behind_trans {p q r : Payment} (first : Behind p q) (second : Behind q r) :
    Behind p r := by
  constructor
  · exact second.terms.trans first.terms
  · exact Nat.le_trans first.attempts second.attempts
  · exact first.moves.trans second.moves
  · intro settled
    have same := first.frozen settled
    rw [← same] at settled
    exact (second.frozen settled).trans same

theorem write_behind {id : Nat} {p q : Payment} {e : Event} (w : Write id p e q) :
    Behind p q := by
  have unsettled := PaymentLifecycle.no_write_settled w
  constructor
  · exact write_terms w
  · rcases write_kinds w with ⟨-, -, more, -⟩ | ⟨-, -, same, -⟩ | ⟨-, -, same, -⟩ <;> omega
  · exact Relation.ReflTransGen.single (write_legal w)
  · intro settled
    rw [unsettled] at settled
    simp at settled

theorem run_behind {s t : System} {later : List Event} (run : Run Step s later t) {id : Nat}
    {p : Payment} (found : row s id = some p) : ∃ q, row t id = some q ∧ Behind p q := by
  induction run with
  | nil => exact ⟨p, found, behind_refl p⟩
  | snoc before last ih =>
    obtain ⟨m, atMid, earlier⟩ := ih
    obtain ⟨q, after, ⟨rfl, -⟩ | w⟩ := commit_keeps_row (does_commit last) atMid
    · exact ⟨_, after, earlier⟩
    · exact ⟨q, after, behind_trans earlier (write_behind w)⟩

def inHand : ApiPhase → Option Payment
  | .enqueuing payment => some payment
  | .returned payment _ => payment
  | _ => none

theorem held_answer {phase : ApiPhase} {status : PaymentStatus} (ended : phase.over = true)
    (holds : (inHand phase).map Payment.status = some status) :
    ∃ p created, phase = .returned (some p) created ∧ p.status = status := by
  obtain ⟨p, there, held⟩ := Option.map_eq_some_iff.mp holds
  cases phase with
  | returned payment created =>
    obtain rfl : payment = some p := there
    exact ⟨p, created, rfl, held⟩
  | enqueuing payment => cases ended
  | _ => cases there

theorem caught_emptyHanded (err : JsError) : inHand (caught err) = none := by
  unfold caught
  split <;> rfl

theorem inHand_step {now : Nat} {db db' : Database} {queue queue' : PaymentQueue} {call : Nat}
    {c : ApiCall} {move : ApiMove} {e : Event} {phase : ApiPhase} {p : Payment}
    (spec : ApiSpec now db queue call c move e db' queue' phase) (holds : inHand phase = some p) :
    inHand c.phase = some p ∨ db.payments.find p.id = some p := by
  cases spec with
  | read here found =>
    obtain rfl := Option.some.inj holds
    rw [payment_id db found]
    exact Or.inr found
  | enqueued here =>
    rw [here]
    exact Or.inl holds
  | enqueueThrew err here =>
    rw [caught_emptyHanded] at holds
    cases holds
  | lookedUp here =>
    exact Or.inr (KeyedTable.findKey_some db.payments holds).1
  | _ => cases holds

/-- A moment of a run at which the row was as the reading says. -/
def ReadBetween (m : System) (later : List Event) (s : System) (p : Payment) : Prop :=
  ∃ first rest u, later = first ++ rest ∧ Run Step m first u ∧ Run Step u rest s ∧
    row u p.id = some p

theorem readBetween_later {m s t : System} {later : List Event} {e : Event} {p : Payment}
    (h : ReadBetween m later s p) (step : Step s e t) : ReadBetween m (later ++ [e]) t p := by
  obtain ⟨first, rest, u, rfl, before, after, found⟩ := h
  exact ⟨first, rest ++ [e], u, by simp, before, Run.snoc after step, found⟩

theorem reading_behind {m s : System} {later : List Event} {p q : Payment}
    (taken : ReadBetween m later s q) (found : row m q.id = some p) : Behind p q := by
  obtain ⟨first, rest, u, -, before, -, atU⟩ := taken
  obtain ⟨q', there, behind⟩ := run_behind before found
  obtain rfl := Option.some.inj (atU.symm.trans there)
  exact behind

/-- A call holds nothing that was not in its row while the call went on. -/
theorem reading_taken {m s : System} {later : List Event} (run : Run Step m later s) {call : Nat}
    (unsent : m.calls call = none) {c : ApiCall} {p : Payment} (present : s.calls call = some c)
    (holds : inHand c.phase = some p) : ReadBetween m later s p := by
  induction run generalizing c with
  | nil => simp [unsent] at present
  | @snoc history u t e before last ih =>
    cases does_calls last with
    | frame same outside =>
      rw [same] at present
      exact readBetween_later (ih present holds) last
    | start other c' fresh begun inserting label =>
      rw [begun] at present
      rcases set_some present with ⟨-, rfl⟩ | ⟨-, old⟩
      · rw [inserting] at holds
        cases holds
      · exact readBetween_later (ih old holds) last
    | work other c' move phase db queue here moved committed spec =>
      rw [moved] at present
      rcases set_some present with ⟨rfl, rfl⟩ | ⟨-, old⟩
      · rcases inHand_step spec holds with held | found
        · exact readBetween_later (ih here held) last
        · exact ⟨history, [e], u, rfl, before, run_single last, found⟩
      · exact readBetween_later (ih old holds) last

theorem run_reads {m s : System} {later : List Event} (run : Run Step m later s) {key : String}
    {p : Payment} (reads : Reads m key p) : Reads s key p := by
  induction run with
  | nil => exact reads
  | snoc before last ih => exact reads_kept (does_commit last) ih

/-- A call that throws has inserted a row: only its own enqueue throws. -/
theorem thrower_created {history : List Event} {s : System} (traced : ApiTraced history s)
    (data : CallsData history s) {call : Nat} {c : ApiCall} (present : s.calls call = some c)
    {err : JsError} (here : c.phase = .threw err) : ∃ id, .insert call (some id) ∈ history := by
  have steps := traced_api traced present
  have facts := data call c present
  rw [here] at steps facts
  obtain ⟨id, thrown, failed⟩ := facts
  have listed : .enqueue (.api call) id (some thrown) ∈ apiTrace call history :=
    mem_apiTrace.mpr ⟨failed, by simp [ofApi]⟩
  have back : ∀ e, e ∈ apiTrace call history → e ∈ history := by
    intro e there
    exact (mem_apiTrace.mp there).1
  generalize apiTrace call history = labels at steps listed back
  cases steps with
  | failed other err after => exact ⟨other, back _ (by simp)⟩
  | duplicate after => simp at listed
  | diedInserting after | diedCreated _ after => simp at listed

theorem key_taken {before later : List Event} {m s : System}
    (first : Run Step System.init before m) (rest : Run Step m later s) {call id : Nat}
    {c : ApiCall} (unsent : m.calls call = none) (present : s.calls call = some c) {p : Payment}
    (reads : Reads m c.request.idempotencyKey p) : .insert call (some id) ∉ before ++ later := by
  intro inserted
  have whole := run_creators (run_append first rest)
  obtain ⟨c', x, present', found, made⟩ := whole.made call id inserted
  obtain rfl := Option.some.inj (present.symm.trans present')
  obtain ⟨y, atM, keyed⟩ := reads_row reads
  obtain ⟨z, atEnd, keyed'⟩ := reads_row (run_reads rest reads)
  obtain rfl : p.id = id :=
    s.db.payments.distinct _ _ z x atEnd found (keyed'.trans made.key.symm)
  obtain ⟨creator, owner, earlier, sent, -⟩ := creator_of (run_creators first) atM
  obtain rfl := whole.once call creator p.id inserted (List.mem_append_left _ earlier)
  rw [unsent] at sent
  cases sent

/-- Of two requests with one key the second is sent after the first was answered:
    it is answered 200 with a reading that is not the older one. -/
theorem later_responses_follow {before later : List Event} {m s : System}
    (first : Run Step System.init before m) (rest : Run Step m later s) {call call' : Nat}
    {c c' : ApiCall} (sent : m.calls call = some c) (unsent : m.calls call' = none)
    (present : s.calls call' = some c')
    (key : c.request.idempotencyKey = c'.request.idempotencyKey) {payment : Option Payment}
    {created : Bool} (answered : c.phase = .returned payment created) (completed : Completed c') :
    ∃ p q, payment = some p ∧ c'.phase = .returned (some q) false ∧ Behind p q ∧
      ReadBetween m later s q := by
  have whole := run_append first rest
  have data := run_calls_data whole
  obtain ⟨p, rfl, reads⟩ := returned_reads (run_calls_data first) sent answered
  rw [key] at reads
  have creates : ∀ id, .insert call' (some id) ∉ before ++ later :=
    fun id => key_taken first rest unsent present reads
  rcases completed with ⟨payment', created', here'⟩ | ⟨err, thrown⟩
  · obtain ⟨q, rfl, reads'⟩ := returned_reads data present here'
    have again : created' = false := by
      cases created' with
      | false => rfl
      | true => exact absurd (reporter_created (run_api_traced whole) present here').1 (creates _)
    rw [again] at here'
    -- both readings are of the row under the key
    obtain ⟨x, atEnd, keyed⟩ := reads_row (run_reads rest reads)
    obtain ⟨y, atEnd', keyed'⟩ := reads_row reads'
    have ids : p.id = q.id :=
      s.db.payments.distinct _ _ x y atEnd atEnd' (keyed.trans keyed'.symm)
    -- the first was in the row before m, the second after it
    obtain ⟨early, mid, u, -, -, toM, wasP⟩ :=
      reading_taken first (by simp [System.init]) sent (by rw [answered]; rfl)
    obtain ⟨r, atM, upToM⟩ := run_behind toM wasP
    have current := reading_taken rest unsent present (by rw [here']; rfl)
    rw [ids] at atM
    exact ⟨p, q, rfl, here', behind_trans upToM (reading_behind current atM), current⟩
  · obtain ⟨id, inserted⟩ := thrower_created (run_api_traced whole) data present thrown
    exact absurd inserted (creates id)

def askedEarly : List Action :=
  let config : Config := ⟨3, 60000, 3000⟩
  [.initiate 0 config ⟨"order-123", 4200, "INR"⟩, .api 0 .insert, .process 0 1,
    .worker 0 (.claim none), .api 0 .read, .api 0 (.enqueue none)]

def askedAgain : List Action :=
  [.worker 0 (.charge 3000 (attempt 3000 .success 0 "gw_abc")), .worker 0 .reply,
    .initiate 1 ⟨3, 60000, 3000⟩ ⟨"order-123", 4200, "INR"⟩, .worker 0 (.settle none),
    .api 1 .insert, .api 1 .lookUp]

theorem asked_again_follows : ∃ c' p q,
    (replay exec Action.any (replay exec Action.any System.init askedEarly).2
        askedAgain).2.calls 1 = some c' ∧
      c'.phase = .returned (some q) false ∧ Behind p q ∧
      p.status = .processing ∧ q.status = .success := by
  have first := replay_run exec Action.any System.init askedEarly
  have rest := replay_run exec Action.any
    (replay exec Action.any System.init askedEarly).2 askedAgain
  have sent : ((replay exec Action.any System.init askedEarly).2.calls 0).map
      (fun c => (c.request.idempotencyKey, (inHand c.phase).map Payment.status, c.phase.over)) =
      some ("order-123", some .processing, true) := by decide
  have present : ((replay exec Action.any
      (replay exec Action.any System.init askedEarly).2 askedAgain).2.calls 1).map
      (fun c => (c.request.idempotencyKey, (inHand c.phase).map Payment.status, c.phase.over)) =
      some ("order-123", some .success, true) := by decide
  obtain ⟨c, there, shape⟩ := Option.map_eq_some_iff.mp sent
  obtain ⟨c', there', shape'⟩ := Option.map_eq_some_iff.mp present
  simp only [Prod.mk.injEq] at shape shape'
  obtain ⟨key, charging, answered⟩ := shape
  obtain ⟨key', captured, completed⟩ := shape'
  obtain ⟨p, created, here, status⟩ := held_answer answered charging
  obtain ⟨q, created', here', status'⟩ := held_answer completed captured
  obtain ⟨p', q', same, again, behind, -⟩ := later_responses_follow first rest there (by decide)
    there' (key.trans key'.symm) here (Or.inl ⟨_, _, here'⟩)
  obtain rfl := Option.some.inj same
  rw [here'] at again
  obtain ⟨rfl, rfl⟩ : q = q' ∧ created' = false := by simpa using again
  exact ⟨c', p, q, there', here', behind, status, status'⟩

end ClientReadings
