import PaymentProcessing.ClaimExclusion
import PaymentProcessing.SettlementProvenance

/-!
What the retries come to. However many workers and jobs take part, and whichever
of them die, a payment that no callback, sweep or failed job interferes with is
at every moment what one sequential loop makes of the gateway's answers.
-/
namespace RetryLoop
open TransitionRuns PaymentStateMachine PaymentRepositories PaymentService PaymentTransactions
open PaymentSystem SystemSteps AttemptAccounting CallTraces ColumnCoherence ClaimExclusion
open SettlementProvenance

abbrev Answer := Except GatewayError ChargeResult

/-- Where a payment stands after some answers: `waiting` is not yet decided. -/
inductive Resolution where
  | waiting (attempts : Nat) (lastError : Option String)
  | captured (attempts : Nat) (providerRef : Option String)
  | failed (attempts : Nat) (lastError : Option String)
  deriving DecidableEq, Repr

/-- One more answer; a decided payment takes none. -/
def consult (maxAttempts : Nat) : Resolution → Answer → Option Resolution
  | .waiting attempts _, .ok result => some (.captured (attempts + 1) (some result.providerRef))
  | .waiting attempts _, .error err =>
    if err.retriable ∧ attempts + 1 < maxAttempts then
      some (.waiting (attempts + 1) (some err.reason))
    else some (.failed (attempts + 1) (some (lastErrorOf err)))
  | _, _ => none

def resolve (maxAttempts : Nat) (answers : List Answer) : Option Resolution :=
  answers.foldlM (consult maxAttempts) (.waiting 0 none)

theorem resolve_snoc (maxAttempts : Nat) (answers : List Answer) (answer : Answer) :
    resolve maxAttempts (answers ++ [answer]) =
      (resolve maxAttempts answers).bind (fun r => consult maxAttempts r answer) := by
  simp [resolve, List.foldlM_append]

def again : Answer → Bool
  | .ok _ => false
  | .error err => err.retriable

def Reads (maxAttempts : Nat) (answers : List Answer) : Resolution → Prop
  | .waiting attempts lastError =>
    attempts = answers.length ∧ (∀ a ∈ answers, again a = true) ∧
      (answers ≠ [] → attempts < maxAttempts) ∧
      (answers = [] → lastError = none)
  | .captured attempts providerRef =>
    ∃ failures result, answers = failures ++ [.ok result] ∧ attempts = answers.length ∧
      (∀ a ∈ failures, again a = true) ∧ (failures ≠ [] → failures.length < maxAttempts) ∧
      providerRef = some result.providerRef
  | .failed attempts lastError =>
    ∃ failures err, answers = failures ++ [.error err] ∧ attempts = answers.length ∧
      (∀ a ∈ failures, again a = true) ∧ (failures ≠ [] → failures.length < maxAttempts) ∧
      (err.retriable = true → maxAttempts ≤ attempts) ∧ lastError = some (lastErrorOf err)

theorem resolve_reads {maxAttempts : Nat} {answers : List Answer} {r : Resolution}
    (h : resolve maxAttempts answers = some r) : Reads maxAttempts answers r := by
  induction answers using List.reverseRecOn generalizing r with
  | nil =>
    obtain rfl : Resolution.waiting 0 none = r := by simpa [resolve] using h
    exact ⟨rfl, by simp, by simp, by simp⟩
  | append_singleton before answer ih =>
    rw [resolve_snoc] at h
    obtain ⟨r', earlier, last⟩ := Option.bind_eq_some_iff.mp h
    have reads := ih earlier
    cases r' with
    | captured attempts providerRef => simp [consult] at last
    | failed attempts lastError => simp [consult] at last
    | waiting attempts lastError =>
      obtain ⟨counted, retried, bounded, -⟩ := reads
      cases answer with
      | ok result =>
        obtain rfl : _ = r := by simpa [consult] using last
        exact ⟨before, result, rfl, by simp [counted], retried, counted ▸ bounded, rfl⟩
      | error err =>
        simp only [consult] at last
        split at last
        · rename_i more
          obtain rfl := Option.some.inj last
          refine ⟨by simp [counted], ?_, fun _ => more.2, by simp⟩
          intro a there
          rcases List.mem_append.mp there with old | new
          · exact retried a old
          · obtain rfl := List.mem_singleton.mp new
            exact more.1
        · rename_i final
          obtain rfl := Option.some.inj last
          refine ⟨before, err, rfl, by simp [counted], retried, counted ▸ bounded, ?_, rfl⟩
          intro retriable
          by_contra more
          exact final ⟨retriable, by omega⟩

/-- The answers that process() calls got for a payment, exceptions included. -/
def reply (id : Nat) : Event → Option (Except JsError ChargeResult)
  | .reply _ pid answer => if pid = id then some answer else none
  | _ => none

def replies (id : Nat) (history : List Event) : List (Except JsError ChargeResult) :=
  history.filterMap (reply id)

/-- A row read as a resolution; a claim that is not answered does not count yet. -/
def resolution (p : Payment) : Resolution :=
  match p.status with
  | .pending => .waiting p.attempts p.lastError
  | .processing => .waiting (p.attempts - 1) p.lastError
  | .success => .captured p.attempts p.providerRef
  | .failed => .failed p.attempts p.lastError

/-- Steps by which something else than its gateway answers moves a payment. -/
def interferes (id : Nat) (e : Event) : Bool :=
  e.writes id && match e with
    | .recover _ _ | .fail _ _ _ | .webhook _ _ => true
    | _ => false

theorem replies_snoc (id : Nat) (history : List Event) (e : Event) :
    replies id (history ++ [e]) = replies id history ++ (reply id e).toList := by
  cases h : reply id e <;> simp [replies, h]

def InFlight (id : Nat) (s : System) (c : Nat) (r : ProcessCall) : Prop :=
  s.runs c = some r ∧ r.paymentId = id ∧ r.phase.claimOf ≠ none

def settlingWith : ProcessPhase → Option Answer
  | .settling _ answer => some answer
  | _ => none

/-- The row is what the loop makes of the answers so far, but for one that its
    call has not settled yet. -/
structure Looped (id : Nat) (history : List Event) (s : System) (p : Payment)
    (answered : List Answer) : Prop where
  resolves : resolve p.maxAttempts answered = some (resolution p)
  settled : p.status ≠ .processing → replies id history = answered.map replied
  held : p.status = .processing → replies id history = answered.map replied ∨
    ∃ late, replies id history = answered.map replied ++ [late]
  flight : ∀ c r, InFlight id s c r → p.status = .processing
  flying : ∀ c r, InFlight id s c r →
    replies id history = answered.map replied ++ ((settlingWith r.phase).map replied).toList

structure Untouched (id : Nat) (history : List Event) (s : System) : Prop where
  silent : replies id history = []
  idle : ∀ c r, ¬ InFlight id s c r

def Loop (id : Nat) (history : List Event) (s : System) : Prop :=
  match row s id with
  | none => Untouched id history s
  | some p => ∃ answered, Looped id history s p answered

theorem inFlight_between {id : Nat} {history : List Event} {s : System} (traced : Traced history s)
    {c : Nat} {r : ProcessCall} (h : InFlight id s c r) : Between id history c := by
  obtain ⟨present, mine, flying⟩ := h
  obtain ⟨claimed, unsettled⟩ := in_flight_history (traced_call traced present) flying
  rw [mine] at claimed
  exact ⟨claimed, unsettled id⟩

theorem inFlight_one {id : Nat} {history : List Event} {s : System} (traced : Traced history s)
    (episodes : Episodes id history (row s id)) {c d : Nat} {r q : ProcessCall}
    (one : InFlight id s c r) (other : InFlight id s d q) : c = d := by
  obtain ⟨claim, last, -⟩ := between_last episodes (inFlight_between traced one)
  obtain ⟨claim', last', -⟩ := between_last episodes (inFlight_between traced other)
  rw [last] at last'
  exact (show c = d ∧ claim = claim' by simpa using last').1

/-- What one step does to the calls in flight on a payment, and to its answers. -/
inductive FlightMove (id : Nat) (s t : System) (e : Event) : Prop where
  | same (silent : reply id e = none) (unsettled : ∀ c result, e ≠ .settle c id result)
      (kept : ∀ c r', InFlight id t c r' → ∃ r, InFlight id s c r ∧
        settlingWith r'.phase = settlingWith r.phase)
  | took (c : Nat) (claim : Claim) (label : e = .claim c id (.claimed claim))
      (kept : ∀ d r', InFlight id t d r' → d = c ∧ settlingWith r'.phase = none ∨
        ∃ r, InFlight id s d r)
  | answered (c : Nat) (r : ProcessCall) (answer : Except JsError ChargeResult)
      (label : e = .reply c id answer) (here : InFlight id s c r)
      (charging : settlingWith r.phase = none)
      (kept : ∀ d r', InFlight id t d r' →
        (d = c ∧ ∃ settling, settlingWith r'.phase = some settling ∧ answer = replied settling) ∨
          d ≠ c ∧ ∃ q, InFlight id s d q)
  | settled (c : Nat) (r : ProcessCall) (answer : Answer) (result : SettleResult)
      (label : e = .settle c id result) (here : InFlight id s c r)
      (settling : settlingWith r.phase = some answer)
      (committed : settle s.db id answer s.now = (result, t.db))
      (kept : ∀ d r', InFlight id t d r' → d ≠ c ∧ InFlight id s d r')

theorem flight_work {id run : Nat} {s t : System} {e : Event} {r : ProcessCall}
    {move : WorkerMove} {phase : ProcessPhase} {db : Database} {queue : PaymentQueue}
    (present : s.runs run = some r) (moved : t.runs = set s.runs run { r with phase })
    (committed : t.db = db) (spec : WorkerSpec s.now s.db s.queue run r move e db queue phase) :
    FlightMove id s t e := by
  have others : ∀ d r', InFlight id t d r' → d ≠ run → InFlight id s d r' := by
    rintro d r' ⟨there, mine, flying⟩ ne
    rw [moved, set_apply, if_neg ne] at there
    exact ⟨there, mine, flying⟩
  have own : ∀ r', InFlight id t run r' → r' = { r with phase } := by
    rintro r' ⟨there, -, -⟩
    rw [moved, set_apply, if_pos rfl] at there
    exact (Option.some.inj there).symm
  by_cases mine : r.paymentId = id
  · have landed : phase.claimOf = none → ∀ d r', InFlight id t d r' →
        d ≠ run ∧ InFlight id s d r' := by
      intro done d r' flying
      by_cases same : d = run
      · subst same
        have shape := own r' flying
        subst shape
        exact absurd done flying.2.2
      · exact ⟨same, others d r' flying same⟩
    have quiet : phase.claimOf = none → ∀ d r', InFlight id t d r' → ∃ q, InFlight id s d q ∧
        settlingWith r'.phase = settlingWith q.phase := by
      intro done d r' flying
      obtain ⟨-, before⟩ := landed done d r' flying
      exact ⟨r', before, rfl⟩
    subst mine
    cases spec with
    | claim here =>
      cases answer : (PaymentService.claim s.db r.paymentId s.now).1 with
      | claimed claim =>
        refine FlightMove.took run claim rfl ?_
        intro d r' flying
        by_cases same : d = run
        · subst same
          rw [own r' flying, answer]
          exact Or.inl ⟨rfl, rfl⟩
        · exact Or.inr ⟨r', others d r' flying same⟩
      | refused reason status =>
        rw [answer] at quiet
        exact FlightMove.same rfl (by simp) (quiet rfl)
    | @charge taken timeoutMs a here =>
      refine FlightMove.same rfl (by simp) ?_
      intro d r' flying
      by_cases same : d = run
      · subst same
        rw [own r' flying]
        exact ⟨r, ⟨present, rfl, by simp [here, ProcessPhase.claimOf]⟩, by rw [here]; rfl⟩
      · exact ⟨r', others d r' flying same, rfl⟩
    | @reply taken answer here =>
      refine FlightMove.answered run r answer rfl
        ⟨present, rfl, by simp [here, ProcessPhase.claimOf]⟩ (by rw [here]; rfl) ?_
      intro d r' flying
      by_cases same : d = run
      · subst same
        have shape := own r' flying
        subst shape
        refine Or.inl ⟨rfl, ?_⟩
        cases answer with
        | ok result => exact ⟨.ok result, rfl, rfl⟩
        | error err =>
          cases err with
          | gatewayError err => exact ⟨.error err, rfl, rfl⟩
          | error message code errno => exact absurd rfl flying.2.2
      · exact Or.inr ⟨same, r', others d r' flying same⟩
    | @settle taken answer here =>
      obtain ⟨done, -⟩ := afterSettle_over (PaymentService.settle s.db r.paymentId answer s.now).1
      refine FlightMove.settled run r answer _ rfl
        ⟨present, rfl, by simp [here, ProcessPhase.claimOf]⟩ (by rw [here]; rfl) ?_ (landed done)
      rw [committed]
    | failed config here job =>
      rcases failJob_over s.queue config _ run _ with closed | ⟨reason, failing⟩
      · exact FlightMove.same rfl (by simp) (quiet (by rw [closed]; rfl))
      · exact FlightMove.same rfl (by simp) (quiet (by rw [failing]; rfl))
    | _ => exact FlightMove.same rfl (by simp) (quiet rfl)
  · have apart : ∀ d r', InFlight id t d r' → d ≠ run := by
      rintro d r' flying rfl
      have shape := own r' flying
      subst shape
      exact mine flying.2.1
    refine FlightMove.same ?_ ?_ ?_
    · cases spec <;> simp [reply, mine]
    · intro c result label
      cases spec <;> simp_all
    · intro d r' flying
      exact ⟨r', others d r' flying (apart d r' flying), rfl⟩

theorem flight_step {id : Nat} {s t : System} {e : Event} (move : RunsMove s t e) :
    FlightMove id s t e := by
  cases move with
  | frame same outside =>
    refine FlightMove.same ?_ ?_ ?_
    · cases e <;> simp_all [byProcess, reply]
    · intro c result label
      simp [label, byProcess] at outside
    · rintro c r' ⟨there, mine, flying⟩
      rw [same] at there
      exact ⟨r', ⟨there, mine, flying⟩, rfl⟩
  | start run r fresh begun claiming label =>
    subst label
    refine FlightMove.same rfl (by simp) ?_
    rintro c r' ⟨there, mine, flying⟩
    rw [begun] at there
    rcases set_some there with ⟨-, rfl⟩ | ⟨-, old⟩
    · rw [claiming] at flying
      exact absurd rfl flying
    · exact ⟨r', ⟨old, mine, flying⟩, rfl⟩
  | work run r move phase db queue present moved committed spec =>
    exact flight_work present moved committed spec

theorem settle_consults {db db' : Database} {id now : Nat} {p q : Payment} {answer : Answer}
    {result : SettleResult} (found : db.payments.find id = some p) (held : p.status = .processing)
    (started : 0 < p.attempts) (committed : settle db id answer now = (result, db'))
    (after : db'.payments.find id = some q) :
    consult p.maxAttempts (resolution p) answer = some (resolution q) ∧
      q.maxAttempts = p.maxAttempts ∧ q.status ≠ .processing := by
  have spec := settle_spec db id answer now
  rw [committed] at spec
  have counted : p.attempts - 1 + 1 = p.attempts := by omega
  have waiting : resolution p = .waiting (p.attempts - 1) p.lastError := by
    simp [resolution, held]
  rw [waiting]
  cases spec with
  | noop status moved => exact absurd held (moved p found)
  | success result there _ =>
    obtain rfl := Option.some.inj (found.symm.trans there)
    obtain rfl := Option.some.inj (after.symm.trans (find_written found .success _ now))
    exact ⟨by rw [consult, counted]; rfl, rfl, by simp [writeStatus]⟩
  | retry err there _ retriable left =>
    obtain rfl := Option.some.inj (found.symm.trans there)
    obtain rfl := Option.some.inj (after.symm.trans (find_written found .pending _ now))
    exact ⟨by rw [consult, counted, if_pos ⟨retriable, left⟩]; rfl, rfl, by simp [writeStatus]⟩
  | failed err there _ final =>
    obtain rfl := Option.some.inj (found.symm.trans there)
    obtain rfl := Option.some.inj (after.symm.trans (find_written found .failed _ now))
    have last : ¬ (err.retriable = true ∧ p.attempts < p.maxAttempts) := by
      rintro ⟨retriable, left⟩
      have spent := final retriable
      omega
    exact ⟨by rw [consult, counted, if_neg last]; rfl, rfl, by simp [writeStatus]⟩

/-- Without a settle or an interference only a claim writes the row, and that
    decides nothing. -/
theorem opening_write {id : Nat} {p q : Payment} {e : Event} (w : Write id p e q)
    (alone : interferes id e = false) (unsettled : ∀ c result, e ≠ .settle c id result) :
    p.status = .pending ∧ q.status = .processing ∧ resolution q = resolution p ∧
      q.maxAttempts = p.maxAttempts := by
  have label := write_label w
  cases w with
  | claim run now free =>
    refine ⟨free, rfl, ?_, rfl⟩
    simp [resolution, free, addAttempt, writeStatus]
  | settleSuccess run now result held => exact absurd rfl (unsettled run _)
  | settleRetry run now err held retriable left => exact absurd rfl (unsettled run _)
  | settleFailed run now err held final => exact absurd rfl (unsettled run _)
  | _ => simp [interferes, label] at alone

theorem untouched_step {id : Nat} {history : List Event} {s t : System} {e : Event}
    (h : Untouched id history s) (quiet : e.writes id = false) (move : FlightMove id s t e) :
    Untouched id (history ++ [e]) t := by
  cases move with
  | same silent unsettled kept =>
    refine ⟨by rw [replies_snoc, h.silent, silent]; rfl, ?_⟩
    intro c r' flying
    obtain ⟨r, before, -⟩ := kept c r' flying
    exact h.idle c r before
  | took c claim label kept => simp [label, Event.writes] at quiet
  | answered c r answer label here charging kept => exact absurd here (h.idle c r)
  | settled c r answer result label here settling committed kept => exact absurd here (h.idle c r)

theorem looped_still {id : Nat} {history : List Event} {s t : System} {e : Event} {p q : Payment}
    {answered : List Answer} (h : Looped id history s p answered) (silent : reply id e = none)
    (kept : ∀ c r', InFlight id t c r' → ∃ r, InFlight id s c r ∧
      settlingWith r'.phase = settlingWith r.phase)
    (moved : q = p ∨ p.status = .pending ∧ q.status = .processing ∧
      resolution q = resolution p ∧ q.maxAttempts = p.maxAttempts) :
    Looped id (history ++ [e]) t q answered := by
  have same : replies id (history ++ [e]) = replies id history := by
    rw [replies_snoc, silent]
    simp
  rcases moved with rfl | ⟨free, busy, keeps, budget⟩
  · constructor
    · exact h.resolves
    · rw [same]
      exact h.settled
    · rw [same]
      exact h.held
    · intro c r' flying
      obtain ⟨r, before, -⟩ := kept c r' flying
      exact h.flight c r before
    · intro c r' flying
      obtain ⟨r, before, phase⟩ := kept c r' flying
      rw [same, phase]
      exact h.flying c r before
  · have idle : ∀ c r', ¬ InFlight id t c r' := by
      intro c r' flying
      obtain ⟨r, before, -⟩ := kept c r' flying
      have held := h.flight c r before
      rw [free] at held
      simp at held
    constructor
    · rw [budget, keeps]
      exact h.resolves
    · exact fun settled => absurd busy settled
    · intro _
      rw [same]
      exact Or.inl (h.settled (by simp [free]))
    · exact fun c r' flying => absurd flying (idle c r')
    · exact fun c r' flying => absurd flying (idle c r')

theorem looped_took {id : Nat} {history : List Event} {s t : System} {p q : Payment}
    {answered : List Answer} {c : Nat} {claim : Claim} (h : Looped id history s p answered)
    (free : p.status = .pending) (busy : q.status = .processing)
    (keeps : resolution q = resolution p) (budget : q.maxAttempts = p.maxAttempts)
    (kept : ∀ d r', InFlight id t d r' → d = c ∧ settlingWith r'.phase = none ∨
      ∃ r, InFlight id s d r) :
    Looped id (history ++ [.claim c id (.claimed claim)]) t q answered := by
  have same : replies id (history ++ [.claim c id (.claimed claim)]) = answered.map replied := by
    rw [replies_snoc, h.settled (by simp [free])]
    simp [reply]
  constructor
  · rw [budget, keeps]
    exact h.resolves
  · exact fun settled => absurd busy settled
  · exact fun _ => Or.inl same
  · exact fun _ _ _ => busy
  · intro d r' flying
    rcases kept d r' flying with ⟨-, unanswered⟩ | ⟨r, before⟩
    · rw [same, unanswered]
      simp
    · have held := h.flight d r before
      rw [free] at held
      simp at held

theorem looped_answered {id : Nat} {history : List Event} {s t : System} {p : Payment}
    {answered : List Answer} {c : Nat} {r : ProcessCall} {answer : Except JsError ChargeResult}
    (h : Looped id history s p answered) (here : InFlight id s c r)
    (charging : settlingWith r.phase = none)
    (one : ∀ d q, InFlight id s d q → d = c)
    (kept : ∀ d r', InFlight id t d r' →
      (d = c ∧ ∃ settling, settlingWith r'.phase = some settling ∧ answer = replied settling) ∨
        d ≠ c ∧ ∃ q, InFlight id s d q) :
    Looped id (history ++ [.reply c id answer]) t p answered := by
  have held := h.flight c r here
  have grown : replies id (history ++ [.reply c id answer]) = answered.map replied ++ [answer] := by
    rw [replies_snoc, h.flying c r here, charging]
    simp [reply]
  constructor
  · exact h.resolves
  · exact fun settled => absurd held settled
  · exact fun _ => Or.inr ⟨answer, grown⟩
  · exact fun _ _ _ => held
  · intro d r' flying
    rcases kept d r' flying with ⟨-, settling, with_, rfl⟩ | ⟨ne, q, before⟩
    · rw [grown, with_]
      rfl
    · exact absurd (one d q before) ne

theorem looped_settled {id : Nat} {history : List Event} {s t : System} {p q : Payment}
    {answered : List Answer} {c : Nat} {r : ProcessCall} {answer : Answer} {result : SettleResult}
    (h : Looped id history s p answered) (here : InFlight id s c r)
    (settling : settlingWith r.phase = some answer)
    (one : ∀ d q, InFlight id s d q → d = c)
    (consulted : consult p.maxAttempts (resolution p) answer = some (resolution q))
    (budget : q.maxAttempts = p.maxAttempts) (open_ : q.status ≠ .processing)
    (kept : ∀ d r', InFlight id t d r' → d ≠ c ∧ InFlight id s d r') :
    Looped id (history ++ [.settle c id result]) t q (answered ++ [answer]) := by
  have idle : ∀ d r', ¬ InFlight id t d r' := by
    intro d r' flying
    obtain ⟨ne, before⟩ := kept d r' flying
    exact ne (one d r' before)
  constructor
  · rw [budget, resolve_snoc, h.resolves]
    exact consulted
  · intro _
    rw [replies_snoc, h.flying c r here, settling]
    simp [reply]
  · exact fun held => absurd held open_
  · exact fun d r' flying => absurd flying (idle d r')
  · exact fun d r' flying => absurd flying (idle d r')

theorem loop_step {id : Nat} {history : List Event} {s t : System} {e : Event}
    (h : Loop id history s) (one : ∀ c r d q, InFlight id s c r → InFlight id s d q → d = c)
    (coherent : ∀ p, row s id = some p → Coherent p) (alone : interferes id e = false)
    (commit : Commit s.db e t.db) (runs : RunsMove s t e) : Loop id (history ++ [e]) t := by
  have move : FlightMove id s t e := flight_step runs
  cases found : row s id with
  | none =>
    rw [Loop, found] at h
    have rows := commit_row commit id
    rw [show s.db.payments.find id = none from found] at rows
    generalize after : t.db.payments.find id = new at rows
    cases rows with
    | stay quiet =>
      rw [Loop, show row t id = none from after]
      exact untouched_step h quiet move
    | create call key amount currency maxAttempts now =>
      rw [Loop, show row t id = some _ from after]
      cases move with
      | same silent unsettled kept =>
        have idle : ∀ c r', ¬ InFlight id t c r' := by
          intro c r' flying
          obtain ⟨r, before, -⟩ := kept c r' flying
          exact h.idle c r before
        have silence : replies id (history ++ [.insert call (some id)]) = [] := by
          rw [replies_snoc, h.silent]
          rfl
        refine ⟨[], rfl, fun _ => silence, fun _ => Or.inl silence, ?_, ?_⟩
        · exact fun c r' flying => absurd flying (idle c r')
        · exact fun c r' flying => absurd flying (idle c r')
      | took c claim label kept => simp at label
      | answered c r answer label here charging kept => simp at label
      | settled c r answer result label here settling committed kept => simp at label
  | some p =>
    rw [Loop, found] at h
    obtain ⟨answered, looped⟩ := h
    obtain ⟨q, after, moved⟩ := commit_keeps_row commit found
    rw [Loop, show row t id = some q from after]
    cases move with
    | same silent unsettled kept =>
      refine ⟨answered, looped_still looped silent kept ?_⟩
      rcases moved with ⟨rfl, -⟩ | w
      · exact Or.inl rfl
      · exact Or.inr (opening_write w alone unsettled)
    | took c claim label kept =>
      subst label
      rcases moved with ⟨-, quiet⟩ | w
      · simp [Event.writes] at quiet
      · obtain ⟨free, busy, keeps, budget⟩ := opening_write w alone (by simp)
        exact ⟨answered, looped_took looped free busy keeps budget kept⟩
    | answered c r answer label here charging kept =>
      subst label
      rcases moved with ⟨rfl, -⟩ | w
      · have only : ∀ d q, InFlight id s d q → d = c := fun d q flying => one c r d q here flying
        exact ⟨answered, looped_answered looped here charging only kept⟩
      · have label := write_label w
        simp [Event.writes] at label
    | settled c r answer result label here settling committed kept =>
      subst label
      have held := looped.flight c r here
      obtain ⟨-, -, started⟩ := (coherent p found).processing held
      obtain ⟨consulted, budget, open_⟩ := settle_consults found held started committed after
      have only : ∀ d q, InFlight id s d q → d = c := fun d q flying => one c r d q here flying
      exact ⟨answered ++ [answer],
        looped_settled looped here settling only consulted budget open_ kept⟩

theorem alone_unreleased {id : Nat} {history : List Event}
    (alone : ∀ e ∈ history, interferes id e = false) : Unreleased id history := by
  intro status there
  have free := alone _ there
  simp [interferes, Event.writes] at free

theorem run_loop {history : List Event} {s : System} (run : Run Step System.init history s)
    {id : Nat} (alone : ∀ e ∈ history, interferes id e = false) : Loop id history s := by
  have inv : (∀ e ∈ history, interferes id e = false) → Loop id history s := by
    apply run_induction
      (fun h u => (∀ e ∈ h, interferes id e = false) → Loop id h u) ?_ ?_ run
    · intro _
      exact ⟨rfl, fun c r flying => by simp [InFlight, System.init] at flying⟩
    · intro h u e t before loop step free
      have freeBefore : ∀ x ∈ h, interferes id x = false := fun x there => free x (by simp [there])
      have episodes := run_episodes before id (alone_unreleased freeBefore)
      have traced := run_traced before
      refine loop_step (loop freeBefore) ?_ ?_ (free e (by simp)) (does_commit step)
        (does_runs step)
      · intro c r d q here flying
        exact inFlight_one traced episodes flying here
      · intro p found
        exact run_coherent before found
  exact inv alone

/-- The row against the answers of the gateway, as one loop would keep it. -/
def Computed (id : Nat) (history : List Event) (p : Payment) : Prop :=
  ∃ answered, resolve p.maxAttempts answered = some (resolution p) ∧
    Reads p.maxAttempts answered (resolution p) ∧
    (p.status ≠ .processing → replies id history = answered.map replied) ∧
    (p.status = .processing → replies id history = answered.map replied ∨
      ∃ late, replies id history = answered.map replied ++ [late])

theorem retry_loop_computes {history : List Event} {s : System}
    (run : Run Step System.init history s) {id : Nat}
    (alone : ∀ e ∈ history, interferes id e = false) {p : Payment} (found : row s id = some p) :
    Computed id history p := by
  have loop := run_loop run alone
  rw [Loop, found] at loop
  obtain ⟨answered, looped⟩ := loop
  exact ⟨answered, looped.resolves, resolve_reads looped.resolves, looped.settled, looped.held⟩

/-- Two timeouts of calls that come and go, beside a callback for another payment
    and a sweep that finds nothing to recover, and then a captured charge. -/
def retriedRun : List Action :=
  let config : Config := ⟨3, 60000, 3000⟩
  [.initiate 0 config ⟨"order-123", 4200, "INR"⟩, .api 0 .insert, .process 0 1, .process 1 1,
    .worker 0 (.claim none), .worker 1 (.claim none),
    .worker 0 (.charge 3000 (attempt 3000 .timeout 0 "gw_a")), .worker 0 .reply,
    .webhook ⟨"evt_1", 2, .failed, none, none⟩, .worker 0 (.settle none), .recover 1,
    .process 2 1, .worker 2 (.claim none),
    .worker 2 (.charge 3000 (attempt 3000 .timeout 0 "gw_b")), .worker 2 .reply,
    .worker 2 (.settle none), .process 3 1, .worker 3 (.claim none),
    .worker 3 (.charge 3000 (attempt 3000 .delay 900 "gw_c")), .worker 3 .reply,
    .worker 3 (.settle none)]

theorem retried_payment_computed :
    ∃ p, row (replay exec Action.any System.init retriedRun).2 1 = some p ∧
      resolution p = .captured 3 (some "gw_c") ∧
      Computed 1 (replay exec Action.any System.init retriedRun).1 p := by
  have reached : (row (replay exec Action.any System.init retriedRun).2 1).map resolution =
      some (.captured 3 (some "gw_c")) := by decide
  obtain ⟨p, found, shape⟩ := Option.map_eq_some_iff.mp reached
  have alone : (replay exec Action.any System.init retriedRun).1.all
      (fun e => !interferes 1 e) = true := by decide
  refine ⟨p, found, shape, ?_⟩
  apply retry_loop_computes (replay_run exec Action.any System.init retriedRun) ?_ found
  intro e there
  simpa using List.all_eq_true.mp alone e there

end RetryLoop
