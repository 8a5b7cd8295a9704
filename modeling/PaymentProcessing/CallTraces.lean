import PaymentProcessing.AttemptAccounting

/-!
What the history alone tells: the status of a payment is the one its last write
left, and the steps of one process() call are a piece of claim, charge, reply,
settle, up to the phase that the call is in.
-/
namespace CallTraces
open TransitionRuns PaymentStateMachine PaymentRepositories PaymentService PaymentTransactions
open PaymentSystem SystemSteps AttemptAccounting

def written : Event → Option PaymentStatus
  | .insert _ (some _) => some .pending
  | .claim _ _ (.claimed _) => some .processing
  | .settle _ _ (.success status) => some status
  | .settle _ _ (.retry _ status) => some status
  | .settle _ _ (.failed status) => some status
  | .recover _ (.failed status) => some status
  | .recover _ (.released status) => some status
  | .fail _ _ (.failed status) => some status
  | .webhook _ (.applied status) => some status
  | _ => none

def lastWrite (id : Nat) (history : List Event) : Option Event := lastWith (Event.writes id) history

theorem write_written {id : Nat} {p q : Payment} {e : Event} (w : Write id p e q) :
    written e = some q.status := by
  cases w <;> rfl

theorem status_step {id : Nat} {history : List Event} {before after : Option Payment} {e : Event}
    (h : before.map Payment.status = (lastWrite id history).bind written)
    (move : RowMove id before e after) :
    after.map Payment.status = (lastWrite id (history ++ [e])).bind written := by
  cases move with
  | stay quiet => simpa [lastWrite, quiet] using h
  | create call key amount currency maxAttempts now =>
    simp [lastWrite, Event.writes, written, newPayment]
  | write w => simp [lastWrite, write_label w, write_written w]

/-- A payment has the status that the last write of the history gave it. -/
theorem run_status {allowed : System → Action → Prop} {history : List Event} {s : System}
    (run : Run (Does exec allowed) System.init history s) (id : Nat) :
    (row s id).map Payment.status = (lastWrite id history).bind written := by
  apply run_invariant
    (fun h u => (row u id).map Payment.status = (lastWrite id h).bind written) ?_ ?_ run
  · rfl
  · intro h u e t inv step
    exact status_step inv (commit_row (does_commit step) id)

theorem write_processing {id : Nat} {p q : Payment} {e : Event} (w : Write id p e q)
    (busy : q.status = .processing) :
    ∃ holder claim, e = .claim holder id (.claimed claim) := by
  cases w with
  | claim run now free => exact ⟨run, _, rfl⟩
  | webhook callback now target legal =>
    change callback.reported.status = .processing at busy
    have terminal := WebhookService.reported_terminal callback.reported
    rw [busy] at terminal
    simp [isTerminal, transitions] at terminal
  | _ => simp [writeStatus] at busy

def HeldByClaim (id : Nat) (history : List Event) (row : Option Payment) : Prop :=
  ∀ p, row = some p → p.status = .processing →
    ∃ holder claim, lastWrite id history = some (.claim holder id (.claimed claim))

theorem held_step {id : Nat} {history : List Event} {before after : Option Payment} {e : Event}
    (h : HeldByClaim id history before) (move : RowMove id before e after) :
    HeldByClaim id (history ++ [e]) after := by
  intro q same busy
  cases move with
  | stay quiet =>
    obtain ⟨holder, claim, last⟩ := h q same busy
    exact ⟨holder, claim, by simpa [lastWrite, quiet] using last⟩
  | create call key amount currency maxAttempts now =>
    obtain rfl := Option.some.inj same
    simp [newPayment] at busy
  | write w =>
    obtain rfl := Option.some.inj same
    obtain ⟨holder, claim, rfl⟩ := write_processing w busy
    exact ⟨holder, claim, by simp [lastWrite, write_label w]⟩

theorem processing_claimed {allowed : System → Action → Prop} {history : List Event} {s : System}
    (run : Run (Does exec allowed) System.init history s) {id : Nat} {p : Payment}
    (found : row s id = some p) (held : p.status = .processing) :
    ∃ holder claim, lastWrite id history = some (.claim holder id (.claimed claim)) := by
  have all : HeldByClaim id history (row s id) := by
    apply run_invariant (fun h u => HeldByClaim id h (row u id)) ?_ ?_ run
    · intro p absent
      simp at absent
    · intro h u e t inv step
      exact held_step inv (commit_row (does_commit step) id)
  exact all p found held

def ofCall (run : Nat) : Event → Bool
  | .claim r _ _ | .charge r _ _ | .reply r _ _ | .settle r _ _ => r == run
  | _ => false

def trace (run : Nat) (history : List Event) : List Event := history.filter (ofCall run)

/-- How far a call can have come after its winning claim. -/
inductive After (run id : Nat) : List Event → Prop where
  | claimed : After run id []
  | charged (a : Attempt) : After run id [.charge run id a]
  | answered (a : Attempt) (reply : Except JsError ChargeResult) :
      After run id [.charge run id a, .reply run id reply]
  | settled (a : Attempt) (reply : Except JsError ChargeResult) (result : SettleResult) :
      After run id [.charge run id a, .reply run id reply, .settle run id result]

/-- The phase of a call and the labels it left, oldest first. -/
inductive CallTrace (run id : Nat) : ProcessPhase → List Event → Prop where
  | claiming : CallTrace run id .claiming []
  | claimed (claim : Claim) :
      CallTrace run id (.claimed claim) [.claim run id (.claimed claim)]
  | charging (claim : Claim) (a : Attempt) (answer : Except JsError ChargeResult) :
      CallTrace run id (.charging claim answer) [.claim run id (.claimed claim), .charge run id a]
  | settling (claim : Claim) (a : Attempt) (reply : Except JsError ChargeResult)
      (answer : Except GatewayError ChargeResult) :
      CallTrace run id (.settling claim answer)
        [.claim run id (.claimed claim), .charge run id a, .reply run id reply]
  | unclaimed {phase : ProcessPhase} (done : phase.claimOf = none) (noReturn : phase ≠ .claiming) :
      CallTrace run id phase []
  | past (claim : Claim) {labels : List Event} (steps : After run id labels) {phase : ProcessPhase}
      (done : phase.claimOf = none) (noReturn : phase ≠ .claiming) :
      CallTrace run id phase (.claim run id (.claimed claim) :: labels)
  | lost (reason : String) (status : Option PaymentStatus) {phase : ProcessPhase}
      (ended : phase = .returned (.notClaimable reason status) ∨ phase = .closed ∨ phase = .crashed) :
      CallTrace run id phase [.claim run id (.refused reason status)]

theorem trace_snoc (run : Nat) (history : List Event) (e : Event) :
    trace run (history ++ [e]) = trace run history ++ if ofCall run e then [e] else [] := by
  cases mine : ofCall run e <;> simp [trace, mine]

theorem unlabelled {e : Event} (outside : byProcess e = false) (run : Nat) :
    ofCall run e = false := by
  cases e <;> simp_all [byProcess, ofCall]

theorem life_label {run id : Nat} {before after : ProcessPhase} {e : Event}
    (life : CallLife run id before e after) {other : Nat} (apart : other ≠ run) :
    ofCall other e = false := by
  cases life with
  | idle outside done noReturn ended => exact unlabelled outside other
  | _ => simp [ofCall, Ne.symm apart]

/-- One step of a call adds its label where the trace says it belongs. -/
theorem trace_step {run id : Nat} {before after : ProcessPhase} {e : Event} {labels : List Event}
    (h : CallTrace run id before labels) (life : CallLife run id before e after) :
    CallTrace run id after (labels ++ if ofCall run e then [e] else []) := by
  cases life with
  | won claim =>
    cases h with
    | claiming => simpa [ofCall] using CallTrace.claimed claim
    | unclaimed done noReturn => exact absurd rfl noReturn
    | past _ _ done noReturn => exact absurd rfl noReturn
    | lost _ _ ended => simp at ended
  | charging claim a answer =>
    cases h with
    | claimed => simpa [ofCall] using CallTrace.charging claim a answer
    | unclaimed done noReturn => simp [ProcessPhase.claimOf] at done
    | past _ _ done noReturn => simp [ProcessPhase.claimOf] at done
    | lost _ _ ended => simp at ended
  | answered claim reply answer =>
    cases h with
    | charging _ a => simpa [ofCall] using CallTrace.settling claim a reply answer
    | unclaimed done noReturn => simp [ProcessPhase.claimOf] at done
    | past _ _ done noReturn => simp [ProcessPhase.claimOf] at done
    | lost _ _ ended => simp at ended
  | exception claim reply err =>
    cases h with
    | charging _ a =>
      have steps : After run id [.charge run id a, .reply run id reply] := After.answered a reply
      have last : CallTrace run id (.threw err) _ := CallTrace.past claim steps rfl (by simp)
      simpa [ofCall] using last
    | unclaimed done noReturn => simp [ProcessPhase.claimOf] at done
    | past _ _ done noReturn => simp [ProcessPhase.claimOf] at done
    | lost _ _ ended => simp at ended
  | lost reason status =>
    cases h with
    | claiming =>
      have last : CallTrace run id (.returned (.notClaimable reason status)) _ :=
        CallTrace.lost reason status (Or.inl rfl)
      simpa [ofCall] using last
    | unclaimed done noReturn => exact absurd rfl noReturn
    | past _ _ done noReturn => exact absurd rfl noReturn
    | lost _ _ ended => simp at ended
  | settled claim answer result =>
    obtain ⟨done, noReturn⟩ := afterSettle_over result
    cases h with
    | settling _ a reply =>
      have steps : After run id [.charge run id a, .reply run id reply, .settle run id result] :=
        After.settled a reply result
      simpa [ofCall] using CallTrace.past claim steps done noReturn
    | unclaimed done' noReturn => simp [ProcessPhase.claimOf] at done'
    | past _ _ done' noReturn => simp [ProcessPhase.claimOf] at done'
    | lost _ _ ended => simp at ended
  | idle outside done noReturn ended =>
    simp only [unlabelled outside, Bool.false_eq_true, if_false, List.append_nil]
    cases h with
    | claiming => exact CallTrace.unclaimed done noReturn
    | unclaimed _ _ => exact CallTrace.unclaimed done noReturn
    | claimed claim => exact CallTrace.past claim After.claimed done noReturn
    | charging claim a answer => exact CallTrace.past claim (After.charged a) done noReturn
    | settling claim a reply answer => exact CallTrace.past claim (After.answered a reply) done noReturn
    | past claim steps _ _ => exact CallTrace.past claim steps done noReturn
    | lost reason status closed =>
      apply CallTrace.lost reason status (Or.inr (ended ?_))
      rcases closed with rfl | rfl | rfl <;> rfl

def Traced (history : List Event) (s : System) : Prop :=
  ∀ run, match s.runs run with
    | none => trace run history = []
    | some r => CallTrace run r.paymentId r.phase (trace run history)

theorem traced_step {history : List Event} {s t : System} {e : Event} (h : Traced history s)
    (move : RunsMove s t e) : Traced (history ++ [e]) t := by
  intro other
  have before := h other
  rw [trace_snoc]
  cases move with
  | frame same outside =>
    rw [same, unlabelled outside]
    simpa using before
  | start run r fresh begun claiming label =>
    subst label
    rw [begun, set_apply]
    by_cases same : other = run
    · rw [same, fresh] at before
      rw [if_pos same, same, before]
      simpa [claiming, ofCall] using CallTrace.claiming
    · rw [if_neg same]
      simpa [ofCall] using before
  | work run r move phase db queue present moved committed spec =>
    have life := worker_life spec
    rw [moved, set_apply]
    by_cases same : other = run
    · rw [same, present] at before
      rw [if_pos same, same]
      exact trace_step before life
    · rw [if_neg same, life_label life same]
      simpa using before

theorem run_traced {allowed : System → Action → Prop} {history : List Event} {s : System}
    (run : Run (Does exec allowed) System.init history s) : Traced history s := by
  apply run_invariant Traced ?_ ?_ run
  · intro run
    rfl
  · intro h u e t inv step
    exact traced_step inv (does_runs step)

theorem traced_call {history : List Event} {s : System} (h : Traced history s) {run : Nat}
    {r : ProcessCall} (present : s.runs run = some r) :
    CallTrace run r.paymentId r.phase (trace run history) := by
  have mine := h run
  rwa [present] at mine

theorem step_of_call {s t : System} {e : Event} (move : RunsMove s t e) {run : Nat}
    (mine : ofCall run e = true) :
    ∃ r phase, s.runs run = some r ∧ t.runs run = some { r with phase } ∧
      CallLife run r.paymentId r.phase e phase := by
  cases move with
  | frame same outside => simp [unlabelled outside] at mine
  | start other r fresh begun claiming label =>
    subst label
    simp [ofCall] at mine
  | work other r move phase db queue present moved committed spec =>
    have life := worker_life spec
    by_cases same : run = other
    · subst same
      exact ⟨r, phase, present, by rw [moved, set_apply, if_pos rfl], life⟩
    · simp [life_label life same] at mine

/-- A call that charges has won its claim, one that settles has charged since. -/
theorem charging_call {history : List Event} {s t : System} {run id : Nat} {a : Attempt}
    (traced : Traced history s) (move : RunsMove s t (.charge run id a)) :
    ∃ claim, CallTrace run id (.claimed claim) (trace run history) := by
  have mine : ofCall run (.charge run id a) = true := by simp [ofCall]
  obtain ⟨r, phase, present, -, life⟩ := step_of_call move mine
  have steps := traced_call traced present
  generalize r.phase = old at life steps
  generalize r.paymentId = pid at life steps
  cases life with
  | charging claim a answer => exact ⟨claim, steps⟩
  | idle outside _ _ _ => simp [byProcess] at outside

theorem settling_call {history : List Event} {s t : System} {run id : Nat} {result : SettleResult}
    (traced : Traced history s) (move : RunsMove s t (.settle run id result)) :
    ∃ claim answer, CallTrace run id (.settling claim answer) (trace run history) := by
  obtain ⟨r, claim, answer, present, rfl, settling, -⟩ := settle_step move
  have steps := traced_call traced present
  rw [settling] at steps
  exact ⟨claim, answer, steps⟩

theorem mem_trace {run : Nat} {history : List Event} {e : Event} :
    e ∈ trace run history ↔ e ∈ history ∧ ofCall run e = true := by
  simp [trace]

/-- Between its winning claim and its settle a call has claimed and not settled. -/
theorem in_flight_history {run id : Nat} {phase : ProcessPhase} {history : List Event}
    (h : CallTrace run id phase (trace run history)) (flying : phase.claimOf ≠ none) :
    (∃ claim, .claim run id (.claimed claim) ∈ history) ∧
      ∀ pid result, .settle run pid result ∉ history := by
  have listed : ∀ e, ofCall run e = true → (e ∈ history ↔ e ∈ trace run history) := by
    intro e mine
    simp [mem_trace, mine]
  generalize trace run history = labels at h listed
  have claimed : ∀ claim, .claim run id (.claimed claim) ∈ labels →
      ∃ claim, .claim run id (.claimed claim) ∈ history := by
    intro claim member
    exact ⟨claim, (listed _ (by simp [ofCall])).mpr member⟩
  have unsettled : (∀ pid result, .settle run pid result ∉ labels) →
      ∀ pid result, .settle run pid result ∉ history := by
    intro absent pid result there
    exact absent pid result ((listed _ (by simp [ofCall])).mp there)
  cases h with
  | claimed claim => exact ⟨claimed claim (by simp), unsettled (by simp)⟩
  | charging claim a answer => exact ⟨claimed claim (by simp), unsettled (by simp)⟩
  | settling claim a reply answer => exact ⟨claimed claim (by simp), unsettled (by simp)⟩
  | claiming => exact absurd rfl flying
  | unclaimed done _ => exact absurd done flying
  | past _ _ done _ => exact absurd done flying
  | lost _ _ ended => rcases ended with rfl | rfl | rfl <;> exact absurd rfl flying

theorem claimed_uncharged {run id : Nat} {claim : Claim} {history : List Event}
    (h : CallTrace run id (.claimed claim) (trace run history)) (pid : Nat) (a : Attempt) :
    .charge run pid a ∉ history := by
  intro there
  have listed : .charge run pid a ∈ trace run history := mem_trace.mpr ⟨there, by simp [ofCall]⟩
  generalize trace run history = labels at h listed
  cases h with
  | claimed => simp at listed
  | unclaimed done _ => simp [ProcessPhase.claimOf] at done
  | past _ _ done _ => simp [ProcessPhase.claimOf] at done
  | lost _ _ ended => simp at ended

/-- A call that lost the claim did nothing else and told its caller so. -/
theorem lost_history {run id pid : Nat} {phase : ProcessPhase} {history : List Event}
    {reason : String} {status : Option PaymentStatus}
    (h : CallTrace run id phase (trace run history))
    (lost : .claim run pid (.refused reason status) ∈ history) :
    trace run history = [.claim run pid (.refused reason status)] ∧
      (phase = .returned (.notClaimable reason status) ∨ phase = .closed ∨ phase = .crashed) := by
  have listed : .claim run pid (.refused reason status) ∈ trace run history :=
    mem_trace.mpr ⟨lost, by simp [ofCall]⟩
  generalize trace run history = labels at h listed
  cases h with
  | lost reason' status' ended =>
    simp only [List.mem_singleton, Event.claim.injEq, ClaimResult.refused.injEq, true_and] at listed
    obtain ⟨rfl, rfl, rfl⟩ := listed
    exact ⟨rfl, ended⟩
  | past claim steps _ _ => cases steps <;> simp at listed
  | _ => simp at listed

def isClaim : Event → Bool
  | .claim _ _ _ => true
  | _ => false

theorem claims_once {run id : Nat} {phase : ProcessPhase} {labels : List Event}
    (h : CallTrace run id phase labels) : labels.countP isClaim ≤ 1 := by
  cases h with
  | past claim steps _ _ => cases steps <;> simp [List.countP_cons, isClaim]
  | _ => simp [List.countP_cons, isClaim]

theorem no_second_claim {history before after : List Event} {s : System} (h : Traced history s)
    {run id : Nat} {result : ClaimResult} (shape : history = before ++ .claim run id result :: after)
    (pid : Nat) (again : ClaimResult) : .claim run pid again ∉ after := by
  intro there
  have seen : trace run history = trace run before ++ .claim run id result :: trace run after := by
    simp [shape, trace, ofCall]
  have listed : .claim run pid again ∈ trace run after := mem_trace.mpr ⟨there, by simp [ofCall]⟩
  have positive : 0 < (trace run after).countP isClaim :=
    List.countP_pos_iff.mpr ⟨_, listed, rfl⟩
  have mine := h run
  cases present : s.runs run with
  | none => simp [present, seen] at mine
  | some r =>
    rw [present] at mine
    have once := claims_once mine
    rw [seen, List.countP_append, List.countP_cons] at once
    simp only [isClaim, if_true] at once
    omega

end CallTraces
