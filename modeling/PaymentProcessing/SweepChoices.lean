import PaymentProcessing.SweepLoop

/-!
The runs of a sweep on its own. Nothing is lost by fixing beforehand which calls
throw: the calls of a run are made for different payments or differ in kind, so
the answers that they got are those of one choice.
-/
namespace SweepLoop
open JobStore TransitionRuns PaymentStateMachine PaymentRepositories PaymentService
open PaymentTransactions PaymentSystem SystemSteps

def alone (sweep : Nat) : Action → Bool
  | .sweep other move => other == sweep && move != .crash
  | _ => false

/-- The sweep acts alone, and its calls throw as they like. -/
def Alone (sweep : Nat) (_ : System) (a : Action) : Prop := alone sweep a = true

/-- The two choices give the same answers to the calls made by the time a sweep
    is in this phase. -/
structure SameSoFar (phase : SweepPhase) (f g : Nat → Faults) : Prop where
  past : ∀ id, (∀ p ∈ sweepRows phase, id ≠ p.id) → f id = g id
  recovered : ∀ p rest, phase = .removing p rest ∨ phase = .enqueuing p rest →
    (f p.id).recover = (g p.id).recover
  removed : ∀ p rest, phase = .enqueuing p rest → (f p.id).remove = (g p.id).remove

theorem past_same {phase : SweepPhase} {p : Payment} {rest : List Payment} {f g : Nat → Faults}
    {v : Faults} (rows : sweepRows phase <:+ p :: rest)
    (same : SameSoFar phase (Function.update f p.id v) g) :
    ∀ id, (∀ q ∈ p :: rest, id ≠ q.id) → f id = g id := by
  intro id others
  have apart : id ≠ p.id := others p List.mem_cons_self
  rw [← same.past id (fun q there => others q (rows.subset there)), Function.update_of_ne apart]

theorem head_answered {phase : SweepPhase} {p : Payment} {rest : List Payment}
    {f g : Nat → Faults} {v : Faults} (rows : sweepRows phase <:+ rest)
    (distinct : (p :: rest).Pairwise (fun p q => p.id ≠ q.id))
    (same : SameSoFar phase (Function.update f p.id v) g) : g p.id = v := by
  have apart := (List.pairwise_cons.mp distinct).1
  rw [← same.past p.id (fun q there => apart q (rows.subset there)), Function.update_self]

section Answers
variable {p : Payment} {rest : List Payment} {phase : SweepPhase}
  (distinct : (p :: rest).Pairwise (fun p q => p.id ≠ q.id)) (f : Nat → Faults)
  (error : Option JsError)

/- A choice that has answered so far is extended by the answer to one more call. -/

include distinct in
theorem recover_answer (next : phase = .removing p rest ∨ sweepRows phase <:+ rest) :
    ∃ f', ∀ g, SameSoFar phase f' g →
      SameSoFar (.recovering p rest) f g ∧ (g p.id).recover = error := by
  refine ⟨Function.update f p.id { f p.id with recover := error }, ?_⟩
  intro g same
  rcases next with rfl | rows
  · have recovered := same.recovered p rest (Or.inl rfl)
    rw [Function.update_self] at recovered
    exact ⟨⟨past_same List.suffix_rfl same, by simp, by simp⟩, recovered.symm⟩
  · have answered := head_answered rows distinct same
    have earlier := rows.trans (List.suffix_cons p rest)
    exact ⟨⟨past_same earlier same, by simp, by simp⟩, by rw [answered]⟩

theorem remove_answer : ∃ f', ∀ g, SameSoFar (.enqueuing p rest) f' g →
    SameSoFar (.removing p rest) f g ∧ (g p.id).remove = error := by
  refine ⟨Function.update f p.id { f p.id with remove := error }, ?_⟩
  intro g same
  have recovered := same.recovered p rest (Or.inr rfl)
  have removed := same.removed p rest rfl
  rw [Function.update_self] at recovered removed
  refine ⟨⟨past_same List.suffix_rfl same, ?_, by simp⟩, removed.symm⟩
  intro q later here
  obtain ⟨rfl, rfl⟩ : p = q ∧ rest = later := by simpa using here
  exact recovered

include distinct in
theorem enqueue_answer (rows : sweepRows phase <:+ rest) : ∃ f', ∀ g, SameSoFar phase f' g →
    SameSoFar (.enqueuing p rest) f g ∧ (g p.id).enqueue = error := by
  refine ⟨Function.update f p.id { f p.id with enqueue := error }, ?_⟩
  intro g same
  have answered := head_answered rows distinct same
  have earlier := rows.trans (List.suffix_cons p rest)
  refine ⟨⟨past_same earlier same, ?_, ?_⟩, by rw [answered]⟩
  · intro q later here
    obtain ⟨rfl, rfl⟩ : p = q ∧ rest = later := by simpa using here
    rw [answered]
  · intro q later here
    obtain ⟨rfl, rfl⟩ : p = q ∧ rest = later := by simpa using here
    rw [answered]

end Answers

theorem answer_extends {now : Nat} {db db' : Database} {queue queue' : PaymentQueue} {sweep : Nat}
    {w : Sweep} {move : SweepMove} {e : Event} {phase : SweepPhase}
    (spec : SweepSpec now db queue sweep w move e db' queue' phase) (running : move ≠ .crash)
    (distinct : (sweepRows w.phase).Pairwise (fun p q => p.id ≠ q.id)) (f : Nat → Faults) :
    ∃ f', ∀ g, SameSoFar phase f' g → SameSoFar w.phase f g ∧ nextMove g w.phase = some move := by
  cases spec with
  | @recover p rest here =>
    rw [here] at distinct ⊢
    have next : afterRecover w.stale p rest (recoverStalePayment db p.id now).1 = .removing p rest ∨
        sweepRows (afterRecover w.stale p rest (recoverStalePayment db p.id now).1) <:+ rest := by
      cases (recoverStalePayment db p.id now).1 <;> simp [afterRecover, rows_nextRow]
    simpa [nextMove] using recover_answer distinct f none next
  | @recoverThrew p rest err here =>
    rw [here] at distinct ⊢
    have ended : sweepRows (.threw err) <:+ rest := List.nil_suffix
    simpa [nextMove] using recover_answer distinct f (some err) (Or.inr ended)
  | @removed p rest _ here removal =>
    rw [here]
    simpa [nextMove] using remove_answer f none
  | @kept p rest error here refused =>
    rw [here]
    simpa [nextMove] using remove_answer f error
  | @enqueued p rest here =>
    rw [here] at distinct ⊢
    have later : sweepRows (nextRow w.stale rest) <:+ rest := by
      simp [rows_nextRow]
    simpa [nextMove] using enqueue_answer distinct f none later
  | @enqueueThrew p rest err here =>
    rw [here] at distinct ⊢
    have ended : sweepRows (.threw err) <:+ rest := List.nil_suffix
    simpa [nextMove] using enqueue_answer distinct f (some err) ended
  | crash => exact absurd rfl running

theorem alone_sweeps {s t : System} {e : Event} {sweep : Nat} (step : Does exec (Alone sweep) s e t) :
    ∃ w move phase db queue, s.sweeps sweep = some w ∧ move ≠ .crash ∧
      exec s (.sweep sweep move) = some (e, t) ∧
      t.sweeps sweep = some { w with phase } ∧
      SweepSpec s.now s.db s.queue sweep w move e db queue phase := by
  obtain ⟨a, solo, done⟩ := step
  have move := exec_move done
  cases move with
  | sweep other move present spec =>
    obtain ⟨rfl, running⟩ : other = sweep ∧ move ≠ .crash := by simpa [Alone, alone] using solo
    exact ⟨_, move, _, _, _, present, running, done, if_pos rfl, spec⟩
  | _ => simp [Alone, alone] at solo

/-- The run so far is the run under every choice that agrees with its answers. -/
def Chosen (sweep : Nat) (t : System) (history : List Event) (u : System) : Prop :=
  ∃ w, u.sweeps sweep = some w ∧
    (sweepRows w.phase).Pairwise (fun p q => p.id ≠ q.id) ∧
    ∃ f, ∀ g, SameSoFar w.phase f g → Run (Does exec (Under g sweep)) t history u

theorem chosen_step {sweep : Nat} {t u v : System} {history : List Event} {e : Event}
    (chosen : Chosen sweep t history u) (step : Does exec (Alone sweep) u e v) :
    Chosen sweep t (history ++ [e]) v := by
  obtain ⟨w, present, distinct, f, every⟩ := chosen
  obtain ⟨w', move, phase, db, queue, present', running, done, after, spec⟩ := alone_sweeps step
  obtain rfl := Option.some.inj (present.symm.trans present')
  refine ⟨{ w with phase }, after, distinct.sublist (sweep_suffix spec).sublist, ?_⟩
  obtain ⟨f', extends_⟩ := answer_extends spec running distinct f
  refine ⟨f', ?_⟩
  intro g same
  obtain ⟨sameBefore, next⟩ := extends_ g same
  exact Run.snoc (every g sameBefore)
    ⟨.sweep sweep move, (under_iff u _).mpr ⟨w, move, present, next, rfl⟩, done⟩

theorem alone_under {s t u : System} {e : Event} {sweep : Nat} {config : Config}
    {history : List Event} (start : exec s (.reconcile sweep config) = some (e, t))
    (run : Run (Does exec (Alone sweep)) t history u) :
    ∃ faults, Run (Does exec (Under faults sweep)) t history u := by
  have begun : Chosen sweep t [] t := by
    have move := exec_move start
    cases move with
    | reconcile _ _ fresh =>
      refine ⟨startSweep s.db s.now config, if_pos rfl, ?_, fun _ => ⟨none, none, none⟩, ?_⟩
      · rw [startSweep, rows_nextRow]
        exact findStale_distinct s.db s.now config.staleProcessingMs
      · intro g _
        exact Run.nil
  have reached : Chosen sweep t history u := by
    apply run_invariant (Chosen sweep t) begun ?_ run
    intro h v l v' chosen step
    exact chosen_step chosen step
  obtain ⟨w, -, -, f, every⟩ := reached
  exact ⟨f, every f ⟨fun _ _ => rfl, fun _ _ _ => rfl, fun _ _ _ => rfl⟩⟩

end SweepLoop
