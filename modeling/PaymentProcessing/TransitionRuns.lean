import Mathlib.Data.List.Induction

/-!
Runs of a labelled transition system. The labels of a run are its history,
oldest first, so that "so far" is a statement about a list. A restricted
system (no crash, no failed call) is a smaller step relation, not another
kind of run.
-/
namespace TransitionRuns
variable {State Label View Action : Type}

inductive Run (step : State → Label → State → Prop) (start : State) :
    List Label → State → Prop where
  | nil : Run step start [] start
  | snoc {history : List Label} {mid stop : State} {label : Label}
      (before : Run step start history mid) (last : step mid label stop) :
      Run step start (history ++ [label]) stop

variable {step : State → Label → State → Prop}

theorem run_single {s t : State} {l : Label} (one : step s l t) : Run step s [l] t :=
  Run.snoc Run.nil one

theorem run_append {s m t : State} {xs ys : List Label}
    (first : Run step s xs m) (second : Run step m ys t) : Run step s (xs ++ ys) t := by
  induction second with
  | nil => simpa using first
  | snoc before last ih =>
    rw [← List.append_assoc]
    exact Run.snoc ih last

theorem run_empty {s t : State} (run : Run step s [] t) : t = s := by
  generalize hist : ([] : List Label) = history at run
  cases run with
  | nil => rfl
  | snoc before last => simp at hist

theorem run_unsnoc {s t : State} {xs : List Label} {l : Label}
    (run : Run step s (xs ++ [l]) t) : ∃ m, Run step s xs m ∧ step m l t := by
  generalize hist : xs ++ [l] = history at run
  cases run with
  | nil => simp at hist
  | snoc before last =>
    obtain ⟨same, label⟩ := List.append_inj' hist rfl
    obtain rfl : l = _ := by simpa using label
    subst same
    exact ⟨_, before, last⟩

theorem run_split {s t : State} {xs ys : List Label}
    (run : Run step s (xs ++ ys) t) : ∃ m, Run step s xs m ∧ Run step m ys t := by
  induction ys using List.reverseRecOn generalizing t with
  | nil => exact ⟨t, by simpa using run, Run.nil⟩
  | append_singleton ys l ih =>
    rw [← List.append_assoc] at run
    obtain ⟨m, before, last⟩ := run_unsnoc run
    obtain ⟨k, first, second⟩ := ih before
    exact ⟨k, first, Run.snoc second last⟩

theorem run_at {s t : State} {xs ys : List Label} {l : Label}
    (run : Run step s (xs ++ l :: ys) t) :
    ∃ m n, Run step s xs m ∧ step m l n ∧ Run step n ys t := by
  obtain ⟨m, before, rest⟩ := run_split run
  have rest' : Run step m ([l] ++ ys) t := rest
  obtain ⟨n, one, after⟩ := run_split rest'
  have one' : Run step m ([] ++ [l]) n := one
  obtain ⟨k, nothing, last⟩ := run_unsnoc one'
  rw [run_empty nothing] at last
  exact ⟨m, n, before, last, after⟩

theorem run_mono {step' : State → Label → State → Prop}
    (weaker : ∀ s l t, step s l t → step' s l t) {s t : State} {history : List Label}
    (run : Run step s history t) : Run step' s history t := by
  induction run with
  | nil => exact Run.nil
  | snoc before last ih => exact Run.snoc ih (weaker _ _ _ last)

/-- A property of the history and the state that one step preserves from every
    reachable state holds at the end of every run. -/
theorem run_induction {start : State} (inv : List Label → State → Prop)
    (initial : inv [] start)
    (keep : ∀ history s l t, Run step start history s → inv history s → step s l t →
      inv (history ++ [l]) t)
    {history : List Label} {s : State} (run : Run step start history s) : inv history s := by
  induction run with
  | nil => exact initial
  | snoc before last ih => exact keep _ _ _ _ before ih last

theorem run_invariant {start : State} (inv : List Label → State → Prop)
    (initial : inv [] start)
    (keep : ∀ history s l t, inv history s → step s l t → inv (history ++ [l]) t)
    {history : List Label} {s : State} (run : Run step start history s) : inv history s :=
  run_induction inv initial (fun history s l t _ here last => keep history s l t here last) run

theorem run_preserves (good : State → Prop)
    (keep : ∀ s l t, good s → step s l t → good t)
    {s t : State} {history : List Label} (run : Run step s history t) (h : good s) : good t := by
  induction run with
  | nil => exact h
  | snoc before last ih => exact keep _ _ _ ih last

/-- Steps that leave the state alike can be left out of a run, when alike states
    have the same steps to alike states. -/
theorem run_erased (alike : State → State → Prop) (kept : Label → Bool)
    (mimic : ∀ s s' l t, alike s s' → step s l t → ∃ t', step s' l t' ∧ alike t t')
    (idle : ∀ s s' l t, alike s s' → step s l t → kept l = false → alike t s')
    {s t s' : State} {history : List Label} (run : Run step s history t) (start : alike s s') :
    ∃ t', Run step s' (history.filter kept) t' ∧ alike t t' := by
  induction run with
  | nil => exact ⟨s', Run.nil, start⟩
  | @snoc before m u l _ last ih =>
    obtain ⟨m', run', same⟩ := ih
    rw [List.filter_append]
    cases keep : kept l with
    | true =>
      obtain ⟨u', one, after⟩ := mimic m m' l u same last
      refine ⟨u', ?_, after⟩
      simpa [keep] using Run.snoc run' one
    | false =>
      refine ⟨m', ?_, idle m m' l u same last keep⟩
      simpa [keep] using run'

theorem run_mimicked (alike : State → State → Prop)
    (mimic : ∀ s s' l t, alike s s' → step s l t → ∃ t', step s' l t' ∧ alike t t')
    {s t s' : State} {history : List Label} (run : Run step s history t) (start : alike s s') :
    ∃ t', Run step s' history t' ∧ alike t t' := by
  have whole := run_erased alike (fun _ => true) mimic (by simp) run start
  have all : history.filter (fun _ => true) = history := List.filter_eq_self.mpr (fun _ _ => rfl)
  rwa [all] at whole

/-- The runs of a system that wraps another one, seen in the other one. -/
theorem run_simulated {Shown : Type} {step' : View → Shown → View → Prop} (view : State → View)
    (shown : Label → Option Shown)
    (seen : ∀ s l t l', step s l t → shown l = some l' → step' (view s) l' (view t))
    (hidden : ∀ s l t, step s l t → shown l = none → view t = view s)
    {s t : State} {history : List Label} (run : Run step s history t) :
    Run step' (view s) (history.filterMap shown) (view t) := by
  induction run with
  | nil => exact Run.nil
  | @snoc before m u l _ last ih =>
    rw [List.filterMap_append]
    cases label : shown l with
    | none =>
      rw [hidden m l u last label]
      simpa [label] using ih
    | some l' =>
      have one := Run.snoc ih (seen m l u l' last label)
      simpa [label] using one

theorem run_viewed {step' : View → Label → View → Prop} (view : State → View)
    (seen : ∀ s l t, step s l t → step' (view s) l (view t)) {s t : State} {history : List Label}
    (run : Run step s history t) : Run step' (view s) history (view t) := by
  have whole : Run step' (view s) (history.filterMap some) (view t) := by
    apply run_simulated view some ?_ ?_ run
    · intro s l t l' one same
      cases same
      exact seen s l t one
    · intro s l t one hidden
      cases hidden
  rwa [List.filterMap_some] at whole

/-- A run that cannot go on passes every state that another run reaches. -/
theorem run_passes (functional : ∀ s l l' t t', step s l t → step s l' t' → l = l' ∧ t = t')
    {start mid stop : State} {xs ys : List Label} (first : Run step start xs mid)
    (complete : Run step start ys stop) (stuck : ∀ l t, ¬ step stop l t) :
    ∃ zs, ys = xs ++ zs ∧ Run step mid zs stop := by
  induction first with
  | nil => exact ⟨ys, rfl, complete⟩
  | @snoc history m n l before last ih =>
    obtain ⟨zs, rfl, rest⟩ := ih
    cases zs with
    | nil =>
      obtain rfl := run_empty rest
      exact absurd last (stuck l n)
    | cons l' zs =>
      have rest' : Run step m ([] ++ l' :: zs) stop := rest
      obtain ⟨k, n', nothing, one, after⟩ := run_at rest'
      rw [run_empty nothing] at one
      obtain ⟨rfl, rfl⟩ := functional _ _ _ _ _ last one
      exact ⟨zs, by simp, after⟩

theorem run_determined (functional : ∀ s l l' t t', step s l t → step s l' t' → l = l' ∧ t = t')
    {start stop stop' : State} {xs ys : List Label} (first : Run step start xs stop)
    (second : Run step start ys stop') (stuck : ∀ l t, ¬ step stop l t)
    (stuck' : ∀ l t, ¬ step stop' l t) : xs = ys ∧ stop = stop' := by
  obtain ⟨zs, rfl, rest⟩ := run_passes functional first second stuck'
  cases zs with
  | nil => exact ⟨by simp, (run_empty rest).symm⟩
  | cons l zs =>
    have rest' : Run step stop ([] ++ l :: zs) stop' := rest
    obtain ⟨m, n, nothing, one, after⟩ := run_at rest'
    rw [run_empty nothing] at one
    exact absurd one (stuck l n)

inductive Tally (step : State → Label → State → Prop) (cost : State → State → Nat)
    (start : State) : List Label → Nat → State → Prop where
  | nil : Tally step cost start [] 0 start
  | snoc {history : List Label} {total : Nat} {mid stop : State} {label : Label}
      (before : Tally step cost start history total mid) (last : step mid label stop) :
      Tally step cost start (history ++ [label]) (total + cost mid stop) stop

variable {cost : State → State → Nat}

theorem tally_run {s t : State} {n : Nat} {history : List Label}
    (tally : Tally step cost s history n t) : Run step s history t := by
  induction tally with
  | nil => exact Run.nil
  | snoc before last ih => exact Run.snoc ih last

theorem run_has_tally {s t : State} {history : List Label} (cost : State → State → Nat)
    (run : Run step s history t) : ∃ n, Tally step cost s history n t := by
  induction run with
  | nil => exact ⟨0, Tally.nil⟩
  | snoc before last ih =>
    obtain ⟨n, tally⟩ := ih
    exact ⟨_, Tally.snoc tally last⟩

theorem tally_invariant {start : State} (inv : List Label → Nat → State → Prop)
    (initial : inv [] 0 start)
    (keep : ∀ history n s l t, Run step start history s → inv history n s → step s l t →
      inv (history ++ [l]) (n + cost s t) t)
    {history : List Label} {n : Nat} {s : State} (tally : Tally step cost start history n s) :
    inv history n s := by
  induction tally with
  | nil => exact initial
  | snoc before last ih => exact keep _ _ _ _ _ (tally_run before) ih last

/- Deterministic execution of chosen actions, and the step relation it induces:
   the environment picks any action that `allowed` admits in the present state. -/
def Does (exec : State → Action → Option (Label × State)) (allowed : State → Action → Prop)
    (s : State) (l : Label) (t : State) : Prop :=
  ∃ a, allowed s a ∧ exec s a = some (l, t)

def runAll (exec : State → Action → Option (Label × State)) (allowed : State → Action → Prop)
    [∀ s a, Decidable (allowed s a)] : State → List Action → Option (List Label × State)
  | s, [] => some ([], s)
  | s, a :: rest =>
    if allowed s a then
      match exec s a with
      | none => none
      | some (l, m) => (runAll exec allowed m rest).map fun (ls, t) => (l :: ls, t)
    else none

theorem runAll_sound {exec : State → Action → Option (Label × State)}
    {allowed : State → Action → Prop} [∀ s a, Decidable (allowed s a)]
    {actions : List Action} {s t : State} {history : List Label}
    (done : runAll exec allowed s actions = some (history, t)) :
    Run (Does exec allowed) s history t := by
  induction actions generalizing s history with
  | nil =>
    obtain ⟨rfl, rfl⟩ : [] = history ∧ s = t := by simpa [runAll] using done
    exact Run.nil
  | cons a rest ih =>
    simp only [runAll] at done
    split at done
    · rename_i ok
      split at done
      · simp at done
      · rename_i l m one
        obtain ⟨⟨ls, u⟩, tail, eq⟩ := Option.map_eq_some_iff.mp done
        obtain ⟨rfl, rfl⟩ : l :: ls = history ∧ u = t := by simpa using eq
        have head : Run (Does exec allowed) s [l] m := run_single ⟨a, ok, one⟩
        exact run_append head (ih tail)
    · simp at done

/-- The history and the last state of chosen actions; of no action at all when
    one of them cannot be taken. -/
def replay (exec : State → Action → Option (Label × State)) (allowed : State → Action → Prop)
    [∀ s a, Decidable (allowed s a)] (start : State) (actions : List Action) :
    List Label × State :=
  (runAll exec allowed start actions).getD ([], start)

theorem replay_run (exec : State → Action → Option (Label × State))
    (allowed : State → Action → Prop) [∀ s a, Decidable (allowed s a)] (start : State)
    (actions : List Action) :
    Run (Does exec allowed) start (replay exec allowed start actions).1
      (replay exec allowed start actions).2 := by
  unfold replay
  cases done : runAll exec allowed start actions with
  | none => exact Run.nil
  | some reached => exact runAll_sound done

/-- A view that none of the chosen actions changes is the same at the end. -/
theorem replay_view {exec : State → Action → Option (Label × State)}
    {allowed : State → Action → Prop} [∀ s a, Decidable (allowed s a)] (view : State → View)
    (quiet : Action → Prop)
    (keep : ∀ s a l t, quiet a → exec s a = some (l, t) → view t = view s)
    {start : State} {actions : List Action} (all : ∀ a ∈ actions, quiet a) :
    view (replay exec allowed start actions).2 = view start := by
  have through : ∀ (actions : List Action) (s t : State) (history : List Label),
      (∀ a ∈ actions, quiet a) → runAll exec allowed s actions = some (history, t) →
      view t = view s := by
    intro actions
    induction actions with
    | nil =>
      intro s t history _ done
      obtain ⟨-, rfl⟩ : [] = history ∧ s = t := by simpa [runAll] using done
      rfl
    | cons a rest ih =>
      intro s t history all done
      simp only [runAll] at done
      split at done
      · split at done
        · simp at done
        · rename_i l m one
          obtain ⟨⟨ls, u⟩, tail, eq⟩ := Option.map_eq_some_iff.mp done
          obtain ⟨-, rfl⟩ : l :: ls = history ∧ u = t := by simpa using eq
          have later := ih m u ls (fun b mem => all b (List.mem_cons_of_mem a mem)) tail
          exact later.trans (keep s a l m (all a List.mem_cons_self) one)
      · simp at done
  unfold replay
  cases done : runAll exec allowed start actions with
  | none => rfl
  | some reached => exact through actions start reached.2 reached.1 all done

theorem does_mono {exec : State → Action → Option (Label × State)}
    {allowed allowed' : State → Action → Prop} (more : ∀ s a, allowed s a → allowed' s a)
    (s : State) (l : Label) (t : State) (one : Does exec allowed s l t) :
    Does exec allowed' s l t := by
  obtain ⟨a, ok, done⟩ := one
  exact ⟨a, more s a ok, done⟩

/-- The same steps, with the chosen actions in the labels. -/
def Picks (exec : State → Action → Option (Label × State)) (allowed : State → Action → Prop)
    (s : State) (l : Action × Label) (t : State) : Prop :=
  allowed s l.1 ∧ exec s l.1 = some (l.2, t)

theorem picks_does {exec : State → Action → Option (Label × State)}
    {allowed : State → Action → Prop} {s t : State} {history : List (Action × Label)}
    (run : Run (Picks exec allowed) s history t) :
    Run (Does exec allowed) s (history.map Prod.snd) t := by
  induction run with
  | nil => exact Run.nil
  | @snoc before m u l _ last ih =>
    rw [List.map_append]
    exact Run.snoc ih ⟨l.1, last⟩

/-- The function that runs an action, with the action in the label. -/
def shown (exec : State → Action → Option (Label × State)) (s : State) (a : Action) :
    Option ((Action × Label) × State) :=
  (exec s a).map fun done => ((a, done.1), done.2)

theorem shown_picks {exec : State → Action → Option (Label × State)}
    {allowed : State → Action → Prop} {s t : State} {history : List (Action × Label)}
    (run : Run (Does (shown exec) allowed) s history t) : Run (Picks exec allowed) s history t := by
  apply run_mono ?_ run
  rintro s l t ⟨a, ok, done⟩
  obtain ⟨moved, one, eq⟩ := Option.map_eq_some_iff.mp done
  obtain ⟨rfl, rfl⟩ := Prod.mk.inj eq
  exact ⟨ok, one⟩

/-- Steps that lower a rank, among others that never raise it, are soon used up. -/
theorem run_ranked (good : State → Prop) (rank : State → Nat) (works : Label → Bool)
    (keep : ∀ s l t, good s → step s l t → good t)
    (level : ∀ s l t, good s → step s l t → rank t ≤ rank s)
    (lower : ∀ s l t, good s → step s l t → works l = true → rank t < rank s)
    {s t : State} {history : List Label} (run : Run step s history t) (start : good s) :
    history.countP works + rank t ≤ rank s := by
  have both : good t ∧ history.countP works + rank t ≤ rank s := by
    induction run with
    | nil => exact ⟨start, by simp⟩
    | @snoc before m u l _ last ih =>
      have flat := level m l u ih.1 last
      refine ⟨keep m l u ih.1 last, ?_⟩
      rw [List.countP_append, List.countP_singleton]
      cases working : works l with
      | false =>
        simp only [Bool.false_eq_true, if_false]
        omega
      | true =>
        have down := lower m l u ih.1 last working
        simp only [if_true]
        omega
  exact both.2

/-- From every state such steps can be taken until there are no more. -/
theorem run_exhausts (good : State → Prop) (rank : State → Nat) (works : Label → Bool)
    (keep : ∀ s l t, good s → step s l t → good t)
    (lower : ∀ s l t, good s → step s l t → works l = true → rank t < rank s)
    {s : State} (start : good s) :
    ∃ history t, Run step s history t ∧ ∀ l v, step t l v → works l = false := by
  induction level : rank s using Nat.strongRecOn generalizing s with
  | _ n ih =>
    by_cases more : ∃ l v, step s l v ∧ works l = true
    · obtain ⟨l, v, one, working⟩ := more
      have down := lower s l v start one working
      obtain ⟨history, t, rest, last⟩ := ih (rank v) (by omega) (keep s l v start one) rfl
      exact ⟨[l] ++ history, t, run_append (run_single one) rest, last⟩
    · refine ⟨[], s, Run.nil, ?_⟩
      intro l v one
      cases working : works l with
      | false => rfl
      | true => exact absurd ⟨l, v, one, working⟩ more

/-- Every step of a run, with the history before it. -/
def Throughout (step : State → Label → State → Prop)
    (holds : List Label → State → Label → State → Prop) (start : State) (history : List Label)
    (stop : State) : Prop :=
  ∀ before l after m n, history = before ++ l :: after → Run step start before m → step m l n →
    Run step n after stop → holds before m l n

theorem throughout_iff {holds holds' : List Label → State → Label → State → Prop} {start : State}
    (same : ∀ before m l n, Run step start before m → step m l n →
      (holds before m l n ↔ holds' before m l n))
    (history : List Label) (stop : State) :
    Throughout step holds start history stop ↔ Throughout step holds' start history stop := by
  constructor
  · intro every before l after m n shape first one last
    exact (same before m l n first one).mp (every before l after m n shape first one last)
  · intro every before l after m n shape first one last
    exact (same before m l n first one).mpr (every before l after m n shape first one last)

theorem snoc_split {history before after : List Label} {l x : Label}
    (h : history ++ [l] = before ++ x :: after) :
    (after = [] ∧ x = l ∧ before = history) ∨
      ∃ rest, after = rest ++ [l] ∧ history = before ++ x :: rest := by
  rcases List.eq_nil_or_concat after with rfl | ⟨rest, last, rfl⟩
  · obtain ⟨same, label⟩ := List.append_inj' h rfl
    exact Or.inl ⟨rfl, by simpa using label.symm, same.symm⟩
  · rw [List.concat_eq_append] at h ⊢
    have split : history ++ [l] = (before ++ x :: rest) ++ [last] := by simpa using h
    obtain ⟨same, label⟩ := List.append_inj' split rfl
    obtain rfl : l = last := by simpa using label
    exact Or.inr ⟨rest, rfl, same⟩

theorem one_before_other {history : List Label} {x y : Label} (hx : x ∈ history)
    (hy : y ∈ history) (ne : x ≠ y) :
    (∃ before mid after, history = before ++ x :: mid ++ y :: after) ∨
      ∃ before mid after, history = before ++ y :: mid ++ x :: after := by
  obtain ⟨before, after, rfl⟩ := List.append_of_mem hx
  rcases List.mem_append.mp hy with early | late
  · obtain ⟨first, mid, rfl⟩ := List.append_of_mem early
    exact Or.inr ⟨first, mid, after, by simp⟩
  · obtain same | there := List.mem_cons.mp late
    · exact absurd same.symm ne
    · obtain ⟨mid, last, rfl⟩ := List.append_of_mem there
      exact Or.inl ⟨before, mid, last, by simp⟩

def lastWith (mark : Label → Bool) (history : List Label) : Option Label :=
  history.reverse.find? mark

@[simp] theorem lastWith_snoc (mark : Label → Bool) (history : List Label) (l : Label) :
    lastWith mark (history ++ [l]) = if mark l then some l else lastWith mark history := by
  cases marked : mark l <;> simp [lastWith, marked]

theorem lastWith_append (mark : Label → Bool) (xs ys : List Label) :
    lastWith mark (xs ++ ys) = (lastWith mark ys).or (lastWith mark xs) := by
  simp [lastWith]

theorem lastWith_mem {mark : Label → Bool} {history : List Label} {l : Label}
    (h : lastWith mark history = some l) : l ∈ history ∧ mark l = true := by
  have member := List.mem_of_find?_eq_some h
  exact ⟨List.mem_reverse.mp member, List.find?_some h⟩

/-- The most recent label with a mark, and nothing but unmarked ones after it. -/
theorem lastWith_split {mark : Label → Bool} {history : List Label} {l : Label}
    (h : lastWith mark history = some l) :
    ∃ before after, history = before ++ l :: after ∧ mark l = true ∧
      ∀ x ∈ after, mark x = false := by
  obtain ⟨marked, newer, older, shape, unmarked⟩ := List.find?_eq_some_iff_append.mp h
  refine ⟨older.reverse, newer.reverse, ?_, marked, ?_⟩
  · have same := congrArg List.reverse shape
    simpa using same
  · intro x there
    simpa using unmarked x (List.mem_reverse.mp there)

end TransitionRuns
