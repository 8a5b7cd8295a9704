import Mathlib.Logic.Function.Basic
import PaymentProcessing.TransitionRuns

/-!
Transactions cut at their statements. A session locks every key it reads or
writes until it ends, keeps its writes to itself, and publishes them all when it
commits; it may also roll back at any moment. Two readers may share a lock.
Every interleaving leaves what the committed programs leave one after the other.
-/
namespace RowLocking
open TransitionRuns
variable {Key : Type} {Value : Key → Type} {Result Answer : Type}

/-- The committed rows; `none` is a key without a row. -/
abbrev Store (Value : Key → Type) := (key : Key) → Option (Value key)

inductive Mode where
  | shared
  | exclusive
  deriving DecidableEq, Repr

/-- The statements a transaction has still to run. What a read finds decides the
    mode of its lock and what follows. -/
inductive Program (Value : Key → Type) (Result : Type) where
  | answer (result : Result)
  | fetch (key : Key) (mode : Option (Value key) → Mode)
      (rest : Option (Value key) → Program Value Result)
  | store (key : Key) (value : Option (Value key)) (rest : Program Value Result)

def Program.map (f : Result → Answer) : Program Value Result → Program Value Answer
  | .answer result => .answer (f result)
  | .fetch key mode rest => .fetch key mode (fun found => (rest found).map f)
  | .store key value rest => .store key value (rest.map f)

section
variable [DecidableEq Key]

def Program.run : Program Value Result → Store Value → Result × Store Value
  | .answer result, rows => (result, rows)
  | .fetch key _ rest, rows => (rest (rows key)).run rows
  | .store key value rest, rows => rest.run (Function.update rows key value)

theorem run_map (f : Result → Answer) (p : Program Value Result) (rows : Store Value) :
    (p.map f).run rows = (f (p.run rows).1, (p.run rows).2) := by
  induction p generalizing rows with
  | answer result => rfl
  | fetch key mode rest ih => exact ih (rows key) rows
  | store key value rest ih => exact ih (Function.update rows key value)

def view (rows : Store Value) (overlay : (key : Key) → Option (Option (Value key))) :
    Store Value :=
  fun key => (overlay key).getD (rows key)

omit [DecidableEq Key] in
@[simp] theorem view_none (rows : Store Value) : view rows (fun _ => none) = rows := rfl

theorem view_update (rows : Store Value) (overlay : (key : Key) → Option (Option (Value key)))
    (key : Key) (value : Option (Value key)) :
    view rows (Function.update overlay key (some value)) =
      Function.update (view rows overlay) key value := by
  funext other
  by_cases same : other = key
  · subst same
    simp [view]
  · simp [view, Function.update_of_ne same]

structure Session (Value : Key → Type) (Result : Type) where
  origin : Program Value Result
  rest : Program Value Result
  locks : Key → Option Mode
  overlay : (key : Key) → Option (Option (Value key))

structure State (Value : Key → Type) (Result : Type) where
  committed : Store Value
  sessions : Nat → Option (Session Value Result)

def State.start (rows : Store Value) : State Value Result := ⟨rows, fun _ => none⟩

def opened (p : Program Value Result) : Session Value Result :=
  ⟨p, p, fun _ => none, fun _ => none⟩

def raise (held : Option Mode) (mode : Mode) : Option Mode :=
  if held = some .exclusive then held else some mode

def locked (locks : Key → Option Mode) (key : Key) (mode : Mode) : Key → Option Mode :=
  Function.update locks key (raise (locks key) mode)

/-- No other session holds a lock that conflicts. -/
def Grantable (sessions : Nat → Option (Session Value Result)) (i : Nat) (key : Key)
    (mode : Mode) : Prop :=
  ∀ j t, j ≠ i → sessions j = some t →
    t.locks key = none ∨ t.locks key = some .shared ∧ mode = .shared

inductive Label (Value : Key → Type) (Result : Type) where
  | opening (i : Nat)
  | statement (i : Nat)
  | commit (i : Nat) (program : Program Value Result) (result : Result)
  | rollback (i : Nat)

inductive Step (admits : Program Value Result → Prop) :
    State Value Result → Label Value Result → State Value Result → Prop where
  | opening {s : State Value Result} (i : Nat) (p : Program Value Result)
      (fresh : s.sessions i = none) (known : admits p) :
      Step admits s (.opening i)
        { s with sessions := Function.update s.sessions i (some (opened p)) }
  | fetch {s : State Value Result} (i : Nat) {t : Session Value Result} {key : Key}
      {mode : Option (Value key) → Mode} {rest : Option (Value key) → Program Value Result}
      (present : s.sessions i = some t) (here : t.rest = .fetch key mode rest)
      (granted : Grantable s.sessions i key (mode (view s.committed t.overlay key))) :
      Step admits s (.statement i)
        { s with sessions := Function.update s.sessions i (some
            { t with
              rest := rest (view s.committed t.overlay key)
              locks := locked t.locks key (mode (view s.committed t.overlay key)) }) }
  | store {s : State Value Result} (i : Nat) {t : Session Value Result} {key : Key}
      {value : Option (Value key)} {rest : Program Value Result}
      (present : s.sessions i = some t) (here : t.rest = .store key value rest)
      (granted : Grantable s.sessions i key .exclusive) :
      Step admits s (.statement i)
        { s with sessions := Function.update s.sessions i (some
            { t with
              rest
              locks := locked t.locks key .exclusive
              overlay := Function.update t.overlay key (some value) }) }
  | commit {s : State Value Result} (i : Nat) {t : Session Value Result} {result : Result}
      (present : s.sessions i = some t) (here : t.rest = .answer result) :
      Step admits s (.commit i t.origin result)
        { committed := view s.committed t.overlay
          sessions := Function.update s.sessions i none }
  | rollback {s : State Value Result} (i : Nat) {t : Session Value Result}
      (present : s.sessions i = some t) :
      Step admits s (.rollback i) { s with sessions := Function.update s.sessions i none }

theorem step_admits {admits admits' : Program Value Result → Prop}
    (more : ∀ p, admits p → admits' p) {s s' : State Value Result} {l : Label Value Result}
    (step : Step admits s l s') : Step admits' s l s' := by
  cases step with
  | opening i p fresh known => exact Step.opening i p fresh (more p known)
  | fetch i present here granted => exact Step.fetch i present here granted
  | store i present here granted => exact Step.store i present here granted
  | commit i present here => exact Step.commit i present here
  | rollback i present => exact Step.rollback i present

/-- Any store that agrees on the locked keys takes the program where it stands. -/
structure Faithful (admits : Program Value Result → Prop) (rows : Store Value)
    (t : Session Value Result) : Prop where
  known : admits t.origin
  covered : ∀ key, t.overlay key ≠ none → t.locks key = some .exclusive
  resumes : ∀ other : Store Value, (∀ key, t.locks key ≠ none → other key = rows key) →
    t.origin.run other = t.rest.run (view other t.overlay)

structure Isolated (admits : Program Value Result → Prop) (s : State Value Result) : Prop where
  faithful : ∀ i t, s.sessions i = some t → Faithful admits s.committed t
  apart : ∀ i j t u key, i ≠ j → s.sessions i = some t → s.sessions j = some u →
    t.locks key = some .exclusive → u.locks key = none

variable {admits : Program Value Result → Prop}

omit [DecidableEq Key] in
theorem update_session {sessions : Nat → Option (Session Value Result)} {i j : Nat}
    {entry : Option (Session Value Result)} {t : Session Value Result}
    (h : Function.update sessions i entry j = some t) :
    j = i ∧ entry = some t ∨ j ≠ i ∧ sessions j = some t := by
  by_cases same : j = i
  · subst same
    exact Or.inl ⟨rfl, by simpa using h⟩
  · exact Or.inr ⟨same, by simpa [Function.update_of_ne same] using h⟩

theorem locked_other {locks : Key → Option Mode} {key other : Key} (mode : Mode)
    (ne : other ≠ key) : locked locks key mode other = locks other := by
  simp [locked, Function.update_of_ne ne]

theorem locked_exclusive {locks : Key → Option Mode} {key other : Key} {mode : Mode}
    (h : locks other = some .exclusive) : locked locks key mode other = some .exclusive := by
  by_cases same : other = key
  · subst same
    simp [locked, raise, h]
  · rw [locked_other mode same, h]

theorem locked_none {locks : Key → Option Mode} {key other : Key} {mode : Mode}
    (h : locked locks key mode other = none) : other ≠ key ∧ locks other = none := by
  by_cases same : other = key
  · subst same
    by_cases held : locks other = some .exclusive <;> simp [locked, raise, held] at h
  · rw [locked_other mode same] at h
    exact ⟨same, h⟩

theorem locked_self (locks : Key → Option Mode) (key : Key) (mode : Mode) :
    locked locks key mode key ≠ none := by
  intro h
  exact (locked_none h).1 rfl

/-- A session that opens a lock set more only asks less of other stores. -/
theorem faithful_locked {rows : Store Value} {t : Session Value Result}
    (h : Faithful admits rows t) (key : Key) (mode : Mode) :
    Faithful admits rows { t with locks := locked t.locks key mode } where
  known := h.known
  covered := by
    intro other wrote
    exact locked_exclusive (h.covered other wrote)
  resumes := by
    intro other agree
    apply h.resumes
    intro k held
    apply agree
    intro free
    exact held (locked_none free).2

theorem faithful_fetch {rows : Store Value} {t : Session Value Result} {key : Key}
    {mode : Option (Value key) → Mode} {rest : Option (Value key) → Program Value Result}
    (h : Faithful admits rows t) (here : t.rest = .fetch key mode rest) (lock : Mode) :
    Faithful admits rows
      { t with
        rest := rest (view rows t.overlay key)
        locks := locked t.locks key lock } where
  known := h.known
  covered := (faithful_locked h key lock).covered
  resumes := by
    intro other agree
    have same : view other t.overlay key = view rows t.overlay key := by
      rw [view, view, agree key (locked_self t.locks key lock)]
    have resumed := (faithful_locked h key lock).resumes other agree
    rw [resumed, here]
    simp only [Program.run, same]

theorem faithful_store {rows : Store Value} {t : Session Value Result} {key : Key}
    {value : Option (Value key)} {rest : Program Value Result} (h : Faithful admits rows t)
    (here : t.rest = .store key value rest) :
    Faithful admits rows
      { t with
        rest
        locks := locked t.locks key .exclusive
        overlay := Function.update t.overlay key (some value) } where
  known := h.known
  covered := by
    intro other wrote
    by_cases same : other = key
    · subst same
      by_cases held : t.locks other = some .exclusive <;> simp [locked, raise, held]
    · change locked t.locks key .exclusive other = some .exclusive
      rw [locked_other .exclusive same]
      exact h.covered other (by simpa [Function.update_of_ne same] using wrote)
  resumes := by
    intro other agree
    have resumed := (faithful_locked h key .exclusive).resumes other agree
    rw [resumed, here]
    simp only [Program.run, view_update]

theorem faithful_commit {rows rows' : Store Value} {t : Session Value Result}
    (h : Faithful admits rows t) (untouched : ∀ key, t.locks key ≠ none → rows' key = rows key) :
    Faithful admits rows' t where
  known := h.known
  covered := h.covered
  resumes := by
    intro other agree
    apply h.resumes
    intro key held
    rw [agree key held, untouched key held]

theorem apart_locked {s : State Value Result} (h : Isolated admits s) {i : Nat}
    {t t' : Session Value Result} {key : Key} {mode : Mode} (present : s.sessions i = some t)
    (granted : Grantable s.sessions i key mode) (locks : t'.locks = locked t.locks key mode) :
    ∀ a b x y k, a ≠ b → Function.update s.sessions i (some t') a = some x →
      Function.update s.sessions i (some t') b = some y → x.locks k = some .exclusive →
      y.locks k = none := by
  intro a b x y k ne atA atB held
  rcases update_session atA with ⟨rfl, isNew⟩ | ⟨neA, oldA⟩
  · obtain rfl := Option.some.inj isNew
    rcases update_session atB with ⟨sameB, -⟩ | ⟨neB, oldB⟩
    · exact absurd sameB.symm ne
    · rw [locks] at held
      by_cases same : k = key
      · subst same
        by_cases before : t.locks k = some .exclusive
        · exact h.apart a b t y k ne present oldB before
        · have asked : mode = .exclusive := by simpa [locked, raise, before] using held
          rcases granted b y neB oldB with free | ⟨-, shared⟩
          · exact free
          · rw [asked] at shared
            cases shared
      · rw [locked_other mode same] at held
        exact h.apart a b t y k ne present oldB held
  · rcases update_session atB with ⟨rfl, isNew⟩ | ⟨neB, oldB⟩
    · obtain rfl := Option.some.inj isNew
      have before := h.apart a b x t k ne oldA present held
      rw [locks]
      by_cases same : k = key
      · subst same
        rcases granted a x neA oldA with free | ⟨shared, -⟩
        · simp [held] at free
        · simp [held] at shared
      · rw [locked_other mode same, before]
    · exact h.apart a b x y k ne oldA oldB held

theorem isolated_replace {s : State Value Result} (h : Isolated admits s) {i : Nat}
    {t t' : Session Value Result} {key : Key} {mode : Mode} (present : s.sessions i = some t)
    (granted : Grantable s.sessions i key mode) (locks : t'.locks = locked t.locks key mode)
    (faithful : Faithful admits s.committed t') :
    Isolated admits { s with sessions := Function.update s.sessions i (some t') } where
  faithful := by
    intro j u there
    rcases update_session there with ⟨-, isNew⟩ | ⟨-, old⟩
    · obtain rfl := Option.some.inj isNew
      exact faithful
    · exact h.faithful j u old
  apart := apart_locked h present granted locks

theorem isolated_drop {s : State Value Result} (h : Isolated admits s) (i : Nat)
    (rows : Store Value)
    (kept : ∀ j u, j ≠ i → s.sessions j = some u → Faithful admits rows u) :
    Isolated admits ⟨rows, Function.update s.sessions i none⟩ where
  faithful := by
    intro j u there
    rcases update_session there with ⟨-, gone⟩ | ⟨ne, old⟩
    · cases gone
    · exact kept j u ne old
  apart := by
    intro a b x y k ne atA atB held
    rcases update_session atA with ⟨-, gone⟩ | ⟨-, oldA⟩
    · cases gone
    · rcases update_session atB with ⟨-, gone⟩ | ⟨-, oldB⟩
      · cases gone
      · exact h.apart a b x y k ne oldA oldB held

theorem step_isolated {s s' : State Value Result} {l : Label Value Result}
    (h : Isolated admits s) (step : Step admits s l s') : Isolated admits s' := by
  cases step with
  | opening i p fresh known =>
    constructor
    · intro j u there
      rcases update_session there with ⟨-, isNew⟩ | ⟨-, old⟩
      · obtain rfl := Option.some.inj isNew
        exact ⟨known, fun key wrote => absurd rfl wrote, fun other agree => rfl⟩
      · exact h.faithful j u old
    · intro a b x y k ne atA atB held
      rcases update_session atA with ⟨-, isNew⟩ | ⟨-, oldA⟩
      · obtain rfl := Option.some.inj isNew
        simp [opened] at held
      · rcases update_session atB with ⟨-, isNew⟩ | ⟨-, oldB⟩
        · obtain rfl := Option.some.inj isNew
          rfl
        · exact h.apart a b x y k ne oldA oldB held
  | fetch i present here granted =>
    exact isolated_replace h present granted rfl
      (faithful_fetch (h.faithful i _ present) here _)
  | store i present here granted =>
    exact isolated_replace h present granted rfl (faithful_store (h.faithful i _ present) here)
  | @commit i t result present here =>
    apply isolated_drop h i
    intro j u ne there
    apply faithful_commit (h.faithful j u there)
    intro key held
    have unwritten : t.overlay key = none := by
      by_contra wrote
      have mine := (h.faithful i t present).covered key wrote
      exact held (h.apart i j t u key (Ne.symm ne) present there mine)
    simp [view, unwritten]
  | rollback i present =>
    apply isolated_drop h i
    intro j u ne there
    exact h.faithful j u there

theorem start_isolated (rows : Store Value) : Isolated admits (State.start rows) where
  faithful := by
    intro i t there
    simp [State.start] at there
  apart := by
    intro i j t u key ne there
    simp [State.start] at there

theorem run_isolated {rows : Store Value} {labels : List (Label Value Result)}
    {s : State Value Result} (run : Run (Step admits) (State.start rows) labels s) :
    Isolated admits s := by
  apply run_preserves (Isolated admits) (fun _ _ _ good step => step_isolated good step) run
  exact start_isolated rows

/-- A program run to its end with nothing in between. -/
def Alone (admits : Program Value Result → Prop) (rows : Store Value)
    (l : Program Value Result × Result) (rows' : Store Value) : Prop :=
  admits l.1 ∧ l.1.run rows = (l.2, rows')

def Label.committed : Label Value Result → Option (Program Value Result × Result)
  | .commit _ p result => some (p, result)
  | _ => none

theorem step_serial {s s' : State Value Result} {l : Label Value Result}
    (h : Isolated admits s) (step : Step admits s l s') :
    match l.committed with
    | none => s'.committed = s.committed
    | some done => Alone admits s.committed done s'.committed := by
  cases step with
  | @commit i t result present here =>
    have faithful := h.faithful i t present
    refine ⟨faithful.known, ?_⟩
    have resumed := faithful.resumes s.committed (fun _ _ => rfl)
    rw [here] at resumed
    exact resumed
  | _ => rfl

/-- The committed transactions, in the order of their commits, are a run of the
    same programs one at a time, with the same answers and the same rows. -/
theorem run_serial {s t : State Value Result} {labels : List (Label Value Result)}
    (isolated : Isolated admits s) (run : Run (Step admits) s labels t) :
    Run (Alone admits) s.committed (labels.filterMap Label.committed) t.committed := by
  have both : Isolated admits t ∧
      Run (Alone admits) s.committed (labels.filterMap Label.committed) t.committed := by
    induction run with
    | nil => exact ⟨isolated, Run.nil⟩
    | @snoc history m u l before last ih =>
      refine ⟨step_isolated ih.1 last, ?_⟩
      have one := step_serial ih.1 last
      rw [List.filterMap_append]
      cases committed : l.committed with
      | none =>
        rw [committed] at one
        simpa [committed, one] using ih.2
      | some done =>
        rw [committed] at one
        have last : Run (Alone admits) m.committed [done] u.committed := run_single one
        simpa [committed] using run_append ih.2 last
  exact both.2

/-- The open sessions as a list, each under its number. -/
structure Board (Value : Key → Type) (Result : Type) where
  committed : Store Value
  sessions : List (Nat × Session Value Result)

def Board.state (b : Board Value Result) : State Value Result :=
  ⟨b.committed, fun i => b.sessions.lookup i⟩

def Board.drop (b : Board Value Result) (i : Nat) : List (Nat × Session Value Result) :=
  b.sessions.filter (fun entry => entry.1 != i)

def Board.replace (b : Board Value Result) (i : Nat) (t : Session Value Result) :
    Board Value Result :=
  { b with sessions := (i, t) :: b.drop i }

def Board.grants (b : Board Value Result) (i : Nat) (key : Key) (mode : Mode) : Bool :=
  b.sessions.all fun entry => entry.1 == i || entry.2.locks key == none ||
    (entry.2.locks key == some .shared && mode == .shared)

/-- The next statement of a session, or its commit, unless it has to wait. -/
def Board.goOn (b : Board Value Result) (i : Nat) :
    Option (Label Value Result × Board Value Result) :=
  match b.sessions.lookup i with
  | none => none
  | some t =>
    match t.rest with
    | .answer result => some (.commit i t.origin result, ⟨view b.committed t.overlay, b.drop i⟩)
    | .fetch key mode rest =>
      let found := view b.committed t.overlay key
      if b.grants i key (mode found) then
        some (.statement i,
          b.replace i { t with rest := rest found, locks := locked t.locks key (mode found) })
      else none
    | .store key value rest =>
      if b.grants i key .exclusive then
        some (.statement i, b.replace i
          { t with
            rest
            locks := locked t.locks key .exclusive
            overlay := Function.update t.overlay key (some value) })
      else none

def Board.rollback (b : Board Value Result) (i : Nat) :
    Option (Label Value Result × Board Value Result) :=
  (b.sessions.lookup i).map fun _ => (.rollback i, { b with sessions := b.drop i })

theorem lookup_entry {Entry : Type} (i j : Nat) (entry : Entry) (rest : List (Nat × Entry)) :
    List.lookup j ((i, entry) :: rest) = if j = i then some entry else rest.lookup j := by
  rw [List.lookup_cons]
  by_cases same : j = i
  · simp [same]
  · rw [beq_false_of_ne same, if_neg same]

omit [DecidableEq Key] in
theorem lookup_drop (b : Board Value Result) (i j : Nat) :
    (b.drop i).lookup j = if j = i then none else b.sessions.lookup j := by
  rw [Board.drop]
  induction b.sessions with
  | nil => simp
  | cons entry rest ih =>
    obtain ⟨k, t⟩ := entry
    rw [lookup_entry]
    by_cases here : k = i
    · rw [List.filter_cons_of_neg (by simp [here]), ih]
      by_cases same : j = i <;> simp [same, here]
    · rw [List.filter_cons_of_pos (by simp [here]), lookup_entry, ih]
      by_cases same : j = i
      · simp [same, Ne.symm here]
      · simp [same]

omit [DecidableEq Key] in
theorem state_drop (b : Board Value Result) (i : Nat) (rows : Store Value) :
    (Board.state ⟨rows, b.drop i⟩) = ⟨rows, Function.update b.state.sessions i none⟩ := by
  simp only [Board.state, State.mk.injEq, true_and]
  funext j
  rw [lookup_drop, Function.update_apply]

omit [DecidableEq Key] in
theorem state_replace (b : Board Value Result) (i : Nat) (t : Session Value Result) :
    (b.replace i t).state =
      { b.state with sessions := Function.update b.state.sessions i (some t) } := by
  simp only [Board.state, Board.replace, State.mk.injEq, true_and]
  funext j
  rw [lookup_entry, lookup_drop, Function.update_apply]
  by_cases same : j = i <;> simp [same]

omit [DecidableEq Key] in
theorem granted {b : Board Value Result} {i : Nat} {key : Key} {mode : Mode}
    (h : b.grants i key mode = true) : Grantable b.state.sessions i key mode := by
  intro j t ne there
  obtain ⟨before, after, shape, -⟩ := List.lookup_eq_some_iff.mp there
  have listed : (j, t) ∈ b.sessions := by
    rw [shape]
    simp
  have free := List.all_eq_true.mp h _ listed
  simpa [ne] using free

theorem goOn_step (admits : Program Value Result → Prop) {b b' : Board Value Result} {i : Nat}
    {l : Label Value Result} (h : b.goOn i = some (l, b')) : Step admits b.state l b'.state := by
  unfold Board.goOn at h
  split at h
  · cases h
  · rename_i t present
    have present' : b.state.sessions i = some t := present
    split at h
    · rename_i result here
      obtain ⟨rfl, rfl⟩ := Prod.mk.inj (Option.some.inj h)
      rw [state_drop]
      exact Step.commit i present' here
    · rename_i key mode rest here
      dsimp only at h
      split at h
      · rename_i free
        obtain ⟨rfl, rfl⟩ := Prod.mk.inj (Option.some.inj h)
        rw [state_replace]
        exact Step.fetch i present' here (granted free)
      · cases h
    · rename_i key value rest here
      split at h
      · rename_i free
        obtain ⟨rfl, rfl⟩ := Prod.mk.inj (Option.some.inj h)
        rw [state_replace]
        exact Step.store i present' here (granted free)
      · cases h

theorem rollback_step (admits : Program Value Result → Prop) {b b' : Board Value Result} {i : Nat}
    {l : Label Value Result} (h : b.rollback i = some (l, b')) :
    Step admits b.state l b'.state := by
  obtain ⟨t, present, eq⟩ := Option.map_eq_some_iff.mp h
  obtain ⟨rfl, rfl⟩ := Prod.mk.inj eq
  have present' : b.state.sessions i = some t := present
  rw [state_drop]
  exact Step.rollback i present'

/-- Every statement keeps to the rules for the locks held when it comes up. -/
def Along (fetches stores : (Key → Option Mode) → Key → Prop) :
    (Key → Option Mode) → Program Value Result → Prop
  | _, .answer _ => True
  | locks, .fetch key mode rest =>
    fetches locks key ∧ ∀ found, Along fetches stores (locked locks key (mode found)) (rest found)
  | locks, .store key _ rest => stores locks key ∧ Along fetches stores locks rest

theorem along_map {fetches stores : (Key → Option Mode) → Key → Prop} (f : Result → Answer)
    {p : Program Value Result} {locks : Key → Option Mode} (h : Along fetches stores locks p) :
    Along fetches stores locks (p.map f) := by
  induction p generalizing locks with
  | answer result => trivial
  | fetch key mode rest ih => exact ⟨h.1, fun found => ih found (h.2 found)⟩
  | store key value rest ih => exact ⟨h.1, ih h.2⟩

/-- The program reads and writes nothing but these keys. -/
abbrev Within (keys : Key → Prop) : (Key → Option Mode) → Program Value Result → Prop :=
  Along (fun _ => keys) (fun _ => keys)

variable {keys : Key → Prop}

/-- Stores that agree on the footprint get the same answer and still agree on it. -/
theorem run_within {p : Program Value Result} {locks : Key → Option Mode}
    (h : Within keys locks p) {rows rows' : Store Value}
    (agree : ∀ key, keys key → rows' key = rows key) :
    (p.run rows').1 = (p.run rows).1 ∧
      ∀ key, keys key → (p.run rows').2 key = (p.run rows).2 key := by
  induction p generalizing rows rows' locks with
  | answer result => exact ⟨rfl, agree⟩
  | fetch key mode rest ih =>
    rw [Program.run, Program.run, agree key h.1]
    exact ih (rows key) (h.2 (rows key)) agree
  | store key value rest ih =>
    apply ih h.2
    intro other mine
    by_cases same : other = key
    · subst same
      simp
    · rw [Function.update_of_ne same, Function.update_of_ne same, agree other mine]

variable (keys) in
/-- Of programs run one after the other, those with a footprint of their own do
    what they do without the others. -/
theorem alone_within (mine : Program Value Result × Result → Bool) (good : Store Value → Prop)
    (keep : ∀ rows d rows', good rows → Alone admits rows d rows' → good rows')
    {rows rows' : Store Value} {done : List (Program Value Result × Result)}
    (own : ∀ rows d rows', d ∈ done → Alone admits rows d rows' → mine d = true →
      Within keys (fun _ => none) d.1)
    (foreign : ∀ rows d rows', d ∈ done → good rows → Alone admits rows d rows' → mine d = false →
      ∀ key, keys key → rows' key = rows key)
    (run : Run (Alone admits) rows done rows') (start : good rows) :
    ∃ left, Run (Alone admits) rows (done.filter mine) left ∧
      ∀ key, keys key → left key = rows' key := by
  have both : good rows' ∧ ∃ left, Run (Alone admits) rows (done.filter mine) left ∧
      ∀ key, keys key → left key = rows' key := by
    induction run with
    | nil => exact ⟨start, rows, Run.nil, fun _ _ => rfl⟩
    | @snoc before m u d _ last ih =>
      obtain ⟨fine, left, run', agree⟩ := ih
        (fun rows x rows' there => own rows x rows' (List.mem_append_left _ there))
        (fun rows x rows' there => foreign rows x rows' (List.mem_append_left _ there))
      refine ⟨keep m d u fine last, ?_⟩
      rw [List.filter_append]
      cases ours : mine d with
      | false =>
        refine ⟨left, by simpa [ours] using run', ?_⟩
        intro key there
        rw [agree key there, foreign m d u (by simp) fine last ours key there]
      | true =>
        obtain ⟨answer, after⟩ := run_within (own m d u (by simp) last ours) agree
        obtain ⟨known, result⟩ := last
        rw [result] at answer after
        have one : Alone admits left d (d.1.run left).2 := ⟨known, Prod.ext answer rfl⟩
        exact ⟨(d.1.run left).2, by simpa [ours] using Run.snoc run' one, after⟩
  exact both.2

variable {rank : Key → Nat}

/-- The new lock ranks above those held, or is one of them. -/
def Ascending (rank : Key → Nat) (locks : Key → Option Mode) (key : Key) : Prop :=
  locks key = some .exclusive ∨ ∀ held, locks held ≠ none → rank held < rank key

def Owned (locks : Key → Option Mode) (key : Key) : Prop := locks key = some .exclusive

/-- Locks are taken in the order of the ranks, and a write finds its key locked. -/
abbrev Ordered (rank : Key → Nat) : (Key → Option Mode) → Program Value Result → Prop :=
  Along (Ascending rank) Owned

theorem below_locked {locks : Key → Option Mode} {key : Key} {top : Nat}
    (below : ∀ held, locks held ≠ none → rank held < top) (next : rank key < top) (mode : Mode) :
    ∀ held, locked locks key mode held ≠ none → rank held < top := by
  intro held there
  by_cases same : held = key
  · rw [same]
    exact next
  · rw [locked_other mode same] at there
    exact below held there

def Enabled (admits : Program Value Result → Prop) (s : State Value Result) (i : Nat) : Prop :=
  ∃ l s', Step admits s l s' ∧ (l = .statement i ∨ ∃ p result, l = .commit i p result)

def AllOrdered (rank : Key → Nat) (s : State Value Result) : Prop :=
  ∀ i t, s.sessions i = some t → Ordered rank t.locks t.rest

theorem locked_again {locks : Key → Option Mode} {key : Key}
    (held : locks key = some .exclusive) (mode : Mode) : locked locks key mode = locks := by
  funext other
  by_cases same : other = key
  · subst same
    simp [locked, raise, held]
  · rw [locked_other mode same]

theorem step_ordered (known : ∀ p : Program Value Result, admits p → Ordered rank (fun _ => none) p)
    {s s' : State Value Result} {l : Label Value Result} (h : AllOrdered rank s)
    (step : Step admits s l s') : AllOrdered rank s' := by
  intro j u there
  cases step with
  | opening i p fresh admitted =>
    rcases update_session there with ⟨-, isNew⟩ | ⟨-, old⟩
    · obtain rfl := Option.some.inj isNew
      exact known p admitted
    · exact h j u old
  | fetch i present here granted =>
    rcases update_session there with ⟨-, isNew⟩ | ⟨-, old⟩
    · obtain rfl := Option.some.inj isNew
      have ordered := h i _ present
      rw [here] at ordered
      exact ordered.2 _
    · exact h j u old
  | store i present here granted =>
    rcases update_session there with ⟨-, isNew⟩ | ⟨-, old⟩
    · obtain rfl := Option.some.inj isNew
      have ordered := h i _ present
      rw [here] at ordered
      simpa only [locked_again ordered.1] using ordered.2
    · exact h j u old
  | commit i present here =>
    rcases update_session there with ⟨-, gone⟩ | ⟨-, old⟩
    · cases gone
    · exact h j u old
  | rollback i present =>
    rcases update_session there with ⟨-, gone⟩ | ⟨-, old⟩
    · cases gone
    · exact h j u old

/-- A session that cannot go on waits for one that holds the key it asks for. -/
theorem enabled_or_waits {s : State Value Result} (h : Isolated admits s)
    (ordered : AllOrdered rank s) {i : Nat} {t : Session Value Result}
    (present : s.sessions i = some t) :
    Enabled admits s i ∨ ∃ key j u, (∀ held, t.locks held ≠ none → rank held < rank key) ∧
      s.sessions j = some u ∧ u.locks key ≠ none := by
  have owned : ∀ key mode, t.locks key = some .exclusive → Grantable s.sessions i key mode :=
    fun key mode held j u ne there => Or.inl (h.apart i j t u key (Ne.symm ne) present there held)
  have mine := ordered i t present
  cases here : t.rest with
  | answer result => exact Or.inl ⟨_, _, Step.commit i present here, Or.inr ⟨_, _, rfl⟩⟩
  | store key value rest =>
    rw [here] at mine
    exact Or.inl ⟨_, _, Step.store i present here (owned key .exclusive mine.1), Or.inl rfl⟩
  | fetch key mode rest =>
    by_cases granted : Grantable s.sessions i key (mode (view s.committed t.overlay key))
    · exact Or.inl ⟨_, _, Step.fetch i present here granted, Or.inl rfl⟩
    · rw [here] at mine
      rcases mine.1 with held | above
      · exact absurd (owned key _ held) granted
      · simp only [Grantable, not_forall] at granted
        obtain ⟨j, u, ne, there, conflict⟩ := granted
        refine Or.inr ⟨key, j, u, above, there, ?_⟩
        intro free
        exact conflict (Or.inl free)

theorem some_enabled {s : State Value Result} (h : Isolated admits s)
    (ordered : AllOrdered rank s) {top : Nat} (bounded : ∀ key, rank key ≤ top) {i : Nat}
    {t : Session Value Result} (present : s.sessions i = some t) :
    ∃ j, Enabled admits s j := by
  have climb : ∀ left key j u, rank key + left = top → s.sessions j = some u →
      u.locks key ≠ none → ∃ k, Enabled admits s k := by
    intro left
    induction left using Nat.strongRecOn with
    | ind left ih =>
      intro key j u level there held
      rcases enabled_or_waits h ordered there with go | ⟨next, k, v, above, atK, holds⟩
      · exact ⟨j, go⟩
      · have higher := above key held
        have below := bounded next
        exact ih (top - rank next) (by omega) next k v (by omega) atK holds
  rcases enabled_or_waits h ordered present with go | ⟨key, j, u, -, there, held⟩
  · exact ⟨i, go⟩
  · exact climb (top - rank key) key j u (by have := bounded key; omega) there held

theorem run_no_deadlock (known : ∀ p : Program Value Result, admits p →
      Ordered rank (fun _ => none) p) {top : Nat} (bounded : ∀ key, rank key ≤ top)
    {rows : Store Value} {labels : List (Label Value Result)} {s : State Value Result}
    (run : Run (Step admits) (State.start rows) labels s) {i : Nat} {t : Session Value Result}
    (present : s.sessions i = some t) : ∃ j, Enabled admits s j := by
  have ordered : AllOrdered rank s := by
    apply run_preserves (AllOrdered rank) (fun _ _ _ good step => step_ordered known good step) run
    intro j u there
    simp [State.start] at there
  exact some_enabled (run_isolated run) ordered bounded present

end

end RowLocking
