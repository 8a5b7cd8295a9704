import Mathlib.Logic.Basic

/-!
A job queue with one job per job id, as a worker pool sees it. Adding an id that
is present in any state is ignored, a job whose handler returned is deleted, and
one whose handler threw runs again later while it has attempts left. An active
job is locked by one holder at a time. A locked job cannot be removed; when its
lock runs out it can, and it goes back to waiting at the next check for stalled
jobs, although its holder may still be running.
-/
namespace JobStore

/-- `unlocked` is an active job whose lock has run out. -/
inductive JobState where
  | waiting
  | delayed
  | active (holder : Nat)
  | unlocked
  | failed
  deriving DecidableEq, Repr

structure Job (Data : Type) where
  data : Data
  attempts : Nat
  attemptsMade : Nat
  state : JobState
  deriving DecidableEq, Repr

/-- Jobs are filed under the id that their data determines. -/
structure Jobs {Id Data : Type} (idFor : Data → Id) where
  job : Id → Option (Job Data)
  filed : ∀ id j, job id = some j → idFor j.data = id

variable {Id Data : Type} [DecidableEq Id] {idFor : Data → Id}

def Jobs.empty : Jobs idFor where
  job := fun _ => none
  filed := by intro id j h; simp at h

def Jobs.put (q : Jobs idFor) (j : Job Data) : Jobs idFor where
  job := fun id => if id = idFor j.data then some j else q.job id
  filed := by
    intro id k h
    split at h
    · obtain rfl := Option.some.inj h
      exact Eq.symm (by assumption)
    · exact q.filed id k h

def Jobs.delete (q : Jobs idFor) (id : Id) : Jobs idFor where
  job := fun other => if other = id then none else q.job other
  filed := by
    intro other j h
    split at h
    · simp at h
    · exact q.filed other j h

@[simp] theorem job_put (q : Jobs idFor) (j : Job Data) (id : Id) :
    (q.put j).job id = if id = idFor j.data then some j else q.job id := rfl

@[simp] theorem job_delete (q : Jobs idFor) (id other : Id) :
    (q.delete id).job other = if other = id then none else q.job other := rfl

def Jobs.add (q : Jobs idFor) (data : Data) (attempts : Nat) : Jobs idFor :=
  match q.job (idFor data) with
  | some _ => q
  | none => q.put { data, attempts, attemptsMade := 0, state := .waiting }

/-- `none`: the job is locked by a worker and stays. -/
def Jobs.remove (q : Jobs idFor) (id : Id) : Option (Jobs idFor) :=
  match q.job id with
  | none => some q
  | some j =>
    match j.state with
    | .active _ => none
    | _ => some (q.delete id)

/-- A worker takes a runnable job; a delayed job is promoted when its time comes. -/
def Jobs.take (q : Jobs idFor) (id : Id) (holder : Nat) : Option (Data × Jobs idFor) :=
  match q.job id with
  | none => none
  | some j =>
    match j.state with
    | .waiting | .delayed => some (j.data, q.put { j with state := .active holder })
    | _ => none

/-- The handler returned: the finished job is deleted. -/
def Jobs.complete (q : Jobs idFor) (id : Id) (holder : Nat) : Option (Jobs idFor) :=
  match q.job id with
  | none => none
  | some j => if j.state = .active holder then some (q.delete id) else none

/-- The handler threw: the attempt is counted and the job runs again later, or
    is kept as failed once its attempts are used up. -/
def Jobs.fail (q : Jobs idFor) (id : Id) (holder : Nat) : Option (Job Data × Jobs idFor) :=
  match q.job id with
  | none => none
  | some j =>
    if j.state = .active holder then
      let again := if j.attemptsMade + 1 < j.attempts then JobState.delayed else JobState.failed
      let j' := { j with attemptsMade := j.attemptsMade + 1, state := again }
      some (j', q.put j')
    else none

/-- The holder no longer renews its lock. -/
def Jobs.expire (q : Jobs idFor) (id : Id) : Jobs idFor :=
  match q.job id with
  | none => q
  | some j =>
    match j.state with
    | .active _ => q.put { j with state := .unlocked }
    | _ => q

def Jobs.stall (q : Jobs idFor) (id : Id) : Jobs idFor :=
  match q.job id with
  | none => q
  | some j => if j.state = .unlocked then q.put { j with state := .waiting } else q

theorem add_other (q : Jobs idFor) (data : Data) (attempts : Nat) {id : Id}
    (h : id ≠ idFor data) : (q.add data attempts).job id = q.job id := by
  unfold Jobs.add
  split
  · rfl
  · simp [h]

/-- After an add the id has a job: the one that was there, or a fresh waiting one. -/
theorem add_same (q : Jobs idFor) (data : Data) (attempts : Nat) :
    (q.add data attempts).job (idFor data) =
      some ((q.job (idFor data)).getD { data, attempts, attemptsMade := 0, state := .waiting }) := by
  unfold Jobs.add
  split
  · rename_i j h
    simp [h]
  · rename_i h
    simp [h]

theorem remove_some {q q' : Jobs idFor} {id : Id} (h : q.remove id = some q') :
    (∀ j holder, q.job id = some j → j.state ≠ .active holder) ∧ q'.job id = none ∧
      ∀ other, other ≠ id → q'.job other = q.job other := by
  unfold Jobs.remove at h
  split at h
  · rename_i absent
    obtain rfl := Option.some.inj h
    simp [absent]
  · rename_i j present
    split at h
    · simp at h
    · rename_i notActive
      obtain rfl := Option.some.inj h
      refine ⟨?_, by simp, fun other ne => by simp [ne]⟩
      intro k holder found
      obtain rfl : j = k := Option.some.inj (present.symm.trans found)
      exact notActive holder

theorem take_some {q q' : Jobs idFor} {id : Id} {holder : Nat} {data : Data}
    (h : q.take id holder = some (data, q')) :
    ∃ j, q.job id = some j ∧ data = j.data ∧ (j.state = .waiting ∨ j.state = .delayed) ∧
      q' = q.put { j with state := .active holder } := by
  unfold Jobs.take at h
  split at h
  · simp at h
  · rename_i j present
    split at h
    · rename_i waits
      obtain ⟨rfl, rfl⟩ := Prod.mk.inj (Option.some.inj h)
      exact ⟨j, present, rfl, Or.inl waits, rfl⟩
    · rename_i waits
      obtain ⟨rfl, rfl⟩ := Prod.mk.inj (Option.some.inj h)
      exact ⟨j, present, rfl, Or.inr waits, rfl⟩
    · simp at h

theorem complete_some {q q' : Jobs idFor} {id : Id} {holder : Nat}
    (h : q.complete id holder = some q') :
    ∃ j, q.job id = some j ∧ j.state = .active holder ∧ q' = q.delete id := by
  unfold Jobs.complete at h
  split at h
  · simp at h
  · rename_i j present
    split at h
    · rename_i active
      exact ⟨j, present, active, (Option.some.inj h).symm⟩
    · simp at h

theorem fail_some {q q' : Jobs idFor} {id : Id} {holder : Nat} {j' : Job Data}
    (h : q.fail id holder = some (j', q')) :
    ∃ j, q.job id = some j ∧ j.state = .active holder ∧ q' = q.put j' ∧ j'.data = j.data ∧
      j'.attempts = j.attempts ∧ j'.attemptsMade = j.attemptsMade + 1 ∧
      (j'.state = .delayed ∧ j'.attemptsMade < j'.attempts ∨
        j'.state = .failed ∧ j'.attempts ≤ j'.attemptsMade) := by
  unfold Jobs.fail at h
  split at h
  · simp at h
  · rename_i j present
    split at h
    · rename_i active
      obtain ⟨rfl, rfl⟩ := Prod.mk.inj (Option.some.inj h)
      refine ⟨j, present, active, rfl, rfl, rfl, rfl, ?_⟩
      by_cases left : j.attemptsMade + 1 < j.attempts
      · simp [left]
      · simp [left]
        omega
    · simp at h

def Keeps (q q' : Jobs idFor) : Prop :=
  ∀ id j', q'.job id = some j' → ∃ j, q.job id = some j ∧ j.data = j'.data

omit [DecidableEq Id] in
theorem keeps_refl (q : Jobs idFor) : Keeps q q := fun _ j' h => ⟨j', h, rfl⟩

theorem delete_keeps (q : Jobs idFor) (id : Id) : Keeps q (q.delete id) := by
  intro other j' h
  rw [job_delete] at h
  split at h
  · simp at h
  · exact ⟨j', h, rfl⟩

theorem put_keeps {q : Jobs idFor} {id : Id} {j j' : Job Data} (present : q.job id = some j)
    (same : j'.data = j.data) : Keeps q (q.put j') := by
  intro other k h
  rw [job_put] at h
  split at h
  · rename_i here
    obtain rfl := Option.some.inj h
    rw [here, same, q.filed id j present]
    exact ⟨j, present, rfl⟩
  · exact ⟨k, h, rfl⟩

theorem remove_keeps {q q' : Jobs idFor} {id : Id} (h : q.remove id = some q') : Keeps q q' := by
  unfold Jobs.remove at h
  split at h
  · obtain rfl := Option.some.inj h
    exact keeps_refl q
  · split at h
    · simp at h
    · obtain rfl := Option.some.inj h
      exact delete_keeps q id

theorem take_keeps {q q' : Jobs idFor} {id : Id} {holder : Nat} {data : Data}
    (h : q.take id holder = some (data, q')) : Keeps q q' := by
  obtain ⟨j, present, -, -, rfl⟩ := take_some h
  exact put_keeps present rfl

theorem complete_keeps {q q' : Jobs idFor} {id : Id} {holder : Nat}
    (h : q.complete id holder = some q') : Keeps q q' := by
  obtain ⟨j, -, -, rfl⟩ := complete_some h
  exact delete_keeps q id

theorem fail_keeps {q q' : Jobs idFor} {id : Id} {holder : Nat} {j' : Job Data}
    (h : q.fail id holder = some (j', q')) : Keeps q q' := by
  obtain ⟨j, present, -, rfl, same, -⟩ := fail_some h
  exact put_keeps present same

theorem expire_keeps (q : Jobs idFor) (id : Id) : Keeps q (q.expire id) := by
  unfold Jobs.expire
  split
  · exact keeps_refl q
  · rename_i j present
    split
    · exact put_keeps present rfl
    · exact keeps_refl q

theorem stall_keeps (q : Jobs idFor) (id : Id) : Keeps q (q.stall id) := by
  unfold Jobs.stall
  split
  · exact keeps_refl q
  · rename_i j present
    split
    · exact put_keeps present rfl
    · exact keeps_refl q

/-- A job after an add was there before, or is the one for the added data. -/
theorem add_origin {q : Jobs idFor} {data : Data} {attempts : Nat} {id : Id} {j : Job Data}
    (h : (q.add data attempts).job id = some j) :
    q.job id = some j ∨ id = idFor data ∧ q.job id = none ∧
      j = { data, attempts, attemptsMade := 0, state := .waiting } := by
  by_cases same : id = idFor data
  · subst same
    rw [add_same] at h
    cases before : q.job (idFor data) with
    | some old => exact Or.inl (by simpa [before] using h)
    | none => exact Or.inr ⟨rfl, rfl, by simpa [before] using h.symm⟩
  · rw [add_other q data attempts same] at h
    exact Or.inl h

theorem add_present {q : Jobs idFor} {id : Id} {j : Job Data} (data : Data) (attempts : Nat)
    (present : q.job id = some j) : (q.add data attempts).job id = some j := by
  by_cases same : id = idFor data
  · rw [same, add_same, ← same, present]
    rfl
  · rw [add_other q data attempts same, present]

theorem complete_active {q : Jobs idFor} {id : Id} {holder : Nat} {j : Job Data}
    (present : q.job id = some j) (active : j.state = .active holder) :
    q.complete id holder = some (q.delete id) := by
  simp [Jobs.complete, present, active]

theorem fail_active {q : Jobs idFor} {id : Id} {holder : Nat} {j : Job Data}
    (present : q.job id = some j) (active : j.state = .active holder) :
    ∃ j' q', q.fail id holder = some (j', q') := by
  simp [Jobs.fail, present, active]

theorem remove_kept {q q' : Jobs idFor} {id other : Id} {j : Job Data} {holder : Nat}
    (h : q.remove id = some q') (present : q.job other = some j)
    (active : j.state = .active holder) : q'.job other = some j := by
  obtain ⟨idle, -, rest⟩ := remove_some h
  have apart : other ≠ id := by
    intro same
    rw [same] at present
    exact idle j holder present active
  rw [rest other apart, present]

theorem put_other {q : Jobs idFor} {id other : Id} {j j' : Job Data}
    (present : q.job id = some j) (same : j'.data = j.data) (apart : other ≠ id) :
    (q.put j').job other = q.job other := by
  rw [job_put, same, q.filed id j present, if_neg apart]

theorem put_own {q : Jobs idFor} {id : Id} {j j' : Job Data} (present : q.job id = some j)
    (same : j'.data = j.data) : (q.put j').job id = some j' := by
  rw [job_put, same, q.filed id j present, if_pos rfl]

end JobStore
