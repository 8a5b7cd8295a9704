import Mathlib.Data.List.Basic

/-!
Tables with an auto-increment primary key and one UNIQUE column. A row is found
under its own id, at most one row carries a key, and no row stands at an id not
yet handed out: the three facts are fields, so no operation can lose them.
-/
namespace KeyedTable

class Record (Row : Type) (Key : outParam Type) where
  id : Row → Nat
  key : Row → Key

structure Table (Row : Type) {Key : Type} [Record Row Key] where
  find : Nat → Option Row
  next : Nat
  bounded : ∀ i, next ≤ i → find i = none
  keyed : ∀ i row, find i = some row → Record.id row = i
  distinct : ∀ i j r s, find i = some r → find j = some s → Record.key r = Record.key s → i = j

variable {Row Key : Type} [Record Row Key]

def Table.empty : Table Row where
  find := fun _ => none
  next := 1
  bounded := by intro i h; rfl
  keyed := by intro i row h; simp at h
  distinct := by intro i j r s h; simp at h

/-- All rows, in primary-key order. -/
def Table.all (t : Table Row) : List Row := (List.range t.next).filterMap t.find

def Table.findKey [DecidableEq Key] (t : Table Row) (key : Key) : Option Row :=
  t.all.find? (fun row => Record.key row = key)

theorem found_below (t : Table Row) {i : Nat} {row : Row} (h : t.find i = some row) :
    i < t.next := by
  by_cases below : i < t.next
  · exact below
  · simp [t.bounded i (by omega)] at h

theorem mem_all (t : Table Row) (row : Row) :
    row ∈ t.all ↔ t.find (Record.id row) = some row := by
  simp only [Table.all, List.mem_filterMap, List.mem_range]
  constructor
  · rintro ⟨i, below, found⟩
    rwa [t.keyed i row found]
  · intro found
    exact ⟨_, found_below t found, found⟩

theorem all_distinct (t : Table Row) :
    t.all.Pairwise (fun r s => Record.id r ≠ Record.id s) := by
  rw [Table.all, List.pairwise_filterMap]
  apply List.Pairwise.imp ?_ List.nodup_range
  intro i j ne r hr s hs
  rw [t.keyed i r hr, t.keyed j s hs]
  exact ne

theorem findKey_some [DecidableEq Key] (t : Table Row) {key : Key} {row : Row}
    (h : t.findKey key = some row) :
    t.find (Record.id row) = some row ∧ Record.key row = key := by
  have same := List.find?_some h
  have member := List.mem_of_find?_eq_some h
  exact ⟨(mem_all t row).mp member, by simpa using same⟩

theorem findKey_none [DecidableEq Key] (t : Table Row) {key : Key}
    (h : t.findKey key = none) {i : Nat} {row : Row} (found : t.find i = some row) :
    Record.key row ≠ key := by
  have member : row ∈ t.all := by rw [mem_all t, t.keyed i row found]; exact found
  simpa using List.find?_eq_none.mp h row member

theorem findKey_found [DecidableEq Key] (t : Table Row) {i : Nat} {row : Row}
    (found : t.find i = some row) : t.findKey (Record.key row) = some row := by
  cases h : t.findKey (Record.key row) with
  | none => exact absurd rfl (findKey_none t h found)
  | some other =>
    obtain ⟨there, same⟩ := findKey_some t h
    have at_id := t.distinct _ _ _ _ there found same
    rw [at_id, found] at there
    exact there.symm

/-- UPDATE of the row with one id; the written columns are neither the id nor
    the UNIQUE column. -/
def Table.modify (t : Table Row) (i : Nat) (f : Row → Row)
    (keepsId : ∀ row, Record.id (f row) = Record.id row)
    (keepsKey : ∀ row, Record.key (f row) = Record.key row) : Table Row where
  find := fun j => if j = i then (t.find j).map f else t.find j
  next := t.next
  bounded := by
    intro j h
    simp [t.bounded j h]
  keyed := by
    intro j row h
    split at h
    · obtain ⟨old, found, rfl⟩ := Option.map_eq_some_iff.mp h
      rw [keepsId, t.keyed j old found]
    · exact t.keyed j row h
  distinct := by
    have origin : ∀ j row, (if j = i then (t.find j).map f else t.find j) = some row →
        ∃ old, t.find j = some old ∧ Record.key old = Record.key row := by
      intro j row h
      split at h
      · obtain ⟨old, found, rfl⟩ := Option.map_eq_some_iff.mp h
        exact ⟨old, found, (keepsKey old).symm⟩
      · exact ⟨row, h, rfl⟩
    intro j k r s hr hs same
    obtain ⟨oldR, foundR, keyR⟩ := origin j r hr
    obtain ⟨oldS, foundS, keyS⟩ := origin k s hs
    exact t.distinct j k oldR oldS foundR foundS (by rw [keyR, keyS, same])

@[simp] theorem find_modify (t : Table Row) (i j : Nat) (f : Row → Row)
    (hi : ∀ row, Record.id (f row) = Record.id row)
    (hk : ∀ row, Record.key (f row) = Record.key row) :
    (t.modify i f hi hk).find j = if j = i then (t.find j).map f else t.find j := rfl

/-- INSERT. A duplicate key refuses the row but still uses up an id. -/
def Table.insert [DecidableEq Key] (t : Table Row) (make : Nat → Row)
    (keepsId : ∀ i, Record.id (make i) = i) : Option Nat × Table Row :=
  match h : t.findKey (Record.key (make t.next)) with
  | some _ =>
    (none, { t with next := t.next + 1, bounded := fun i hi => t.bounded i (by omega) })
  | none =>
    (some t.next,
      { find := fun j => if j = t.next then some (make j) else t.find j
        next := t.next + 1
        bounded := by
          intro i hi
          rw [if_neg (by omega)]
          exact t.bounded i (by omega)
        keyed := by
          intro i row found
          split at found
          · obtain rfl := Option.some.inj found
            exact keepsId i
          · exact t.keyed i row found
        distinct := by
          intro i j r s hr hs same
          split at hr <;> split at hs
          · omega
          · rename_i atNext _
            obtain rfl := Option.some.inj hr
            subst atNext
            exact absurd same.symm (findKey_none t h hs)
          · rename_i _ atNext
            obtain rfl := Option.some.inj hs
            subst atNext
            exact absurd same (findKey_none t h hr)
          · exact t.distinct i j r s hr hs same })

theorem insert_refused [DecidableEq Key] {t u : Table Row} {make : Nat → Row}
    {hid : ∀ i, Record.id (make i) = i} (h : t.insert make hid = (none, u)) :
    u.find = t.find ∧
      ∃ row, t.find (Record.id row) = some row ∧ Record.key row = Record.key (make t.next) := by
  unfold Table.insert at h
  split at h
  · rename_i row dup
    obtain rfl : _ = u := (Prod.mk.inj h).2
    exact ⟨rfl, row, findKey_some t dup⟩
  · simp at h

theorem insert_inserted [DecidableEq Key] {t u : Table Row} {make : Nat → Row}
    {hid : ∀ i, Record.id (make i) = i} {i : Nat} (h : t.insert make hid = (some i, u)) :
    t.find i = none ∧ u.find = (fun j => if j = i then some (make i) else t.find j) ∧
      ∀ j row, t.find j = some row → Record.key row ≠ Record.key (make i) := by
  unfold Table.insert at h
  split at h
  · simp at h
  · rename_i free
    obtain ⟨eq, rfl⟩ := Prod.mk.inj h
    obtain rfl : t.next = i := Option.some.inj eq
    refine ⟨t.bounded _ (Nat.le_refl _), ?_, fun j row found => findKey_none t free found⟩
    funext j
    by_cases same : j = t.next <;> simp [same]

theorem findKey_iff [DecidableEq Key] (t : Table Row) {key : Key} {row : Row} :
    t.findKey key = some row ↔ t.find (Record.id row) = some row ∧ Record.key row = key := by
  constructor
  · exact findKey_some t
  · rintro ⟨found, rfl⟩
    exact findKey_found t found

theorem findKey_congr [DecidableEq Key] {t u : Table Row} (same : u.find = t.find) (key : Key) :
    u.findKey key = t.findKey key := by
  apply Option.ext
  intro row
  rw [findKey_iff, findKey_iff, same]

theorem findKey_modify [DecidableEq Key] (t : Table Row) (i : Nat) (f : Row → Row)
    (hi : ∀ row, Record.id (f row) = Record.id row)
    (hk : ∀ row, Record.key (f row) = Record.key row) (key : Key) :
    (t.modify i f hi hk).findKey key =
      (t.findKey key).map (fun row => if Record.id row = i then f row else row) := by
  cases before : t.findKey key with
  | some old =>
    obtain ⟨there, carries⟩ := findKey_some t before
    rw [Option.map_some, findKey_iff, find_modify]
    by_cases here : Record.id old = i
    · subst here
      simp [hi, hk, carries, there]
    · simp [here, there, carries]
  | none =>
    cases after : (t.modify i f hi hk).findKey key with
    | none => rfl
    | some row =>
      obtain ⟨there, carries⟩ := findKey_some _ after
      rw [find_modify] at there
      split at there
      · obtain ⟨old, found, rfl⟩ := Option.map_eq_some_iff.mp there
        rw [hk] at carries
        exact absurd carries (findKey_none t before found)
      · exact absurd carries (findKey_none t before there)

theorem insert_taken [DecidableEq Key] {t : Table Row} {make : Nat → Row}
    {hid : ∀ i, Record.id (make i) = i} {row : Row}
    (taken : t.findKey (Record.key (make t.next)) = some row) :
    ∃ u, t.insert make hid = (none, u) ∧ u.next = t.next + 1 := by
  unfold Table.insert
  split
  · exact ⟨_, rfl, rfl⟩
  · rename_i free
    simp [free] at taken

theorem insert_free [DecidableEq Key] {t : Table Row} {make : Nat → Row}
    {hid : ∀ i, Record.id (make i) = i}
    (free : t.findKey (Record.key (make t.next)) = none) :
    ∃ u, t.insert make hid = (some t.next, u) ∧ u.next = t.next + 1 := by
  unfold Table.insert
  split
  · rename_i row taken
    simp [free] at taken
  · exact ⟨_, rfl, rfl⟩

theorem insert_next [DecidableEq Key] {t u : Table Row} {make : Nat → Row}
    {hid : ∀ i, Record.id (make i) = i} {i : Nat} (h : t.insert make hid = (some i, u)) :
    u.next = t.next + 1 ∧ i = t.next := by
  unfold Table.insert at h
  split at h
  · simp at h
  · obtain ⟨eq, rfl⟩ := Prod.mk.inj h
    exact ⟨rfl, (Option.some.inj eq).symm⟩

theorem findKey_inserted [DecidableEq Key] {t u : Table Row} {make : Nat → Row}
    {hid : ∀ i, Record.id (make i) = i} {i : Nat} (h : t.insert make hid = (some i, u))
    (key : Key) :
    u.findKey key = if key = Record.key (make i) then some (make i) else t.findKey key := by
  obtain ⟨free, shape, apart⟩ := insert_inserted h
  have there : u.find (Record.id (make i)) = some (make i) := by simp [hid, shape]
  by_cases same : key = Record.key (make i)
  · rw [if_pos same, findKey_iff]
    exact ⟨there, same.symm⟩
  · rw [if_neg same]
    apply Option.ext
    intro row
    rw [findKey_iff, findKey_iff, shape]
    by_cases at_i : Record.id row = i
    · simp only [at_i, if_true, free, Option.some.injEq, reduceCtorEq, false_and, iff_false]
      rintro ⟨rfl, carries⟩
      exact same carries.symm
    · simp [at_i]

/-- A duplicate key, or an id in use, refuses the row. -/
def Table.insertAs [DecidableEq Key] (t : Table Row) (row : Row) : Bool × Table Row :=
  if free : t.findKey (Record.key row) = none ∧ t.find (Record.id row) = none then
    (true,
      { find := fun j => if j = Record.id row then some row else t.find j
        next := max t.next (Record.id row + 1)
        bounded := by
          intro i above
          rw [if_neg (by omega)]
          exact t.bounded i (by omega)
        keyed := by
          intro i other found
          split at found
          · rename_i here
            rw [here, ← Option.some.inj found]
          · exact t.keyed i other found
        distinct := by
          intro i j r s hr hs same
          split at hr <;> split at hs
          · omega
          · obtain rfl := Option.some.inj hr
            exact absurd same.symm (findKey_none t free.1 hs)
          · obtain rfl := Option.some.inj hs
            exact absurd same (findKey_none t free.1 hr)
          · exact t.distinct i j r s hr hs same })
  else
    (false,
      { t with
        next := max t.next (Record.id row + 1)
        bounded := fun i above => t.bounded i (by omega) })

/-- INSERT draws the next id. -/
theorem insert_as [DecidableEq Key] (t : Table Row) (make : Nat → Row)
    (keepsId : ∀ i, Record.id (make i) = i) :
    ((t.insert make keepsId).1.isSome, (t.insert make keepsId).2) = t.insertAs (make t.next) := by
  have unused : t.find t.next = none := t.bounded _ (Nat.le_refl _)
  unfold Table.insert Table.insertAs
  split
  · rename_i row taken
    simp [taken, keepsId]
  · rename_i free
    simp only [free, keepsId, unused, and_self, dite_true, Option.isSome_some, Prod.mk.injEq,
      true_and, Table.mk.injEq]
    constructor
    · funext j
      by_cases here : j = t.next <;> simp [here]
    · omega

theorem insertAs_refused [DecidableEq Key] {t : Table Row} {row : Row}
    (taken : ¬ (t.findKey (Record.key row) = none ∧ t.find (Record.id row) = none)) :
    (t.insertAs row).1 = false ∧ (t.insertAs row).2.find = t.find := by
  rw [Table.insertAs, dif_neg taken]
  exact ⟨rfl, rfl⟩

theorem insertAs_inserted [DecidableEq Key] {t : Table Row} {row : Row}
    (free : t.findKey (Record.key row) = none ∧ t.find (Record.id row) = none) :
    (t.insertAs row).1 = true ∧ ∀ j, (t.insertAs row).2.find j =
      if j = Record.id row then some row else t.find j := by
  rw [Table.insertAs, dif_pos free]
  exact ⟨rfl, fun _ => rfl⟩

theorem findKey_insertedAs [DecidableEq Key] {t : Table Row} {row : Row}
    (free : t.findKey (Record.key row) = none ∧ t.find (Record.id row) = none) (key : Key) :
    (t.insertAs row).2.findKey key =
      if key = Record.key row then some row else t.findKey key := by
  obtain ⟨-, shape⟩ := insertAs_inserted free
  by_cases same : key = Record.key row
  · rw [if_pos same, findKey_iff, shape, if_pos rfl]
    exact ⟨rfl, same.symm⟩
  · rw [if_neg same]
    apply Option.ext
    intro other
    rw [findKey_iff, findKey_iff, shape]
    by_cases here : Record.id other = Record.id row
    · simp only [here, if_true, free.2, Option.some.injEq, reduceCtorEq, false_and, iff_false]
      rintro ⟨rfl, carries⟩
      exact same carries.symm
    · simp [here]

end KeyedTable
