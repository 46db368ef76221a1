import Mathlib.Data.List.Basic
import Mathlib.Data.List.Find
import Mathlib.Data.List.Nodup
import Mathlib.Data.List.Sort

/-!
# Tables with a key

A table is the list of its rows in the order of their creation, and `key` is what a `WHERE` clause
compares. `first` is `SELECT … LIMIT 1`, `updates` writes every row of a key, and `upsert` is the usual
sequence of the two: look, create when there is nothing, and update. An update that keeps keys keeps
them unique (`upsert_nodup`), and every row of an upserted table is an old row, the new one, or an
update of one of them (`mem_upsert`).
-/

namespace Pledge.Store

variable {ρ κ : Type} [DecidableEq κ] (key : ρ → κ) (k : κ) (f : ρ → ρ) (new : ρ) (rows : List ρ)

/-- The first row with this key. -/
def first : Option ρ := rows.find? fun row => decide (key row = k)

/-- Write every row with this key. -/
def updates : List ρ := rows.map fun row => if key row = k then f row else row

/-- Create a row when there is none with this key, and update. -/
def upsert : List ρ :=
  match first key k rows with
  | some _ => updates key k f rows
  | none => updates key k f (rows ++ [new])

variable {key k f new rows}

theorem first_eq_none : first key k rows = none ↔ ∀ row ∈ rows, key row ≠ k := by
  simp [first, List.find?_eq_none]

theorem first_isSome : (first key k rows).isSome = true ↔ ∃ row ∈ rows, key row = k := by
  simp [first, List.find?_isSome]

theorem of_first {row : ρ} (h : first key k rows = some row) : row ∈ rows ∧ key row = k := by
  have hkey := List.find?_some h
  exact ⟨List.mem_of_find?_eq_some h, by simpa using hkey⟩

/-- A row at the end is found when there is none before it. -/
theorem first_append {rows' : List ρ} :
    first key k (rows ++ rows') = (first key k rows).or (first key k rows') :=
  List.find?_append

theorem first_single : first key k [new] = if key new = k then some new else none := by
  unfold first
  rw [List.find?_singleton]
  by_cases hk : key new = k
  · rw [if_pos hk, if_pos (decide_eq_true hk)]
  · rw [if_neg hk, if_neg (by simpa using hk)]

/-- Another way of comparing keys that finds the same rows. -/
theorem first_congr {κ' : Type} [DecidableEq κ'] {key' : ρ → κ'} {k' : κ'}
    (h : ∀ row ∈ rows, key' row = k' ↔ key row = k) : first key' k' rows = first key k rows := by
  apply List.find?_congr
  intro row hrow
  exact decide_eq_decide.mpr (h row hrow)

theorem updates_congr {κ' : Type} [DecidableEq κ'] {key' : ρ → κ'} {k' : κ'}
    (h : ∀ row ∈ rows, key' row = k' ↔ key row = k) : updates key' k' f rows = updates key k f rows := by
  apply List.map_congr_left
  intro row hrow
  by_cases hk : key row = k
  · rw [if_pos hk, if_pos ((h row hrow).mpr hk)]
  · rw [if_neg hk, if_neg (mt (h row hrow).mp hk)]

/-- The rows of other keys stay, and those of this key are written. -/
theorem mem_updates {row : ρ} :
    row ∈ updates key k f rows ↔
      (row ∈ rows ∧ key row ≠ k) ∨ ∃ old ∈ rows, key old = k ∧ row = f old := by
  unfold updates
  rw [List.mem_map]
  constructor
  · rintro ⟨old, hold, rfl⟩
    by_cases hk : key old = k
    · exact .inr ⟨old, hold, hk, by rw [if_pos hk]⟩
    · exact .inl (by rw [if_neg hk]; exact ⟨hold, hk⟩)
  · rintro (⟨hrow, hk⟩ | ⟨old, hold, hk, rfl⟩)
    · exact ⟨row, hrow, if_neg hk⟩
    · exact ⟨old, hold, if_pos hk⟩

/-- An update leaves the rows of another key. -/
theorem mem_updates_other {row : ρ} (hf : ∀ row, key (f row) = key row) (hrow : key row ≠ k) :
    row ∈ updates key k f rows ↔ row ∈ rows := by
  rw [mem_updates]
  constructor
  · rintro (⟨hold, -⟩ | ⟨old, -, hk, rfl⟩)
    · exact hold
    · exact absurd ((hf old).trans hk) hrow
  · intro hold
    exact .inl ⟨hold, hrow⟩

omit [DecidableEq κ] in
/-- A new row leaves the rows of another key, and so does an upsert. -/
theorem mem_append_other {row : ρ} (hnew : key new = k) (hrow : key row ≠ k) :
    row ∈ rows ++ [new] ↔ row ∈ rows := by
  rw [List.mem_append, List.mem_singleton, or_iff_left]
  rintro rfl
  exact hrow hnew

theorem mem_upsert_other {row : ρ} (hf : ∀ row, key (f row) = key row) (hnew : key new = k)
    (hrow : key row ≠ k) : row ∈ upsert key k f new rows ↔ row ∈ rows := by
  unfold upsert
  split
  · exact mem_updates_other hf hrow
  · rw [mem_updates_other hf hrow, mem_append_other hnew hrow]

/-- An update that keeps keys keeps all of them. -/
theorem keys_updates (hf : ∀ row, key (f row) = key row) :
    (updates key k f rows).map key = rows.map key := by
  unfold updates
  rw [List.map_map]
  apply List.map_congr_left
  intro row _
  show key (if key row = k then f row else row) = key row
  split
  · exact hf row
  · rfl

/-- **What is in an upserted table.** -/
theorem mem_upsert {row : ρ} (h : row ∈ upsert key k f new rows) :
    (row ∈ rows ∧ key row ≠ k) ∨ (∃ old ∈ rows, key old = k ∧ row = f old) ∨
      (row = new ∧ key new ≠ k) ∨ (row = f new ∧ key new = k) := by
  unfold upsert at h
  split at h
  · rcases mem_updates.mp h with hold | hwritten
    · exact .inl hold
    · exact .inr (.inl hwritten)
  · rcases mem_updates.mp h with ⟨hmem, hk⟩ | ⟨old, hmem, hk, rfl⟩
    · rcases List.mem_append.mp hmem with hold | hnew
      · exact .inl ⟨hold, hk⟩
      · obtain rfl := List.mem_singleton.mp hnew
        exact .inr (.inr (.inl ⟨rfl, hk⟩))
    · rcases List.mem_append.mp hmem with hold | hnew
      · exact .inr (.inl ⟨old, hold, hk, rfl⟩)
      · obtain rfl := List.mem_singleton.mp hnew
        exact .inr (.inr (.inr ⟨rfl, hk⟩))

/-- The keys of an upserted table are the old ones and the new one. -/
theorem keys_upsert (hf : ∀ row, key (f row) = key row) (hnew : key new = k) {j : κ} :
    j ∈ (upsert key k f new rows).map key ↔ j = k ∨ j ∈ rows.map key := by
  unfold upsert
  split
  · next old hold =>
      rw [keys_updates hf]
      constructor
      · exact .inr
      · rintro (rfl | hj)
        · have hsome : (first key j rows).isSome = true := by rw [hold]; rfl
          obtain ⟨row, hrow, hk⟩ := first_isSome.mp hsome
          exact List.mem_map.mpr ⟨row, hrow, hk⟩
        · exact hj
  · rw [keys_updates hf, List.map_append, List.mem_append, List.map_singleton, List.mem_singleton,
      hnew, or_comm]

/-- What holds of all rows of an upserted key: the old ones are updated, and where there is none the new
one is created and updated. -/
theorem forall_upsert {P : ρ → Prop} (hf : ∀ row, key (f row) = key row) (hnew : key new = k) :
    (∀ row ∈ upsert key k f new rows, key row = k → P row) ↔
      (∀ old ∈ rows, key old = k → P (f old)) ∧ ((∀ old ∈ rows, key old ≠ k) → P (f new)) := by
  have hupdates (rows : List ρ) : (∀ row ∈ updates key k f rows, key row = k → P row) ↔
      ∀ old ∈ rows, key old = k → P (f old) := by
    constructor
    · intro h old hold hk
      exact h (f old) (mem_updates.mpr (.inr ⟨old, hold, hk, rfl⟩)) ((hf old).trans hk)
    · intro h row hrow hk
      rcases mem_updates.mp hrow with ⟨-, hne⟩ | ⟨old, hold, hk', rfl⟩
      · exact absurd hk hne
      · exact h old hold hk'
  unfold upsert
  cases hfirst : first key k rows with
  | some old =>
      obtain ⟨hold, hk⟩ := of_first hfirst
      rw [hupdates, iff_self_and]
      intro _ hnone
      exact absurd hk (hnone old hold)
  | none =>
      dsimp only
      rw [hupdates, List.forall_mem_append]
      apply and_congr_right
      intro _
      rw [List.forall_mem_singleton, imp_iff_right hnew, imp_iff_right (first_eq_none.mp hfirst)]

/-- What every update brings about holds of all rows of an upserted key, and there is one. -/
theorem upsert_all {P : ρ → Prop} (hf : ∀ row, key (f row) = key row) (hnew : key new = k)
    (hP : ∀ row, P (f row)) :
    (∃ row ∈ upsert key k f new rows, key row = k) ∧
      ∀ row ∈ upsert key k f new rows, key row = k → P row := by
  constructor
  · exact List.mem_map.mp ((keys_upsert hf hnew).mpr (.inl rfl))
  · intro row hrow hk
    rcases mem_upsert hrow with ⟨-, hne⟩ | ⟨old, -, -, rfl⟩ | ⟨-, hne⟩ | ⟨rfl, -⟩
    · exact absurd hk hne
    · exact hP old
    · exact absurd hnew hne
    · exact hP new

/-- **Keys stay unique.** -/
theorem upsert_nodup (hf : ∀ row, key (f row) = key row) (hnew : key new = k)
    (h : (rows.map key).Nodup) : ((upsert key k f new rows).map key).Nodup := by
  unfold upsert
  split
  · rw [keys_updates hf]
    exact h
  · next hnone =>
      rw [keys_updates hf, List.map_append, List.map_singleton, ← List.concat_eq_append, hnew]
      apply h.concat
      intro hmem
      obtain ⟨row, hrow, hk⟩ := List.mem_map.mp hmem
      exact first_eq_none.mp hnone row hrow hk

/-- Where there is a row with this key there is a last one. -/
theorem exists_last (h : ∃ row ∈ rows, key row = k) :
    ∃ pre row post, rows = pre ++ row :: post ∧ key row = k ∧ ∀ row' ∈ post, key row' ≠ k := by
  induction rows with
  | nil => simp at h
  | cons row rows ih =>
      by_cases hlater : ∃ row ∈ rows, key row = k
      · obtain ⟨pre, row', post, rfl, hk, hlast⟩ := ih hlater
        exact ⟨row :: pre, row', post, rfl, hk, hlast⟩
      · refine ⟨[], row, rows, rfl, by simpa [hlater] using h, ?_⟩
        intro row' hrow' hk
        exact hlater ⟨row', hrow', hk⟩

/-! ## Positions in a table ordered by its key

When keys begin at some number and only grow, the key of a row is at least what its position says.
-/

/-- In an increasing list of numbers the number at a position is at least the position. -/
theorem le_getElem_of_increasing {ns : List Nat} {low j : Nat} (h : ns.Pairwise (· < ·))
    (hlow : ∀ n ∈ ns, low ≤ n) (hj : j < ns.length) : low + j ≤ ns.get ⟨j, hj⟩ := by
  induction ns generalizing low j with
  | nil => exact absurd hj (Nat.not_lt_zero j)
  | cons n ns ih =>
      rw [List.pairwise_cons] at h
      rw [List.forall_mem_cons] at hlow
      cases j with
      | zero => exact hlow.1
      | succ j =>
          -- the rest starts above `n`, so its positions count from `low + 1`
          have hlow' : ∀ m ∈ ns, low + 1 ≤ m := by
            intro m hm
            exact Nat.le_trans (Nat.succ_le_succ hlow.1) (h.1 m hm)
          have hrest := ih h.2 hlow' (Nat.lt_of_succ_lt_succ hj)
          rw [Nat.add_assoc, Nat.add_comm 1] at hrest
          exact hrest

/-- `ORDER BY` a column. -/
def orderBy {ι : Type} [LinearOrder ι] (rank : ρ → ι) (rows : List ρ) : List ρ :=
  rows.insertionSort fun a b => rank a ≤ rank b

section orderBy

variable {ι : Type} [LinearOrder ι] {rank : ρ → ι}

theorem mem_orderBy {row : ρ} : row ∈ orderBy rank rows ↔ row ∈ rows :=
  List.mem_insertionSort _

/-- Where the column is unique the order is strict. -/
theorem orderBy_increasing (h : (rows.map rank).Nodup) :
    ((orderBy rank rows).map rank).Pairwise (· < ·) := by
  have : Std.Total fun a b : ρ => rank a ≤ rank b := ⟨fun a b => le_total (rank a) (rank b)⟩
  have : IsTrans ρ fun a b => rank a ≤ rank b := ⟨fun _ _ _ hab hbc => le_trans hab hbc⟩
  have hsorted : (orderBy rank rows).Pairwise fun a b => rank a ≤ rank b :=
    List.pairwise_insertionSort _ rows
  have hdistinct : ((orderBy rank rows).map rank).Nodup :=
    ((List.perm_insertionSort _ rows).map rank).nodup_iff.mpr h
  rw [List.pairwise_map]
  exact (hsorted.and (List.pairwise_map.mp hdistinct)).imp fun hboth =>
    lt_of_le_of_ne hboth.1 hboth.2

end orderBy

/-! ## Pages -/

/-- The rows on some first pages are the first rows. -/
theorem flatMap_pages {ρ : Type} (rows : List ρ) (size count : Nat) :
    ((List.range count).flatMap fun page => (rows.drop (page * size)).take size) =
      rows.take (count * size) := by
  induction count with
  | zero => simp
  | succ count ih =>
      rw [List.range_succ, List.flatMap_append, ih, Nat.succ_mul, List.take_add]
      simp

/-- **The pages make up the table.** -/
theorem pages_eq {ρ : Type} (rows : List ρ) {size : Nat} (hsize : 0 < size) :
    ((List.range ((rows.length + size - 1) / size)).flatMap
      fun page => (rows.drop (page * size)).take size) = rows := by
  rw [flatMap_pages]
  apply List.take_of_length_le
  have hdiv := Nat.div_add_mod (rows.length + size - 1) size
  have hmod := Nat.mod_lt (rows.length + size - 1) hsize
  rw [Nat.mul_comm] at hdiv
  omega

end Pledge.Store
