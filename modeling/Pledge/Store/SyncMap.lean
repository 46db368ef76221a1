import Mathlib.Data.List.Basic
import Mathlib.Data.List.Nodup

/-!
# Maps that change while they are walked through

Go's `sync.Map`. A `Range` visits no key twice, and it visits every key that is there from its beginning
to its end. For a key that is stored or deleted meanwhile it may see any value that the key has had
since it began.
-/

namespace Pledge.Store

/-- The entries of a map, one for each key. -/
structure SyncMap (κ ν : Type) where
  entries : List (κ × ν) := []
  nodup : (entries.map Prod.fst).Nodup := by exact List.nodup_nil
  deriving Repr, DecidableEq

namespace SyncMap

variable {κ ν : Type}

/-- A key has one value. -/
theorem value_unique {m : SyncMap κ ν} {key : κ} {v v' : ν} (h : (key, v) ∈ m.entries)
    (h' : (key, v') ∈ m.entries) : v = v' :=
  congrArg Prod.snd (List.inj_on_of_nodup_map m.nodup h h' rfl)

variable [DecidableEq κ]

/-- `Delete`. A key that is not there is no error. -/
def delete (m : SyncMap κ ν) (key : κ) : SyncMap κ ν where
  entries := m.entries.filter fun entry => decide (entry.1 ≠ key)
  nodup := m.nodup.sublist (List.filter_sublist.map Prod.fst)

/-- `Store`. -/
def store (m : SyncMap κ ν) (key : κ) (value : ν) : SyncMap κ ν where
  entries := (m.delete key).entries ++ [(key, value)]
  nodup := by
    rw [List.map_append, List.map_singleton, ← List.concat_eq_append]
    apply (m.delete key).nodup.concat
    intro hmem
    obtain ⟨entry, hentry, hkey⟩ := List.mem_map.mp hmem
    exact of_decide_eq_true (List.mem_filter.mp hentry).2 hkey

variable {m : SyncMap κ ν} {key : κ} {value : ν} {entry : κ × ν}

@[simp] theorem mem_delete :
    entry ∈ (m.delete key).entries ↔ entry ∈ m.entries ∧ entry.1 ≠ key := by
  simp [delete, List.mem_filter]

@[simp] theorem mem_store : entry ∈ (m.store key value).entries ↔
    (entry ∈ m.entries ∧ entry.1 ≠ key) ∨ entry = (key, value) := by
  show entry ∈ (m.delete key).entries ++ [(key, value)] ↔ _
  rw [List.mem_append, mem_delete, List.mem_singleton]

end SyncMap

/-- A `Range` that has begun. -/
structure Range (κ ν : Type) where
  /-- The entries that there have been since it began. -/
  offered : List (κ × ν)
  /-- The keys that have been there since it began. -/
  due : List κ
  visited : List (κ × ν) := []
  nodup : (visited.map Prod.fst).Nodup := by exact List.nodup_nil
  visited_offered : ∀ entry ∈ visited, entry ∈ offered := by simp
  deriving Repr, DecidableEq

namespace Range

variable {κ ν : Type} [DecidableEq κ] (r : Range κ ν)

/-- It begins. -/
def start (m : SyncMap κ ν) : Range κ ν where
  offered := m.entries
  due := m.entries.map Prod.fst

/-- A `Store` meanwhile. -/
def stored (key : κ) (value : ν) : Range κ ν :=
  { r with
    offered := r.offered ++ [(key, value)]
    visited_offered := fun entry h => List.mem_append_left _ (r.visited_offered entry h) }

/-- A `Delete` meanwhile. -/
def deleted (key : κ) : Range κ ν := { r with due := r.due.filter fun k => decide (k ≠ key) }

/-- The entry is passed to the function, if it may be. -/
def visit [DecidableEq ν] (entry : κ × ν) : Option (Range κ ν) :=
  if h : entry ∈ r.offered ∧ entry.1 ∉ r.visited.map Prod.fst then
    some { r with
      visited := r.visited ++ [entry]
      nodup := by
        rw [List.map_append, List.map_singleton, ← List.concat_eq_append]
        exact r.nodup.concat h.2
      visited_offered := by
        rw [List.forall_mem_append, List.forall_mem_singleton]
        exact ⟨r.visited_offered, h.1⟩ }
  else none

/-- It may end. -/
def finished : Bool := r.due.all fun key => decide (key ∈ r.visited.map Prod.fst)

variable {r} {r' : Range κ ν} {entry : κ × ν}

theorem visit_eq_some [DecidableEq ν] (h : r.visit entry = some r') :
    entry ∈ r.offered ∧ r'.offered = r.offered ∧ r'.due = r.due ∧
      r'.visited = r.visited ++ [entry] := by
  unfold visit at h
  split at h
  · next hmay =>
      obtain rfl := Option.some.inj h
      exact ⟨hmay.1, rfl, rfl, rfl⟩
  · cases h

/-- No key is visited twice. -/
theorem visit_new [DecidableEq ν] (h : r.visit entry = some r') :
    entry.1 ∉ r.visited.map Prod.fst := by
  unfold visit at h
  split at h
  · next hmay => exact hmay.2
  · cases h

/-- **A key that is there throughout is visited.** -/
theorem visited_of_finished {key : κ} (hfinished : r.finished = true) (hdue : key ∈ r.due) :
    ∃ value, (key, value) ∈ r.visited := by
  have hvisited : key ∈ r.visited.map Prod.fst := by
    simpa using List.all_eq_true.mp hfinished key hdue
  obtain ⟨⟨k, value⟩, hmem, rfl⟩ := List.mem_map.mp hvisited
  exact ⟨value, hmem⟩

end Range

end Pledge.Store
