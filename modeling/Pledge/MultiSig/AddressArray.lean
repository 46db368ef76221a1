import Mathlib.Data.List.Basic
import Mathlib.Data.List.Nodup

/-!
# Arrays with membership and removal

`AddressArrayLib` keeps a set of addresses in an array: `contains` scans from the front, and
`removeAddress` overwrites the first occurrence with the last entry and pops. The second one changes
the order of the rest, so it is `List.erase` only up to a permutation (`removeAddress_perm`), which is
all that a set needs. The entries are of any type with decidable equality.
-/

namespace Pledge.MultiSig

variable {α : Type} [DecidableEq α]

def contains : List α → α → Bool
  | [], _ => false
  | x :: xs, addr => if x = addr then true else contains xs addr

/-- The new array, and whether the address was found. -/
def removeAddress (list : List α) (addr : α) : List α × Bool :=
  let i := list.idxOf addr
  if h : i < list.length then
    let last := list.getLast (List.ne_nil_of_length_pos (Nat.zero_lt_of_lt h))
    ((if i ≠ list.length - 1 then list.set i last else list).dropLast, true)
  else
    (list, false)

@[simp] theorem contains_iff {list : List α} {addr : α} :
    contains list addr = true ↔ addr ∈ list := by
  induction list with
  | nil => simp [contains]
  | cons x xs ih =>
      rw [contains]
      split
      · next heq => simp [heq]
      · next hne =>
          rw [ih, List.mem_cons]
          constructor
          · exact .inr
          · rintro (heq | hmem)
            · exact absurd heq.symm hne
            · exact hmem

theorem contains_eq_false {list : List α} {addr : α} :
    contains list addr = false ↔ addr ∉ list := by
  rw [← contains_iff, Bool.not_eq_true]

/-- Removing reports whether there was something to remove. -/
theorem removeAddress_found (list : List α) (addr : α) :
    (removeAddress list addr).2 = true ↔ addr ∈ list := by
  rw [← List.idxOf_lt_length_iff]
  by_cases h : list.idxOf addr < list.length <;> simp [removeAddress, h]

theorem removeAddress_fst {list : List α} {addr : α} (h : addr ∈ list) :
    (removeAddress list addr).1 =
      (if list.idxOf addr ≠ list.length - 1 then
        list.set (list.idxOf addr) (list.getLast (List.ne_nil_of_mem h))
      else list).dropLast := by
  rw [removeAddress, dif_pos (List.idxOf_lt_length_iff.mpr h)]

theorem idxOf_middle {before after : List α} {addr : α} (hfirst : addr ∉ before) :
    (before ++ addr :: after).idxOf addr = before.length := by
  rw [List.idxOf_append_of_notMem hfirst, List.idxOf_cons_self, Nat.add_zero]

/-- An address in the last place is popped. -/
theorem removeAddress_last {before : List α} {addr : α} (hfirst : addr ∉ before) :
    (removeAddress (before ++ [addr]) addr).1 = before := by
  rw [removeAddress_fst (by simp), idxOf_middle hfirst, if_neg (by simp), List.dropLast_concat]

/-- The last entry takes the place of any other one. -/
theorem removeAddress_inner {before after : List α} {addr last : α} (hfirst : addr ∉ before) :
    (removeAddress (before ++ addr :: (after ++ [last])) addr).1 = before ++ last :: after := by
  have hset : (before ++ addr :: (after ++ [last])).set before.length last =
      (before ++ last :: after) ++ [last] := by simp
  rw [removeAddress_fst (by simp), idxOf_middle hfirst, if_pos (by simp)]
  rw [show (before ++ addr :: (after ++ [last])).getLast _ = last by simp, hset,
    List.dropLast_concat]

/-- **Removal is erasure up to order.** -/
theorem removeAddress_perm {list : List α} {addr : α} (h : addr ∈ list) :
    (removeAddress list addr).1.Perm (list.erase addr) := by
  obtain ⟨before, rest, rfl, hfirst⟩ := List.eq_append_cons_of_mem h
  rw [List.erase_append_right _ hfirst, List.erase_cons_head]
  -- the first occurrence is the last entry, or there is another one to take its place
  rcases List.eq_nil_or_concat rest with rfl | ⟨after, last, rfl⟩
  · rw [removeAddress_last hfirst, List.append_nil]
  · rw [List.concat_eq_append, removeAddress_inner hfirst]
    exact (List.perm_append_singleton last after).symm.append_left before

end Pledge.MultiSig
