import Mathlib.Algebra.BigOperators.Group.List.Basic
import Mathlib.Algebra.Order.BigOperators.Group.List
import Mathlib.Data.List.Nodup
import Mathlib.Tactic.Ring

/-!
# Pro-rata shares, rounded down

A pot is divided among members in proportion to their weights, every share rounded down, and each
member may collect once. `tally` adds a quantity over a list of members; the facts are

* the list of the members is exactly the list of those with a positive weight, however the weights
  grow (`Enrolled`);
* rounding down never hands out more than the pot (`tally_share_le`);
* a quantity changed at one member of a duplicate-free list changes the sum by that member's
  difference alone (`tally_update`);
* what members have collected plus what the others can still collect is constant as members collect
  (`tally_collect`), so it stays within the pot.

Nothing here knows what the pot is.
-/

namespace Pledge.Arith

variable {α : Type}

/-- The sum of `f` over the members. -/
def tally (us : List α) (f : α → Nat) : Nat := (us.map f).sum

@[simp] theorem tally_nil (f : α → Nat) : tally [] f = 0 := rfl

@[simp] theorem tally_cons (u : α) (us : List α) (f : α → Nat) :
    tally (u :: us) f = f u + tally us f := rfl

@[simp] theorem tally_append (us vs : List α) (f : α → Nat) :
    tally (us ++ vs) f = tally us f + tally vs f := by
  simp [tally]

theorem tally_congr {us : List α} {f g : α → Nat} (h : ∀ u ∈ us, f u = g u) :
    tally us f = tally us g := by
  unfold tally
  rw [List.map_congr_left h]

theorem tally_le {us : List α} {f g : α → Nat} (h : ∀ u ∈ us, f u ≤ g u) :
    tally us f ≤ tally us g :=
  List.sum_le_sum h

theorem tally_zero {us : List α} {f : α → Nat} (h : ∀ u ∈ us, f u = 0) : tally us f = 0 := by
  rw [tally_congr h]
  simp [tally]

theorem tally_mul (us : List α) (f : α → Nat) (k : Nat) :
    tally us (fun u => k * f u) = k * tally us f := by
  induction us with
  | nil => rfl
  | cons u us ih => rw [tally_cons, tally_cons, ih, Nat.mul_add]

/-- Dividing with remainder, summed. -/
theorem tally_div_mod (us : List α) (f : α → Nat) (w : Nat) :
    tally us (fun u => f u / w) * w + tally us (fun u => f u % w) = tally us f := by
  induction us with
  | nil => simp
  | cons u us ih =>
      have hu := Nat.div_add_mod' (f u) w
      rw [tally_cons, tally_cons, tally_cons, Nat.add_mul]
      omega

/-- The order of the members does not matter. -/
theorem tally_perm {us vs : List α} (h : us.Perm vs) (f : α → Nat) : tally us f = tally vs f :=
  (h.map f).sum_eq

/-- The sum over the members that a test selects. -/
theorem tally_filter (us : List α) (p : α → Bool) (f : α → Nat) :
    tally (us.filter p) f = tally us fun u => if p u then f u else 0 := by
  induction us with
  | nil => rfl
  | cons u us ih =>
      rw [tally_cons, ← ih]
      by_cases hu : p u = true
      · rw [List.filter_cons_of_pos hu, tally_cons, if_pos hu]
      · rw [List.filter_cons_of_neg hu, if_neg hu, Nat.zero_add]

/-- A member's part is at most the sum. -/
theorem le_tally {us : List α} {f : α → Nat} {u : α} (hu : u ∈ us) : f u ≤ tally us f :=
  List.le_sum_of_mem (List.mem_map_of_mem hu)

section Update

variable [DecidableEq α]

/-- Changing `f` outside the list does not change the sum. -/
theorem tally_update_of_notMem {us : List α} {u : α} (hu : u ∉ us) (f : α → Nat) (n : Nat) :
    tally us (Function.update f u n) = tally us f := by
  apply tally_congr
  intro v hv
  rw [Function.update_of_ne]
  rintro rfl
  exact hu hv

/-- **One member changes.** -/
theorem tally_update {us : List α} (hnd : us.Nodup) {u : α} (hu : u ∈ us) (f : α → Nat)
    (n : Nat) : tally us (Function.update f u n) + f u = tally us f + n := by
  induction us with
  | nil => cases hu
  | cons v us ih =>
      obtain ⟨hv, hnd⟩ := List.nodup_cons.mp hnd
      rw [tally_cons, tally_cons]
      rcases List.mem_cons.mp hu with rfl | hu
      · rw [tally_update_of_notMem hv, Function.update_self]
        omega
      · have hne : v ≠ u := by rintro rfl; exact hv hu
        have := ih hnd hu
        rw [Function.update_of_ne hne]
        omega

/-- A member collects `f u`, after which nothing is left for it. -/
theorem tally_collect {us : List α} (hnd : us.Nodup) {u : α} (hu : u ∈ us) (f : α → Nat) :
    tally us (Function.update f u 0) + f u = tally us f :=
  tally_update hnd hu f 0

end Update

/-! ## Membership lists

A contract that keeps amounts in a mapping has a list of the keys that are in use, to sum over.
`enroll` is the way it grows: an account enters with its first amount. -/

/-- The list holds exactly the members with a positive weight, each once. -/
structure Enrolled (us : List α) (weight : α → Nat) : Prop where
  nodup : us.Nodup
  mem : ∀ u, u ∈ us ↔ 0 < weight u

/-- Enter `u` unless it is there already. -/
def enroll (us : List α) (weight : α → Nat) (u : α) : List α :=
  if weight u = 0 then us ++ [u] else us

theorem Enrolled.nil : Enrolled ([] : List α) fun _ => 0 where
  nodup := .nil
  mem u := by simp

namespace Enrolled

variable [DecidableEq α] {us : List α} {weight : α → Nat}

/-- A member's weight grows, and the list follows. -/
theorem enroll (h : Enrolled us weight) (u : α) {n : Nat} (hn : 0 < n) :
    Enrolled (enroll us weight u) (Function.update weight u (weight u + n)) := by
  unfold Arith.enroll
  by_cases h0 : weight u = 0
  · have hu : u ∉ us := fun hu => absurd ((h.mem u).mp hu) (by omega)
    rw [if_pos h0]
    refine ⟨List.concat_eq_append (a := u) ▸ h.nodup.concat hu, ?_⟩
    intro v
    by_cases hv : v = u
    · subst hv
      simp [hn]
    · rw [Function.update_of_ne hv, ← h.mem v]
      simp [hv]
  · rw [if_neg h0]
    refine ⟨h.nodup, ?_⟩
    intro v
    by_cases hv : v = u
    · subst hv
      rw [Function.update_self, h.mem v]
      omega
    · rw [Function.update_of_ne hv, h.mem v]

/-- The sum grows by as much. -/
theorem tally_enroll (h : Enrolled us weight) (u : α) (n : Nat) :
    tally (Arith.enroll us weight u) (Function.update weight u (weight u + n)) =
      tally us weight + n := by
  unfold Arith.enroll
  by_cases h0 : weight u = 0
  · -- a new member brings all of its weight
    have hu : u ∉ us := fun hu => absurd ((h.mem u).mp hu) (by omega)
    rw [if_pos h0, tally_append, tally_update_of_notMem hu]
    simp [h0]
  · rw [if_neg h0]
    have := tally_update h.nodup ((h.mem u).mpr (Nat.pos_of_ne_zero h0)) weight (weight u + n)
    omega

end Enrolled

/-! ## Shares

The shares of all are rounded down one by one, so their sum is below the share of the sum, by less
than one for each account. -/

/-- Rounding each share down loses, never gains. -/
theorem tally_div_le (us : List α) (f : α → Nat) (w : Nat) :
    tally us (fun u => f u / w) ≤ tally us f / w := by
  induction us with
  | nil => simp
  | cons u us ih =>
      rw [tally_cons, tally_cons]
      calc f u / w + tally us (fun u => f u / w)
          ≤ f u / w + tally us f / w := Nat.add_le_add_left ih _
        _ ≤ (f u + tally us f) / w := Nat.div_add_div_le_add_div

/-- The shares of `pot / k`, with one division for both. -/
theorem tally_share_scaled_le {us : List α} {weight : α → Nat} {whole : Nat}
    (h : tally us weight ≤ whole) (pot k : Nat) :
    tally us (fun u => pot * weight u / (k * whole)) ≤ pot / k := by
  rcases Nat.eq_zero_or_pos whole with rfl | hpos
  · simp [tally]
  · calc tally us (fun u => pot * weight u / (k * whole))
        ≤ tally us (fun u => pot * weight u) / (k * whole) := tally_div_le us _ _
      _ = pot * tally us weight / (k * whole) := by rw [tally_mul]
      _ ≤ pot * whole / (k * whole) := Nat.div_le_div_right (Nat.mul_le_mul_left pot h)
      _ = pot / k := Nat.mul_div_mul_right pot k hpos

/-- **The shares of a pot are within the pot** when the weights are within the whole. -/
theorem tally_share_le {us : List α} {weight : α → Nat} {whole : Nat}
    (h : tally us weight ≤ whole) (pot : Nat) :
    tally us (fun u => pot * weight u / whole) ≤ pot := by
  simpa using tally_share_scaled_le h pot 1

/-- Each remainder is less than the divisor. -/
theorem tally_mod_add_length_le (us : List α) (f : α → Nat) {w : Nat} (hw : 0 < w) :
    tally us (fun u => f u % w) + us.length ≤ us.length * w := by
  induction us with
  | nil => simp
  | cons u us ih =>
      have hu : f u % w < w := Nat.mod_lt _ hw
      rw [tally_cons, List.length_cons, Nat.succ_mul]
      omega

/-- **What rounding leaves of `pot / k`** is less than one for each member, when the weights are the
whole. -/
theorem lt_tally_share_scaled {us : List α} {weight : α → Nat} {whole : Nat}
    (h : tally us weight = whole) (hpos : 0 < whole) (pot : Nat) {k : Nat} (hk : 0 < k) :
    pot / k < tally us (fun u => pot * weight u / (k * whole)) + us.length := by
  have hmembers : 0 < us.length := by
    apply List.length_pos_of_ne_nil
    rintro rfl
    rw [← h] at hpos
    exact Nat.lt_irrefl 0 hpos
  have hparts := tally_div_mod us (fun u => pot * weight u) (k * whole)
  have hrest := tally_mod_add_length_le us (fun u => pot * weight u) (Nat.mul_pos hk hpos)
  rw [tally_mul, h, ← Nat.mul_assoc] at hparts
  rw [← Nat.mul_assoc] at hrest
  apply Nat.div_lt_of_lt_mul
  apply Nat.lt_of_mul_lt_mul_right (a := whole)
  rw [Nat.mul_comm k, Nat.add_mul, Nat.add_mul]
  omega

/-- **What rounding leaves of a pot** is less than one for each member, when the weights are the
whole. -/
theorem lt_tally_share {us : List α} {weight : α → Nat} {whole : Nat} (h : tally us weight = whole)
    (hpos : 0 < whole) (pot : Nat) :
    pot < tally us (fun u => pot * weight u / whole) + us.length := by
  simpa using lt_tally_share_scaled h hpos pot Nat.one_pos

end Pledge.Arith
