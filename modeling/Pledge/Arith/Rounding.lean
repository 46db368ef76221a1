import Mathlib.Algebra.Ring.Nat
import Mathlib.Order.Bounds.Basic
import Mathlib.Tactic.Ring

/-!
# Quotients rounded down

What rounding down costs when quotients are nested, multiplied back or added. The quantity the code
means is a rational number; the facts say on which side of it the rounded number lies and how far away
it can be.
-/

namespace Pledge.Arith

/-- A quotient times its divisor reaches the dividend only when nothing was rounded off. -/
theorem le_div_mul_iff_dvd {n d : Nat} : n ≤ n / d * d ↔ d ∣ n := by
  constructor
  · intro h
    have heq : n / d * d = n := Nat.le_antisymm (Nat.div_mul_le_self n d) h
    exact ⟨n / d, by rw [Nat.mul_comm, heq]⟩
  · intro h
    rw [Nat.div_mul_cancel h]

section Nested

variable {a s k r : Nat}

/-- Two nested quotients stay below the exact one. -/
theorem nested_div_mul_le (a s k r : Nat) : a / s * k / r * r * s ≤ a * k := by
  have houter : a / s * k / r * r ≤ a / s * k := Nat.div_mul_le_self _ _
  have hinner : a / s * s ≤ a := Nat.div_mul_le_self _ _
  calc a / s * k / r * r * s
      ≤ a / s * k * s := Nat.mul_le_mul_right s houter
    _ = a / s * s * k := by ring
    _ ≤ a * k := Nat.mul_le_mul_right k hinner

/-- They fall short of it by at most one, when the factor between them does not exceed the outer
divisor. -/
theorem le_nested_div_succ (hs : 0 < s) (hr : 0 < r) (hk : k ≤ r) {m : Nat}
    (hm : m * r * s ≤ a * k) : m ≤ a / s * k / r + 1 := by
  apply Nat.le_of_lt_succ
  have hinner : a < (a / s + 1) * s := (Nat.div_lt_iff_lt_mul hs).mp (Nat.lt_succ_self _)
  have houter : a / s * k < (a / s * k / r + 1) * r :=
    (Nat.div_lt_iff_lt_mul hr).mp (Nat.lt_succ_self _)
  rcases Nat.eq_zero_or_pos k with rfl | hkpos
  · have hzero : m * r * s = 0 := by simpa using hm
    have hm0 : m = 0 := by simpa [hs.ne', hr.ne'] using hzero
    rw [hm0]
    exact Nat.succ_pos _
  have hscaled : m * r * s < (a / s + 1) * k * s := by
    calc m * r * s ≤ a * k := hm
      _ < (a / s + 1) * s * k := Nat.mul_lt_mul_of_pos_right hinner hkpos
      _ = (a / s + 1) * k * s := by ring
  have hloan : m * r < (a / s + 1) * k := Nat.lt_of_mul_lt_mul_right hscaled
  -- one quotient is lost by each rounding, and the inner one is worth `k ≤ r`
  have hsum : m * r < (a / s * k / r + 2) * r := by
    calc m * r < a / s * k + k := by rwa [Nat.add_mul, Nat.one_mul] at hloan
      _ ≤ (a / s * k / r + 1) * r + r := Nat.add_le_add houter.le hk
      _ = (a / s * k / r + 2) * r := by ring
  exact Nat.lt_of_mul_lt_mul_right hsum

/-- The largest number whose multiple stays below the bound, under a cap. -/
theorem isGreatest_min_div (hr : 0 < r) (cap n : Nat) :
    IsGreatest {m | m ≤ cap ∧ m * r ≤ n} (min cap (n / r)) := by
  constructor
  · exact ⟨Nat.min_le_left _ _, (Nat.mul_le_mul_right r (Nat.min_le_right _ _)).trans
      (Nat.div_mul_le_self n r)⟩
  · intro m hm
    exact Nat.le_min.mpr ⟨hm.1, (Nat.le_div_iff_mul_le hr).mpr hm.2⟩

end Nested

section Shares

variable {part whole pot : Nat}

/-- A share of a pot that is at least the whole is at least the stake. -/
theorem le_share (hpos : 0 < whole) (hle : whole ≤ pot) (n : Nat) : n ≤ pot * n / whole := by
  apply (Nat.le_div_iff_mul_le hpos).mpr
  rw [Nat.mul_comm n whole]
  exact Nat.mul_le_mul_right n hle

/-- Two shares that make up the whole fall short of the stake by at most one. -/
theorem le_two_shares (hpos : 0 < whole) (hle : part ≤ whole) (n : Nat) :
    n ≤ (whole - part) * n / whole + part * n / whole + 1 := by
  apply Nat.le_of_lt_succ
  have hrest : (whole - part) * n < ((whole - part) * n / whole + 1) * whole :=
    (Nat.div_lt_iff_lt_mul hpos).mp (Nat.lt_succ_self _)
  have hpart : part * n < (part * n / whole + 1) * whole :=
    (Nat.div_lt_iff_lt_mul hpos).mp (Nat.lt_succ_self _)
  have hsum : n * whole < ((whole - part) * n / whole + part * n / whole + 2) * whole := by
    calc n * whole = (whole - part) * n + part * n := by
          rw [← Nat.add_mul, Nat.sub_add_cancel hle, Nat.mul_comm]
      _ < ((whole - part) * n / whole + 1) * whole + (part * n / whole + 1) * whole :=
          Nat.add_lt_add hrest hpart
      _ = ((whole - part) * n / whole + part * n / whole + 2) * whole := by ring
  exact Nat.lt_of_mul_lt_mul_right hsum

/-- A share of one whole and what is left by a share of another are no more than the stake, if the
first share is no larger a part of its whole than the second. -/
theorem share_add_rest_le {part' whole' : Nat} (hpos : 0 < whole) (hpos' : 0 < whole')
    (hle : part' ≤ whole') (hpart : part * whole' ≤ part' * whole) (n : Nat) :
    part * n / whole + (whole' - part') * n / whole' ≤ n := by
  have hshare : part * n / whole * whole' ≤ part' * n := by
    have hscaled : part * n / whole * whole' * whole ≤ part' * n * whole := by
      calc part * n / whole * whole' * whole = part * n / whole * whole * whole' := by ring
        _ ≤ part * n * whole' := Nat.mul_le_mul_right _ (Nat.div_mul_le_self _ _)
        _ = part * whole' * n := by ring
        _ ≤ part' * whole * n := Nat.mul_le_mul_right n hpart
        _ = part' * n * whole := by ring
    exact Nat.le_of_mul_le_mul_right hscaled hpos
  have hrest : (whole' - part') * n / whole' * whole' ≤ (whole' - part') * n :=
    Nat.div_mul_le_self _ _
  have hsum : (part * n / whole + (whole' - part') * n / whole') * whole' ≤ n * whole' := by
    calc (part * n / whole + (whole' - part') * n / whole') * whole'
        = part * n / whole * whole' + (whole' - part') * n / whole' * whole' := Nat.add_mul ..
      _ ≤ part' * n + (whole' - part') * n := Nat.add_le_add hshare hrest
      _ = n * whole' := by rw [← Nat.add_mul, Nat.add_sub_cancel' hle, Nat.mul_comm]
  exact Nat.le_of_mul_le_mul_right hsum hpos'

end Shares

section FixedPoint

variable (b P : Nat) {m t : Nat}

/-- A figure with `m` digits, quoted per unit with `t` digits: nothing is lost when digits are added. -/
theorem rescale_mul_pow (h : t ≤ m) : P * b ^ (m - t) / b ^ (t - m) * b ^ t = P * b ^ m := by
  rw [Nat.sub_eq_zero_of_le h, Nat.pow_zero, Nat.div_one, Nat.mul_assoc, ← Nat.pow_add,
    Nat.sub_add_cancel h]

/-- When digits are dropped, it is rounded down. -/
theorem rescale_mul_pow_le : P * b ^ (m - t) / b ^ (t - m) * b ^ t ≤ P * b ^ m := by
  rcases Nat.le_total t m with h | h
  · exact (rescale_mul_pow b P h).le
  · have hround : P / b ^ (t - m) * b ^ (t - m) ≤ P := Nat.div_mul_le_self _ _
    rw [Nat.sub_eq_zero_of_le h, Nat.pow_zero, Nat.mul_one]
    calc P / b ^ (t - m) * b ^ t
        = P / b ^ (t - m) * b ^ (t - m) * b ^ m := by
          rw [Nat.mul_assoc, ← Nat.pow_add, Nat.sub_add_cancel h]
      _ ≤ P * b ^ m := Nat.mul_le_mul_right _ hround

/-- It falls short by less than one unit of the new quotation. -/
theorem lt_rescale_mul_pow (hb : 0 < b) :
    P * b ^ m < P * b ^ (m - t) / b ^ (t - m) * b ^ t + b ^ t := by
  rcases Nat.le_total t m with h | h
  · rw [rescale_mul_pow b P h]
    exact Nat.lt_add_of_pos_right (Nat.pow_pos hb)
  · have hround : P < (P / b ^ (t - m) + 1) * b ^ (t - m) :=
      (Nat.div_lt_iff_lt_mul (Nat.pow_pos hb)).mp (Nat.lt_succ_self _)
    rw [Nat.sub_eq_zero_of_le h, Nat.pow_zero, Nat.mul_one]
    calc P * b ^ m
        < (P / b ^ (t - m) + 1) * b ^ (t - m) * b ^ m :=
          Nat.mul_lt_mul_of_pos_right hround (Nat.pow_pos hb)
      _ = (P / b ^ (t - m) + 1) * b ^ t := by
          rw [Nat.mul_assoc, ← Nat.pow_add, Nat.sub_add_cancel h]
      _ = P / b ^ (t - m) * b ^ t + b ^ t := by rw [Nat.add_mul, Nat.one_mul]

end FixedPoint

end Pledge.Arith
