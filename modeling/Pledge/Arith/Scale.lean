import Mathlib.Algebra.Order.AbsoluteValue.Basic
import Mathlib.Data.Nat.Cast.Order.Field
import Mathlib.Tactic.FieldSimp
import Mathlib.Tactic.Linarith
import Pledge.Arith.Rounding

/-!
# Rounded figures on another scale

A rounded quotient lies just below the exact one. The same figure quoted on a larger or a smaller scale
can only agree with it up to rounding where the figure itself vanishes.
-/

namespace Pledge.Arith

variable {K : Type*} [Field K] [LinearOrder K] [IsStrictOrderedRing K]

theorem div_lt_cast_div_succ (a : Nat) {b : Nat} (hb : 0 < b) :
    (a / b : K) < (a / b : Nat) + 1 := by
  have h : a < (a / b + 1) * b := (Nat.div_lt_iff_lt_mul hb).mp (Nat.lt_succ_self _)
  have hpos : (0 : K) < b := Nat.cast_pos.mpr hb
  rw [div_lt_iff₀ hpos]
  exact_mod_cast h

section Nested

variable {a s k r : Nat}

/-- Two nested quotients stay below the exact one. -/
theorem cast_nested_div_le (hs : 0 < s) (hr : 0 < r) :
    ((a / s * k / r : Nat) : K) ≤ a * k / (s * r) := by
  have hpos : (0 : K) < s * r := mul_pos (Nat.cast_pos.mpr hs) (Nat.cast_pos.mpr hr)
  have h : a / s * k / r * (s * r) ≤ a * k :=
    calc a / s * k / r * (s * r) = a / s * k / r * r * s := by ring
      _ ≤ a * k := nested_div_mul_le a s k r
  rw [le_div_iff₀ hpos]
  exact_mod_cast h

/-- The inner one costs a factor, the outer one a unit. -/
theorem lt_cast_nested_div (hs : 0 < s) (hr : 0 < r) :
    (a * k / (s * r) : K) < (a / s * k / r : Nat) + 1 + k / r := by
  have hrpos : (0 : K) < r := Nat.cast_pos.mpr hr
  have hshare : (0 : K) ≤ k / r := div_nonneg (Nat.cast_nonneg k) hrpos.le
  have hinner : (a / s : K) ≤ (a / s : Nat) + 1 := (div_lt_cast_div_succ a hs).le
  have houter : ((a / s * k : Nat) / r : K) < (a / s * k / r : Nat) + 1 :=
    div_lt_cast_div_succ _ hr
  calc (a * k / (s * r) : K) = a / s * (k / r) := by field_simp
    _ ≤ ((a / s : Nat) + 1) * (k / r) := mul_le_mul_of_nonneg_right hinner hshare
    _ = (a / s * k : Nat) / r + k / r := by push_cast; ring
    _ < (a / s * k / r : Nat) + 1 + k / r := by linarith

end Nested

/-- On a scale more than twice as large, a figure is within one of its rounding only where it is no
more than one. -/
theorem abs_scaled_sub_le_one {c e : K} {n : Nat} (hc : 2 < c) (hle : (n : K) ≤ e) :
    |c * e - n| ≤ 1 ↔ c * e ≤ 1 := by
  have hn : (0 : K) ≤ n := Nat.cast_nonneg n
  constructor
  · intro h
    have habove : c * e - n ≤ 1 := (abs_le.mp h).2
    rcases Nat.eq_zero_or_pos n with hzero | hpos
    · rw [hzero, Nat.cast_zero, sub_zero] at habove
      exact habove
    · have hone : (1 : K) ≤ n := Nat.one_le_cast.mpr hpos
      have hscaled : 2 * e < c * e := mul_lt_mul_of_pos_right hc (by linarith)
      linarith
  · intro h
    have hscaled : 2 * e ≤ c * e := mul_le_mul_of_nonneg_right hc.le (hn.trans hle)
    rw [abs_le]
    constructor
    · linarith
    · linarith

/-- On a smaller scale, a figure with an interest factor of at least one is above its rounding only
where the rounding is zero. -/
theorem nested_div_le_scaled {a s k r : Nat} {c : K} (hs : 0 < s) (hr : 0 < r) (hc : 4 ≤ c)
    (ha : s ≤ a) :
    ((a / s * k / r : Nat) : K) ≤ a * k / (s * r) / c ↔ a / s * k < r := by
  have hcpos : (0 : K) < c := lt_of_lt_of_le (by norm_num) hc
  constructor
  · intro h
    by_contra hge
    have hone : (1 : K) ≤ (a / s * k / r : Nat) :=
      Nat.one_le_cast.mpr (Nat.div_pos (Nat.not_lt.mp hge) hr)
    have hfactor : k ≤ a / s * k := Nat.le_mul_of_pos_left k (Nat.div_pos ha hs)
    have hshare : (k / r : K) < (a / s * k / r : Nat) + 1 := by
      have hmono : (k / r : Nat) ≤ a / s * k / r := Nat.div_le_div_right hfactor
      calc (k / r : K) < (k / r : Nat) + 1 := div_lt_cast_div_succ k hr
        _ ≤ (a / s * k / r : Nat) + 1 := by exact_mod_cast Nat.succ_le_succ hmono
    have hexact : (a * k / (s * r) : K) < (a / s * k / r : Nat) + 1 + k / r :=
      lt_cast_nested_div hs hr
    rw [le_div_iff₀ hcpos] at h
    have hscaled : ((a / s * k / r : Nat) : K) * 4 ≤ (a / s * k / r : Nat) * c :=
      mul_le_mul_of_nonneg_left hc (by linarith)
    linarith
  · intro h
    rw [Nat.div_eq_of_lt h, Nat.cast_zero]
    exact div_nonneg (div_nonneg (by positivity) (by positivity)) hcpos.le

end Pledge.Arith
