import Pledge.Evm.Tx

/-!
# What a transaction keeps

`x.Keeps R`: whenever `x` returns, the state before and the state after are related by `R`. For a
preorder `R` there is one rule for each way of building a transaction, so that a relation which every
write and every call of a function respects is respected by the function.
-/

namespace Pledge.Evm

variable {σ α β : Type}

/-- Every run of the transaction is related by `R`. -/
def Tx.Keeps (R : σ → σ → Prop) (x : Tx σ α) : Prop :=
  ∀ s a s', x.run s = .ok (a, s') → R s s'

/-- A relation of states that can be followed through a transaction. -/
structure Framing (R : σ → σ → Prop) : Prop where
  refl : ∀ s, R s s
  trans : ∀ {s₁ s₂ s₃}, R s₁ s₂ → R s₂ s₃ → R s₁ s₃

namespace Tx.Keeps

variable {R : σ → σ → Prop}

/-- A transaction that does not write. -/
theorem of_same (hR : Framing R) {x : Tx σ α} (h : ∀ {s a s'}, x.run s = .ok (a, s') → s' = s) :
    x.Keeps R := by
  intro s a s' hx
  rw [h hx]
  exact hR.refl s

theorem bind (hR : Framing R) {x : Tx σ α} {f : α → Tx σ β} (hx : x.Keeps R)
    (hf : ∀ a, (f a).Keeps R) : (x >>= f).Keeps R := by
  intro s b s' h
  obtain ⟨a, s₁, h₁, h₂⟩ := bind_ok.mp h
  exact hR.trans (hx _ _ _ h₁) (hf _ _ _ _ h₂)

theorem pure (hR : Framing R) (a : α) : (Pure.pure a : Tx σ α).Keeps R :=
  of_same hR fun h => (pure_ok.mp h).2

theorem reads (hR : Framing R) (f : σ → α) : (Tx.reads f).Keeps R :=
  of_same hR fun h => (reads_ok.mp h).2

theorem modifies {f : σ → σ} (h : ∀ s, R s (f s)) : (Tx.modifies f).Keeps R := by
  intro s u s' hx
  rw [modifies_ok.mp hx]
  exact h s

theorem require (hR : Framing R) (p : Prop) [Decidable p] (m : String) :
    (Tx.require p m : Tx σ Unit).Keeps R :=
  of_same hR fun h => (require_ok.mp h).2

theorem ite {c : Prop} [Decidable c] {x y : Tx σ α} (hx : x.Keeps R) (hy : y.Keeps R) :
    (if c then x else y).Keeps R := by
  split
  · exact hx
  · exact hy

theorem when (hR : Framing R) {c : Prop} [Decidable c] {x : Tx σ Unit} (hx : x.Keeps R) :
    (Tx.when c x).Keeps R :=
  Keeps.ite hx (Keeps.pure hR ())

theorem uadd (hR : Framing R) (m n : Nat) : (Tx.uadd m n : Tx σ Nat).Keeps R :=
  of_same hR fun h => (uadd_ok.mp h).2.2

theorem usub (hR : Framing R) (m n : Nat) : (Tx.usub m n : Tx σ Nat).Keeps R :=
  of_same hR fun h => (usub_ok.mp h).2.2

theorem umul (hR : Framing R) (m n : Nat) : (Tx.umul m n : Tx σ Nat).Keeps R :=
  of_same hR fun h => (umul_ok.mp h).2.2

theorem udiv (hR : Framing R) (m n : Nat) : (Tx.udiv m n : Tx σ Nat).Keeps R :=
  of_same hR fun h => (udiv_ok.mp h).2.2

end Tx.Keeps
end Pledge.Evm
