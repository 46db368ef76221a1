import Mathlib.Algebra.Ring.Nat
import Mathlib.Data.Nat.Basic
import Mathlib.Tactic.Common

/-!
# Transactions that may revert

A contract function is a state transformer that either returns a value and a new state or reverts,
and a revert leaves no trace: `Tx σ α` is `σ → Except Revert (α × σ)`. Nothing here knows which
contract runs; `σ` is any state.

The proofs never unfold the monad. They go through `Tx.bind_ok`: a sequence of statements returns
exactly when the first one returns and the rest returns from there. Each primitive below has its own
`_ok` lemma of the same kind, so `simp only` with these lemmas turns "this function body returned"
into the conjunction of its guards and the equations of its results, in both directions.
-/

namespace Pledge.Evm

/-- Why a transaction reverts. -/
inductive Revert where
  /-- `require(condition, message)`. -/
  | require (message : String)
  /-- Checked arithmetic left the range of `uint256`. -/
  | overflow
  /-- Division by zero. -/
  | divisionByZero
  /-- An array was read past its end. -/
  | outOfBounds
  /-- The callee reverted. -/
  | call
  deriving Repr, DecidableEq

/-- A transaction over the state `σ`. -/
def Tx (σ α : Type) : Type := σ → Except Revert (α × σ)

namespace Tx

variable {σ α β : Type}

/-- Run a transaction from a state. -/
def run (x : Tx σ α) (s : σ) : Except Revert (α × σ) := x s

instance : Monad (Tx σ) where
  pure a := fun s => .ok (a, s)
  bind x f := fun s =>
    match x s with
    | .ok (a, s') => f a s'
    | .error e => .error e

/-- A run that did not revert returned something. -/
theorem exists_of_isOk {x : Tx σ Unit} {s : σ} (h : (x.run s).isOk = true) :
    ∃ s', x.run s = .ok ((), s') := by
  cases hrun : x.run s with
  | error e =>
      rw [hrun] at h
      cases h
  | ok r => exact ⟨r.2, rfl⟩

/-- Stop with a revert. -/
def revert (e : Revert) : Tx σ α := fun _ => .error e

/-- Read from the state. -/
def reads (f : σ → α) : Tx σ α := fun s => .ok (f s, s)

/-- Write to the state. -/
def modifies (f : σ → σ) : Tx σ Unit := fun s => .ok ((), f s)

/-- A call that may read the state but not change it (`view`). -/
def view (f : σ → Except Revert α) : Tx σ α := fun s => (f s).map (·, s)

/-- Run `x` when `c` holds, and do nothing otherwise. -/
def when (c : Prop) [Decidable c] (x : Tx σ Unit) : Tx σ Unit := if c then x else pure ()

theorem pure_ok {a b : α} {s s' : σ} : (pure a : Tx σ α).run s = .ok (b, s') ↔ b = a ∧ s' = s := by
  show Except.ok (a, s) = Except.ok (b, s') ↔ _
  simp only [Except.ok.injEq, Prod.mk.injEq, eq_comm]

/-- **Sequencing.** -/
theorem bind_ok {x : Tx σ α} {f : α → Tx σ β} {s : σ} {r : β × σ} :
    (x >>= f).run s = .ok r ↔ ∃ a s₁, x.run s = .ok (a, s₁) ∧ (f a).run s₁ = .ok r := by
  show (match x s with | .ok (a, s') => f a s' | .error e => .error e) = .ok r ↔ _
  constructor
  · intro h
    split at h
    · next a s₁ hx => exact ⟨a, s₁, hx, h⟩
    · cases h
  · rintro ⟨a, s₁, hx, hf⟩
    rw [show x s = .ok (a, s₁) from hx]
    exact hf

theorem revert_ok {e : Revert} {s : σ} {r : α × σ} :
    (revert e : Tx σ α).run s = .ok r ↔ False := by
  show Except.error e = Except.ok r ↔ False
  simp

theorem reads_ok {f : σ → α} {a : α} {s s' : σ} :
    (reads f).run s = .ok (a, s') ↔ a = f s ∧ s' = s := by
  show Except.ok (f s, s) = Except.ok (a, s') ↔ _
  simp only [Except.ok.injEq, Prod.mk.injEq, eq_comm]

theorem modifies_ok {f : σ → σ} {u : Unit} {s s' : σ} :
    (modifies f).run s = .ok (u, s') ↔ s' = f s := by
  show Except.ok ((), f s) = Except.ok (u, s') ↔ _
  simp only [Except.ok.injEq, Prod.mk.injEq, true_and, eq_comm]

theorem view_ok {f : σ → Except Revert α} {s : σ} {a : α} {s' : σ} :
    (view f).run s = .ok (a, s') ↔ f s = .ok a ∧ s' = s := by
  show (f s).map (·, s) = .ok (a, s') ↔ _
  cases f s with
  | error e => simp [Except.map]
  | ok b => simp [Except.map, eq_comm]

/-- A branch is the branch taken. -/
theorem ite_ok {c : Prop} [Decidable c] {x y : Tx σ α} {s : σ} {r : α × σ} :
    (if c then x else y).run s = .ok r ↔ (c ∧ x.run s = .ok r) ∨ (¬ c ∧ y.run s = .ok r) := by
  by_cases h : c <;> simp [h]

theorem when_ok {c : Prop} [Decidable c] {x : Tx σ Unit} {s : σ} {u : Unit} {s' : σ} :
    (when c x).run s = .ok (u, s') ↔ (c ∧ x.run s = .ok ((), s')) ∨ (¬ c ∧ s' = s) := by
  unfold when
  rw [ite_ok, pure_ok]
  simp

/-! ## `require` and checked arithmetic

Arithmetic reverts where Solidity 0.8 does. Each operation has one lemma that says when it succeeds
and with what. -/

/-- `require(p, message)`. -/
def require (p : Prop) [Decidable p] (message : String) : Tx σ Unit :=
  if p then pure () else revert (.require message)

theorem require_ok {p : Prop} [Decidable p] {m : String} {u : Unit} {s s' : σ} :
    (require p m).run s = .ok (u, s') ↔ p ∧ s' = s := by
  unfold require
  rw [ite_ok, pure_ok, revert_ok]
  simp

/-- The number of values of a `uint256`. -/
def uint256 : Nat := 2 ^ 256

/-- `type(uint256).max`. -/
def maxUint256 : Nat := uint256 - 1

/-- Checked `a + b`. -/
def uadd (a b : Nat) : Tx σ Nat :=
  if a + b < uint256 then pure (a + b) else revert .overflow

/-- Checked `a - b`. -/
def usub (a b : Nat) : Tx σ Nat :=
  if b ≤ a then pure (a - b) else revert .overflow

/-- Checked `a * b`. -/
def umul (a b : Nat) : Tx σ Nat :=
  if a * b < uint256 then pure (a * b) else revert .overflow

/-- `a / b`, rounded down. -/
def udiv (a b : Nat) : Tx σ Nat :=
  if b = 0 then revert .divisionByZero else pure (a / b)

/-- Checked `a ** b`. -/
def upow (a b : Nat) : Tx σ Nat :=
  if a ^ b < uint256 then pure (a ^ b) else revert .overflow

/-- `xs[i]` of a memory array. -/
def index (xs : List α) (i : Nat) : Tx σ α :=
  match xs[i]? with
  | some x => pure x
  | none => revert .outOfBounds

theorem uadd_ok {a b c : Nat} {s s' : σ} :
    (uadd a b).run s = .ok (c, s') ↔ a + b < uint256 ∧ c = a + b ∧ s' = s := by
  unfold uadd
  rw [ite_ok, pure_ok, revert_ok]
  tauto

theorem usub_ok {a b c : Nat} {s s' : σ} :
    (usub a b).run s = .ok (c, s') ↔ b ≤ a ∧ c = a - b ∧ s' = s := by
  unfold usub
  rw [ite_ok, pure_ok, revert_ok]
  tauto

theorem umul_ok {a b c : Nat} {s s' : σ} :
    (umul a b).run s = .ok (c, s') ↔ a * b < uint256 ∧ c = a * b ∧ s' = s := by
  unfold umul
  rw [ite_ok, pure_ok, revert_ok]
  tauto

theorem udiv_ok {a b c : Nat} {s s' : σ} :
    (udiv a b).run s = .ok (c, s') ↔ b ≠ 0 ∧ c = a / b ∧ s' = s := by
  unfold udiv
  rw [ite_ok, pure_ok, revert_ok]
  tauto

theorem upow_ok {a b c : Nat} {s s' : σ} :
    (upow a b).run s = .ok (c, s') ↔ a ^ b < uint256 ∧ c = a ^ b ∧ s' = s := by
  unfold upow
  rw [ite_ok, pure_ok, revert_ok]
  tauto

theorem index_ok {xs : List α} {i : Nat} {a : α} {s s' : σ} :
    (index xs i).run s = .ok (a, s') ↔ xs[i]? = some a ∧ s' = s := by
  unfold index
  cases h : xs[i]? with
  | none => simp [revert_ok]
  | some x =>
      rw [pure_ok]
      simp [eq_comm]

/-! ## A part of the state

A transaction on one contract is a transaction on a state that has several. -/

/-- Run a transaction on the part of the state that `get` reads and `set` writes. -/
def zoom {τ : Type} (get : σ → τ) (set : τ → σ → σ) (x : Tx τ α) : Tx σ α := fun s =>
  match x.run (get s) with
  | .ok (a, t) => .ok (a, set t s)
  | .error e => .error e

theorem zoom_ok {τ : Type} {get : σ → τ} {set : τ → σ → σ} {x : Tx τ α} {s : σ} {a : α} {s' : σ} :
    (zoom get set x).run s = .ok (a, s') ↔ ∃ t, x.run (get s) = .ok (a, t) ∧ s' = set t s := by
  show (match x.run (get s) with
    | .ok (a, t) => Except.ok (a, set t s)
    | .error e => .error e) = .ok (a, s') ↔ _
  cases x.run (get s) with
  | error e => simp
  | ok r => simp [Prod.ext_iff, eq_comm]

/-! ## Loops over an array

A loop is a fold that stops at the first revert. -/

/-- `for` over an array, threading an accumulator. -/
def fold (f : β → α → Tx σ β) : β → List α → Tx σ β
  | acc, [] => pure acc
  | acc, x :: xs => do
    let acc ← f acc x
    fold f acc xs

theorem fold_nil_ok {f : β → α → Tx σ β} {acc b : β} {s s' : σ} :
    (fold f acc []).run s = .ok (b, s') ↔ b = acc ∧ s' = s := pure_ok

theorem fold_cons_ok {f : β → α → Tx σ β} {acc : β} {x : α} {xs : List α} {s : σ} {r : β × σ} :
    (fold f acc (x :: xs)).run s = .ok r ↔
      ∃ acc' s₁, (f acc x).run s = .ok (acc', s₁) ∧ (fold f acc' xs).run s₁ = .ok r := bind_ok

/-- **How a transaction reads as a proposition**: the rules above in one place, for `simp only`. -/
theorem rules {σ : Type} :
    (∀ {α : Type} {a b : α} {s s' : σ}, (pure a : Tx σ α).run s = .ok (b, s') ↔ b = a ∧ s' = s) ∧
    (∀ {α β : Type} {x : Tx σ α} {f : α → Tx σ β} {s : σ} {r : β × σ},
      (x >>= f).run s = .ok r ↔ ∃ a s₁, x.run s = .ok (a, s₁) ∧ (f a).run s₁ = .ok r) ∧
    (∀ {α : Type} {f : σ → α} {a : α} {s s' : σ},
      (reads f).run s = .ok (a, s') ↔ a = f s ∧ s' = s) ∧
    (∀ {f : σ → σ} {u : Unit} {s s' : σ}, (modifies f).run s = .ok (u, s') ↔ s' = f s) ∧
    (∀ {α : Type} {f : σ → Except Revert α} {s : σ} {a : α} {s' : σ},
      (view f).run s = .ok (a, s') ↔ f s = .ok a ∧ s' = s) ∧
    (∀ {α : Type} {c : Prop} [Decidable c] {x y : Tx σ α} {s : σ} {r : α × σ},
      (if c then x else y).run s = .ok r ↔
        (c ∧ x.run s = .ok r) ∨ (¬ c ∧ y.run s = .ok r)) ∧
    (∀ {c : Prop} [Decidable c] {x : Tx σ Unit} {s : σ} {u : Unit} {s' : σ},
      (when c x).run s = .ok (u, s') ↔ (c ∧ x.run s = .ok ((), s')) ∨ (¬ c ∧ s' = s)) ∧
    (∀ {p : Prop} [Decidable p] {m : String} {u : Unit} {s s' : σ},
      (require p m).run s = .ok (u, s') ↔ p ∧ s' = s) ∧
    (∀ {a b c : Nat} {s s' : σ},
      (uadd a b).run s = .ok (c, s') ↔ a + b < uint256 ∧ c = a + b ∧ s' = s) ∧
    (∀ {a b c : Nat} {s s' : σ},
      (usub a b).run s = .ok (c, s') ↔ b ≤ a ∧ c = a - b ∧ s' = s) ∧
    (∀ {a b c : Nat} {s s' : σ},
      (umul a b).run s = .ok (c, s') ↔ a * b < uint256 ∧ c = a * b ∧ s' = s) ∧
    (∀ {a b c : Nat} {s s' : σ},
      (udiv a b).run s = .ok (c, s') ↔ b ≠ 0 ∧ c = a / b ∧ s' = s) ∧
    (∀ {α : Type} {xs : List α} {i : Nat} {a : α} {s s' : σ},
      (index xs i).run s = .ok (a, s') ↔ xs[i]? = some a ∧ s' = s) :=
  ⟨pure_ok, bind_ok, reads_ok, modifies_ok, view_ok, ite_ok, when_ok, require_ok, uadd_ok, usub_ok,
    umul_ok, udiv_ok, index_ok⟩

end Tx
end Pledge.Evm
