import Mathlib.Algebra.BigOperators.Group.Finset.Basic
import Mathlib.Algebra.BigOperators.Ring.Finset
import Mathlib.Algebra.Order.BigOperators.Group.Finset
import Mathlib.Logic.Function.Basic
import Mathlib.Logic.Relation

/-!
# Fungible tokens

Balances of any number of tokens, and what an ERC20 transfer, a mint and a burn do to them. A mint
moves value from the zero address and a burn moves value to it, as the `Transfer` event reports them.

The one fact a client needs about a token that only a known minter mints and burns is how much of it
can be in circulation. Holders are unbounded, so circulation is not a sum over all accounts: a token
has circulation at most `n` when every *finite* set of accounts together holds at most `n`
(`Circulating`). Transfers keep the bound, a mint raises it and a burn lowers it by the amount.
-/

namespace Pledge.Evm

/-- An account. `0` is the zero address. -/
abbrev Address := Nat

/-- One `Transfer(from, to, value)` event of a token. -/
structure Transfer where
  token : Address
  src : Address
  dst : Address
  amount : Nat
  deriving Repr, DecidableEq

/-- The value that the selected transfers move. -/
def volume (sel : Transfer → Bool) (ts : List Transfer) : Nat := ((ts.filter sel).map (·.amount)).sum

/-- What `a` sent of a token; from the zero address, what was minted. -/
def sentBy (token a : Address) (ts : List Transfer) : Nat :=
  volume (fun t => t.token = token ∧ t.src = a) ts

/-- What `a` received of a token. -/
def receivedBy (token a : Address) (ts : List Transfer) : Nat :=
  volume (fun t => t.token = token ∧ t.dst = a) ts

theorem volume_append (sel : Transfer → Bool) (ts ts' : List Transfer) :
    volume sel (ts ++ ts') = volume sel ts + volume sel ts' := by
  simp [volume]

theorem volume_single (sel : Transfer → Bool) (t : Transfer) :
    volume sel [t] = if sel t then t.amount else 0 := by
  by_cases h : sel t <;> simp [volume, h]

/-- Transfers that are not selected do not count. -/
theorem volume_eq_zero {sel : Transfer → Bool} {ts : List Transfer} (h : ∀ t ∈ ts, sel t = false) :
    volume sel ts = 0 := by
  unfold volume
  rw [List.filter_eq_nil_iff.mpr fun t ht => by simp [h t ht]]
  rfl

/-- The tokens' own state: balances and allowances, per token. -/
structure Ledger where
  balance : Address → Address → Nat
  allowance : Address → Address → Address → Nat

/-- The holdings of one token. -/
abbrev Holdings := Address → Nat

namespace Holdings

/-- Add `n` to the balance of `a`. -/
def credit (h : Holdings) (a : Address) (n : Nat) : Holdings := Function.update h a (h a + n)

/-- Take `n` from the balance of `a`. -/
def debit (h : Holdings) (a : Address) (n : Nat) : Holdings := Function.update h a (h a - n)

/-- Move `n` from `a` to `b`. -/
def move (h : Holdings) (a b : Address) (n : Nat) : Holdings := (h.debit a n).credit b n

/-- Every finite set of accounts holds at most `n` together. -/
def Circulating (h : Holdings) (n : Nat) : Prop := ∀ s : Finset Address, ∑ a ∈ s, h a ≤ n

theorem credit_apply (h : Holdings) (a b : Address) (n : Nat) :
    h.credit a n b = h b + if b = a then n else 0 := by
  by_cases hb : b = a
  · subst hb; simp [credit]
  · simp [credit, hb]

theorem debit_apply (h : Holdings) (a b : Address) (n : Nat) :
    h.debit a n b = h b - if b = a then n else 0 := by
  by_cases hb : b = a
  · subst hb; simp [debit]
  · simp [debit, hb]

/-- A move takes at most the amount from any account. -/
theorem le_move (h : Holdings) (a b c : Address) (n : Nat) :
    h c - (if c = a then n else 0) ≤ h.move a b n c := by
  unfold move
  rw [credit_apply, debit_apply]
  exact Nat.le_add_right _ _

/-- The receiver has the amount afterwards. -/
theorem le_move_dst (h : Holdings) (a b : Address) (n : Nat) : n ≤ h.move a b n b := by
  unfold move
  rw [credit_apply, if_pos rfl]
  exact Nat.le_add_left _ _

/-- The receiver has the amount on top of what it had, when it is not the sender. -/
theorem move_dst (h : Holdings) {a b : Address} (hab : b ≠ a) (n : Nat) :
    h.move a b n b = h b + n := by
  unfold move
  rw [credit_apply, debit_apply, if_pos rfl, if_neg hab, Nat.sub_zero]

theorem Circulating.zero {h : Holdings} (h0 : ∀ a, h a = 0) : h.Circulating 0 := by
  intro s
  simp [h0]

theorem Circulating.mono {h : Holdings} {m n : Nat} (hc : h.Circulating m) (hmn : m ≤ n) :
    h.Circulating n :=
  fun s => Nat.le_trans (hc s) hmn

/-- No account holds more than what circulates. -/
theorem Circulating.le {h : Holdings} {n : Nat} (hc : h.Circulating n) (a : Address) : h a ≤ n := by
  simpa using hc {a}

/-- A mint raises the circulation by the amount minted. -/
theorem Circulating.credit {h : Holdings} {n : Nat} (hc : h.Circulating n) (a : Address) (k : Nat) :
    (h.credit a k).Circulating (n + k) := by
  intro s
  have hs := hc s
  by_cases ha : a ∈ s
  · have hsum : ∑ b ∈ s, h.credit a k b = ∑ b ∈ s, h b + k := by
      simp [credit_apply, Finset.sum_add_distrib, ha]
    omega
  · have hsum : ∑ b ∈ s, h.credit a k b = ∑ b ∈ s, h b := by
      simp [credit_apply, Finset.sum_add_distrib, ha]
    omega

/-- A burn lowers the circulation by the amount burned. The bound is on every finite set, so the
sets that miss the account are first enlarged by it. -/
theorem Circulating.debit {h : Holdings} {n : Nat} (hc : h.Circulating n) {a : Address} {k : Nat}
    (hk : k ≤ h a) : (h.debit a k).Circulating (n - k) := by
  intro s
  have hins := hc (insert a s)
  have hsplit : ∑ b ∈ insert a s, h b = h a + ∑ b ∈ s.erase a, h b := by
    rw [← Finset.insert_erase (Finset.mem_insert_self a s), Finset.erase_insert_eq_erase,
      Finset.sum_insert (Finset.notMem_erase a s)]
  have hrest : ∑ b ∈ s.erase a, h.debit a k b = ∑ b ∈ s.erase a, h b := by
    apply Finset.sum_congr rfl
    intro b hb
    simp [debit_apply, Finset.ne_of_mem_erase hb]
  by_cases ha : a ∈ s
  · rw [← Finset.add_sum_erase s _ ha, hrest, debit_apply, if_pos rfl]
    omega
  · rw [Finset.erase_eq_of_notMem ha] at hrest hsplit
    omega

/-- Holders transferred among themselves. -/
def Redistributed : Holdings → Holdings → Prop :=
  Relation.ReflTransGen fun h h' => ∃ a b k, k ≤ h a ∧ h' = h.move a b k

theorem Redistributed.of_eq {h h' : Holdings} (heq : h' = h) : Redistributed h h' := heq ▸ .refl

/-- All accounts together hold exactly `n`; only finitely many hold anything. -/
def SumsTo (h : Holdings) (n : Nat) : Prop :=
  ∃ s : Finset Address, (∀ a, a ∉ s → h a = 0) ∧ ∑ a ∈ s, h a = n

/-- The account may be taken to be among the holders. -/
theorem SumsTo.holder {h : Holdings} {n : Nat} (hs : h.SumsTo n) (a : Address) :
    ∃ s : Finset Address, a ∈ s ∧ (∀ b, b ∉ s → h b = 0) ∧ ∑ b ∈ s, h b = n := by
  obtain ⟨s, hout, hsum⟩ := hs
  refine ⟨insert a s, Finset.mem_insert_self a s, ?_, ?_⟩
  · intro b hb
    exact hout b fun hmem => hb (Finset.mem_insert_of_mem hmem)
  · rw [← hsum]
    apply Finset.sum_insert_of_eq_zero_if_notMem
    exact hout a

theorem SumsTo.zero {h : Holdings} (h0 : ∀ a, h a = 0) : h.SumsTo 0 :=
  ⟨∅, fun a _ => h0 a, Finset.sum_empty⟩

theorem SumsTo.credit {h : Holdings} {n : Nat} (hs : h.SumsTo n) (a : Address) (k : Nat) :
    (h.credit a k).SumsTo (n + k) := by
  obtain ⟨s, ha, hout, hsum⟩ := hs.holder a
  refine ⟨s, ?_, ?_⟩
  · intro b hb
    have hne : b ≠ a := fun hab => hb (hab ▸ ha)
    rw [credit_apply, if_neg hne, hout b hb]
  · simp only [credit_apply, Finset.sum_add_distrib, Finset.sum_ite_eq', if_pos ha, hsum]

theorem SumsTo.debit {h : Holdings} {n : Nat} (hs : h.SumsTo n) {a : Address} {k : Nat}
    (hk : k ≤ h a) : (h.debit a k).SumsTo (n - k) := by
  obtain ⟨s, ha, hout, hsum⟩ := hs.holder a
  refine ⟨s, ?_, ?_⟩
  · intro b hb
    rw [debit_apply, hout b hb, Nat.zero_sub]
  · have hrest : ∑ b ∈ s.erase a, h.debit a k b = ∑ b ∈ s.erase a, h b := by
      apply Finset.sum_congr rfl
      intro b hb
      rw [debit_apply, if_neg (Finset.ne_of_mem_erase hb), Nat.sub_zero]
    rw [← Finset.add_sum_erase s _ ha] at hsum ⊢
    rw [hrest, debit_apply, if_pos rfl]
    omega

/-- Some of the accounts hold at most `n` together. -/
theorem SumsTo.sum_le {h : Holdings} {n : Nat} (hs : h.SumsTo n) (t : Finset Address) :
    ∑ a ∈ t, h a ≤ n := by
  obtain ⟨s, hout, hsum⟩ := hs
  rw [← hsum]
  apply Finset.sum_le_sum_of_ne_zero
  intro a _ ha
  by_contra hmem
  exact ha (hout a hmem)

theorem SumsTo.le {h : Holdings} {n : Nat} (hs : h.SumsTo n) (a : Address) : h a ≤ n := by
  simpa using hs.sum_le {a}

/-! ## Counting what is held

Both `Circulating` and `SumsTo` count the holdings of all accounts together: a credit raises the
count, a debit of what is there lowers it, and no account has more than the count. That is all that
later results use, so they are stated for any such count. -/

/-- A way to count what all accounts together hold. -/
structure Tallied (count : Holdings → Nat → Prop) : Prop where
  le {h : Holdings} {n : Nat} (hn : count h n) (a : Address) : h a ≤ n
  credit {h : Holdings} {n : Nat} (hn : count h n) (a : Address) (k : Nat) :
    count (h.credit a k) (n + k)
  debit {h : Holdings} {n : Nat} (hn : count h n) {a : Address} {k : Nat} (hk : k ≤ h a) :
    count (h.debit a k) (n - k)

theorem circulating_tallied : Tallied Circulating where
  le := Circulating.le
  credit := Circulating.credit
  debit := Circulating.debit

theorem sumsTo_tallied : Tallied SumsTo where
  le := SumsTo.le
  credit := SumsTo.credit
  debit := SumsTo.debit

section Tallied

variable {count : Holdings → Nat → Prop} {h h' : Holdings} {n : Nat}

/-- A transfer between holders leaves the count as it is. -/
theorem Tallied.move (ht : Tallied count) (hn : count h n) {a : Address} {k : Nat} (b : Address)
    (hk : k ≤ h a) : count (h.move a b k) n := by
  have hkn : k ≤ n := Nat.le_trans hk (ht.le hn a)
  have hmoved := ht.credit (ht.debit hn hk) b k
  rwa [Nat.sub_add_cancel hkn] at hmoved

theorem Tallied.redistributed (ht : Tallied count) (hn : count h n) (hr : Redistributed h h') :
    count h' n := by
  induction hr with
  | refl => exact hn
  | tail _ hmove ih =>
      obtain ⟨a, b, k, hk, rfl⟩ := hmove
      exact ht.move ih b hk

end Tallied

end Holdings
end Pledge.Evm
