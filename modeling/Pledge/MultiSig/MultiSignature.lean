import Mathlib.Data.List.Nodup
import Mathlib.Logic.Function.Basic
import Pledge.Evm.CallStack
import Pledge.Evm.Ledger
import Pledge.Evm.Tx

/-!
# `MultiSignature`, the first wallet

The wallet of `multiSignatureV1`, statement by statement. Owners submit transactions, confirm them,
revoke a confirmation and execute what has enough of them. `execute` marks the transaction before it
makes the external call; what the callee does is a parameter, and in the runs below it may be anything,
calls back into the wallet included.
-/

namespace Pledge.MultiSignature

open Pledge.Evm

/-- `struct Transaction`. -/
structure Transaction where
  /-- `to` -/
  recipient : Address
  value : Nat
  data : List UInt8
  executed : Bool
  numConfirmations : Nat
  deriving Repr, DecidableEq

/-- The storage of `MultiSignature`. -/
structure Storage where
  owners : List Address := []
  isOwner : Address → Bool := fun _ => false
  required : Nat := 0
  transactions : List Transaction := []
  isConfirmed : Nat → Address → Bool := fun _ _ => false

namespace Storage

/-- Write `transactions[txId]`. -/
def setTransaction (s : Storage) (txId : Nat) (t : Transaction) : Storage :=
  { s with transactions := s.transactions.set txId t }

/-- Write `isConfirmed[txId][owner]`. -/
def setConfirmed (s : Storage) (txId : Nat) (owner : Address) (confirmed : Bool) : Storage :=
  { s with
    isConfirmed := Function.update s.isConfirmed txId
      (Function.update (s.isConfirmed txId) owner confirmed) }

end Storage

/-! ## Construction

Owners are added one by one, and an address that comes twice is refused. -/

/-- One round of the loop of the constructor. -/
def addOwner (owner : Address) : Tx Storage Unit := do
  Tx.require (owner ≠ 0) "invalid owner"
  let isOwner ← Tx.reads Storage.isOwner
  Tx.require (isOwner owner = false) "owner not unique"
  Tx.modifies fun s => { s with isOwner := Function.update s.isOwner owner true }
  Tx.modifies fun s => { s with owners := s.owners ++ [owner] }

def constructor (owners : List Address) (required : Nat) : Tx Storage Unit := do
  Tx.require (0 < owners.length) "owners required"
  Tx.require (0 < required ∧ required ≤ owners.length) "invalid required"
  Tx.fold (fun _ owner => addOwner owner) () owners
  Tx.modifies fun s => { s with required := required }

/-! ## Modifiers

In the order of the source. -/

def onlyOwner (sender : Address) : Tx Storage Unit := do
  let isOwner ← Tx.reads Storage.isOwner
  Tx.require (isOwner sender = true) "not owner"

def txExists (txId : Nat) : Tx Storage Unit := do
  let transactions ← Tx.reads Storage.transactions
  Tx.require (txId < transactions.length) "tx not exist"

/-- `transactions[txId]`, read. -/
def getTransaction (txId : Nat) : Tx Storage Transaction := do
  let transactions ← Tx.reads Storage.transactions
  Tx.index transactions txId

def notExecuted (txId : Nat) : Tx Storage Unit := do
  let transaction ← getTransaction txId
  Tx.require (transaction.executed = false) "tx executed"

/-! ## Transactions

`execute` has two parts: what it checks and marks, and the call that it then makes. -/

def submit (sender recipient : Address) (value : Nat) (data : List UInt8) : Tx Storage Unit := do
  onlyOwner sender
  Tx.modifies fun s => { s with transactions := s.transactions ++ [⟨recipient, value, data, false, 0⟩] }

def confirm (sender : Address) (txId : Nat) : Tx Storage Unit := do
  onlyOwner sender
  txExists txId
  notExecuted txId
  let isConfirmed ← Tx.reads Storage.isConfirmed
  Tx.require (isConfirmed txId sender = false) "tx confirmed"
  Tx.modifies fun s => s.setConfirmed txId sender true
  let transaction ← getTransaction txId
  let numConfirmations ← Tx.uadd transaction.numConfirmations 1
  Tx.modifies fun s => s.setTransaction txId { transaction with numConfirmations := numConfirmations }

def revoke (sender : Address) (txId : Nat) : Tx Storage Unit := do
  onlyOwner sender
  txExists txId
  notExecuted txId
  let isConfirmed ← Tx.reads Storage.isConfirmed
  Tx.require (isConfirmed txId sender = true) "tx not confirmed"
  Tx.modifies fun s => s.setConfirmed txId sender false
  let transaction ← getTransaction txId
  let numConfirmations ← Tx.usub transaction.numConfirmations 1
  Tx.modifies fun s => s.setTransaction txId { transaction with numConfirmations := numConfirmations }

/-- `execute` up to the external call: the transaction whose call is made. -/
def beginExecute (sender : Address) (txId : Nat) : Tx Storage Transaction := do
  onlyOwner sender
  txExists txId
  notExecuted txId
  let transaction ← getTransaction txId
  let required ← Tx.reads Storage.required
  Tx.require (required ≤ transaction.numConfirmations) "not enough confirmations"
  Tx.modifies fun s => s.setTransaction txId { transaction with executed := true }
  getTransaction txId

/-- `execute`. The low-level call reports whether it succeeded. -/
def execute (call : Address → Nat → List UInt8 → Tx Storage Bool) (sender : Address) (txId : Nat) :
    Tx Storage Unit := do
  let transaction ← beginExecute sender txId
  let success ← call transaction.recipient transaction.value transaction.data
  Tx.require (success = true) "tx failed"

/-! ## What they do

The success of each function as a statement about the states before and after. -/

section Rules

variable {s s' : Storage} {sender : Address} {txId : Nat} {u : Unit}

/-- The transaction is there and not executed. -/
def Storage.Pending (s : Storage) (txId : Nat) (t : Transaction) : Prop :=
  s.transactions[txId]? = some t ∧ t.executed = false

theorem onlyOwner_ok :
    (onlyOwner sender).run s = .ok (u, s') ↔ s.isOwner sender = true ∧ s' = s := by
  simp only [onlyOwner, Tx.rules, and_assoc, exists_and_left, exists_eq_left]

theorem getTransaction_ok {t : Transaction} :
    (getTransaction txId).run s = .ok (t, s') ↔ s.transactions[txId]? = some t ∧ s' = s := by
  simp only [getTransaction, Tx.rules, and_assoc, exists_and_left, exists_eq_left]

theorem txExists_ok :
    (txExists txId).run s = .ok (u, s') ↔ txId < s.transactions.length ∧ s' = s := by
  simp only [txExists, Tx.rules, and_assoc, exists_and_left, exists_eq_left]

theorem notExecuted_ok :
    (notExecuted txId).run s = .ok (u, s') ↔ (∃ t, s.Pending txId t) ∧ s' = s := by
  simp only [notExecuted, getTransaction_ok, Tx.rules, and_assoc, Storage.Pending]
  constructor
  · rintro ⟨t, _, ht, rfl, hnew, rfl⟩
    exact ⟨⟨t, ht, hnew⟩, rfl⟩
  · rintro ⟨⟨t, ht, hnew⟩, rfl⟩
    exact ⟨t, s', ht, rfl, hnew, rfl⟩

theorem Storage.Pending.lt {t : Transaction} (h : s.Pending txId t) :
    txId < s.transactions.length := by
  obtain ⟨hlt, -⟩ := List.getElem?_eq_some_iff.mp h.1
  exact hlt

/-- A transaction is at most one record. -/
theorem Storage.Pending.eq {t t' : Transaction} (h : s.Pending txId t)
    (h' : s.transactions[txId]? = some t') : t' = t :=
  Option.some.inj (h'.symm.trans h.1)

theorem submit_ok {recipient : Address} {value : Nat} {data : List UInt8} :
    (submit sender recipient value data).run s = .ok (u, s') ↔ s.isOwner sender = true ∧
      s' = { s with transactions := s.transactions ++ [⟨recipient, value, data, false, 0⟩] } := by
  simp only [submit, onlyOwner_ok, Tx.rules, and_assoc, exists_and_left, exists_eq_left, exists_const]

theorem confirm_ok :
    (confirm sender txId).run s = .ok (u, s') ↔ s.isOwner sender = true ∧ ∃ t, s.Pending txId t ∧
      s.isConfirmed txId sender = false ∧ t.numConfirmations + 1 < Tx.uint256 ∧
      s' = (s.setConfirmed txId sender true).setTransaction txId
        { t with numConfirmations := t.numConfirmations + 1 } := by
  simp only [confirm, onlyOwner_ok, txExists_ok, notExecuted_ok, getTransaction_ok, Tx.rules,
    and_assoc, exists_and_left, exists_eq_left, exists_const]
  refine and_congr_right fun _ => ?_
  constructor
  · rintro ⟨-, ⟨t, hpending⟩, hnew, t', ht', hfits, rfl⟩
    obtain rfl := hpending.eq ht'
    exact ⟨_, hpending, hnew, hfits, rfl⟩
  · rintro ⟨t, hpending, hnew, hfits, rfl⟩
    exact ⟨hpending.lt, ⟨t, hpending⟩, hnew, t, hpending.1, hfits, rfl⟩

theorem revoke_ok :
    (revoke sender txId).run s = .ok (u, s') ↔ s.isOwner sender = true ∧ ∃ t, s.Pending txId t ∧
      s.isConfirmed txId sender = true ∧ 1 ≤ t.numConfirmations ∧
      s' = (s.setConfirmed txId sender false).setTransaction txId
        { t with numConfirmations := t.numConfirmations - 1 } := by
  simp only [revoke, onlyOwner_ok, txExists_ok, notExecuted_ok, getTransaction_ok, Tx.rules,
    and_assoc, exists_and_left, exists_eq_left, exists_const]
  refine and_congr_right fun _ => ?_
  constructor
  · rintro ⟨-, ⟨t, hpending⟩, hold, t', ht', hfits, rfl⟩
    obtain rfl := hpending.eq ht'
    exact ⟨_, hpending, hold, hfits, rfl⟩
  · rintro ⟨t, hpending, hold, hfits, rfl⟩
    exact ⟨hpending.lt, ⟨t, hpending⟩, hold, t, hpending.1, hfits, rfl⟩

theorem beginExecute_ok {t' : Transaction} :
    (beginExecute sender txId).run s = .ok (t', s') ↔ s.isOwner sender = true ∧ ∃ t,
      s.Pending txId t ∧ s.required ≤ t.numConfirmations ∧ t' = { t with executed := true } ∧
      s' = s.setTransaction txId { t with executed := true } := by
  simp only [beginExecute, onlyOwner_ok, txExists_ok, notExecuted_ok, getTransaction_ok, Tx.rules,
    and_assoc, exists_and_left, exists_eq_left, exists_const]
  refine and_congr_right fun _ => ?_
  constructor
  · rintro ⟨-, ⟨t, hpending⟩, t', ht', henough, hread, rfl⟩
    obtain rfl := hpending.eq ht'
    refine ⟨_, hpending, henough, ?_, rfl⟩
    -- the record that is read back is the one just written
    rw [Storage.setTransaction, List.getElem?_set_self hpending.lt] at hread
    exact (Option.some.inj hread).symm
  · rintro ⟨t, hpending, henough, rfl, rfl⟩
    refine ⟨hpending.lt, ⟨t, hpending⟩, t, hpending.1, henough, ?_, rfl⟩
    rw [Storage.setTransaction, List.getElem?_set_self hpending.lt]

/-- **`execute`** begins, makes the call, and keeps both only when the call succeeded. -/
theorem execute_ok {call : Address → Nat → List UInt8 → Tx Storage Bool} :
    (execute call sender txId).run s = .ok (u, s') ↔ ∃ t s₁,
      (beginExecute sender txId).run s = .ok (t, s₁) ∧
      (call t.recipient t.value t.data).run s₁ = .ok (true, s') := by
  simp only [execute, Tx.bind_ok, Tx.require_ok]
  constructor
  · rintro ⟨t, s₁, hbegin, success, s₂, hcall, rfl, rfl⟩
    exact ⟨t, s₁, hbegin, hcall⟩
  · rintro ⟨t, s₁, hbegin, hcall⟩
    exact ⟨t, s₁, hbegin, true, s', hcall, rfl, rfl⟩

end Rules

/-! ## Construction, in both directions

The constructor succeeds for exactly these lists. -/

theorem addOwner_ok {owner : Address} {s s' : Storage} {u : Unit}
    (hs : ∀ a, s.isOwner a = true ↔ a ∈ s.owners) :
    (addOwner owner).run s = .ok (u, s') ↔ owner ≠ 0 ∧ owner ∉ s.owners ∧
      s' = { s with
        isOwner := Function.update s.isOwner owner true, owners := s.owners ++ [owner] } := by
  simp only [addOwner, Tx.rules, and_assoc, exists_and_left, exists_eq_left, exists_const]
  rw [← hs owner, Bool.not_eq_true]

/-- Accounts that are already owners are turned down, so the owners stay distinct. -/
theorem addOwners_ok {owners : List Address} {s s' : Storage}
    (hs : ∀ a, s.isOwner a = true ↔ a ∈ s.owners) :
    (Tx.fold (fun _ owner => addOwner owner) () owners).run s = .ok ((), s') ↔
      owners.Nodup ∧ 0 ∉ owners ∧ (∀ a ∈ owners, a ∉ s.owners) ∧
      s' = { s with
        owners := s.owners ++ owners
        isOwner := fun a => s.isOwner a || decide (a ∈ owners) } := by
  -- on the owners still to be added; those that are there grow
  induction owners generalizing s with
  | nil => simp [Tx.fold_nil_ok]
  | cons owner rest ih =>
      have hs₁ : ∀ a, Function.update s.isOwner owner true a = true ↔ a ∈ s.owners ++ [owner] := by
        intro a
        by_cases ha : a = owner
        · simp [ha]
        · simp [ha, hs a]
      have hisOwner : (fun a => Function.update s.isOwner owner true a || decide (a ∈ rest)) =
          fun a => s.isOwner a || decide (a ∈ owner :: rest) := by
        funext a
        by_cases ha : a = owner <;> simp [ha]
      rw [Tx.fold_cons_ok]
      constructor
      · rintro ⟨⟨⟩, s₁, hadd, hrest⟩
        obtain ⟨hzero, hnew, rfl⟩ := (addOwner_ok hs).mp hadd
        obtain ⟨hnodup, hzeros, hothers, rfl⟩ := (ih hs₁).mp hrest
        refine ⟨List.nodup_cons.mpr ⟨?_, hnodup⟩, ?_, ?_, ?_⟩
        · intro hmem
          exact hothers owner hmem (by simp)
        · simp [hzeros, Ne.symm hzero]
        · rw [List.forall_mem_cons]
          exact ⟨hnew, fun a ha hmem => hothers a ha (List.mem_append_left _ hmem)⟩
        · simp only [hisOwner, List.append_assoc, List.singleton_append]
      · rintro ⟨hnodup, hzeros, hothers, rfl⟩
        obtain ⟨hne, hnodup⟩ := List.nodup_cons.mp hnodup
        rw [List.mem_cons, not_or] at hzeros
        rw [List.forall_mem_cons] at hothers
        refine ⟨(), _, (addOwner_ok hs).mpr ⟨Ne.symm hzeros.1, hothers.1, rfl⟩,
          (ih hs₁).mpr ⟨hnodup, hzeros.2, ?_, ?_⟩⟩
        · intro a ha hmem
          rcases List.mem_append.mp hmem with hold | hlast
          · exact hothers.2 a ha hold
          · rw [List.mem_singleton.mp hlast] at ha
            exact hne ha
        · simp only [hisOwner, List.append_assoc, List.singleton_append]

/-- **The wallets the constructor accepts.** -/
theorem constructor_ok {owners : List Address} {required : Nat} {s : Storage} {u : Unit} :
    (constructor owners required).run {} = .ok (u, s) ↔
      0 < required ∧ required ≤ owners.length ∧ owners.Nodup ∧ 0 ∉ owners ∧
      s = { owners := owners, isOwner := fun a => decide (a ∈ owners), required := required } := by
  have hblank : ∀ a, ({} : Storage).isOwner a = true ↔ a ∈ ({} : Storage).owners := by simp
  simp only [constructor, Tx.rules, and_assoc, exists_and_left, exists_eq_left, exists_const]
  constructor
  · rintro ⟨-, hpos, hle, ⟨⟩, s₁, hadd, rfl⟩
    obtain ⟨hnodup, hzero, -, rfl⟩ := (addOwners_ok hblank).mp hadd
    refine ⟨hpos, hle, hnodup, hzero, ?_⟩
    simp
  · rintro ⟨hpos, hle, hnodup, hzero, rfl⟩
    refine ⟨hpos.trans_le hle, hpos, hle, (), _,
      (addOwners_ok hblank).mpr ⟨hnodup, hzero, by simp, rfl⟩, ?_⟩
    simp

end Pledge.MultiSignature
