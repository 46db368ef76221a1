import Pledge.Evm.Ledger
import Pledge.Evm.Run
import Pledge.Evm.Tx
import Pledge.MultiSig.AddressArray

/-!
# `DebtToken`

The claim tokens of the pools, with the minters they have from `AddressPrivileges`. `ERC20` and
`EnumerableSet.AddressSet` come from a library that is not in this repository: their functions are
parameters, and `Lawful` says what is documented of them.

A `Register` is what such a token is for. `transaction_effect` says once what each transaction does to
it, and every result below starts there: the total supply is what was minted less what was burned and
is what all accounts together hold (`supply_accounted`); whoever mints or burns was appointed by an
approved `addMinter` and not dismissed since (`issued_by_minters`); and the list of the minters is the
list of those accounts (`minters_listed`).
-/

namespace Pledge.Token

open Pledge.Evm

variable {σ τ : Type}

/-! ## What the contract is made of -/

/-- `ERC20` with the storage `σ`. In the last three functions the first account is `msg.sender`. -/
structure ERC20 (σ : Type) where
  balanceOf : σ → Holdings
  totalSupply : σ → Nat
  /-- `_mint(account, value)` -/
  mint : Address → Nat → Tx σ Unit
  /-- `_burn(account, value)` -/
  burn : Address → Nat → Tx σ Unit
  /-- `transfer(to, value)` -/
  transfer : Address → Address → Nat → Tx σ Bool
  /-- `transferFrom(from, to, value)` -/
  transferFrom : Address → Address → Address → Nat → Tx σ Bool
  /-- `approve(spender, value)` -/
  approve : Address → Address → Nat → Tx σ Bool

/-- A mint adds to the supply, which stays in range; a burn takes from a balance and from the supply;
everything else moves what there is. -/
structure ERC20.Lawful (E : ERC20 σ) : Prop where
  mint {a : Address} {n : Nat} {s s' : σ} : (E.mint a n).run s = .ok ((), s') →
    E.totalSupply s + n < Tx.uint256 ∧ E.totalSupply s' = E.totalSupply s + n ∧
      E.balanceOf s' = (E.balanceOf s).credit a n
  burn {a : Address} {n : Nat} {s s' : σ} : (E.burn a n).run s = .ok ((), s') →
    n ≤ E.balanceOf s a ∧ (n ≤ E.totalSupply s → E.totalSupply s' = E.totalSupply s - n) ∧
      E.balanceOf s' = (E.balanceOf s).debit a n
  transfer {sender a : Address} {n : Nat} {s s' : σ} {b : Bool} :
    (E.transfer sender a n).run s = .ok (b, s') →
      n ≤ E.balanceOf s sender ∧ E.totalSupply s' = E.totalSupply s ∧
        E.balanceOf s' = (E.balanceOf s).move sender a n
  transferFrom {sender source a : Address} {n : Nat} {s s' : σ} {b : Bool} :
    (E.transferFrom sender source a n).run s = .ok (b, s') →
      n ≤ E.balanceOf s source ∧ E.totalSupply s' = E.totalSupply s ∧
        E.balanceOf s' = (E.balanceOf s).move source a n
  approve {sender a : Address} {n : Nat} {s s' : σ} {b : Bool} :
    (E.approve sender a n).run s = .ok (b, s') →
      E.totalSupply s' = E.totalSupply s ∧ E.balanceOf s' = E.balanceOf s

/-- `EnumerableSet.AddressSet` with the storage `τ`. -/
structure AddressSet (τ : Type) where
  contains : τ → Address → Bool
  add : τ → Address → Bool × τ
  remove : τ → Address → Bool × τ
  length : τ → Nat
  /-- `at(index)` -/
  entry : τ → Nat → Except Revert Address

/-- Adding and removing change the membership of one account, and the entries are the members, each
of them once, in any order. -/
structure AddressSet.Lawful (A : AddressSet τ) : Prop where
  add (s : τ) (a b : Address) :
    A.contains (A.add s a).2 b = true ↔ b = a ∨ A.contains s b = true
  remove (s : τ) (a b : Address) :
    A.contains (A.remove s a).2 b = true ↔ A.contains s b = true ∧ b ≠ a
  entries (s : τ) : ∃ list : List Address, list.Nodup ∧ (∀ a, A.contains s a = true ↔ a ∈ list) ∧
    A.length s = list.length ∧ ∀ i a, list[i]? = some a → A.entry s i = .ok a

/-- The state of a `DebtToken`. -/
structure DebtToken (σ τ : Type) where
  erc20 : σ
  minters : τ
  multiSignature : Address

/-- What a transaction of the token is sent with. -/
structure Msg where
  /-- `address(this)` -/
  this : Address
  /-- `msg.sender` -/
  sender : Address
  /-- `keccak256(abi.encodePacked(a, b))` -/
  keccak : Address → Address → Nat
  /-- `IMultiSignature(wallet).getValidSignature(msghash, lastIndex)` -/
  getValidSignature : Address → Nat → Nat → Except Revert Nat

/-- The constructor, on an `ERC20` and an `AddressSet` as theirs leave them. -/
def constructor (erc20 : σ) (minters : τ) (multiSignature : Address) :
    Except Revert (DebtToken σ τ) :=
  if multiSignature ≠ 0 then .ok ⟨erc20, minters, multiSignature⟩
  else .error (.require "MultiSigClient: MultiSignature address cannot be zero")

/-! ## The functions -/

/-- A function of `ERC20`. -/
def onErc20 {α : Type} (x : Tx σ α) : Tx (DebtToken σ τ) α :=
  Tx.zoom DebtToken.erc20 (fun erc20 s => { s with erc20 := erc20 }) x

/-- `checkMultiSignature` of `MultiSigClient`, the body of the modifier `validCall`. -/
def validCall (msg : Msg) : Tx (DebtToken σ τ) Unit := do
  let msgHash := msg.keccak msg.sender msg.this
  let multiSign ← Tx.reads DebtToken.multiSignature
  let newIndex ← Tx.view fun _ => msg.getValidSignature multiSign msgHash 0
  Tx.require (0 < newIndex) "MultiSigClient: Transaction not approved by multi-signature"

section Functions

variable (E : ERC20 σ) (A : AddressSet τ)

def onlyMinter (msg : Msg) : Tx (DebtToken σ τ) Unit := do
  let minters ← Tx.reads DebtToken.minters
  Tx.require (A.contains minters msg.sender = true) "AddressPrivileges: Caller is not a minter"

def addMinter (msg : Msg) (minter : Address) : Tx (DebtToken σ τ) Bool := do
  validCall msg
  Tx.require (minter ≠ 0) "AddressPrivileges: Minter is the zero address"
  let minters ← Tx.reads DebtToken.minters
  let (added, minters) := A.add minters minter
  Tx.modifies fun s => { s with minters := minters }
  pure added

def delMinter (msg : Msg) (minter : Address) : Tx (DebtToken σ τ) Bool := do
  validCall msg
  Tx.require (minter ≠ 0) "AddressPrivileges: Minter is the zero address"
  let minters ← Tx.reads DebtToken.minters
  let (removed, minters) := A.remove minters minter
  Tx.modifies fun s => { s with minters := minters }
  pure removed

def DebtToken.isMinter (s : DebtToken σ τ) (account : Address) : Bool := A.contains s.minters account

def DebtToken.getMinterLength (s : DebtToken σ τ) : Nat := A.length s.minters

def DebtToken.getMinter (s : DebtToken σ τ) (index : Nat) : Except Revert Address :=
  if index < A.length s.minters then A.entry s.minters index
  else .error (.require "AddressPrivileges: Index out of bounds")

def mint (msg : Msg) (recipient : Address) (amount : Nat) : Tx (DebtToken σ τ) Bool := do
  onlyMinter A msg
  onErc20 (E.mint recipient amount)
  pure true

def burn (msg : Msg) (source : Address) (amount : Nat) : Tx (DebtToken σ τ) Bool := do
  onlyMinter A msg
  onErc20 (E.burn source amount)
  pure true

/-- The functions that change the state. -/
inductive Call where
  | addMinter (minter : Address)
  | delMinter (minter : Address)
  | mint (recipient : Address) (amount : Nat)
  | burn (source : Address) (amount : Nat)
  | transfer (recipient : Address) (amount : Nat)
  | transferFrom (source recipient : Address) (amount : Nat)
  | approve (spender : Address) (amount : Nat)
  deriving Repr, DecidableEq

def Call.body (msg : Msg) : Call → Tx (DebtToken σ τ) Bool
  | .addMinter minter => Token.addMinter A msg minter
  | .delMinter minter => Token.delMinter A msg minter
  | .mint recipient amount => Token.mint E A msg recipient amount
  | .burn source amount => Token.burn E A msg source amount
  | .transfer recipient amount => onErc20 (E.transfer msg.sender recipient amount)
  | .transferFrom source recipient amount =>
      onErc20 (E.transferFrom msg.sender source recipient amount)
  | .approve spender amount => onErc20 (E.approve msg.sender spender amount)

/-- A successful transaction. -/
def Step (s : DebtToken σ τ) (e : Msg × Call) (s' : DebtToken σ τ) : Prop :=
  ∃ b, (e.2.body E A e.1).run s = .ok (b, s')

end Functions

/-! ## What the token is for -/

/-- Who holds how much, how much there is, and who may change that. -/
structure Register where
  holdings : Holdings
  supply : Nat
  minters : Set Address

/-- The wallet `multiSign` approves the calls of the sender. -/
def Msg.Approved (msg : Msg) (multiSign : Address) : Prop :=
  ∃ newIndex, msg.getValidSignature multiSign (msg.keccak msg.sender msg.this) 0 = .ok newIndex ∧
    0 < newIndex

/-- What a transaction does to the register, with the guards it passed. -/
inductive Effect (multiSign : Address) (msg : Msg) (r : Register) : Call → Register → Prop
  | addMinter {minter : Address} (happroved : msg.Approved multiSign) (hne : minter ≠ 0) :
      Effect multiSign msg r (.addMinter minter) { r with minters := insert minter r.minters }
  | delMinter {minter : Address} (happroved : msg.Approved multiSign) (hne : minter ≠ 0) :
      Effect multiSign msg r (.delMinter minter) { r with minters := r.minters \ {minter} }
  | mint {recipient : Address} {amount : Nat} (hminter : msg.sender ∈ r.minters)
      (hfits : r.supply + amount < Tx.uint256) :
      Effect multiSign msg r (.mint recipient amount)
        { r with holdings := r.holdings.credit recipient amount, supply := r.supply + amount }
  | burn {source : Address} {amount : Nat} (hminter : msg.sender ∈ r.minters)
      (henough : amount ≤ r.holdings source) :
      Effect multiSign msg r (.burn source amount)
        { r with holdings := r.holdings.debit source amount, supply := r.supply - amount }
  | transfer {recipient : Address} {amount : Nat} (henough : amount ≤ r.holdings msg.sender) :
      Effect multiSign msg r (.transfer recipient amount)
        { r with holdings := r.holdings.move msg.sender recipient amount }
  | transferFrom {source recipient : Address} {amount : Nat} (henough : amount ≤ r.holdings source) :
      Effect multiSign msg r (.transferFrom source recipient amount)
        { r with holdings := r.holdings.move source recipient amount }
  | approve {spender : Address} {amount : Nat} : Effect multiSign msg r (.approve spender amount) r

/-- The supply is what all accounts hold together, and it is in range. -/
structure Register.Sound (r : Register) : Prop where
  held : r.holdings.SumsTo r.supply
  fits : r.supply < Tx.uint256

/-- **A transaction keeps the register sound.** -/
theorem Effect.sound {multiSign : Address} {msg : Msg} {r r' : Register} {c : Call}
    (h : Effect multiSign msg r c r') (hr : r.Sound) : r'.Sound := by
  cases h with
  | addMinter => exact ⟨hr.held, hr.fits⟩
  | delMinter => exact ⟨hr.held, hr.fits⟩
  | mint _ hfits => exact ⟨hr.held.credit _ _, hfits⟩
  | burn _ henough => exact ⟨hr.held.debit henough, Nat.lt_of_le_of_lt (Nat.sub_le _ _) hr.fits⟩
  | transfer henough => exact ⟨Holdings.sumsTo_tallied.move hr.held _ henough, hr.fits⟩
  | transferFrom henough => exact ⟨Holdings.sumsTo_tallied.move hr.held _ henough, hr.fits⟩
  | approve => exact hr

/-- The register of a token. -/
def DebtToken.register (E : ERC20 σ) (A : AddressSet τ) (s : DebtToken σ τ) : Register where
  holdings := E.balanceOf s.erc20
  supply := E.totalSupply s.erc20
  minters := {a | A.contains s.minters a = true}

section Transactions

variable {E : ERC20 σ} {A : AddressSet τ} {msg : Msg} {c : Call} {s s' : DebtToken σ τ}

theorem validCall_ok {u : Unit} :
    (validCall msg).run s = .ok (u, s') ↔ msg.Approved s.multiSignature ∧ s' = s := by
  simp only [validCall, Tx.rules, and_assoc, exists_and_left, exists_eq_left]
  constructor
  · rintro ⟨newIndex, hindex, hpos, rfl⟩
    exact ⟨⟨newIndex, hindex, hpos⟩, rfl⟩
  · rintro ⟨⟨newIndex, hindex, hpos⟩, rfl⟩
    exact ⟨newIndex, hindex, hpos, rfl⟩

theorem onlyMinter_ok {u : Unit} :
    (onlyMinter A msg).run s = .ok (u, s') ↔ msg.sender ∈ (s.register E A).minters ∧ s' = s := by
  simp only [onlyMinter, Tx.rules, and_assoc, exists_and_left, exists_eq_left]
  rfl

/-- A function of `ERC20` changes the state of `ERC20`. -/
theorem onErc20_ok {α : Type} {x : Tx σ α} {a : α} :
    (onErc20 x).run s = .ok (a, s') ↔
      ∃ erc20, x.run s.erc20 = .ok (a, erc20) ∧ s' = { s with erc20 := erc20 } :=
  Tx.zoom_ok

theorem addMinter_ok {minter : Address} {b : Bool} :
    (addMinter A msg minter).run s = .ok (b, s') ↔
      msg.Approved s.multiSignature ∧ minter ≠ 0 ∧ b = (A.add s.minters minter).1 ∧
        s' = { s with minters := (A.add s.minters minter).2 } := by
  simp only [addMinter, validCall_ok, Tx.rules, and_assoc, exists_and_left, exists_eq_left,
    exists_const]

theorem delMinter_ok {minter : Address} {b : Bool} :
    (delMinter A msg minter).run s = .ok (b, s') ↔
      msg.Approved s.multiSignature ∧ minter ≠ 0 ∧ b = (A.remove s.minters minter).1 ∧
        s' = { s with minters := (A.remove s.minters minter).2 } := by
  simp only [delMinter, validCall_ok, Tx.rules, and_assoc, exists_and_left, exists_eq_left,
    exists_const]

/-- A minter has a function of `ERC20` run. -/
theorem issue_ok {x : Tx σ Unit} {b : Bool} :
    (do onlyMinter A msg; onErc20 x; pure true : Tx (DebtToken σ τ) Bool).run s = .ok (b, s') ↔
      msg.sender ∈ (s.register E A).minters ∧ b = true ∧
        ∃ erc20, x.run s.erc20 = .ok ((), erc20) ∧ s' = { s with erc20 := erc20 } := by
  simp only [onlyMinter_ok (E := E), onErc20_ok, Tx.rules, and_assoc, exists_and_left,
    exists_eq_left, exists_const]
  constructor
  · rintro ⟨hminter, _, s₁, ⟨erc20, hrun, hs₁⟩, rfl, rfl⟩
    exact ⟨hminter, rfl, erc20, hrun, hs₁⟩
  · rintro ⟨hminter, rfl, erc20, hrun, rfl⟩
    exact ⟨hminter, (), _, ⟨erc20, hrun, rfl⟩, rfl, rfl⟩

/-- **What a transaction does to the register.** -/
theorem transaction_effect (hE : E.Lawful) (hA : A.Lawful) (hs : (s.register E A).Sound)
    (h : Step E A s (msg, c) s') :
    Effect s.multiSignature msg (s.register E A) c (s'.register E A) ∧
      s'.multiSignature = s.multiSignature := by
  obtain ⟨b, hrun⟩ := h
  cases c with
  | addMinter minter =>
      obtain ⟨happroved, hne, -, rfl⟩ := addMinter_ok.mp hrun
      have hminters : {a | A.contains (A.add s.minters minter).2 a = true} =
          insert minter {a | A.contains s.minters a = true} := by
        ext a
        exact hA.add s.minters minter a
      refine ⟨?_, rfl⟩
      show Effect _ _ _ _ { s.register E A with
        minters := {a | A.contains (A.add s.minters minter).2 a = true} }
      rw [hminters]
      exact .addMinter happroved hne
  | delMinter minter =>
      obtain ⟨happroved, hne, -, rfl⟩ := delMinter_ok.mp hrun
      have hminters : {a | A.contains (A.remove s.minters minter).2 a = true} =
          {a | A.contains s.minters a = true} \ {minter} := by
        ext a
        exact hA.remove s.minters minter a
      refine ⟨?_, rfl⟩
      show Effect _ _ _ _ { s.register E A with
        minters := {a | A.contains (A.remove s.minters minter).2 a = true} }
      rw [hminters]
      exact .delMinter happroved hne
  | mint recipient amount =>
      obtain ⟨hminter, -, erc20, hmint, rfl⟩ := (issue_ok (E := E)).mp hrun
      obtain ⟨hfits, hsupply, hbalance⟩ := hE.mint hmint
      refine ⟨?_, rfl⟩
      show Effect _ _ _ _ ⟨E.balanceOf erc20, E.totalSupply erc20, _⟩
      rw [hsupply, hbalance]
      exact .mint hminter hfits
  | burn source amount =>
      obtain ⟨hminter, -, erc20, hburn, rfl⟩ := (issue_ok (E := E)).mp hrun
      obtain ⟨henough, hsupply, hbalance⟩ := hE.burn hburn
      refine ⟨?_, rfl⟩
      show Effect _ _ _ _ ⟨E.balanceOf erc20, E.totalSupply erc20, _⟩
      -- a balance is a part of the supply, so the supply is large enough as well
      rw [hsupply (Nat.le_trans henough (hs.held.le source)), hbalance]
      exact .burn hminter henough
  | transfer recipient amount =>
      obtain ⟨erc20, htransfer, rfl⟩ := onErc20_ok.mp hrun
      obtain ⟨henough, hsupply, hbalance⟩ := hE.transfer htransfer
      refine ⟨?_, rfl⟩
      show Effect _ _ _ _ ⟨E.balanceOf erc20, E.totalSupply erc20, _⟩
      rw [hsupply, hbalance]
      exact .transfer henough
  | transferFrom source recipient amount =>
      obtain ⟨erc20, htransfer, rfl⟩ := onErc20_ok.mp hrun
      obtain ⟨henough, hsupply, hbalance⟩ := hE.transferFrom htransfer
      refine ⟨?_, rfl⟩
      show Effect _ _ _ _ ⟨E.balanceOf erc20, E.totalSupply erc20, _⟩
      rw [hsupply, hbalance]
      exact .transferFrom henough
  | approve spender amount =>
      obtain ⟨erc20, happrove, rfl⟩ := onErc20_ok.mp hrun
      obtain ⟨hsupply, hbalance⟩ := hE.approve happrove
      refine ⟨?_, rfl⟩
      show Effect _ _ _ _ ⟨E.balanceOf erc20, E.totalSupply erc20, _⟩
      rw [hsupply, hbalance]
      exact .approve

end Transactions

/-! ## A token to run

An `ERC20` as the library documents it, and sets as arrays. The wallet of the script approves the
account 1; the pool is at 100. -/

structure Plain where
  balances : Holdings := fun _ => 0
  supply : Nat := 0
  allowances : Address → Address → Nat := fun _ _ => 0

/-- `_transfer(from, to, value)` -/
def Plain.transfer (source recipient : Address) (value : Nat) : Tx Plain Unit := do
  Tx.require (source ≠ 0 ∧ recipient ≠ 0) "ERC20: zero address"
  let balances ← Tx.reads Plain.balances
  Tx.require (value ≤ balances source) "ERC20: insufficient balance"
  Tx.modifies fun s : Plain => { s with balances := s.balances.move source recipient value }

def plainErc20 : ERC20 Plain where
  balanceOf := Plain.balances
  totalSupply := Plain.supply
  mint account value := do
    Tx.require (account ≠ 0) "ERC20: zero address"
    let supply ← Tx.reads Plain.supply
    let supply ← Tx.uadd supply value
    Tx.modifies fun s : Plain =>
      { s with balances := s.balances.credit account value, supply := supply }
  burn account value := do
    Tx.require (account ≠ 0) "ERC20: zero address"
    let balances ← Tx.reads Plain.balances
    Tx.require (value ≤ balances account) "ERC20: insufficient balance"
    Tx.modifies fun s : Plain =>
      { s with balances := s.balances.debit account value, supply := s.supply - value }
  transfer sender recipient value := do
    Plain.transfer sender recipient value
    pure true
  transferFrom sender source recipient value := do
    let allowances ← Tx.reads Plain.allowances
    Tx.require (value ≤ allowances source sender) "ERC20: insufficient allowance"
    Tx.when (allowances source sender ≠ Tx.maxUint256) (Tx.modifies fun s : Plain =>
      { s with
        allowances := fun a b =>
          if a = source ∧ b = sender then s.allowances a b - value else s.allowances a b })
    Plain.transfer source recipient value
    pure true
  approve sender spender value := do
    Tx.require (sender ≠ 0 ∧ spender ≠ 0) "ERC20: zero address"
    Tx.modifies fun s : Plain =>
      { s with
        allowances := fun a b => if a = sender ∧ b = spender then value else s.allowances a b }
    pure true

theorem Plain.transfer_ok {source recipient : Address} {value : Nat} {u : Unit} {s s' : Plain} :
    (Plain.transfer source recipient value).run s = .ok (u, s') ↔
      (source ≠ 0 ∧ recipient ≠ 0) ∧ value ≤ s.balances source ∧
        s' = { s with balances := s.balances.move source recipient value } := by
  simp only [Plain.transfer, Tx.rules, and_assoc, exists_and_left, exists_eq_left, exists_const]

theorem plainErc20_lawful : plainErc20.Lawful where
  mint {a n s s'} h := by
    simp only [plainErc20, Tx.rules, and_assoc, exists_and_left, exists_eq_left, exists_const] at h
    obtain ⟨-, hfits, rfl⟩ := h
    exact ⟨hfits, rfl, rfl⟩
  burn {a n s s'} h := by
    simp only [plainErc20, Tx.rules, and_assoc, exists_and_left, exists_eq_left, exists_const] at h
    obtain ⟨-, henough, rfl⟩ := h
    exact ⟨henough, fun _ => rfl, rfl⟩
  transfer {sender a n s s' b} h := by
    simp only [plainErc20, Plain.transfer_ok, Tx.rules, and_assoc, exists_and_left, exists_eq_left,
      exists_const] at h
    obtain ⟨-, -, henough, -, rfl⟩ := h
    exact ⟨henough, rfl, rfl⟩
  transferFrom {sender source a n s s' b} h := by
    simp only [plainErc20, Plain.transfer_ok, Tx.rules, and_assoc, exists_and_left, exists_eq_left,
      exists_const] at h
    obtain ⟨-, s₁, hspent, -, -, henough, -, rfl⟩ := h
    rcases hspent with ⟨-, rfl⟩ | ⟨-, rfl⟩ <;> exact ⟨henough, rfl, rfl⟩
  approve {sender a n s s' b} h := by
    simp only [plainErc20, Tx.rules, and_assoc, exists_and_left, exists_eq_left, exists_const] at h
    obtain ⟨-, -, -, rfl⟩ := h
    exact ⟨rfl, rfl⟩

/-- Sets as arrays without duplicates: what is added comes last, and the last entry takes the place of
what is removed. -/
def listSet : AddressSet {list : List Address // list.Nodup} where
  contains list a := MultiSig.contains list.1 a
  add list a :=
    if h : a ∈ list.1 then (false, list)
    else (true, ⟨list.1 ++ [a], List.concat_eq_append ▸ list.2.concat h⟩)
  remove list a :=
    if h : a ∈ list.1 then
      (true, ⟨(MultiSig.removeAddress list.1 a).1,
        (MultiSig.removeAddress_perm h).nodup_iff.mpr (list.2.erase a)⟩)
    else (false, list)
  length list := list.1.length
  entry list i :=
    match list.1[i]? with
    | some a => .ok a
    | none => .error .outOfBounds

theorem listSet_lawful : listSet.Lawful where
  add list a b := by
    simp only [listSet, MultiSig.contains_iff]
    split
    · next h =>
        constructor
        · exact .inr
        · rintro (rfl | hmem)
          · exact h
          · exact hmem
    · rw [List.mem_append, List.mem_singleton, or_comm]
  remove list a b := by
    simp only [listSet, MultiSig.contains_iff]
    split
    · next h =>
        rw [(MultiSig.removeAddress_perm h).mem_iff, list.2.mem_erase_iff, and_comm]
    · next h =>
        constructor
        · intro hmem
          exact ⟨hmem, fun heq => h (heq ▸ hmem)⟩
        · exact And.left
  entries list := by
    refine ⟨list.1, list.2, fun a => MultiSig.contains_iff, rfl, ?_⟩
    intro i a hi
    simp only [listSet, hi]

/-- A message to the token at 60, where the wallet approves the account 1. -/
def plainMsg (sender : Address) : Msg where
  this := 60
  sender := sender
  keccak a b := a * 2 ^ 160 + b
  getValidSignature _ msgHash _ := .ok (if msgHash = 1 * 2 ^ 160 + 60 then 1 else 0)

/-- The pool at 100 becomes a minter, mints for 7 and burns what 8 got from 7. -/
def plainScript : List (Msg × Call) :=
  [(plainMsg 1, .addMinter 100), (plainMsg 100, .mint 7 50), (plainMsg 7, .transfer 8 20),
    (plainMsg 100, .burn 8 20)]

/-- The transaction, when it succeeds. -/
def Step.next (E : ERC20 σ) (A : AddressSet τ) (s : DebtToken σ τ) (e : Msg × Call) :
    Option (DebtToken σ τ) :=
  match (e.2.body E A e.1).run s with
  | .ok (_, s') => some s'
  | .error _ => none

theorem Step.of_next {E : ERC20 σ} {A : AddressSet τ} {s s' : DebtToken σ τ} {e : Msg × Call}
    (h : Step.next E A s e = some s') : Step E A s e s' := by
  unfold Step.next at h
  split at h
  · next b s₁ hrun =>
      obtain rfl := Option.some.inj h
      exact ⟨b, hrun⟩
  · cases h

theorem plainScript_run : ∃ s₀ s,
    constructor (σ := Plain) (τ := {list : List Address // list.Nodup}) {} ⟨[], List.nodup_nil⟩ 50 =
      .ok s₀ ∧ Run (Step plainErc20 listSet) s₀ plainScript s := by
  have hreplay : (replay (Step.next plainErc20 listSet) ⟨{}, ⟨[], List.nodup_nil⟩, 50⟩
      plainScript).isSome = true := by decide +kernel
  obtain ⟨s, hs⟩ := Option.isSome_iff_exists.mp hreplay
  exact ⟨_, s, rfl, Run.of_replay Step.of_next hs⟩

/-! ## Runs -/

section Runs

variable {E : ERC20 σ} {A : AddressSet τ} {s₀ s s' : DebtToken σ τ} {es : List (Msg × Call)}

/-- An `ERC20` and an `AddressSet` nobody has used. -/
structure Unused (E : ERC20 σ) (A : AddressSet τ) (erc20 : σ) (minters : τ) : Prop where
  balance : ∀ a, E.balanceOf erc20 a = 0
  supply : E.totalSupply erc20 = 0
  minters : ∀ a, A.contains minters a = false

/-- A transaction, from a sound register. -/
structure RegisterStep (E : ERC20 σ) (A : AddressSet τ) (multiSign : Address) (s : DebtToken σ τ)
    (e : Msg × Call) (s' : DebtToken σ τ) : Prop where
  sound : (s'.register E A).Sound
  effect : Effect multiSign e.1 (s.register E A) e.2 (s'.register E A)

theorem plain_unused : Unused plainErc20 listSet {} ⟨[], List.nodup_nil⟩ :=
  ⟨fun _ => rfl, rfl, fun _ => rfl⟩

theorem constructor_sound {erc20 : σ} {minters : τ} {multiSign : Address}
    (hunused : Unused E A erc20 minters) (hnew : constructor erc20 minters multiSign = .ok s₀) :
    (s₀.register E A).Sound ∧ s₀ = ⟨erc20, minters, multiSign⟩ := by
  unfold constructor at hnew
  split at hnew
  · obtain rfl := Except.ok.inj hnew
    refine ⟨⟨?_, ?_⟩, rfl⟩
    · show Holdings.SumsTo _ (E.totalSupply erc20)
      rw [hunused.supply]
      exact Holdings.SumsTo.zero hunused.balance
    · show E.totalSupply erc20 < _
      rw [hunused.supply]
      decide
  · cases hnew

/-- A run from the constructor is a run of effects on the register. -/
theorem run_effects (hE : E.Lawful) (hA : A.Lawful) {erc20 : σ} {minters : τ} {multiSign : Address}
    (hunused : Unused E A erc20 minters) (hnew : constructor erc20 minters multiSign = .ok s₀)
    (hrun : Run (Step E A) s₀ es s) : Run (RegisterStep E A multiSign) s₀ es s := by
  obtain ⟨hsound, hs₀⟩ := constructor_sound hunused hnew
  have halong := hrun.along
    (J := fun s => (s.register E A).Sound ∧ s.multiSignature = multiSign) ⟨hsound, by rw [hs₀]⟩ ?_
  · apply halong.mono
    intro s e s' hs
    obtain ⟨⟨hsound, hmulti⟩, hstep⟩ := hs
    obtain ⟨heff, -⟩ := transaction_effect hE hA hsound hstep
    rw [hmulti] at heff
    exact ⟨heff.sound hsound, heff⟩
  · intro s e s' hJ hstep
    obtain ⟨heff, hsame⟩ := transaction_effect hE hA hJ.1 hstep
    exact ⟨heff.sound hJ.1, hsame.trans hJ.2⟩

/-- What a transaction mints. -/
def Call.minted : Call → Nat
  | .mint _ amount => amount
  | _ => 0

/-- What a transaction burns. -/
def Call.burned : Call → Nat
  | .burn _ amount => amount
  | _ => 0

theorem Effect.supply {multiSign : Address} {msg : Msg} {r r' : Register} {c : Call}
    (h : Effect multiSign msg r c r') (hr : r.Sound) :
    r'.supply + c.burned = r.supply + c.minted := by
  cases h with
  | burn _ henough => exact Nat.sub_add_cancel (Nat.le_trans henough (hr.held.le _))
  | _ => rfl

/-- **The supply is accounted for.** In every run from the constructor the total supply is what was
minted less what was burned, and exactly what all accounts hold together. -/
theorem supply_accounted (hE : E.Lawful) (hA : A.Lawful) {erc20 : σ} {minters : τ}
    {multiSign : Address} (hunused : Unused E A erc20 minters)
    (hnew : constructor erc20 minters multiSign = .ok s₀) (hrun : Run (Step E A) s₀ es s) :
    E.totalSupply s.erc20 + total (fun e => e.2.burned) es = total (fun e => e.2.minted) es ∧
      (E.balanceOf s.erc20).SumsTo (E.totalSupply s.erc20) ∧
      E.totalSupply s.erc20 < Tx.uint256 := by
  obtain ⟨hsound, hs₀⟩ := constructor_sound hunused hnew
  have hinv : (s.register E A).Sound ∧
      (s.register E A).supply + total (fun e => e.2.burned) es = total (fun e => e.2.minted) es := by
    refine (run_effects hE hA hunused hnew hrun).invariant
      (I := fun es s => (s.register E A).Sound ∧ (s.register E A).supply +
        total (fun e : Msg × Call => e.2.burned) es = total (fun e => e.2.minted) es) ?_ ?_
    · refine ⟨hsound, ?_⟩
      rw [hs₀]
      exact hunused.supply
    · intro es s e s' hI hs
      have hsupply := hs.effect.supply hI.1
      refine ⟨hs.sound, ?_⟩
      rw [total_snoc, total_snoc]
      omega
  exact ⟨hinv.2, hinv.1.held, hinv.1.fits⟩

theorem supply_accounted_plain : ∃ s₀ s, Run (Step plainErc20 listSet) s₀ plainScript s ∧
    plainErc20.totalSupply s.erc20 + total (fun e => e.2.burned) plainScript =
        total (fun e => e.2.minted) plainScript ∧
      (plainErc20.balanceOf s.erc20).SumsTo (plainErc20.totalSupply s.erc20) ∧
      plainErc20.totalSupply s.erc20 < Tx.uint256 := by
  obtain ⟨s₀, s, hnew, hrun⟩ := plainScript_run
  exact ⟨s₀, s, hrun, supply_accounted plainErc20_lawful listSet_lawful plain_unused hnew hrun⟩

/-! ## The minters -/

/-- The transaction makes `a` a minter, with the approval of the wallet. -/
def Appoints (multiSign a : Address) (e : Msg × Call) : Prop :=
  e.2 = .addMinter a ∧ e.1.Approved multiSign

/-- The transaction takes the role from `a`. -/
def Dismisses (a : Address) (e : Msg × Call) : Prop := e.2 = .delMinter a

/-- The transaction changes the supply. -/
def Call.issues : Call → Bool
  | .mint .. | .burn .. => true
  | _ => false

theorem Effect.minters {multiSign a : Address} {e : Msg × Call} {r r' : Register}
    (h : Effect multiSign e.1 r e.2 r') :
    a ∈ r'.minters ↔ Appoints multiSign a e ∨ a ∈ r.minters ∧ ¬ Dismisses a e := by
  obtain ⟨msg, c⟩ := e
  unfold Appoints Dismisses
  cases h with
  | @addMinter minter happroved =>
      show a = minter ∨ a ∈ r.minters ↔ _
      simp only [Call.addMinter.injEq, happroved, and_true, reduceCtorEq, not_false_eq_true, eq_comm]
  | @delMinter minter =>
      show a ∈ r.minters ∧ a ≠ minter ↔ _
      simp only [reduceCtorEq, false_and, false_or, Call.delMinter.injEq, ne_eq, eq_comm]
  | _ => simp

/-- Who mints or burns is a minter. -/
theorem Step.issuer {msg : Msg} {c : Call} (h : Step E A s (msg, c) s') (hissues : c.issues = true) :
    msg.sender ∈ (s.register E A).minters := by
  obtain ⟨b, hrun⟩ := h
  cases c with
  | mint recipient amount => exact (issue_ok.mp hrun).1
  | burn source amount => exact (issue_ok.mp hrun).1
  | _ => cases hissues

/-- What a transaction does to the set of the minters. -/
theorem Step.minters (hA : A.Lawful) {msg : Msg} {c : Call} (h : Step E A s (msg, c) s') (a : Address) :
    A.contains s'.minters a = true ↔
      c = .addMinter a ∨ A.contains s.minters a = true ∧ c ≠ .delMinter a := by
  obtain ⟨b, hrun⟩ := h
  cases c with
  | addMinter minter =>
      obtain ⟨-, -, -, rfl⟩ := addMinter_ok.mp hrun
      rw [hA.add, Call.addMinter.injEq, @eq_comm _ a]
      simp
  | delMinter minter =>
      obtain ⟨-, -, -, rfl⟩ := delMinter_ok.mp hrun
      rw [hA.remove, @ne_comm _ a]
      simp
  | mint | burn =>
      obtain ⟨-, -, _, -, rfl⟩ := (issue_ok (E := E)).mp hrun
      simp
  | transfer | transferFrom | approve =>
      obtain ⟨_, -, rfl⟩ := onErc20_ok.mp hrun
      simp

/-- Whoever is a minter after a run was appointed and not dismissed since. -/
theorem run_minters (hE : E.Lawful) (hA : A.Lawful) {erc20 : σ} {minters : τ} {multiSign : Address}
    (hunused : Unused E A erc20 minters) (hnew : constructor erc20 minters multiSign = .ok s₀)
    (hrun : Run (Step E A) s₀ es s) (a : Address) :
    a ∈ (s.register E A).minters ↔ InForce (Appoints multiSign a) (Dismisses a) es := by
  refine (run_effects hE hA hunused hnew hrun).inForce
    (P := fun s => a ∈ (s.register E A).minters) ?_ fun hs => hs.effect.minters
  obtain ⟨-, rfl⟩ := constructor_sound hunused hnew
  intro hmem
  have hcontains : A.contains minters a = true := hmem
  rw [hunused.minters a] at hcontains
  cases hcontains

/-- **Nobody mints or burns without an approved `addMinter`.** Whoever does, at any point of a run
from the constructor, was appointed before and not dismissed in between. -/
theorem issued_by_minters (hE : E.Lawful) (hA : A.Lawful) {erc20 : σ} {minters : τ}
    {multiSign : Address} (hunused : Unused E A erc20 minters)
    (hnew : constructor erc20 minters multiSign = .ok s₀) {es₁ es₂ : List (Msg × Call)} {msg : Msg}
    {c : Call} (hrun : Run (Step E A) s₀ (es₁ ++ (msg, c) :: es₂) s) (hissues : c.issues = true) :
    InForce (Appoints multiSign msg.sender) (Dismisses msg.sender) es₁ := by
  obtain ⟨s₁, hbefore, hrest⟩ := hrun.split
  rw [← run_minters hE hA hunused hnew hbefore]
  obtain ⟨s₂, hstep, -⟩ := hrest.uncons
  exact hstep.issuer hissues

theorem issued_by_minters_plain :
    InForce (Appoints 50 100) (Dismisses 100)
      [(plainMsg 1, .addMinter 100), (plainMsg 100, .mint 7 50), (plainMsg 7, .transfer 8 20)] := by
  obtain ⟨s₀, s, hnew, hrun⟩ := plainScript_run
  have hsplit : Run (Step plainErc20 listSet) s₀ ([(plainMsg 1, .addMinter 100),
      (plainMsg 100, .mint 7 50), (plainMsg 7, .transfer 8 20)] ++ (plainMsg 100, .burn 8 20) :: [])
      s := hrun
  exact issued_by_minters plainErc20_lawful listSet_lawful plain_unused hnew hsplit rfl

/-- **The list of the minters is right.** After every run from the constructor `getMinter` answers
below `getMinterLength`, and what it answers are the accounts that were appointed and not dismissed
since, each of them at one index. -/
theorem minters_listed (hE : E.Lawful) (hA : A.Lawful) {erc20 : σ} {minters : τ}
    {multiSign : Address} (hunused : Unused E A erc20 minters)
    (hnew : constructor erc20 minters multiSign = .ok s₀) (hrun : Run (Step E A) s₀ es s) :
    (∀ i, i < s.getMinterLength A ↔ ∃ a, s.getMinter A i = .ok a) ∧
      ∀ a, (s.isMinter A a = true ↔ InForce (Appoints multiSign a) (Dismisses a) es) ∧
        (s.isMinter A a = true ↔ ∃! i, s.getMinter A i = .ok a) := by
  obtain ⟨list, hnodup, hmem, hlength, hentry⟩ := hA.entries s.minters
  -- `getMinter` reads the list that stands behind the set
  have hget (i : Nat) (a : Address) : s.getMinter A i = .ok a ↔ list[i]? = some a := by
    unfold DebtToken.getMinter
    split
    · next hi =>
        rw [hlength] at hi
        rw [hentry i _ (List.getElem?_eq_getElem hi), List.getElem?_eq_getElem hi]
        simp only [Except.ok.injEq, Option.some.injEq]
    · next hi =>
        rw [hlength, not_lt] at hi
        rw [List.getElem?_eq_none hi]
        simp only [reduceCtorEq]
  refine ⟨?_, ?_⟩
  · intro i
    rw [DebtToken.getMinterLength, hlength]
    simp only [hget, List.getElem?_eq_some_iff]
    constructor
    · intro hi
      exact ⟨list[i], hi, rfl⟩
    · rintro ⟨a, hi, -⟩
      exact hi
  · intro a
    refine ⟨run_minters hE hA hunused hnew hrun a, ?_⟩
    simp only [hget]
    show A.contains s.minters a = true ↔ _
    rw [hmem, List.mem_iff_getElem?]
    constructor
    · rintro ⟨i, hi⟩
      refine ⟨i, hi, ?_⟩
      intro j hj
      -- the list has nobody twice, so there is one index
      exact (List.getElem?_inj (List.getElem?_eq_some_iff.mp hj).1 hnodup).mp (hj.trans hi.symm)
    · rintro ⟨i, hi, -⟩
      exact ⟨i, hi⟩

theorem minters_listed_plain : ∃ s₀ s, Run (Step plainErc20 listSet) s₀ plainScript s ∧
    (∀ i, i < s.getMinterLength listSet ↔ ∃ a, s.getMinter listSet i = .ok a) ∧
      ∀ a, (s.isMinter listSet a = true ↔ InForce (Appoints 50 a) (Dismisses a) plainScript) ∧
        (s.isMinter listSet a = true ↔ ∃! i, s.getMinter listSet i = .ok a) := by
  obtain ⟨s₀, s, hnew, hrun⟩ := plainScript_run
  exact ⟨s₀, s, hrun, minters_listed plainErc20_lawful listSet_lawful plain_unused hnew hrun⟩

end Runs

end Pledge.Token
