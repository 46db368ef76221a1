import Mathlib.Logic.Function.Basic
import Pledge.Evm.Ledger
import Pledge.Evm.Run
import Pledge.Evm.Tx
import Pledge.MultiSig.AddressArray

/-!
# `MultiSigWallet` and `MultiSigClient`

The wallet of `multiSignatureV2`, statement by statement, and the check that its clients make. An
application is found by a hash of its applicant and of the contract it is for; `keccak` stands for
`keccak256(abi.encodePacked(from, to))` and is a parameter. Signatures always go to the first
application of a hash, at `DEFAULT_INDEX`.

`effect_iff` says once what a successful transaction does; the proofs about the wallet start there.
-/

namespace Pledge.MultiSig

open Pledge.Evm

def DEFAULT_INDEX : Nat := 0

/-- `struct SignatureInfo`. -/
structure SignatureInfo where
  applicant : Address
  signatures : List Address
  deriving Repr, DecidableEq

/-- The state of `MultiSigWallet`. -/
structure Wallet where
  signatureOwners : List Address := []
  threshold : Nat := 0
  signatureMap : Nat → List SignatureInfo := fun _ => []

/-- The wallet with the applications of `msgHash` replaced. -/
def Wallet.setInfos (w : Wallet) (msgHash : Nat) (infos : List SignatureInfo) : Wallet :=
  { w with signatureMap := Function.update w.signatureMap msgHash infos }

@[simp] theorem Wallet.setInfos_owners (w : Wallet) (msgHash : Nat) (infos : List SignatureInfo) :
    (w.setInfos msgHash infos).signatureOwners = w.signatureOwners := rfl

@[simp] theorem Wallet.setInfos_threshold (w : Wallet) (msgHash : Nat) (infos : List SignatureInfo) :
    (w.setInfos msgHash infos).threshold = w.threshold := rfl

@[simp] theorem Wallet.setInfos_map (w : Wallet) (msgHash h : Nat) (infos : List SignatureInfo) :
    (w.setInfos msgHash infos).signatureMap h =
      if h = msgHash then infos else w.signatureMap h := Function.update_apply ..

/-! ## Construction

The owners are checked one by one against the zero address and against those that follow. -/

/-- One round of the outer loop of the constructor for each owner; the inner loop compares it with
the owners after it. -/
def checkOwners : List Address → Tx Wallet Unit
  | [] => pure ()
  | owner :: rest => do
    Tx.require (owner ≠ 0) "MultiSigWallet: invalid owner"
    Tx.fold (fun _ other => Tx.require (owner ≠ other) "MultiSigWallet: duplicate owner") () rest
    checkOwners rest

def constructor (owners : List Address) (limitedSignNum : Nat) : Tx Wallet Unit := do
  Tx.require (0 < owners.length) "MultiSigWallet: owners required"
  Tx.require (0 < limitedSignNum ∧ limitedSignNum ≤ owners.length) "MultiSigWallet: invalid threshold"
  checkOwners owners
  Tx.modifies fun w => { w with signatureOwners := owners, threshold := limitedSignNum }

/-! ## Modifiers

In the order of the source. -/

def onlyOwner (sender : Address) : Tx Wallet Unit := do
  let signatureOwners ← Tx.reads Wallet.signatureOwners
  Tx.require (contains signatureOwners sender = true) "MultiSigWallet: caller is not owner"

def validIndex (msgHash index : Nat) : Tx Wallet Unit := do
  let infos ← Tx.reads fun w : Wallet => w.signatureMap msgHash
  Tx.require (index < infos.length) "MultiSigWallet: index overflow"

/-! ## Transactions

Applications of one hash are kept in a list, and signatures go to the first of them. -/

def transferOwner (sender : Address) (index : Nat) (newOwner : Address) : Tx Wallet Unit := do
  onlyOwner sender
  let signatureOwners ← Tx.reads Wallet.signatureOwners
  Tx.require (index < signatureOwners.length) "MultiSigWallet: index overflow"
  Tx.modifies fun w => { w with signatureOwners := w.signatureOwners.set index newOwner }

/-- `createApplication`, returning the index of the new application. -/
def createApplication (keccak : Address → Address → Nat) (sender recipient : Address) :
    Tx Wallet Nat := do
  let msgHash := keccak sender recipient
  let infos ← Tx.reads fun w : Wallet => w.signatureMap msgHash
  let index := infos.length
  Tx.modifies fun w => w.setInfos msgHash (w.signatureMap msgHash ++ [⟨sender, []⟩])
  pure index

/-- Overwrite the signatures of an application. -/
def setSignatures (msgHash index : Nat) (info : SignatureInfo) (signatures : List Address) :
    Tx Wallet Unit :=
  Tx.modifies fun w : Wallet =>
    w.setInfos msgHash ((w.signatureMap msgHash).set index { info with signatures := signatures })

def signApplication (sender : Address) (msgHash : Nat) : Tx Wallet Unit := do
  onlyOwner sender
  validIndex msgHash DEFAULT_INDEX
  let infos ← Tx.reads fun w : Wallet => w.signatureMap msgHash
  let info ← Tx.index infos DEFAULT_INDEX
  Tx.require (contains info.signatures sender = false) "MultiSigWallet: already signed"
  setSignatures msgHash DEFAULT_INDEX info (info.signatures ++ [sender])

def revokeSignApplication (sender : Address) (msgHash : Nat) : Tx Wallet Unit := do
  onlyOwner sender
  validIndex msgHash DEFAULT_INDEX
  let infos ← Tx.reads fun w : Wallet => w.signatureMap msgHash
  let info ← Tx.index infos DEFAULT_INDEX
  Tx.require (contains info.signatures sender = true) "MultiSigWallet: not signed yet"
  let (signatures, removed) := removeAddress info.signatures sender
  setSignatures msgHash DEFAULT_INDEX info signatures
  Tx.require (removed = true) "MultiSigWallet: revoke failed"

/-! ## Queries

The verifier goes through the applications and answers with the number of the first that has enough
signatures. -/

/-- The loop of `getValidSignature` from index `i` on. -/
def firstValid (threshold : Nat) : Nat → List SignatureInfo → Nat
  | _, [] => 0
  | i, info :: rest =>
      if threshold ≤ info.signatures.length then i + 1 else firstValid threshold (i + 1) rest

def Wallet.getValidSignature (w : Wallet) (msgHash lastIndex : Nat) : Nat :=
  let infos := w.signatureMap msgHash
  if infos.length = 0 ∨ infos.length ≤ lastIndex then 0
  else firstValid w.threshold lastIndex (infos.drop lastIndex)

/-- `checkMultiSignature` of the client `this`, called by `sender`. -/
def checkMultiSignature (keccak : Address → Address → Nat) (sender this : Address) :
    Tx Wallet Unit := do
  let msgHash := keccak sender this
  let newIndex ← Tx.reads fun w : Wallet => w.getValidSignature msgHash DEFAULT_INDEX
  Tx.require (DEFAULT_INDEX < newIndex)
    "MultiSigClient: Transaction not approved by multi-signature"

/-! ## Runs

One effect for each function, and the lemma that a step has one. -/

/-- The transactions of the wallet. -/
inductive Call where
  | createApplication (recipient : Address)
  | signApplication (msgHash : Nat)
  | revokeSignApplication (msgHash : Nat)
  | transferOwner (index : Nat) (newOwner : Address)
  deriving Repr, DecidableEq

def Call.body (keccak : Address → Address → Nat) (sender : Address) : Call → Tx Wallet Unit
  | .createApplication recipient => do
    let _ ← MultiSig.createApplication keccak sender recipient
    pure ()
  | .signApplication msgHash => MultiSig.signApplication sender msgHash
  | .revokeSignApplication msgHash => MultiSig.revokeSignApplication sender msgHash
  | .transferOwner index newOwner => MultiSig.transferOwner sender index newOwner

/-- One successful transaction of an account. -/
def Step (keccak : Address → Address → Nat) (w : Wallet) (e : Address × Call) (w' : Wallet) : Prop :=
  (e.2.body keccak e.1).run w = .ok ((), w')

/-- What a transaction of `sender` does to the wallet, with the guards it passed. -/
inductive Effect (keccak : Address → Address → Nat) (w : Wallet) (sender : Address) :
    Call → Wallet → Prop
  | createApplication {recipient : Address} :
      Effect keccak w sender (.createApplication recipient)
        (w.setInfos (keccak sender recipient)
          (w.signatureMap (keccak sender recipient) ++ [⟨sender, []⟩]))
  | signApplication {msgHash : Nat} {info : SignatureInfo} {rest : List SignatureInfo}
      (howner : sender ∈ w.signatureOwners) (hinfos : w.signatureMap msgHash = info :: rest)
      (hnew : sender ∉ info.signatures) :
      Effect keccak w sender (.signApplication msgHash)
        (w.setInfos msgHash ({ info with signatures := info.signatures ++ [sender] } :: rest))
  | revokeSignApplication {msgHash : Nat} {info : SignatureInfo} {rest : List SignatureInfo}
      (howner : sender ∈ w.signatureOwners) (hinfos : w.signatureMap msgHash = info :: rest)
      (hsigned : sender ∈ info.signatures) :
      Effect keccak w sender (.revokeSignApplication msgHash)
        (w.setInfos msgHash
          ({ info with signatures := (removeAddress info.signatures sender).1 } :: rest))
  | transferOwner {index : Nat} {newOwner : Address} (howner : sender ∈ w.signatureOwners)
      (hindex : index < w.signatureOwners.length) :
      Effect keccak w sender (.transferOwner index newOwner)
        { w with signatureOwners := w.signatureOwners.set index newOwner }

section Rules

variable {keccak : Address → Address → Nat} {w w' : Wallet} {sender : Address}

theorem onlyOwner_ok {u : Unit} :
    (onlyOwner sender).run w = .ok (u, w') ↔ sender ∈ w.signatureOwners ∧ w' = w := by
  simp only [onlyOwner, Tx.rules, contains_iff, and_assoc, exists_and_left, exists_eq_left]

theorem validIndex_ok {msgHash index : Nat} {u : Unit} :
    (validIndex msgHash index).run w = .ok (u, w') ↔
      index < (w.signatureMap msgHash).length ∧ w' = w := by
  simp only [validIndex, Tx.rules, and_assoc, exists_and_left, exists_eq_left]

theorem setSignatures_ok {msgHash : Nat} {info : SignatureInfo} {rest : List SignatureInfo}
    {signatures : List Address} {u : Unit} (hinfos : w.signatureMap msgHash = info :: rest) :
    (setSignatures msgHash DEFAULT_INDEX info signatures).run w = .ok (u, w') ↔
      w' = w.setInfos msgHash ({ info with signatures := signatures } :: rest) := by
  simp only [setSignatures, Tx.rules, hinfos, DEFAULT_INDEX, List.set_cons_zero]

/-- The first application of a hash is there. -/
theorem firstInfo_ok {msgHash : Nat} {P : SignatureInfo → Prop} :
    (DEFAULT_INDEX < (w.signatureMap msgHash).length ∧
        ∃ info, (w.signatureMap msgHash)[DEFAULT_INDEX]? = some info ∧ P info) ↔
      ∃ info rest, w.signatureMap msgHash = info :: rest ∧ P info := by
  cases w.signatureMap msgHash with
  | nil => simp
  | cons head rest => simp [DEFAULT_INDEX]

/-- **What a transaction does.** -/
theorem effect_iff {c : Call} : Step keccak w (sender, c) w' ↔ Effect keccak w sender c w' := by
  cases c with
  | createApplication recipient =>
      simp only [Step, Call.body, createApplication, Tx.rules, and_assoc, exists_and_left,
        exists_eq_left, exists_const, true_and]
      constructor
      · rintro rfl
        exact .createApplication
      · rintro ⟨⟩
        rfl
  | signApplication msgHash =>
      simp only [Step, Call.body, signApplication, onlyOwner_ok, validIndex_ok, contains_eq_false,
        Tx.rules, and_assoc, exists_and_left, exists_eq_left, exists_const, firstInfo_ok]
      constructor
      · rintro ⟨howner, info, rest, hinfos, hnew, hset⟩
        rw [setSignatures_ok hinfos] at hset
        subst hset
        exact .signApplication howner hinfos hnew
      · rintro (_ | ⟨howner, hinfos, hnew⟩)
        exact ⟨howner, _, _, hinfos, hnew, (setSignatures_ok hinfos).mpr rfl⟩
  | revokeSignApplication msgHash =>
      simp only [Step, Call.body, revokeSignApplication, onlyOwner_ok, validIndex_ok, contains_iff,
        Tx.rules, and_assoc, exists_and_left, exists_eq_left, exists_const, firstInfo_ok,
        removeAddress_found]
      constructor
      · rintro ⟨howner, info, rest, hinfos, hsigned, hset⟩
        -- the last check never fails: a signature that was found was removed
        obtain ⟨_, w₁, hset, -, rfl⟩ := hset
        rw [setSignatures_ok hinfos] at hset
        subst hset
        exact .revokeSignApplication howner hinfos hsigned
      · rintro (_ | _ | ⟨howner, hinfos, hsigned⟩)
        exact ⟨howner, _, _, hinfos, hsigned, (), _, (setSignatures_ok hinfos).mpr rfl, hsigned, rfl⟩
  | transferOwner index newOwner =>
      simp only [Step, Call.body, transferOwner, onlyOwner_ok, Tx.rules, and_assoc,
        exists_and_left, exists_eq_left, exists_const]
      constructor
      · rintro ⟨howner, hindex, rfl⟩
        exact .transferOwner howner hindex
      · rintro (_ | _ | _ | ⟨howner, hindex⟩)
        exact ⟨howner, hindex, rfl⟩

/-- The inner loop of the constructor. -/
theorem checkDistinct_ok {owner : Address} {rest : List Address} {u : Unit} :
    (Tx.fold (fun _ other => Tx.require (owner ≠ other) "MultiSigWallet: duplicate owner") ()
        rest).run w = .ok (u, w') ↔ owner ∉ rest ∧ w' = w := by
  induction rest with
  | nil => simp [Tx.fold_nil_ok]
  | cons other rest ih =>
      simp only [Tx.fold_cons_ok, Tx.require_ok, and_assoc, exists_and_left, exists_eq_left,
        exists_const, ih, List.mem_cons, not_or]

/-- The outer loop: the owners are distinct and none is the zero address. -/
theorem checkOwners_ok {owners : List Address} {u : Unit} :
    (checkOwners owners).run w = .ok (u, w') ↔ owners.Nodup ∧ 0 ∉ owners ∧ w' = w := by
  induction owners with
  | nil => simp [checkOwners, Tx.pure_ok]
  | cons owner rest ih =>
      simp only [checkOwners, Tx.rules, checkDistinct_ok, ih, and_assoc, exists_and_left,
        exists_eq_left, exists_const, List.nodup_cons, List.mem_cons, not_or]
      constructor
      · rintro ⟨hne, hnew, hrest, hzero, hw⟩
        exact ⟨hnew, hrest, Ne.symm hne, hzero, hw⟩
      · rintro ⟨hnew, hrest, hne, hzero, hw⟩
        exact ⟨Ne.symm hne, hnew, hrest, hzero, hw⟩

/-- **The wallets the constructor accepts.** -/
theorem constructor_ok {owners : List Address} {limitedSignNum : Nat} {u : Unit} :
    (constructor owners limitedSignNum).run w = .ok (u, w') ↔
      0 < limitedSignNum ∧ limitedSignNum ≤ owners.length ∧ owners.Nodup ∧ 0 ∉ owners ∧
        w' = { w with signatureOwners := owners, threshold := limitedSignNum } := by
  simp only [constructor, Tx.rules, checkOwners_ok, and_assoc, exists_and_left, exists_eq_left,
    exists_const]
  constructor
  · rintro ⟨-, h⟩
    exact h
  · intro h
    exact ⟨h.1.trans_le h.2.1, h⟩

end Rules

/-! ## What the verifier finds

It answers zero when no application has enough signatures. -/

/-- The loop finds nothing exactly when no application has enough signatures. -/
theorem firstValid_eq_zero {threshold i : Nat} {infos : List SignatureInfo} :
    firstValid threshold i infos = 0 ↔
      ∀ info ∈ infos, info.signatures.length < threshold := by
  induction infos generalizing i with
  | nil => simp [firstValid]
  | cons info rest ih =>
      rw [firstValid, List.forall_mem_cons]
      split
      · next hvalid =>
          constructor
          · intro h
            cases h
          · rintro ⟨hlt, -⟩
            exact absurd hvalid (Nat.not_le.mpr hlt)
      · next hinvalid =>
          rw [ih]
          constructor
          · intro h
            exact ⟨Nat.not_le.mp hinvalid, h⟩
          · intro h
            exact h.2

theorem getValidSignature_eq_zero {w : Wallet} {msgHash : Nat} :
    w.getValidSignature msgHash DEFAULT_INDEX = 0 ↔
      ∀ info ∈ w.signatureMap msgHash, info.signatures.length < w.threshold := by
  show (if _ ∨ _ then 0 else firstValid w.threshold 0 ((w.signatureMap msgHash).drop 0)) = 0 ↔ _
  split
  · next h =>
      have hnil : w.signatureMap msgHash = [] :=
        List.eq_nil_of_length_eq_zero (h.elim id Nat.le_zero.mp)
      simp [hnil]
  · rw [List.drop_zero]
    exact firstValid_eq_zero

/-- A client lets a call through exactly when the verifier finds something. -/
theorem checkMultiSignature_ok {keccak : Address → Address → Nat} {w w' : Wallet}
    {sender this : Address} {u : Unit} :
    (checkMultiSignature keccak sender this).run w = .ok (u, w') ↔
      0 < w.getValidSignature (keccak sender this) DEFAULT_INDEX ∧ w' = w := by
  simp only [checkMultiSignature, Tx.rules, and_assoc, exists_and_left, exists_eq_left]
  rfl

/-! ## Playing a sequence of transactions

For witnesses, as for the pool. -/

/-- The transaction succeeds. -/
def Wallet.succeeds (keccak : Address → Address → Nat) (w : Wallet) (e : Address × Call) : Bool :=
  ((e.2.body keccak e.1).run w).isOk

/-- The wallet after a transaction, which is the same wallet when it reverts. -/
def Wallet.next (keccak : Address → Address → Nat) (w : Wallet) (e : Address × Call) : Wallet :=
  match (e.2.body keccak e.1).run w with
  | .ok (_, w') => w'
  | .error _ => w

theorem next_step {keccak : Address → Address → Nat} {w : Wallet} {e : Address × Call}
    (h : w.succeeds keccak e = true) : Step keccak w e (w.next keccak e) := by
  unfold Wallet.succeeds at h
  unfold Step Wallet.next
  cases hrun : (e.2.body keccak e.1).run w with
  | error e => rw [hrun] at h; cases h
  | ok r => rfl

/-- The wallet after a sequence of transactions. -/
def Wallet.play (keccak : Address → Address → Nat) : Wallet → List (Address × Call) → Wallet
  | w, [] => w
  | w, e :: es => (w.next keccak e).play keccak es

/-- Every transaction of the sequence succeeds. -/
def Wallet.plays (keccak : Address → Address → Nat) : Wallet → List (Address × Call) → Bool
  | _, [] => true
  | w, e :: es => w.succeeds keccak e && (w.next keccak e).plays keccak es

/-- A sequence that plays is a run. -/
theorem play_run {keccak : Address → Address → Nat} {w : Wallet} {es : List (Address × Call)}
    (h : w.plays keccak es = true) :
    Run (Restrict (Step keccak) fun _ e _ => e ∈ es) w es (w.play keccak es) := by
  -- the transactions that may occur stay the same while the sequence gets shorter
  suffices hsub : ∀ es' : List (Address × Call), es ⊆ es' →
      Run (Restrict (Step keccak) fun _ e _ => e ∈ es') w es (w.play keccak es) from
    hsub es (List.Subset.refl es)
  intro es' hes
  induction es generalizing w with
  | nil => exact .start
  | cons e es ih =>
      simp only [Wallet.plays, Bool.and_eq_true] at h
      rw [List.cons_subset] at hes
      have hfirst : Restrict (Step keccak) (fun _ e _ => e ∈ es') w e (w.next keccak e) :=
        ⟨next_step h.1, hes.1⟩
      exact (Run.start.step hfirst).append (ih h.2 hes.2)

end Pledge.MultiSig
