import Mathlib.Data.Set.Card
import Pledge.MultiSig.Wallet

/-!
# How many accounts it takes to approve a call

A coalition `K` of accounts that holds fewer than `threshold` of the seats the constructor filled
should not get a call approved. It does not when it holds no seat at all, since then nothing is ever
signed; and it does not when it has fewer than `threshold` members, since an account signs an
application once. In every other case it does: a member with a seat hands another seat to each of the
others in turn, and each of them signs (`exists_recruit`). `threshold_secure` puts this together.
-/

namespace Pledge.MultiSig

open Pledge.Evm

section Coalition

variable {keccak : Address → Address → Nat} {K : Set Address} {w w' : Wallet} {sender : Address}
  {es : List (Address × Call)}

/-- The transactions of members of `K`. -/
abbrev MemberStep (keccak : Address → Address → Nat) (K : Set Address) :
    Wallet → Address × Call → Wallet → Prop :=
  Restrict (Step keccak) fun _ e _ => e.1 ∈ K

/-- No hash has a valid signature, and every client turns everybody away. -/
def Wallet.Locked (keccak : Address → Address → Nat) (w : Wallet) : Prop :=
  (∀ msgHash, w.getValidSignature msgHash DEFAULT_INDEX = 0) ∧
    ∀ sender this, ¬ ∃ w', (checkMultiSignature keccak sender this).run w = .ok ((), w')

theorem Wallet.locked_iff :
    w.Locked keccak ↔ ∀ msgHash, w.getValidSignature msgHash DEFAULT_INDEX = 0 := by
  constructor
  · intro h
    exact h.1
  · intro h
    refine ⟨h, ?_⟩
    rintro sender this ⟨w', hcheck⟩
    rw [checkMultiSignature_ok, h] at hcheck
    exact absurd hcheck.1 (Nat.lt_irrefl 0)

/-! ## What holds of every list of signatures

A property of the signers that new signers have is one of every list, since nothing else enters one.
-/

/-- Every list of signatures in the wallet satisfies `P`. -/
def Wallet.EveryList (P : List Address → Prop) (w : Wallet) : Prop :=
  ∀ msgHash, ∀ info ∈ w.signatureMap msgHash, P info.signatures

/-- Replacing the applications of a hash. -/
theorem Wallet.EveryList.setInfos {P : List Address → Prop} (hw : w.EveryList P) {msgHash : Nat}
    {infos : List SignatureInfo} (hinfos : ∀ info ∈ infos, P info.signatures) :
    (w.setInfos msgHash infos).EveryList P := by
  intro h info hmem
  rw [setInfos_map] at hmem
  split at hmem
  · exact hinfos info hmem
  · exact hw h info hmem

/-- **The rule for lists of signatures**: what holds of the empty list and is kept when an owner signs
or revokes holds of all of them. -/
theorem Effect.everyList {P : List Address → Prop} {c : Call} (h : Effect keccak w sender c w')
    (hnil : P [])
    (hsign : ∀ l, P l → sender ∈ w.signatureOwners → sender ∉ l → P (l ++ [sender]))
    (hrevoke : ∀ l, P l → sender ∈ w.signatureOwners → sender ∈ l → P (removeAddress l sender).1)
    (hw : w.EveryList P) : w'.EveryList P := by
  cases h with
  | createApplication =>
      apply hw.setInfos
      intro info hmem
      rcases List.mem_append.mp hmem with hold | hnew
      · exact hw _ info hold
      · rw [List.mem_singleton.mp hnew]
        exact hnil
  | @signApplication msgHash info rest howner hinfos hnew =>
      apply hw.setInfos
      have hall := hw msgHash
      rw [hinfos, List.forall_mem_cons] at hall
      rw [List.forall_mem_cons]
      exact ⟨hsign _ hall.1 howner hnew, hall.2⟩
  | @revokeSignApplication msgHash info rest howner hinfos hsigned =>
      apply hw.setInfos
      have hall := hw msgHash
      rw [hinfos, List.forall_mem_cons] at hall
      rw [List.forall_mem_cons]
      exact ⟨hrevoke _ hall.1 howner hsigned, hall.2⟩
  | transferOwner => exact hw

theorem Effect.threshold {c : Call} (h : Effect keccak w sender c w') :
    w'.threshold = w.threshold := by
  cases h <;> rfl

/-- The lists are without duplicates and only members sign. -/
def Members (K : Set Address) (l : List Address) : Prop := l.Nodup ∧ ∀ a ∈ l, a ∈ K

theorem Members.length_le {l : List Address} (h : Members K l) : (l.length : ℕ∞) ≤ K.encard := by
  have hsub : (l.toFinset : Set Address) ⊆ K := by
    intro a ha
    exact h.2 a (List.mem_toFinset.mp ha)
  calc (l.length : ℕ∞) = l.toFinset.card := by rw [List.toFinset_card_of_nodup h.1]
    _ = (l.toFinset : Set Address).encard := (Set.encard_coe_eq_coe_finsetCard _).symm
    _ ≤ K.encard := Set.encard_le_encard hsub

theorem MemberStep.members {e : Address × Call} (h : MemberStep keccak K w e w')
    (hw : w.EveryList (Members K)) : w'.EveryList (Members K) := by
  obtain ⟨sender, c⟩ := e
  refine (effect_iff.mp h.1).everyList ⟨List.nodup_nil, by simp⟩ ?_ ?_ hw
  · intro l hl _ hnew
    refine ⟨List.concat_eq_append ▸ hl.1.concat hnew, ?_⟩
    intro a ha
    rcases List.mem_append.mp ha with hold | hlast
    · exact hl.2 a hold
    · rw [List.mem_singleton.mp hlast]
      exact h.2
  · -- removal shuffles the rest, which stays duplicate-free and within `K`
    intro l hl _ hsigned
    have hperm := removeAddress_perm hsigned
    refine ⟨hperm.nodup_iff.mpr (hl.1.erase sender), ?_⟩
    intro a ha
    exact hl.2 a (List.mem_of_mem_erase (hperm.mem_iff.mp ha))

/-! ## Handing out a seat

An owner can give its seat to any account, which can sign and give it on. One owner and enough
accounts make any number of signatures. -/

/-- **Recruiting.** A member with one seat hands another seat to each of `recruits` in turn, and each
of them signs. -/
theorem exists_recruit {k : Address} {i j msgHash : Nat} {info : SignatureInfo}
    {rest : List SignatureInfo} {recruits : List Address} (hk : k ∈ K)
    (hseat : w.signatureOwners[i]? = some k) (hj : j < w.signatureOwners.length) (hij : j ≠ i)
    (hinfos : w.signatureMap msgHash = info :: rest) (hdistinct : recruits.Nodup)
    (hmember : ∀ a ∈ recruits, a ∈ K) (hnew : ∀ a ∈ recruits, a ∉ info.signatures) :
    ∃ es w', Run (MemberStep keccak K) w es w' ∧ w'.threshold = w.threshold ∧
      w'.signatureMap msgHash = { info with signatures := info.signatures ++ recruits } :: rest := by
  -- on the accounts still to be recruited; the wallet and the application change with each
  induction recruits generalizing w info with
  | nil =>
      refine ⟨[], w, .start, rfl, ?_⟩
      rw [List.append_nil]
      exact hinfos
  | cons a recruits ih =>
      rw [List.nodup_cons] at hdistinct
      rw [List.forall_mem_cons] at hmember hnew
      have howner : k ∈ w.signatureOwners := List.mem_of_getElem? hseat
      -- the seat changes hands, then its new holder signs
      let w₁ : Wallet := { w with signatureOwners := w.signatureOwners.set j a }
      let w₂ : Wallet :=
        w₁.setInfos msgHash ({ info with signatures := info.signatures ++ [a] } :: rest)
      have hhand : MemberStep keccak K w (k, .transferOwner j a) w₁ :=
        ⟨effect_iff.mpr (.transferOwner howner hj), hk⟩
      have hsign : MemberStep keccak K w₁ (a, .signApplication msgHash) w₂ :=
        ⟨effect_iff.mpr (.signApplication (List.mem_set hj a) hinfos hnew.1), hmember.1⟩
      have hseat₂ : w₂.signatureOwners[i]? = some k := by
        show (w.signatureOwners.set j a)[i]? = some k
        rw [List.getElem?_set_ne hij]
        exact hseat
      have hj₂ : j < w₂.signatureOwners.length := by
        show j < (w.signatureOwners.set j a).length
        rw [List.length_set]
        exact hj
      have hnew₂ : ∀ b ∈ recruits, b ∉ info.signatures ++ [a] := by
        intro b hb hmem
        rcases List.mem_append.mp hmem with hold | hlast
        · exact hnew.2 b hb hold
        · rw [List.mem_singleton.mp hlast] at hb
          exact hdistinct.1 hb
      have hinfos₂ : w₂.signatureMap msgHash =
          { info with signatures := info.signatures ++ [a] } :: rest := by simp [w₂]
      obtain ⟨es, w', hrun, hthreshold, hmap⟩ :=
        ih hseat₂ hj₂ hinfos₂ hdistinct.2 hmember.2 hnew₂
      refine ⟨_, w', ((Run.start.step hhand).step hsign).append hrun, hthreshold, ?_⟩
      rw [hmap]
      simp

/-- Members beside `k`, as many as are missing to `t`. -/
theorem exists_recruits {k : Address} {t : Nat} (hk : k ∈ K) (ht : 0 < t) (hmany : (t : ℕ∞) ≤ K.encard) :
    ∃ recruits : List Address, recruits.Nodup ∧ k ∉ recruits ∧ (∀ a ∈ recruits, a ∈ K) ∧
      recruits.length + 1 = t := by
  have hone : ({k} : Set Address).encard ≤ t := by
    rw [Set.encard_singleton]
    exact_mod_cast ht
  obtain ⟨S, hkS, hSK, hcard⟩ :=
    Set.exists_superset_subset_encard_eq (Set.singleton_subset_iff.mpr hk) hone hmany
  have hfinite : S.Finite := Set.finite_of_encard_eq_coe hcard
  have hmem : k ∈ hfinite.toFinset := hfinite.mem_toFinset.mpr (Set.singleton_subset_iff.mp hkS)
  have hcard' : hfinite.toFinset.card = t := by
    rw [hfinite.encard_eq_coe_toFinset_card] at hcard
    exact_mod_cast hcard
  refine ⟨(hfinite.toFinset.erase k).toList, Finset.nodup_toList _, ?_, ?_, ?_⟩
  · rw [Finset.mem_toList]
    exact Finset.notMem_erase k _
  · intro a ha
    rw [Finset.mem_toList] at ha
    exact hSK (hfinite.mem_toFinset.mp (Finset.mem_of_mem_erase ha))
  · rw [Finset.length_toList, Finset.card_erase_add_one hmem, hcard']

variable (keccak) in
/-- **Takeover.** A member with a seat in a wallet with another seat gets its calls to any client
approved, if the coalition has `threshold` members. -/
theorem exists_approval (this : Address) {k : Address} {i j : Nat} (hk : k ∈ K)
    (hseat : w.signatureOwners[i]? = some k) (hj : j < w.signatureOwners.length) (hij : j ≠ i)
    (hnone : w.signatureMap (keccak k this) = []) (ht : 0 < w.threshold)
    (hmany : (w.threshold : ℕ∞) ≤ K.encard) :
    ∃ es w', Run (MemberStep keccak K) w es w' ∧
      0 < w'.getValidSignature (keccak k this) DEFAULT_INDEX := by
  obtain ⟨recruits, hdistinct, hself, hmember, hlength⟩ := exists_recruits hk ht hmany
  let w₁ := w.setInfos (keccak k this) [⟨k, []⟩]
  let w₂ := w₁.setInfos (keccak k this) [⟨k, [k]⟩]
  have hcreate : MemberStep keccak K w (k, .createApplication this) w₁ := by
    refine ⟨effect_iff.mpr ?_, hk⟩
    have heff : Effect keccak w k (.createApplication this) _ := .createApplication
    rwa [hnone] at heff
  have hinfos₁ : w₁.signatureMap (keccak k this) = [⟨k, []⟩] := by simp [w₁]
  have hinfos₂ : w₂.signatureMap (keccak k this) = [⟨k, [k]⟩] := by simp [w₂]
  have howner : k ∈ w₁.signatureOwners := List.mem_of_getElem? hseat
  have hsign : MemberStep keccak K w₁ (k, .signApplication (keccak k this)) w₂ := by
    refine ⟨effect_iff.mpr ?_, hk⟩
    have heff : Effect keccak w₁ k (.signApplication (keccak k this)) _ :=
      .signApplication howner hinfos₁ List.not_mem_nil
    exact heff
  have hnew : ∀ a ∈ recruits, a ∉ [k] := by
    intro a ha hmem
    rw [List.mem_singleton.mp hmem] at ha
    exact hself ha
  obtain ⟨es, w', hrun, hthreshold, hmap⟩ :=
    exists_recruit hk (w := w₂) hseat hj hij hinfos₂ hdistinct hmember hnew
  refine ⟨_, w', ((Run.start.step hcreate).step hsign).append hrun, ?_⟩
  apply Nat.pos_of_ne_zero
  intro hzero
  -- the first application has the signatures of `k` and of all recruits, which is enough
  have hshort := getValidSignature_eq_zero.mp hzero _ (by rw [hmap]; exact List.mem_singleton_self _)
  rw [hthreshold] at hshort
  have hlong : ([k] ++ recruits).length = w.threshold := by
    rw [List.length_append, List.length_singleton, Nat.add_comm]
    exact hlength
  exact absurd hlong (Nat.ne_of_lt hshort)

/-! ## The invariants of a locked wallet

When no seat changes hands, the signers of every list are owners, each once. -/

theorem run_threshold (hrun : Run (MemberStep keccak K) w es w') : w'.threshold = w.threshold := by
  refine hrun.invariant (I := fun _ w' => w'.threshold = w.threshold) rfl ?_
  intro es w₁ e w₂ hI hs
  exact (effect_iff.mp hs.1).threshold.trans hI

theorem run_members (hw : w.EveryList (Members K)) (hrun : Run (MemberStep keccak K) w es w') :
    w'.EveryList (Members K) := by
  refine hrun.invariant (I := fun _ w' => w'.EveryList (Members K)) hw ?_
  intro es w₁ e w₂ hI hs
  exact hs.members hI

/-- Accounts without a seat leave the seats as they are and sign nothing. -/
theorem run_unseated (hw : w.EveryList (· = [])) (hout : ∀ a ∈ w.signatureOwners, a ∉ K)
    (hrun : Run (MemberStep keccak K) w es w') : w'.EveryList (· = []) := by
  have hinv : w'.EveryList (· = []) ∧ w'.signatureOwners = w.signatureOwners := by
    refine hrun.invariant
      (I := fun _ w' => w'.EveryList (· = []) ∧ w'.signatureOwners = w.signatureOwners) ⟨hw, rfl⟩ ?_
    rintro es w₁ ⟨sender, c⟩ w₂ ⟨hlists, howners⟩ ⟨hs, hmember⟩
    have hnot : sender ∉ w₁.signatureOwners := by
      intro hseat
      rw [howners] at hseat
      exact hout sender hseat hmember
    have heff := effect_iff.mp hs
    refine ⟨heff.everyList rfl ?_ ?_ hlists, ?_⟩
    · intro l _ howner _
      exact absurd howner hnot
    · intro l _ howner _
      exact absurd howner hnot
    · cases heff with
      | createApplication => exact howners
      | signApplication howner => exact absurd howner hnot
      | revokeSignApplication howner => exact absurd howner hnot
      | transferOwner howner => exact absurd howner hnot
  exact hinv.1

/-- A wallet all of whose lists are shorter than the threshold is locked. -/
theorem Wallet.EveryList.locked {P : List Address → Prop} (hw : w.EveryList P)
    (hshort : ∀ l, P l → l.length < w.threshold) : w.Locked keccak := by
  rw [Wallet.locked_iff]
  intro msgHash
  rw [getValidSignature_eq_zero]
  intro info hmem
  exact hshort _ (hw msgHash info hmem)

end Coalition

/-- **When the threshold protects a wallet.** Whatever owners and threshold the constructor accepts,
and for every coalition with fewer than `threshold` of these owners: on all its runs the wallet stays
locked exactly when the coalition has none of the owners or fewer than `threshold` members. -/
theorem threshold_secure (keccak : Address → Address → Nat) {owners : List Address} {threshold : Nat}
    {w : Wallet} (hwallet : (constructor owners threshold).run {} = .ok ((), w)) (K : Set Address)
    (hfew : (K ∩ {a | a ∈ owners}).encard < threshold) :
    (∀ es w', Run (MemberStep keccak K) w es w' → w'.Locked keccak) ↔
      K ∩ {a | a ∈ owners} = ∅ ∨ K.encard < threshold := by
  obtain ⟨hpos, hle, hdistinct, -, rfl⟩ := constructor_ok.mp hwallet
  constructor
  · intro hlocked
    by_contra hnot
    rw [not_or, not_lt] at hnot
    obtain ⟨⟨k, hk, hseat⟩, hmany⟩ : (K ∩ {a | a ∈ owners}).Nonempty ∧ _ :=
      ⟨Set.nonempty_iff_ne_empty.mpr hnot.1, hnot.2⟩
    obtain ⟨i, hi, hget⟩ := List.getElem_of_mem (show k ∈ owners from hseat)
    -- one owner is below the threshold, so there is a second seat
    have htwo : 1 < owners.length := by
      have hone : (({k} : Set Address)).encard ≤ (K ∩ {a | a ∈ owners}).encard :=
        Set.encard_le_encard (Set.singleton_subset_iff.mpr ⟨hk, hseat⟩)
      rw [Set.encard_singleton] at hone
      have hlt : 1 < threshold := by exact_mod_cast hone.trans_lt hfew
      exact hlt.trans_le hle
    obtain ⟨j, hj, hij⟩ : ∃ j, j < owners.length ∧ j ≠ i := by
      by_cases hzero : i = 0
      · exact ⟨1, htwo, by omega⟩
      · exact ⟨0, by omega, by omega⟩
    have hholds : owners[i]? = some k := by rw [List.getElem?_eq_getElem hi, hget]
    obtain ⟨es, w', hrun, hvalid⟩ := exists_approval keccak 0 hk
      (w := { signatureOwners := owners, threshold := threshold }) hholds hj hij rfl hpos hmany
    exact absurd ((hlocked es w' hrun).1 _) hvalid.ne'
  · -- the wallet starts without applications, so every invariant of its lists holds at first
    rintro (hnone | hsmall) es w' hrun
    · have hout : ∀ a ∈ owners, a ∉ K := by
        intro a hseat hmember
        exact Set.notMem_empty a (hnone ▸ ⟨hmember, hseat⟩)
      have hlists := run_unseated (fun _ _ hmem => absurd hmem List.not_mem_nil) hout hrun
      apply hlists.locked
      rintro l rfl
      rw [run_threshold hrun]
      exact hpos
    · have hlists := run_members (fun _ _ hmem => absurd hmem List.not_mem_nil) hrun
      apply hlists.locked
      intro l hl
      rw [run_threshold hrun]
      exact_mod_cast hl.length_le.trans_lt hsmall

/-- The packed bytes themselves in the place of their hash. -/
def packed (a b : Address) : Nat := a * 2 ^ 160 + b

/-- Three owners, two of whom are to sign. -/
def twoOfThree : Wallet :=
  { signatureOwners := [1, 2, 3], threshold := 2, signatureMap := fun _ => [] }

theorem threshold_secure_single :
    (∀ es w', Run (MemberStep packed {1}) twoOfThree es w' → w'.Locked packed) ↔
      ({1} : Set Address) ∩ {a | a ∈ [1, 2, 3]} = ∅ ∨ ({1} : Set Address).encard < (2 : Nat) := by
  refine threshold_secure packed (constructor_ok.mpr ⟨by decide, by decide, by decide, by decide, rfl⟩)
    {1} ?_
  refine (Set.encard_le_encard Set.inter_subset_left).trans_lt ?_
  rw [Set.encard_singleton]
  exact_mod_cast Nat.one_lt_two

/-- The owner 1 signs, hands the second seat to the stranger 9, and 9 signs. -/
def takeover : List (Address × Call) :=
  [(1, .createApplication 100), (1, .signApplication (packed 1 100)), (1, .transferOwner 1 9),
    (9, .signApplication (packed 1 100))]

/-- One owner and one stranger are enough for a threshold of 2. -/
theorem single_owner_approves : (constructor [1, 2, 3] 2).run {} = .ok ((), twoOfThree) ∧
    (({1, 9} : Set Address) ∩ {a | a ∈ [1, 2, 3]}).encard < (2 : Nat) ∧
    ∃ w', Run (MemberStep packed {1, 9}) twoOfThree takeover w' ∧
      w'.getValidSignature (packed 1 100) DEFAULT_INDEX = 1 ∧
      (checkMultiSignature packed 1 100).run w' = .ok ((), w') := by
  refine ⟨rfl, ?_, twoOfThree.play packed takeover, ?_, by decide +kernel, ?_⟩
  · have honly : ({1, 9} : Set Address) ∩ {a | a ∈ [1, 2, 3]} ⊆ {1} := by
      rintro a ⟨rfl | rfl, hseat⟩
      · rfl
      · simp at hseat
    refine (Set.encard_le_encard honly).trans_lt ?_
    rw [Set.encard_singleton]
    exact_mod_cast Nat.one_lt_two
  · refine (play_run (by decide +kernel)).mono ?_
    rintro w e w' ⟨hs, hmem⟩
    refine ⟨hs, ?_⟩
    simp only [takeover, List.mem_cons, List.not_mem_nil, or_false] at hmem
    rcases hmem with rfl | rfl | rfl | rfl <;> simp
  · exact checkMultiSignature_ok.mpr ⟨by decide +kernel, rfl⟩

end Pledge.MultiSig
