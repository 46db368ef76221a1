import Pledge.MultiSig.Threshold

/-!
# What the verifier decides

The first application of a hash keeps the accounts that stand by it: those whose last sign or revoke
on the hash was a sign. The arrays of the wallet are compared with the history of the run
(`Wallet.Tells`), one transaction at a time; `getValidSignature_decides` reads the answers of the
verifier off the history.
-/

namespace Pledge.MultiSig

open Pledge.Evm

/-! ## The history

Who has signed is told by the last thing that each account did about the application. -/

section History

variable {msgHash : Nat} {a : Address} {es : List (Address × Call)} {e : Address × Call}

/-- `a` signed or revoked on `msgHash`. -/
def actsOn (msgHash : Nat) (a : Address) (e : Address × Call) : Bool :=
  e = (a, .signApplication msgHash) ∨ e = (a, .revokeSignApplication msgHash)

/-- The last time `a` signed or revoked on `msgHash`, it signed. -/
def Stands (msgHash : Nat) (es : List (Address × Call)) (a : Address) : Prop :=
  (es.filter (actsOn msgHash a)).getLast? = some (a, .signApplication msgHash)

instance (msgHash : Nat) (es : List (Address × Call)) (a : Address) :
    Decidable (Stands msgHash es a) := inferInstanceAs (Decidable (_ = _))

/-- Only the last action counts. -/
theorem stands_snoc :
    Stands msgHash (es ++ [e]) a ↔
      if actsOn msgHash a e then e = (a, .signApplication msgHash) else Stands msgHash es a := by
  unfold Stands
  rw [List.filter_append]
  split
  · next h => rw [List.filter_cons_of_pos h, List.filter_nil, List.getLast?_concat, Option.some.injEq]
  · next h => rw [List.filter_cons_of_neg h, List.filter_nil, List.append_nil]

/-- Another account, another hash or another kind of transaction. -/
theorem stands_other (h : actsOn msgHash a e = false) :
    Stands msgHash (es ++ [e]) a ↔ Stands msgHash es a := by
  rw [stands_snoc, if_neg (by simp [h])]

theorem stands_sign : Stands msgHash (es ++ [(a, .signApplication msgHash)]) a := by
  rw [stands_snoc, if_pos (by simp [actsOn])]

theorem not_stands_revoke : ¬ Stands msgHash (es ++ [(a, .revokeSignApplication msgHash)]) a := by
  rw [stands_snoc, if_pos (by simp [actsOn])]
  simp

end History

/-! ## The arrays

The wallet keeps the signers in an array and removes one by putting the last in its place, so the
order is lost and the set is kept. -/

/-- The signatures of the first application. -/
def firstSignatures : List SignatureInfo → List Address
  | [] => []
  | info :: _ => info.signatures

def Wallet.signers (w : Wallet) (msgHash : Nat) : List Address :=
  firstSignatures (w.signatureMap msgHash)

theorem Wallet.signers_cons {w : Wallet} {msgHash : Nat} {info : SignatureInfo}
    {rest : List SignatureInfo} (h : w.signatureMap msgHash = info :: rest) :
    w.signers msgHash = info.signatures := by
  rw [signers, h]
  rfl

theorem Wallet.setInfos_signers (w : Wallet) (msgHash : Nat) (infos : List SignatureInfo) :
    (w.setInfos msgHash infos).signers msgHash = firstSignatures infos := by
  rw [signers, setInfos_map, if_pos rfl]

/-- The arrays of `msgHash` tell the history: the first application keeps the accounts that stand by
it, each once, and the later applications keep nothing. -/
structure Wallet.Tells (w : Wallet) (es : List (Address × Call)) (msgHash : Nat) : Prop where
  nodup : (w.signers msgHash).Nodup
  signed : ∀ a, a ∈ w.signers msgHash ↔ Stands msgHash es a
  later : ∀ info ∈ (w.signatureMap msgHash).tail, info.signatures = []

section Run

variable {keccak : Address → Address → Nat} {w w' : Wallet} {es : List (Address × Call)}
  {msgHash : Nat} {sender : Address} {c : Call}

theorem Wallet.Tells.start (owners : List Address) (threshold msgHash : Nat) :
    Wallet.Tells { signatureOwners := owners, threshold := threshold } [] msgHash where
  nodup := .nil
  signed _ := ⟨nofun, nofun⟩
  later := nofun

/-- A transaction that touches neither the applications of a hash nor the standing on it. -/
theorem Wallet.Tells.frame {e : Address × Call} (h : w.Tells es msgHash)
    (hmap : w'.signatureMap msgHash = w.signatureMap msgHash)
    (hact : ∀ a, actsOn msgHash a e = false) : w'.Tells (es ++ [e]) msgHash := by
  have hsigners : w'.signers msgHash = w.signers msgHash := by
    unfold Wallet.signers
    rw [hmap]
  refine ⟨hsigners ▸ h.nodup, ?_, hmap ▸ h.later⟩
  intro a
  rw [hsigners, stands_other (hact a)]
  exact h.signed a

/-- `sender` signs or revokes: the first application gets other signatures, and only the standing of
`sender` changes. -/
theorem Wallet.Tells.edit {info : SignatureInfo} {rest : List SignatureInfo} {signatures : List Address}
    (h : w.Tells es msgHash) (hinfos : w.signatureMap msgHash = info :: rest)
    (hnodup : signatures.Nodup) (hact : ∀ a, a ≠ sender → actsOn msgHash a (sender, c) = false)
    (hself : sender ∈ signatures ↔ Stands msgHash (es ++ [(sender, c)]) sender)
    (hothers : ∀ a, a ≠ sender → (a ∈ signatures ↔ a ∈ info.signatures)) :
    (w.setInfos msgHash ({ info with signatures := signatures } :: rest)).Tells
      (es ++ [(sender, c)]) msgHash := by
  have hsigners : (w.setInfos msgHash ({ info with signatures := signatures } :: rest)).signers msgHash =
      signatures := Wallet.setInfos_signers ..
  refine ⟨?_, ?_, ?_⟩
  · rw [hsigners]
    exact hnodup
  · intro a
    rw [hsigners]
    by_cases ha : a = sender
    · subst ha
      exact hself
    · rw [hothers a ha, stands_other (hact a ha), ← h.signed a, Wallet.signers_cons hinfos]
  · rw [Wallet.setInfos_map, if_pos rfl]
    have hlater := h.later
    rw [hinfos] at hlater
    exact hlater

/-- **One transaction.** -/
theorem Effect.tells (heff : Effect keccak w sender c w') (h : w.Tells es msgHash) :
    w'.Tells (es ++ [(sender, c)]) msgHash := by
  cases heff with
  | @createApplication recipient =>
      have hact (a : Address) : actsOn msgHash a (sender, .createApplication recipient) = false := by
        simp [actsOn]
      by_cases hm : msgHash = keccak sender recipient
      · -- the new application is empty, and it is the first one only when there is no other
        subst hm
        have hsigners : (w.setInfos (keccak sender recipient)
            (w.signatureMap (keccak sender recipient) ++ [⟨sender, []⟩])).signers
              (keccak sender recipient) = w.signers (keccak sender recipient) := by
          rw [Wallet.setInfos_signers, Wallet.signers]
          cases w.signatureMap (keccak sender recipient) <;> rfl
        refine ⟨hsigners ▸ h.nodup, ?_, ?_⟩
        · intro a
          rw [hsigners, stands_other (hact a)]
          exact h.signed a
        · intro info hmem
          rw [Wallet.setInfos_map, if_pos rfl] at hmem
          have hlater := h.later info
          cases hinfos : w.signatureMap (keccak sender recipient) with
          | nil =>
              rw [hinfos] at hmem
              cases hmem
          | cons head rest =>
              rw [hinfos] at hmem hlater
              rcases List.mem_append.mp (show info ∈ rest ++ [_] from hmem) with hold | hnew
              · exact hlater hold
              · rw [List.mem_singleton.mp hnew]
      · exact h.frame (by rw [Wallet.setInfos_map, if_neg hm]) hact
  | @signApplication m info rest howner hinfos hnew =>
      by_cases hm : msgHash = m
      · subst hm
        have hnodup : info.signatures.Nodup := Wallet.signers_cons hinfos ▸ h.nodup
        refine h.edit hinfos ?_ ?_ ?_ ?_
        · rw [← List.concat_eq_append]
          exact hnodup.concat hnew
        · intro a ha
          simp [actsOn, Ne.symm ha]
        · exact iff_of_true (by simp) stands_sign
        · intro a ha
          rw [List.mem_append, List.mem_singleton]
          exact or_iff_left ha
      · exact h.frame (by rw [Wallet.setInfos_map, if_neg hm]) (by simp [actsOn, Ne.symm hm])
  | @revokeSignApplication m info rest howner hinfos hsigned =>
      by_cases hm : msgHash = m
      · subst hm
        have hnodup : info.signatures.Nodup := Wallet.signers_cons hinfos ▸ h.nodup
        -- the last entry takes the place of the one that goes
        have hperm := removeAddress_perm hsigned
        refine h.edit hinfos (hperm.nodup_iff.mpr (hnodup.erase sender)) ?_ ?_ ?_
        · intro a ha
          simp [actsOn, Ne.symm ha]
        · refine iff_of_false ?_ not_stands_revoke
          rw [hperm.mem_iff, hnodup.mem_erase_iff]
          exact fun hmem => hmem.1 rfl
        · intro a ha
          rw [hperm.mem_iff, hnodup.mem_erase_iff]
          exact and_iff_right ha
      · exact h.frame (by rw [Wallet.setInfos_map, if_neg hm]) (by simp [actsOn, Ne.symm hm])
  | transferOwner => exact h.frame rfl (by simp [actsOn])

/-- **A whole run** from a wallet without applications. -/
theorem run_tells {owners : List Address} {threshold : Nat}
    (hrun : Run (Step keccak) { signatureOwners := owners, threshold := threshold } es w)
    (msgHash : Nat) : w.Tells es msgHash ∧ w.threshold = threshold := by
  refine hrun.invariant (I := fun es w => w.Tells es msgHash ∧ w.threshold = threshold)
    ⟨.start owners threshold msgHash, rfl⟩ ?_
  intro es w e w' hI hs
  have heff : Effect keccak w e.1 e.2 w' := effect_iff.mp hs
  exact ⟨heff.tells hI.1, heff.threshold.trans hI.2⟩

/-! ## The verifier

The verifier counts, and asks nobody whether the signers are still owners. -/

/-- The accounts that stand by a hash are as many as the signatures of its first application. -/
theorem Wallet.Tells.encard (h : w.Tells es msgHash) :
    {a | Stands msgHash es a}.encard = (w.signers msgHash).length := by
  have hset : {a | Stands msgHash es a} = (w.signers msgHash).toFinset := by
    ext a
    rw [Finset.mem_coe, List.mem_toFinset]
    exact (h.signed a).symm
  rw [hset, Set.encard_coe_eq_coe_finsetCard, List.toFinset_card_of_nodup h.nodup]

/-- Only the first application can be valid. -/
theorem Wallet.Tells.getValidSignature (h : w.Tells es msgHash) (ht : 0 < w.threshold) :
    w.getValidSignature msgHash DEFAULT_INDEX =
      if w.threshold ≤ (w.signers msgHash).length then 1 else 0 := by
  have hlater := h.later
  unfold Wallet.getValidSignature Wallet.signers
  cases hinfos : w.signatureMap msgHash with
  | nil => simp [firstSignatures, ht.ne']
  | cons info rest =>
      rw [hinfos] at hlater
      show (if _ then 0 else firstValid w.threshold 0 (info :: rest)) = _
      rw [if_neg (by simp [DEFAULT_INDEX]), firstValid]
      have hrest : firstValid w.threshold 1 rest = 0 := by
        apply firstValid_eq_zero.mpr
        intro other hmem
        rw [hlater other hmem]
        exact ht
      rw [hrest]
      rfl

/-- Nothing is found from a later application on. -/
theorem Wallet.Tells.getValidSignature_later (h : w.Tells es msgHash) (ht : 0 < w.threshold) {k : Nat}
    (hk : 0 < k) : w.getValidSignature msgHash k = 0 := by
  show (if _ then 0 else firstValid w.threshold k _) = 0
  split
  · rfl
  · apply firstValid_eq_zero.mpr
    intro info hmem
    have htail : info ∈ (w.signatureMap msgHash).tail := by
      rw [← List.drop_one]
      exact (List.drop_subset_drop_left _ hk) hmem
    rw [h.later info htail]
    exact ht

/-- The verifier finds something exactly when enough accounts stand by the hash. -/
theorem run_finds {owners : List Address} {threshold : Nat} {w₀ : Wallet}
    (hwallet : (constructor owners threshold).run {} = .ok ((), w₀)) (hrun : Run (Step keccak) w₀ es w)
    (msgHash : Nat) : 0 < w.getValidSignature msgHash DEFAULT_INDEX ↔
      threshold ≤ {a | Stands msgHash es a}.encard := by
  obtain ⟨hpos, -, -, -, rfl⟩ := constructor_ok.mp hwallet
  obtain ⟨htells, hthreshold⟩ := run_tells hrun msgHash
  rw [htells.encard, htells.getValidSignature (by rwa [hthreshold]), hthreshold, Nat.cast_le]
  split <;> simp [*]

end Run

/-- **What `getValidSignature` decides**, in every state of every run of a wallet: the arrays tell the
history, the verifier finds the first application when enough accounts stand by the hash and nothing
else ever, and a client lets a caller through exactly when there is such an application for them. -/
theorem getValidSignature_decides {keccak : Address → Address → Nat} {owners : List Address}
    {threshold : Nat} {w₀ w : Wallet} {es : List (Address × Call)}
    (hwallet : (constructor owners threshold).run {} = .ok ((), w₀))
    (hrun : Run (Step keccak) w₀ es w) :
    (∀ msgHash, w.Tells es msgHash ∧
      (threshold ≤ {a | Stands msgHash es a}.encard →
        w.getValidSignature msgHash DEFAULT_INDEX = 1) ∧
      ({a | Stands msgHash es a}.encard < threshold →
        w.getValidSignature msgHash DEFAULT_INDEX = 0) ∧
      ∀ k, 0 < k → w.getValidSignature msgHash k = 0) ∧
    ∀ sender this, (∃ w', (checkMultiSignature keccak sender this).run w = .ok ((), w')) ↔
      w.signatureMap (keccak sender this) ≠ [] ∧
        threshold ≤ {a | Stands (keccak sender this) es a}.encard := by
  obtain ⟨hpos, -, -, -, rfl⟩ := constructor_ok.mp hwallet
  have hthreshold : w.threshold = threshold := (run_tells hrun 0).2
  have ht : 0 < w.threshold := by rwa [hthreshold]
  constructor
  · intro msgHash
    have htells := (run_tells hrun msgHash).1
    rw [htells.encard, htells.getValidSignature ht, hthreshold]
    refine ⟨htells, ?_, ?_, fun k hk => htells.getValidSignature_later ht hk⟩
    · intro hmany
      rw [if_pos (by exact_mod_cast hmany)]
    · intro hfew
      rw [if_neg (Nat.not_le.mpr (by exact_mod_cast hfew))]
  · intro sender this
    have htells := (run_tells hrun (keccak sender this)).1
    simp only [checkMultiSignature_ok, exists_eq_right]
    rw [htells.encard, htells.getValidSignature ht, hthreshold, Nat.cast_le]
    constructor
    · intro hvalid
      split at hvalid
      · next hmany =>
          refine ⟨?_, hmany⟩
          -- without an application there would be no signatures
          intro hnone
          rw [Wallet.signers, hnone] at hmany
          exact absurd hmany (Nat.not_le.mpr hpos)
      · exact absurd hvalid (Nat.lt_irrefl 0)
    · rintro ⟨-, hmany⟩
      rw [if_pos hmany]
      exact Nat.one_pos

theorem takeover_run : Run (Step packed) twoOfThree takeover (twoOfThree.play packed takeover) :=
  (play_run (by decide +kernel)).mono fun h => h.1

theorem getValidSignature_decides_takeover :
    (∀ msgHash, (twoOfThree.play packed takeover).Tells takeover msgHash ∧
      ((2 : Nat) ≤ {a | Stands msgHash takeover a}.encard →
        (twoOfThree.play packed takeover).getValidSignature msgHash DEFAULT_INDEX = 1) ∧
      ({a | Stands msgHash takeover a}.encard < (2 : Nat) →
        (twoOfThree.play packed takeover).getValidSignature msgHash DEFAULT_INDEX = 0) ∧
      ∀ k, 0 < k → (twoOfThree.play packed takeover).getValidSignature msgHash k = 0) ∧
    ∀ sender this, (∃ w', (checkMultiSignature packed sender this).run
        (twoOfThree.play packed takeover) = .ok ((), w')) ↔
      (twoOfThree.play packed takeover).signatureMap (packed sender this) ≠ [] ∧
        (2 : Nat) ≤ {a | Stands (packed sender this) takeover a}.encard :=
  getValidSignature_decides
    (constructor_ok.mpr ⟨by decide, by decide, by decide, by decide, rfl⟩) takeover_run

end Pledge.MultiSig
