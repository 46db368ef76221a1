import Pledge.MultiSig.History

/-!
# Seats that change hands

The constructor checks that the owners are distinct and that none is the zero address, and a signature
is only accepted from an owner. `transferOwner` hands a seat to another account without either check
(`sound_run_iff`) and without a look at what the old owner has signed (`signers_are_owners`).
-/

namespace Pledge.MultiSig

open Pledge.Evm

section Seats

variable {keccak : Address → Address → Nat} {w w' : Wallet} {sender : Address} {c : Call}
  {es : List (Address × Call)} {msgHash : Nat}

/-! ## Signatures and seats

A signature counts for the verifier whether its signer has a seat or not. When nobody is replaced
who has signed, the two stay the same. -/

/-- No signature outlives its seat in this transaction: the account that gives a seat up has signed
nothing, or keeps another one. -/
def Wallet.Clears (w : Wallet) : Call → Prop
  | .transferOwner index newOwner => ∀ old, w.signatureOwners[index]? = some old →
      w.EveryList (old ∉ ·) ∨ old ∈ w.signatureOwners.set index newOwner
  | _ => True

/-- Everybody who has signed is an owner. -/
def Wallet.Seated (w : Wallet) : Prop := w.EveryList fun l => ∀ a ∈ l, a ∈ w.signatureOwners

/-- A seat that changes hands leaves the other seats alone. -/
theorem mem_set_of_ne {owners : List Address} {index : Nat} {newOwner a : Address} (h : a ∈ owners)
    (hne : owners[index]? ≠ some a) : a ∈ owners.set index newOwner := by
  obtain ⟨j, hj, rfl⟩ := List.getElem_of_mem h
  have hindex : index ≠ j := by
    rintro rfl
    exact hne (List.getElem?_eq_getElem hj)
  apply List.mem_of_getElem? (i := j)
  rw [List.getElem?_set_ne hindex]
  exact List.getElem?_eq_getElem hj

/-- **One transaction.** -/
theorem Effect.seated (h : Effect keccak w sender c w') (hclears : w.Clears c) (hw : w.Seated) :
    w'.Seated := by
  have hkept (hsame : w'.signatureOwners = w.signatureOwners) : w'.Seated := by
    unfold Wallet.Seated
    rw [hsame]
    refine h.everyList (P := fun l => ∀ a ∈ l, a ∈ w.signatureOwners) nofun ?_ ?_ hw
    · intro l hl howner _ a ha
      rcases List.mem_append.mp ha with hold | hnew
      · exact hl a hold
      · rw [List.mem_singleton.mp hnew]
        exact howner
    · intro l hl _ hsigned a ha
      exact hl a (List.mem_of_mem_erase ((removeAddress_perm hsigned).mem_iff.mp ha))
  cases h with
  | createApplication | signApplication | revokeSignApplication => exact hkept rfl
  | @transferOwner index newOwner howner hindex =>
      intro msgHash info hmem a ha
      by_cases hold : w.signatureOwners[index]? = some a
      · rcases hclears a hold with hunsigned | hkeeps
        · exact absurd ha (hunsigned msgHash info hmem)
        · exact hkeeps
      · exact mem_set_of_ne (hw msgHash info hmem a ha) hold

/-- Runs in which no signature outlives its seat. -/
abbrev ClearStep (keccak : Address → Address → Nat) : Wallet → Address × Call → Wallet → Prop :=
  Restrict (Step keccak) fun w e _ => w.Clears e.2

theorem run_seated (hw : w.Seated) (hrun : Run (ClearStep keccak) w es w') : w'.Seated := by
  refine hrun.invariant (I := fun _ w => w.Seated) hw ?_
  rintro es w ⟨sender, c⟩ w' hI ⟨hs, hclears⟩
  exact (effect_iff.mp hs).seated hclears hI

end Seats

/-- **Only current owners count**, in every state of every run in which no signature outlives its
seat: a valid application has the signatures of `threshold` accounts that are owners in that state and
that have not revoked. -/
theorem signers_are_owners {keccak : Address → Address → Nat} {owners : List Address} {threshold : Nat}
    {w₀ w : Wallet} {es : List (Address × Call)}
    (hwallet : (constructor owners threshold).run {} = .ok ((), w₀))
    (hrun : Run (ClearStep keccak) w₀ es w) {msgHash : Nat}
    (hvalid : 0 < w.getValidSignature msgHash DEFAULT_INDEX) :
    (threshold : ℕ∞) ≤ {a | a ∈ w.signatureOwners ∧ Stands msgHash es a}.encard := by
  obtain ⟨hpos, -, -, -, rfl⟩ := constructor_ok.mp hwallet
  obtain ⟨htells, hthreshold⟩ := run_tells (hrun.mono fun hs => hs.1) msgHash
  have hseated : w.Seated := run_seated (fun _ _ hmem => absurd hmem List.not_mem_nil) hrun
  rw [htells.getValidSignature (by rwa [hthreshold]), hthreshold] at hvalid
  have hmany : threshold ≤ (w.signers msgHash).length := by
    by_contra hfew
    rw [if_neg hfew] at hvalid
    exact absurd hvalid (Nat.lt_irrefl 0)
  -- those who stand by the hash are in the first application, and so they are owners
  have hsub : {a | Stands msgHash es a} ⊆ {a | a ∈ w.signatureOwners ∧ Stands msgHash es a} := by
    intro a ha
    refine ⟨?_, ha⟩
    have hmem := (htells.signed a).mpr ha
    unfold Wallet.signers at hmem
    cases hinfos : w.signatureMap msgHash with
    | nil =>
        rw [hinfos] at hmem
        exact absurd hmem List.not_mem_nil
    | cons info rest =>
        rw [hinfos] at hmem
        exact hseated msgHash info (by rw [hinfos]; exact List.mem_cons_self) a hmem
  calc (threshold : ℕ∞) ≤ (w.signers msgHash).length := by exact_mod_cast hmany
    _ = {a | Stands msgHash es a}.encard := htells.encard.symm
    _ ≤ _ := Set.encard_le_encard hsub

/-- The owners 1 and 2 sign. -/
def joint : List (Address × Call) :=
  [(1, .createApplication 100), (1, .signApplication (packed 1 100)),
    (2, .signApplication (packed 1 100))]

theorem signers_are_owners_joint :
    ((2 : Nat) : ℕ∞) ≤
      {a | a ∈ (twoOfThree.play packed joint).signatureOwners ∧ Stands (packed 1 100) joint a}.encard := by
  have hrun : Run (ClearStep packed) twoOfThree joint (twoOfThree.play packed joint) := by
    refine (play_run (by decide +kernel)).mono ?_
    rintro w e w' ⟨hs, hmem⟩
    refine ⟨hs, ?_⟩
    simp only [joint, List.mem_cons, List.not_mem_nil, or_false] at hmem
    rcases hmem with rfl | rfl | rfl <;> trivial
  exact signers_are_owners
    (constructor_ok.mpr ⟨by decide, by decide, by decide, by decide, rfl⟩) hrun (by decide +kernel)

/-- The owner 1 signs and hands its own seat to 9, and 9 signs. -/
def succession : List (Address × Call) :=
  [(1, .createApplication 100), (1, .signApplication (packed 1 100)), (1, .transferOwner 0 9),
    (9, .signApplication (packed 1 100))]

/-- One seat has signed twice: the application is valid, and only one of the two owners it takes has
signed it. -/
theorem former_owner_counts : (constructor [1, 2, 3] 2).run {} = .ok ((), twoOfThree) ∧
    ∃ w, Run (Step packed) twoOfThree succession w ∧ w.signatureOwners = [9, 2, 3] ∧
      w.getValidSignature (packed 1 100) DEFAULT_INDEX = 1 ∧
      {a | a ∈ w.signatureOwners ∧ Stands (packed 1 100) succession a} ⊆ {9} ∧
      ¬ ((2 : Nat) : ℕ∞) ≤
        {a | a ∈ w.signatureOwners ∧ Stands (packed 1 100) succession a}.encard := by
  have howners : (twoOfThree.play packed succession).signatureOwners = [9, 2, 3] := by decide +kernel
  have honly : {a | a ∈ (twoOfThree.play packed succession).signatureOwners ∧
      Stands (packed 1 100) succession a} ⊆ {9} := by
    rintro a ⟨howner, hstands⟩
    rw [howners] at howner
    simp only [List.mem_cons, List.not_mem_nil, or_false] at howner
    rcases howner with rfl | rfl | rfl
    · rfl
    · exact absurd hstands (by decide +kernel)
    · exact absurd hstands (by decide +kernel)
  refine ⟨rfl, twoOfThree.play packed succession, (play_run (by decide +kernel)).mono fun h => h.1,
    howners, by decide +kernel, honly, ?_⟩
  rw [not_le]
  refine (Set.encard_le_encard honly).trans_lt ?_
  rw [Set.encard_singleton]
  exact_mod_cast Nat.one_lt_two

/-! ## A set of owners

The array of owners has nobody twice and not the zero address, until a transfer of a seat breaks it.
-/

/-- The owners are a set that can reach the threshold, and for every application there is it can be
reached: current owners sign one after the other until it is valid. -/
structure Wallet.Sound (keccak : Address → Address → Nat) (w : Wallet) : Prop where
  nodup : w.signatureOwners.Nodup
  nonzero : 0 ∉ w.signatureOwners
  threshold : 0 < w.threshold ∧ w.threshold ≤ w.signatureOwners.toFinset.card
  reachable : ∀ msgHash, w.signatureMap msgHash ≠ [] → ∃ es w',
    Run (Restrict (Step keccak) fun _ e _ =>
      e.1 ∈ w.signatureOwners ∧ e.2 = .signApplication msgHash) w es w' ∧
    0 < w'.getValidSignature msgHash DEFAULT_INDEX

/-- The new owner passes the checks of the constructor: it is not the zero address and has no other
seat. -/
def Wallet.Admits (w : Wallet) : Call → Prop
  | .transferOwner index newOwner => newOwner ≠ 0 ∧ newOwner ∉ w.signatureOwners.eraseIdx index
  | _ => True

section Sound

variable {keccak : Address → Address → Nat} {w w' : Wallet} {sender : Address} {c : Call}
  {es : List (Address × Call)} {msgHash : Nat}

/-- Owners who have not signed sign one after the other. -/
theorem exists_signing (keccak : Address → Address → Nat) {signers : List Address}
    {info : SignatureInfo} {rest : List SignatureInfo}
    (hinfos : w.signatureMap msgHash = info :: rest)
    (howners : ∀ a ∈ signers, a ∈ w.signatureOwners) (hdistinct : signers.Nodup)
    (hnew : ∀ a ∈ signers, a ∉ info.signatures) :
    ∃ es w', Run (Restrict (Step keccak) fun _ e _ =>
        e.1 ∈ w.signatureOwners ∧ e.2 = .signApplication msgHash) w es w' ∧
      w'.threshold = w.threshold ∧
      w'.signatureMap msgHash = { info with signatures := info.signatures ++ signers } :: rest := by
  -- on the owners still to sign; the wallet and the application change with each
  induction signers generalizing w info with
  | nil =>
      refine ⟨[], w, .start, rfl, ?_⟩
      rw [List.append_nil]
      exact hinfos
  | cons a signers ih =>
      rw [List.nodup_cons] at hdistinct
      rw [List.forall_mem_cons] at howners hnew
      let w₁ : Wallet :=
        w.setInfos msgHash ({ info with signatures := info.signatures ++ [a] } :: rest)
      have hsign : Step keccak w (a, .signApplication msgHash) w₁ :=
        effect_iff.mpr (.signApplication howners.1 hinfos hnew.1)
      have hinfos₁ : w₁.signatureMap msgHash =
          { info with signatures := info.signatures ++ [a] } :: rest := by simp [w₁]
      have hnew₁ : ∀ b ∈ signers, b ∉ info.signatures ++ [a] := by
        intro b hb hmem
        rcases List.mem_append.mp hmem with hold | hlast
        · exact hnew.2 b hb hold
        · rw [List.mem_singleton.mp hlast] at hb
          exact hdistinct.1 hb
      obtain ⟨es, w', hrun, hthreshold, hmap⟩ := ih hinfos₁ howners.2 hdistinct.2 hnew₁
      have hfirst : Run (Restrict (Step keccak) fun _ e _ =>
          e.1 ∈ w.signatureOwners ∧ e.2 = .signApplication msgHash) w [(a, .signApplication msgHash)] w₁ :=
        Run.start.step ⟨hsign, howners.1, rfl⟩
      refine ⟨_, w', hfirst.append hrun, hthreshold, ?_⟩
      rw [hmap, List.append_assoc]
      rfl

/-- **A set of owners can reach the threshold.** -/
theorem Wallet.Sound.of_set (hnodup : w.signatureOwners.Nodup) (hzero : 0 ∉ w.signatureOwners)
    (hpos : 0 < w.threshold) (hle : w.threshold ≤ w.signatureOwners.length) : w.Sound keccak where
  nodup := hnodup
  nonzero := hzero
  threshold := by
    rw [List.toFinset_card_of_nodup hnodup]
    exact ⟨hpos, hle⟩
  reachable msgHash hsome := by
    obtain ⟨info, rest, hinfos⟩ := List.exists_cons_of_ne_nil hsome
    let signers := w.signatureOwners.filter (· ∉ info.signatures)
    have hsigners : ∀ a ∈ signers, a ∈ w.signatureOwners := fun a ha => List.mem_of_mem_filter ha
    obtain ⟨es, w', hrun, hthreshold, hmap⟩ := exists_signing keccak hinfos hsigners (hnodup.filter _)
      (fun a ha => by simpa using List.of_mem_filter ha)
    refine ⟨es, w', hrun, Nat.pos_of_ne_zero fun hnone => ?_⟩
    -- now every owner has signed
    have hfew := getValidSignature_eq_zero.mp hnone _ (by rw [hmap]; exact List.mem_cons_self)
    have hsub : w.signatureOwners ⊆ info.signatures ++ signers := by
      intro a ha
      rw [List.mem_append]
      by_cases hsigned : a ∈ info.signatures
      · exact .inl hsigned
      · exact .inr (List.mem_filter.mpr ⟨ha, by simpa using hsigned⟩)
    have hall : w.signatureOwners.length ≤ (info.signatures ++ signers).length :=
      (List.subperm_of_subset hnodup hsub).length_le
    rw [hthreshold] at hfew
    exact absurd (hle.trans hall) (Nat.not_le.mpr hfew)

/-- **One transaction** keeps a sound wallet sound exactly when the new owner passes the checks. -/
theorem Effect.sound_iff (h : Effect keccak w sender c w') (hw : w.Sound keccak) :
    w'.Sound keccak ↔ w.Admits c := by
  have hle : w.threshold ≤ w.signatureOwners.length :=
    hw.threshold.2.trans (List.toFinset_card_le _)
  have hkept (hsame : w'.signatureOwners = w.signatureOwners) : w'.Sound keccak :=
    .of_set (hsame ▸ hw.nodup) (hsame ▸ hw.nonzero) (h.threshold ▸ hw.threshold.1)
      (by rw [h.threshold, hsame]; exact hle)
  cases h with
  | createApplication | signApplication | revokeSignApplication => exact iff_of_true (hkept rfl) trivial
  | @transferOwner index newOwner howner hindex =>
      have hperm := List.set_perm_cons_eraseIdx hindex newOwner
      constructor
      · intro hsound
        constructor
        · rintro rfl
          exact hsound.nonzero (List.mem_set hindex 0)
        · exact (List.nodup_cons.mp (hperm.nodup_iff.mp hsound.nodup)).1
      · rintro ⟨hnonzero, hother⟩
        refine .of_set ?_ ?_ hw.threshold.1 ?_
        · exact hperm.nodup_iff.mpr (List.nodup_cons.mpr ⟨hother, hw.nodup.eraseIdx index⟩)
        · intro hmem
          rcases List.mem_cons.mp (hperm.mem_iff.mp hmem) with hzero | hrest
          · exact hnonzero hzero.symm
          · exact hw.nonzero (List.mem_of_mem_eraseIdx hrest)
        · show w.threshold ≤ (w.signatureOwners.set index newOwner).length
          rw [List.length_set]
          exact hle

end Sound

/-- **When the owners stay a set that can reach the threshold.** The constructor accepts sound wallets
only, and the runs of which every state is sound are the runs in which every new owner passes the
checks that the constructor makes. -/
theorem sound_run_iff {keccak : Address → Address → Nat} {owners : List Address} {threshold : Nat}
    {w₀ : Wallet} (hwallet : (constructor owners threshold).run {} = .ok ((), w₀)) :
    w₀.Sound keccak ∧ ∀ es w,
      (Run (Restrict (Step keccak) fun w e _ => w.Admits e.2) w₀ es w → w.Sound keccak) ∧
      (Run (Restrict (Step keccak) fun _ _ w' => w'.Sound keccak) w₀ es w ↔
        Run (Restrict (Step keccak) fun w e _ => w.Admits e.2) w₀ es w) := by
  obtain ⟨hpos, hle, hnodup, hzero, rfl⟩ := constructor_ok.mp hwallet
  have hsound : Wallet.Sound keccak { signatureOwners := owners, threshold := threshold } :=
    .of_set hnodup hzero hpos hle
  have hstep {w : Wallet} {e : Address × Call} {w' : Wallet} (hw : w.Sound keccak)
      (hs : Step keccak w e w') : w'.Sound keccak ↔ w.Admits e.2 :=
    (effect_iff.mp hs).sound_iff hw
  refine ⟨hsound, fun es w => ⟨fun hrun => ?_, fun hrun => ?_, fun hrun => ?_⟩⟩
  · exact hrun.invariant (I := fun _ w => w.Sound keccak) hsound
      fun hw hs => (hstep hw hs.1).mpr hs.2
  · exact (hrun.along hsound fun _ hs => hs.2).mono fun h => ⟨h.2.1, (hstep h.1 h.2.1).mp h.2.2⟩
  · exact (hrun.along hsound fun hw hs => (hstep hw hs.1).mpr hs.2).mono
      fun h => ⟨h.2.1, (hstep h.1 h.2.1).mpr h.2.2⟩

theorem sound_run_iff_transfer :
    twoOfThree.Sound packed ∧ (twoOfThree.next packed (1, .transferOwner 0 9)).Sound packed := by
  have hwallet : (constructor [1, 2, 3] 2).run {} = .ok ((), twoOfThree) :=
    constructor_ok.mpr ⟨by decide, by decide, by decide, by decide, rfl⟩
  obtain ⟨hsound, hruns⟩ : twoOfThree.Sound packed ∧ _ := sound_run_iff hwallet
  refine ⟨hsound, (hruns [(1, .transferOwner 0 9)] _).1 ?_⟩
  exact Run.start.step ⟨next_step (by decide +kernel), by decide, by decide⟩

/-- The owner 1 takes the seats of the other two. -/
def monopoly : List (Address × Call) := [(1, .transferOwner 1 1), (1, .transferOwner 2 1)]

/-- Three seats, one owner, and a threshold of 2: no application can become valid. -/
theorem threshold_unreachable : (constructor [1, 2, 3] 2).run {} = .ok ((), twoOfThree) ∧
    ∃ w, Run (Step packed) twoOfThree monopoly w ∧ w.signatureOwners = [1, 1, 1] ∧
      w.signatureOwners.toFinset.card < w.threshold ∧ ¬ w.Sound packed := by
  have hfew : (twoOfThree.play packed monopoly).signatureOwners.toFinset.card <
      (twoOfThree.play packed monopoly).threshold := by decide +kernel
  refine ⟨rfl, twoOfThree.play packed monopoly, (play_run (by decide +kernel)).mono fun h => h.1,
    by decide +kernel, hfew, ?_⟩
  intro hsound
  exact absurd hsound.threshold.2 (Nat.not_le.mpr hfew)

end Pledge.MultiSig
