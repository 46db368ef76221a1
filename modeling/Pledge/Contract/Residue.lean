import Pledge.Contract.Principal

/-!
# What stays behind in a pool

Solvency says that a pool never pays too much. Here is the other side of it: a pool keeps nothing of
its lenders but what rounding leaves.

Some entitlements are `Full`: nothing is collected when their phase opens, and every collection pays
the whole share. Of these, what was paid and what is owed always add up to the same
(`Entitlement.Full.conserved`). The lenders' refunds and sp tokens are of this kind, and so are the
deposits of an undone pool. The shares of the borrowers are not: their refund and their claim share
one flag.
-/

namespace Pledge.Contract

open Pledge.Evm Pledge.Arith

/-! ## Entitlements that are paid in full

An entitlement that can be taken once is either taken or outstanding. When all of it is counted at
its face value, the two together are the whole. -/

namespace Book

variable {b b' : Book} {a : Act}

/-- A pool that leaves `MATCH` has paid nothing. -/
theorem Step.untouched (hs : Step b a b') (hsound : b.Sound) (hm : b.pool.state = .matching)
    (hleft : b'.pool.state ≠ .matching) : b'.Untouched := by
  have hclean := hsound.untouched hm
  cases hs with
  | settle | undo => exact ⟨hclean.lend, hclean.borrow⟩
  | create hfresh => exact absurd hfresh.state hleft
  | finish hstate | liquidate hstate =>
      rw [hm] at hstate
      cases hstate
  | _ => exact absurd hm hleft

theorem Step.undoes (hs : Step b a b') (hbefore : b.pool.state ≠ .undone)
    (hafter : b'.pool.state = .undone) : b.pool.state = .matching := by
  cases hs with
  | undo hstate => exact hstate
  | create => rfl
  | settle | finish | liquidate => cases hafter
  | _ => exact absurd hafter hbefore

end Book

/-- Nothing is collected when the phase opens, and every collection is of the whole share. -/
structure Entitlement.Full (E : Entitlement) : Prop where
  opening : ∀ {b a b'}, Book.Step b a b' → b.Sound → ¬ E.phase b.pool.state →
    E.phase b'.pool.state → ∀ u, E.collected b' u = false
  during : ∀ {b a b'}, Book.Step b a b' → b.Sound → E.phase b.pool.state →
    E.pays a = 0 ∧ E.collected b' = E.collected b ∨
      ∃ u ∈ E.members b, E.collected b u = false ∧ E.pays a = E.share b u ∧
        E.collected b' = Function.update (E.collected b) u true

namespace Entitlement.Full

variable {E : Entitlement}

/-- **One action**: what is paid is exactly what is no longer owed. -/
theorem step (hE : E.Full) {b b' : Book} {a : Act} (hs : Book.Step b a b') (hsound : b.Sound)
    (hphase : E.phase b.pool.state) :
    E.pays a + tally (E.members b') (E.owed b') = tally (E.members b) (E.owed b) := by
  obtain ⟨-, hmembers, hshare, -⟩ := E.during hs hsound hphase
  rw [hmembers]
  rcases hE.during hs hsound hphase with ⟨h0, hsame⟩ | ⟨u, hu, hfree, hpays, htaken⟩
  · have howed : E.owed b' = E.owed b := by
      funext v
      unfold Entitlement.owed
      rw [hsame, hshare]
    rw [h0, howed, Nat.zero_add]
  · -- the collector's share leaves the sum, and it is what was paid
    have howed : E.owed b' = Function.update (E.owed b) u 0 := by
      funext v
      unfold Entitlement.owed
      rw [htaken, hshare]
      by_cases hv : v = u
      · subst hv
        simp
      · simp [Function.update_of_ne hv]
    have hcollect := tally_collect (E.nodup hsound) hu (E.owed b)
    have hwhole : E.owed b u = E.share b u := by simp [Entitlement.owed, hfree]
    rw [howed, hpays]
    omega

/-- **What was paid and what is owed are the shares**, all along the phase. -/
theorem conserved (hE : E.Full) {acts : List Act} {b : Book} (hrun : Run Book.Step {} acts b)
    (hphase : E.phase b.pool.state) :
    total E.pays acts + tally (E.members b) (E.owed b) = tally (E.members b) (E.share b) := by
  have hI : b.Sound ∧ (E.phase b.pool.state →
        total E.pays acts + tally (E.members b) (E.owed b) = tally (E.members b) (E.share b)) ∧
      (¬ E.phase b.pool.state → total E.pays acts = 0) := by
    refine hrun.invariant
      (I := fun acts b => b.Sound ∧ (E.phase b.pool.state →
          total E.pays acts + tally (E.members b) (E.owed b) = tally (E.members b) (E.share b)) ∧
        (¬ E.phase b.pool.state → total E.pays acts = 0)) ?_ ?_
    · exact ⟨.blank _ rfl rfl, fun h => absurd h E.start, fun _ => rfl⟩
    · intro acts b a b' ⟨hsound, hin, hout⟩ hs
      refine ⟨hsound.step hs, ?_, ?_⟩ <;> intro hphase'
      · rw [total_snoc]
        by_cases hphase : E.phase b.pool.state
        · have hstep := hE.step hs hsound hphase
          obtain ⟨-, hmembers, hshare, -⟩ := E.during hs hsound hphase
          have := hin hphase
          rw [hmembers] at hstep ⊢
          rw [hshare]
          omega
        · -- when the phase opens, everything is owed and nothing was paid
          have hfree := hE.opening hs hsound hphase hphase'
          have howed : E.owed b' = E.share b' := by
            funext u
            simp [Entitlement.owed, hfree u]
          rw [hout hphase, E.outside hs hphase, howed, Nat.zero_add]
      · have hphase : ¬ E.phase b.pool.state := fun h => hphase' (E.during hs hsound h).1
        rw [total_snoc, hout hphase, E.outside hs hphase]
  exact hI.2.1 hphase

end Entitlement.Full

/-! ## The lenders' entitlements, and those of an undone pool

The instances: refunds and claims of the lenders, and the emergency withdrawals of both sides. -/

section Full

variable {b b' : Book} {a : Act}

/-- A change of one lender's record that marks it. -/
theorem Book.setLendInfo_marks {u : Address} {info : LendInfo} (f : LendInfo → Bool)
    (hf : f info = true) :
    (fun v => f ((b.setLendInfo u info).lendInfo v)) =
      Function.update (fun v => f (b.lendInfo v)) u true := by
  funext v
  by_cases hv : v = u
  · subst hv
    simp [Book.setLendInfo, hf]
  · simp [Book.setLendInfo, hv]

/-- A change of one lender's record that leaves the mark alone. -/
theorem Book.setLendInfo_spares {u : Address} {info : LendInfo} (f : LendInfo → Bool)
    (hf : f info = f (b.lendInfo u)) :
    (fun v => f ((b.setLendInfo u info).lendInfo v)) = fun v => f (b.lendInfo v) := by
  funext v
  by_cases hv : v = u
  · subst hv
    simp [Book.setLendInfo, hf]
  · simp [Book.setLendInfo, hv]

theorem lendRefunds_full : lendRefunds.Full where
  opening hs hsound hopen hsettled u :=
    ((hs.untouched hsound (hs.settles hopen hsettled).1 hsettled.ne_matching).lend u).2.2
  during hs hsound hphase := by
    cases hs with
    | refundLend hstate hamount hflag =>
        exact .inr ⟨_, (hsound.lenders.mem _).mpr hamount, hflag, rfl,
          Book.setLendInfo_marks LendInfo.refunded rfl⟩
    | claimLend => exact .inl ⟨rfl, Book.setLendInfo_spares LendInfo.refunded rfl⟩
    | lend hstate => exact absurd hstate hphase.ne_matching
    | emergencyLend hstate => exact absurd hstate hphase.ne_undone
    | create => exact absurd hphase PoolState.matching_unsettled
    | _ => exact .inl ⟨rfl, rfl⟩

theorem spClaims_full : spClaims.Full where
  opening hs hsound hopen hsettled u :=
    ((hs.untouched hsound (hs.settles hopen hsettled).1 hsettled.ne_matching).lend u).1
  during hs hsound hphase := by
    cases hs with
    | claimLend hstate hamount hflag =>
        exact .inr ⟨_, (hsound.lenders.mem _).mpr hamount, hflag, rfl,
          Book.setLendInfo_marks LendInfo.claimed rfl⟩
    | refundLend => exact .inl ⟨rfl, Book.setLendInfo_spares LendInfo.claimed rfl⟩
    | lend hstate => exact absurd hstate hphase.ne_matching
    | emergencyLend hstate => exact absurd hstate hphase.ne_undone
    | create => exact absurd hphase PoolState.matching_unsettled
    | _ => exact .inl ⟨rfl, rfl⟩

theorem emergencyLends_full : emergencyLends.Full where
  opening hs hsound hopen hundone u :=
    ((hs.untouched hsound (hs.undoes hopen hundone) (by rw [hundone]; decide)).lend u).2.2
  during hs hsound hphase := by
    cases hs with
    | emergencyLend hstate hamount hflag =>
        exact .inr ⟨_, (hsound.lenders.mem _).mpr hamount, hflag, rfl,
          Book.setLendInfo_marks LendInfo.refunded rfl⟩
    | refundLend hstate | claimLend hstate => exact absurd hphase hstate.ne_undone
    | lend hstate =>
        rw [hstate] at hphase
        cases hphase
    | create => cases hphase
    | _ => exact .inl ⟨rfl, rfl⟩

theorem emergencyBorrows_full : emergencyBorrows.Full where
  opening hs hsound hopen hundone u :=
    ((hs.untouched hsound (hs.undoes hopen hundone) (by rw [hundone]; decide)).borrow u).1
  during hs hsound hphase := by
    cases hs with
    | @emergencyBorrow _ u hstate hamount hflag =>
        refine .inr ⟨u, (hsound.borrowers.mem _).mpr hamount, hflag, rfl, ?_⟩
        funext v
        by_cases hv : v = u
        · subst hv
          simp [emergencyBorrows, Book.setBorrowInfo]
        · simp [emergencyBorrows, Book.setBorrowInfo, hv]
    | refundBorrow hstate | claimBorrow hstate => exact absurd hphase hstate.ne_undone
    | borrow hstate | liquidate hstate =>
        rw [hstate] at hphase
        cases hphase
    | create => cases hphase
    | _ => exact .inl ⟨rfl, rfl⟩

end Full

/-! ## Redemptions from below

A redemption is rounded down, so what is left of a pot is what is owed and at most one unit for each
redemption that was made. -/

namespace Redemption

/-- The action redeems claim tokens. -/
def times (R : Redemption) (a : Act) : Nat := if R.burns a = 0 then 0 else 1

/-- A payment is rounded down by less than one. -/
def Tight (R : Redemption) : Prop :=
  ∀ {b a b'}, Book.Step b a b' → b.pool.state.Closed →
    R.pot b.pool * R.burns a ≤ (R.pays a + R.times a) * R.whole b.pool

/-- A payment for `burned` tokens, from below. -/
theorem le_times {pot burned whole : Nat} (hwhole : whole ≠ 0) :
    pot * burned ≤ (pot * burned / whole + if burned = 0 then 0 else 1) * whole := by
  by_cases h0 : burned = 0
  · subst h0
    simp
  · rw [if_neg h0, Nat.mul_comm (_ + 1)]
    exact (Nat.lt_mul_div_succ _ (Nat.pos_of_ne_zero hwhole)).le

theorem lendRedemptions_tight : lendRedemptions.Tight := by
  intro b a b' hs hclosed
  cases hs with
  | withdrawLend _ _ hsettle => exact le_times hsettle
  | create => exact absurd hclosed PoolState.matching_open
  | _ => exact Nat.zero_le _

theorem borrowRedemptions_tight : borrowRedemptions.Tight := by
  intro b a b' hs hclosed
  cases hs with
  | withdrawBorrow _ htotal => exact le_times htotal
  | create => exact absurd hclosed PoolState.matching_open
  | _ => exact Nat.zero_le _

variable {R : Redemption} {acts : List Act} {b : Book}

/-- **Redemptions are rounded down by less than one each**: for the tokens burned so far, what was paid
falls short of the proportional part of the pot by less than one for each payment. -/
theorem Tight.lower (hR : R.Tight) (hrun : Run Book.Step {} acts b) (hclosed : b.pool.state.Closed) :
    R.pot b.pool * total R.burns acts ≤
      (total R.pays acts + total R.times acts) * R.whole b.pool := by
  have hI : (b.pool.state.Closed → R.pot b.pool * total R.burns acts ≤
        (total R.pays acts + total R.times acts) * R.whole b.pool) ∧
      (¬ b.pool.state.Closed → total R.burns acts = 0) := by
    refine hrun.invariant
      (I := fun acts b => (b.pool.state.Closed → R.pot b.pool * total R.burns acts ≤
          (total R.pays acts + total R.times acts) * R.whole b.pool) ∧
        (¬ b.pool.state.Closed → total R.burns acts = 0)) ?_ ?_
    · exact ⟨fun h => absurd h PoolState.matching_open, fun _ => rfl⟩
    · intro acts b a b' ⟨hin, hout⟩ hs
      rw [total_snoc, total_snoc, total_snoc]
      by_cases hopen : b.pool.state.Closed
      · have hstate := hs.progress.path.closed hopen
        obtain ⟨hpot, hwhole, -⟩ := R.during hs hopen
        refine ⟨fun _ => ?_, fun h => absurd (hstate ▸ hopen) h⟩
        have hstep := hR hs hopen
        have := hin hopen
        rw [hpot, hwhole, Nat.mul_add]
        calc R.pot b.pool * total R.burns acts + R.pot b.pool * R.burns a
            ≤ (total R.pays acts + total R.times acts) * R.whole b.pool +
              (R.pays a + R.times a) * R.whole b.pool := Nat.add_le_add this hstep
          _ = (total R.pays acts + R.pays a + (total R.times acts + R.times a)) *
                R.whole b.pool := by ring
      · -- up to here nothing was burned, and this action burns nothing
        rw [hout hopen, (R.outside hs hopen).2]
        exact ⟨fun _ => Nat.zero_le _, fun _ => rfl⟩
  exact hI.1 hclosed

/-- What was paid, and the part of the tokens that are left, are within the pot. -/
theorem shared_le (hrun : Run Book.Step {} acts b) (hclosed : b.pool.state.Closed) {rest : Nat}
    (hrest : rest + total R.burns acts ≤ R.whole b.pool) :
    total R.pays acts + R.pot b.pool * rest / R.whole b.pool ≤ R.pot b.pool := by
  obtain ⟨hpaid, hzero⟩ := (R.within hrun).1 hclosed
  rcases Nat.eq_zero_or_pos (R.whole b.pool) with h0 | hpos
  · simp [hzero h0, h0]
  · have hscaled : R.pot b.pool * rest + total R.pays acts * R.whole b.pool ≤
        R.pot b.pool * R.whole b.pool := by
      calc R.pot b.pool * rest + total R.pays acts * R.whole b.pool
          ≤ R.pot b.pool * rest + R.pot b.pool * total R.burns acts := Nat.add_le_add_left hpaid _
        _ = R.pot b.pool * (rest + total R.burns acts) := (Nat.mul_add ..).symm
        _ ≤ R.pot b.pool * R.whole b.pool := Nat.mul_le_mul_left _ hrest
    have hdiv := Nat.div_le_div_right (c := R.whole b.pool) hscaled
    rwa [Nat.add_mul_div_right _ _ hpos, Nat.mul_div_cancel _ hpos, Nat.add_comm] at hdiv

/-- What was paid, and the part of the tokens that are left, are the pot, but for rounding. -/
theorem Tight.le_shared (hR : R.Tight) (hrun : Run Book.Step {} acts b)
    (hclosed : b.pool.state.Closed) (hpos : 0 < R.whole b.pool) {rest : Nat}
    (hrest : R.whole b.pool ≤ rest + total R.burns acts) :
    R.pot b.pool ≤ total R.pays acts + total R.times acts + R.pot b.pool * rest / R.whole b.pool := by
  have hlower := hR.lower hrun hclosed
  have hscaled : R.pot b.pool * R.whole b.pool ≤
      R.pot b.pool * rest + (total R.pays acts + total R.times acts) * R.whole b.pool := by
    calc R.pot b.pool * R.whole b.pool
        ≤ R.pot b.pool * (rest + total R.burns acts) := Nat.mul_le_mul_left _ hrest
      _ = R.pot b.pool * rest + R.pot b.pool * total R.burns acts := Nat.mul_add ..
      _ ≤ _ := Nat.add_le_add_left hlower _
  have hdiv := Nat.div_le_div_right (c := R.whole b.pool) hscaled
  rwa [Nat.add_mul_div_right _ _ hpos, Nat.mul_div_cancel _ hpos, Nat.add_comm] at hdiv

end Redemption

/-! ## The books of the lenders

The deposits of all lenders are what was lent and what is in excess, up to the roundings of the
shares. -/

/-- The refunds that the lenders of a pool have not collected. -/
def Book.refundsDue (b : Book) : Nat := tally b.lenders (lendRefunds.owed b)

/-- The sp tokens that the lenders of a pool have not claimed. -/
def Book.claimsDue (b : Book) : Nat := tally b.lenders (spClaims.owed b)

/-- **What lenders were paid and what they can still get is all there is for them**, but for what
rounding leaves: less than one unit for each lender's refund, at most one for each redemption, and
the worth of less than one sp token for each lender. -/
theorem Book.deposits_accounted {acts : List Act} {b : Book} (hrun : Run Book.Step {} acts b)
    (hsettlement : b.Settlement) (hclosed : b.pool.state.Closed)
    (hzero : b.pool.settleAmountLend = 0 → b.pool.lendPot = 0) {held : Nat}
    (hheld : held + total Act.spBurned acts = total Act.spMinted acts) :
    total Act.lendRefunded acts + total Act.lendRedeemed acts + b.refundsDue +
          b.pool.lendPot * (b.claimsDue + held) / b.pool.settleAmountLend ≤
        b.pool.lendSupply - b.pool.settleAmountLend + b.pool.lendPot ∧
      b.pool.lendSupply - b.pool.settleAmountLend + b.pool.lendPot <
        total Act.lendRefunded acts + total Act.lendRedeemed acts + b.refundsDue +
            b.pool.lendPot * (b.claimsDue + held + b.lenders.length) / b.pool.settleAmountLend +
          b.lenders.length + total lendRedemptions.times acts := by
  have hsettled := hclosed.settled
  have hsound : b.Sound := (lendRefunds.within hrun).1
  have hsupply : tally b.lenders b.lent = b.pool.lendSupply := hsound.lendSupply.symm
  have hpos := (hsettlement.supplied hsettled).1
  -- refunds and claims: the shares are the whole, but for rounding
  have hrefunds : total Act.lendRefunded acts + b.refundsDue =
      tally b.lenders (lendRefunds.share b) := lendRefunds_full.conserved hrun hsettled
  have hclaims : total Act.spMinted acts + b.claimsDue = tally b.lenders (spClaims.share b) :=
    spClaims_full.conserved hrun hsettled
  have hrefunds_le : tally b.lenders (lendRefunds.share b) ≤
      b.pool.lendSupply - b.pool.settleAmountLend := tally_share_le hsupply.le _
  have hclaims_le : tally b.lenders (spClaims.share b) ≤ b.pool.settleAmountLend :=
    tally_share_le hsupply.le _
  have hrefunds_lt : b.pool.lendSupply - b.pool.settleAmountLend <
      tally b.lenders (lendRefunds.share b) + b.lenders.length := lt_tally_share hsupply hpos _
  have hclaims_lt : b.pool.settleAmountLend <
      tally b.lenders (spClaims.share b) + b.lenders.length := lt_tally_share hsupply hpos _
  -- the pot: what was redeemed is the part of the burned tokens, but for rounding
  have hpot_le : total Act.lendRedeemed acts +
      b.pool.lendPot * (b.claimsDue + held) / b.pool.settleAmountLend ≤ b.pool.lendPot := by
    apply Redemption.shared_le (R := lendRedemptions) hrun hclosed
    show _ + total Act.spBurned acts ≤ b.pool.settleAmountLend
    omega
  have hpot_lower : b.pool.lendPot ≤
      total Act.lendRedeemed acts + total lendRedemptions.times acts +
        b.pool.lendPot * (b.claimsDue + held + b.lenders.length) / b.pool.settleAmountLend := by
    rcases Nat.eq_zero_or_pos b.pool.settleAmountLend with h0 | hloan
    · rw [hzero h0]
      exact Nat.zero_le _
    · apply Redemption.lendRedemptions_tight.le_shared hrun hclosed hloan
      show b.pool.settleAmountLend ≤ _ + total Act.spBurned acts
      omega
  constructor <;> omega

/-! ## What the receipts show

Payments are counted by what the transfers of the contract show, and the calls say what each payment
was for. -/

/-- What a settled pool pays its users for. -/
inductive Payout
  | lendRefund
  | lendRedemption
  | loan
  | borrowRefund
  | borrowRedemption

/-- The asset it is paid in. -/
def Payout.asset (lendToken borrowToken : Address) : Payout → Address
  | .lendRefund | .lendRedemption | .loan => lendToken
  | .borrowRefund | .borrowRedemption => borrowToken

/-- The call pays it out of `p`. -/
def Call.pays (p : Nat) : Payout → Call → Bool
  | .lendRefund, .refundLend q => q = p
  | .lendRedemption, .withdrawLend q _ => q = p
  | .loan, .claimBorrow q => q = p
  | .borrowRefund, .refundBorrow q => q = p
  | .borrowRedemption, .withdrawBorrow q _ => q = p
  | _, _ => false

/-- The amount an action pays of it. -/
def Act.paid : Payout → Act → Nat
  | .lendRefund => Act.lendRefunded
  | .lendRedemption => Act.lendRedeemed
  | .loan => Act.loaned
  | .borrowRefund => Act.borrowRefunded
  | .borrowRedemption => Act.borrowRedeemed

/-- The call puts another claim token into the pool `p`. -/
def Call.replaces (p : Nat) : Side → Call → Bool
  | .lend, .setPoolSpToken q _ => q = p
  | .borrow, .setPoolJpToken q _ => q = p
  | _, _ => false

/-- The transaction redeems claim tokens of `p`. -/
def Event.redeems (p : Nat) (side : Side) (e : Event) : Nat :=
  if e.accepted p side = 0 then 0 else 1

/-- The transaction leaves the claim token of `p` in its place. -/
def Event.Keeps (p : Nat) (side : Side) : Event → Prop
  | .call _ c _ => c.replaces p side = false
  | .outside => True

instance (p : Nat) (side : Side) (e : Event) : Decidable (e.Keeps p side) := by
  unfold Event.Keeps
  split <;> infer_instance

section Receipts

variable {env : Env} {s : Storage} {c : Call} {moves : List Move} {p : Nat} {k : Payout} {side : Side}
  {a : Act} {w w' : World} {e : Event}

theorem Call.pays_poolId (h : c.pays p k = true) : c.poolId = some p := by
  apply Call.related
  cases k with
  | lendRefund | lendRedemption | loan =>
      left
      cases c <;> first | exact h | cases h
  | borrowRefund | borrowRedemption =>
      right
      left
      cases c <;> first | exact h | cases h

theorem Act.Shown.pays (h : a.Shown env s p c moves) :
    (if c.pays p k then
      (moves.map (Move.sent env.this (k.asset (s.pools p).settleToken (s.pools p).pledgeToken))).sum
    else 0) = a.paid k := by
  have hother (hc : c.poolId ≠ some p) : c.pays p k = false :=
    Bool.eq_false_iff.mpr fun hpays => hc (Call.pays_poolId hpays)
  cases a with
  | idle =>
      rw [hother h]
      cases k <;> rfl
  | create =>
      rw [hother h.create_poolId]
      cases k <;> rfl
  | configure =>
      obtain ⟨⟨t, rfl | rfl⟩, -⟩ := h <;> cases k <;> rfl
  | lend | borrow =>
      obtain ⟨-, amount, rfl, -⟩ := h
      cases k <;> rfl
  | refundLend | withdrawLend | refundBorrow =>
      obtain ⟨rfl, rfl⟩ := h
      cases k <;>
        simp [Call.pays, Payout.asset, Move.sent, Act.paid, Act.lendRefunded, Act.lendRedeemed,
          Act.loaned, Act.borrowRefunded, Act.borrowRedeemed]
  | claimBorrow | withdrawBorrow =>
      -- what is not positive is not paid
      obtain ⟨rfl, rfl⟩ := h
      cases k <;> try rfl
      all_goals
        simp only [Call.pays, decide_true, if_true, List.map_append, List.sum_append]
        split <;> split <;>
          simp [Payout.asset, Move.sent, Act.paid, Act.loaned, Act.borrowRedeemed]
        all_goals omega
  | _ =>
      obtain ⟨rfl, -⟩ := h
      cases k <;> rfl

/-- A pool that was created exists. -/
theorem Storage.InOrder.exists_of_valid (h : s.InOrder) (hvalid : (s.pools p).Valid) :
    s.Exists p := by
  by_contra hex
  have hblank : s.pools p = {} := congrArg Book.pool (h.blank p hex)
  rw [hblank] at hvalid
  exact hvalid.settleToken rfl

theorem Acted.keeps (h : Acted p w e a w') (hvalid : (w.store.pools p).Valid)
    (hkeeps : e.Keeps p side) :
    (w'.store.pools p).claimToken side = (w.store.pools p).claimToken side := by
  cases e with
  | outside =>
      have hstep := h.step
      rw [h.outside rfl] at hstep
      exact congrArg (·.pool.claimToken side) hstep.idle_eq
  | call env c ts =>
      obtain ⟨-, moves, heff, -, -⟩ := h.shown env c ts rfl
      rcases heff.assigned h.inOrder.blank p side with hsame | ⟨hassigns, -⟩
      · exact hsame
      · have hex := h.inOrder.exists_of_valid hvalid
        cases c with
        | createPoolInfo =>
            cases side <;>
            · obtain ⟨rfl, -⟩ := Option.ite_none_right_eq_some.mp hassigns
              exact absurd hex.2 (Nat.not_succ_le_self _)
        | setPoolSpToken q t | setPoolJpToken q t =>
            cases side with
            | lend | borrow =>
                first
                | cases hassigns
                | obtain ⟨rfl, -⟩ := Option.ite_none_right_eq_some.mp hassigns
                  exact absurd hkeeps (by simp [Event.Keeps, Call.replaces])
        | _ => cases side <;> cases hassigns

/-- The payouts are those that the receipts show. -/
theorem DedicatedStep.pays {lendToken borrowToken : Address} {l : Event × Act}
    (h : DedicatedStep p lendToken borrowToken w l w') :
    l.1.tokens .sent (Call.pays p k) (k.asset lendToken borrowToken) = l.2.paid k := by
  obtain ⟨halive, ⟨hx, hok⟩, ha⟩ := h
  rw [← halive.settleToken, ← halive.pledgeToken]
  apply ha.tokens_eq hx hok ?_ (fun c hc => Call.pays_poolId hc) (by cases k <;> rfl)
  · intro env c moves hshown
    exact hshown.pays
  · cases k with
    | lendRefund | lendRedemption | loan => exact .inl rfl
    | borrowRefund | borrowRedemption => exact .inr rfl

/-- The redemptions are those that the receipts show. -/
theorem Acted.redeems (h : Acted p w e a w') :
    e.redeems p side = if a.burned side = 0 then 0 else 1 := by
  unfold Event.redeems
  rw [h.accepted]

end Receipts

/-! ## From creation on

The balance is what came in less what went out. What came in is known from the books, and so is what
is still owed. -/

/-- Steps of a pool whose claim tokens are dedicated to it and whose claim token of one side is not
replaced, labelled with its actions. -/
abbrev KeptStep (p : Nat) (side : Side) (lendToken borrowToken : Address) (w : World)
    (l : Event × Act) (w' : World) : Prop :=
  DedicatedStep p lendToken borrowToken w l w' ∧ l.1.Keeps p side

/-- What is known of the claim token of one side after a run: it is in its place, and all its holdings
are what the pool minted less what it burned. -/
structure Outstanding (p : Nat) (side : Side) (token : Address) (ls : List (Event × Act)) (w : World) :
    Prop where
  slot : (w.store.pools p).claimToken side = token
  covered : total (fun l => l.2.burned side) ls ≤ total (fun l => l.2.minted side) ls
  holdings : Holdings.SumsTo (w.ledger.balance token)
    (total (fun l => l.2.minted side) ls - total (fun l => l.2.burned side) ls)

section Outstanding

variable {p : Nat} {side : Side} {lendToken borrowToken token : Address} {ls : List (Event × Act)}
  {l : Event × Act} {w w' w₁ : World}

theorem Outstanding.step (hne : token ≠ 0) (h : Outstanding p side token ls w)
    (hs : KeptStep p side lendToken borrowToken w l w') :
    Outstanding p side token (ls ++ [l]) w' := by
  obtain ⟨⟨halive, ⟨hx, hok⟩, ha⟩, hkeeps⟩ := hs
  have hsame := (ha.keeps halive.valid hkeeps).trans h.slot
  -- the sum of all holdings is one way to count them
  obtain ⟨hle, hsum⟩ := ha.tallied Holdings.sumsTo_tallied hx (hok side) (h.slot.trans_ne hne)
    (h.slot.symm ▸ h.holdings)
  rw [h.slot] at hsum
  have hcovered := h.covered
  refine ⟨hsame, ?_, ?_⟩
  · rw [total_snoc, total_snoc]
    omega
  · rw [total_snoc, total_snoc]
    have hcount : total (fun l => l.2.minted side) ls + l.2.minted side -
        (total (fun l => l.2.burned side) ls + l.2.burned side) =
      total (fun l => l.2.minted side) ls - total (fun l => l.2.burned side) ls +
        l.2.minted side - l.2.burned side := by omega
    rw [hcount]
    exact hsum

/-- From a token without holdings on, the holdings are what the pool minted less what it burned. -/
theorem outstanding (hne : token ≠ 0) (hslot : (w₁.store.pools p).claimToken side = token)
    (hfresh : ∀ u, w₁.ledger.balance token u = 0)
    (hrun : Run (KeptStep p side lendToken borrowToken) w₁ ls w) : Outstanding p side token ls w := by
  refine hrun.invariant (I := Outstanding p side token) ?_ fun h hs => h.step hne hs
  exact ⟨hslot, Nat.le_refl _, .zero hfresh⟩

end Outstanding

/-- The lenders' account after a run, when all accounts together hold `held` sp tokens. What the
lenders were paid, the refunds they have not collected, and the worth of the sp tokens that are held
or not claimed come to the lend supply that was not lent and the lenders' pot. What rounding leaves
is less than one for each lender and each redemption, and the worth of one sp token for each lender.
-/
structure LendersAccounted (p : Nat) (lendToken : Address) (es : List Event) (w : World)
    (held : Nat) : Prop where
  within : total (Event.tokens .sent (Call.pays p .lendRefund) lendToken) es +
      total (Event.tokens .sent (Call.pays p .lendRedemption) lendToken) es +
      (w.store.book p).refundsDue +
      (w.store.pools p).lendPot * ((w.store.book p).claimsDue + held) /
        (w.store.pools p).settleAmountLend ≤
    (w.store.pools p).lendSupply - (w.store.pools p).settleAmountLend + (w.store.pools p).lendPot
  rounding : (w.store.pools p).lendSupply - (w.store.pools p).settleAmountLend +
      (w.store.pools p).lendPot <
    total (Event.tokens .sent (Call.pays p .lendRefund) lendToken) es +
      total (Event.tokens .sent (Call.pays p .lendRedemption) lendToken) es +
      (w.store.book p).refundsDue +
      (w.store.pools p).lendPot *
          ((w.store.book p).claimsDue + held + (w.store.lenders p).length) /
        (w.store.pools p).settleAmountLend +
      (w.store.lenders p).length + total (Event.redeems p .lend) es

/-- Without a loan there is nothing to repay. -/
theorem Pool.Repaid.lendPot_zero {pool : Pool} {p : Nat} {es : List Event} (h : pool.Repaid p es)
    (hclosed : pool.state.Closed) (h0 : pool.settleAmountLend = 0) : pool.lendPot = 0 := by
  have hnone (duration : Nat) : pool.repayment duration = 0 := by simp [Pool.repayment, h0]
  unfold Pool.lendPot
  rcases hclosed with hf | hl
  · rw [if_pos hf, h.finish hf, hnone]
  · obtain ⟨env, ts, -, hpot⟩ := h.liquidation hl
    rw [if_neg (by simp [hl]), hpot, hnone]

/-- **Lenders are owed nothing that they cannot get.** From the creation of a pool by
`createPoolInfo`, with claim tokens that have no holdings then, are dedicated to it and are not
replaced on the lenders' side, on every honest run that brings it to `FINISH` or `LIQUIDATION`: what
its lenders were paid and what they can still get are all that the pool has for them, but for what
rounding leaves. -/
theorem lenders_accounted {admin multiSignature : Address} {ledger : Ledger} {es₀ es : List Event}
    {w₀ w₁ w : World} {env : Env} {settleTime endTime interestRate maxSupply martgageRate : Nat}
    {lendToken borrowToken spToken jpToken : Address} {autoLiquidateThreshold : Nat}
    {ts : List Transfer} {p : Nat}
    (hreach : Run RegularStep (deployed admin multiSignature ledger) es₀ w₀)
    (hcreate : RegularStep w₀ (.call env (.createPoolInfo settleTime endTime interestRate maxSupply
      martgageRate lendToken borrowToken spToken jpToken autoLiquidateThreshold) ts) w₁)
    (hp : p = w₀.store.poolCounter + 1) (hsp : ∀ u, w₀.ledger.balance spToken u = 0)
    (hrun : Run (Restrict Step fun w e w' =>
      e.Honest ∧ (∀ side, Dedicated p side w e w') ∧ e.Keeps p .lend) w₁ es w)
    (hclosed : (w.store.pools p).state.Closed) :
    ∃ held, Holdings.SumsTo (w.ledger.balance spToken) held ∧
      LendersAccounted p lendToken es w held := by
  have hin₀ := reachable_inOrder hreach
  have hin₁ := hcreate.inOrder hin₀
  obtain ⟨hledger, halive₁, hspToken, -, hfresh, hbook⟩ := hcreate.created hin₀ hp
  have hne : spToken ≠ 0 := hcreate.spToken_ne
  -- the run, labelled with the actions on the pool
  obtain ⟨ls, rfl, hlabelled⟩ := run_acted (fun h => h.1.regular) hin₁ p hrun
  have halong : Run (KeptStep p .lend lendToken borrowToken) w₁ ls w :=
    (hlabelled.along halive₁ fun h hs => h.step hs.2).mono fun hs =>
      ⟨⟨hs.1, ⟨hs.2.1.1, hs.2.1.2.1⟩, hs.2.2⟩, hs.2.1.2.2⟩
  have hbooks := Acted.books hfresh hbook (halong.mono fun hs => hs.1.2.2)
  have hin : w.store.InOrder :=
    run_inOrder hin₁ (hrun.mono fun hs => ⟨hs.1, hs.2.1.regular⟩)
  -- the creation itself moves nothing
  have hdrop (f : Act → Nat) (h0 : f (.create (w₁.store.pools p)) = 0) :
      total f ([.create (w₁.store.pools p)] ++ ls.map Prod.snd) = total (fun l => f l.2) ls := by
    simp [total, h0, Function.comp_def]
  have hheld := outstanding hne hspToken (hledger ▸ hsp) halong
  have hrepaid : (w.store.pools p).Repaid p (ls.map Prod.fst) := by
    refine halong.invariant (I := fun ls w => (w.store.pools p).Repaid p (ls.map Prod.fst)) ?_ ?_
    · apply Pool.Repaid.of_open
      rw [hfresh.state]
      exact PoolState.matching_open
    · intro ls w l w' h hs
      rw [List.map_append]
      exact hs.1.2.2.repaid h
  have hrefunded : total (Event.tokens .sent (Call.pays p .lendRefund) lendToken) (ls.map Prod.fst) =
      total (fun l => l.2.lendRefunded) ls := by
    rw [total_map]
    exact halong.total_eq fun hs => hs.1.pays
  have hredeemed : total (Event.tokens .sent (Call.pays p .lendRedemption) lendToken)
      (ls.map Prod.fst) = total (fun l => l.2.lendRedeemed) ls := by
    rw [total_map]
    exact halong.total_eq fun hs => hs.1.pays
  have hredeems : total (Event.redeems p .lend) (ls.map Prod.fst) =
      total (fun l => lendRedemptions.times l.2) ls := by
    rw [total_map]
    exact halong.total_eq fun hs => hs.1.2.2.redeems
  have hminted : total (fun l => l.2.minted .lend) ls - total (fun l => l.2.burned .lend) ls +
      total Act.spBurned ([.create (w₁.store.pools p)] ++ ls.map Prod.snd) =
        total Act.spMinted ([.create (w₁.store.pools p)] ++ ls.map Prod.snd) := by
    rw [hdrop _ rfl, hdrop _ rfl]
    exact Nat.sub_add_cancel hheld.covered
  obtain ⟨hwithin, hrounding⟩ := Book.deposits_accounted hbooks (hin.settlement p) hclosed
    (hrepaid.lendPot_zero hclosed) hminted
  rw [hdrop _ rfl, hdrop _ rfl] at hwithin
  rw [hdrop _ rfl, hdrop _ rfl, hdrop _ rfl] at hrounding
  refine ⟨_, hheld.holdings, ?_, ?_⟩
  · rw [hrefunded, hredeemed]
    exact hwithin
  · rw [hrefunded, hredeemed, hredeems]
    exact hrounding

theorem lenders_accounted_closing : ∃ held,
    Holdings.SumsTo ((World.afterCreation.play (World.supplies ++ World.closing)).ledger.balance 3)
        held ∧
      LendersAccounted 1 1 (World.afterCreation.events (World.supplies ++ World.closing))
        (World.afterCreation.play (World.supplies ++ World.closing)) held := by
  have hkeeps : ∀ e ∈ World.afterCreation.events (World.supplies ++ World.closing),
      e.Keeps 1 .lend := by decide +kernel
  exact lenders_accounted
    (World.setup_run.mono GuardedStep.regular)
    World.creation_honest.regular rfl
    (World.claim_tokens_fresh 3 (by decide))
    (World.closing_run.within.mono fun hs => ⟨hs.1.1, hs.1.2.1, hs.1.2.2.1, hkeeps _ hs.2⟩)
    (by decide +kernel)

/-! ## A pool that is undone

Nothing was lent, so both sides get back what they paid in. -/

namespace Book

/-- What the lenders of an undone pool have not withdrawn. -/
def lendDue (b : Book) : Nat := tally b.lenders (emergencyLends.owed b)

/-- What the borrowers of an undone pool have not withdrawn. -/
def pledgeDue (b : Book) : Nat := tally b.borrowers (emergencyBorrows.owed b)

/-- **An undone pool gives back what it took**, to the unit and on both sides. -/
theorem undone_balanced {acts : List Act} {b : Book} (hrun : Run Book.Step {} acts b)
    (hundone : b.pool.state = .undone) :
    total Act.settlePaid acts + b.lendDue = total Act.lent acts ∧
      total Act.pledgePaid acts + b.pledgeDue = total Act.pledged acts := by
  obtain ⟨hlent, hpledged⟩ := deposits hrun
  have hsound : b.Sound := (emergencyLends.within hrun).1
  have hst : ¬ b.pool.state.Settled := fun h => h.ne_undone hundone
  have hclosed : ¬ b.pool.state.Closed := fun h => hst h.settled
  -- nothing is paid but what is withdrawn
  have hsettlePaid : total Act.settlePaid acts = total Act.lendRefunded acts +
      total Act.loaned acts + total Act.lendRedeemed acts + total Act.emergencyLent acts := by
    rw [← total_add, ← total_add, ← total_add]
    rfl
  have hpledgePaid : total Act.pledgePaid acts = total Act.borrowRefunded acts +
      total Act.borrowRedeemed acts + total Act.emergencyBorrowed acts := by
    rw [← total_add, ← total_add]
    rfl
  have h₁ : total Act.lendRefunded acts = 0 := lendRefunds.eq_zero hrun hst
  have h₂ : total Act.loaned acts = 0 := loans.eq_zero hrun hst
  have h₃ : total Act.lendRedeemed acts = 0 := ((lendRedemptions.within hrun).2 hclosed).1
  have h₄ : total Act.borrowRefunded acts = 0 := borrowRefunds.eq_zero hrun hst
  have h₅ : total Act.borrowRedeemed acts = 0 := ((borrowRedemptions.within hrun).2 hclosed).1
  -- and of that everything is paid or still due
  have hlend : total Act.emergencyLent acts + b.lendDue = b.pool.lendSupply := by
    rw [hsound.lendSupply]
    exact emergencyLends_full.conserved hrun hundone
  have hpledge : total Act.emergencyBorrowed acts + b.pledgeDue = b.pool.borrowSupply := by
    rw [hsound.borrowSupply]
    exact emergencyBorrows_full.conserved hrun hundone
  omega

end Book

/-- **An undone pool gives back what it took.** From the creation of a pool by `createPoolInfo` with
dedicated claim tokens, on every honest run that ends in `UNDONE`: of either asset, what users were
paid and what they have not withdrawn is exactly what the pool received in deposits. -/
theorem undone_accounted {admin multiSignature : Address} {ledger : Ledger} {es₀ es : List Event}
    {w₀ w₁ w : World} {env : Env} {settleTime endTime interestRate maxSupply martgageRate : Nat}
    {lendToken borrowToken spToken jpToken : Address} {autoLiquidateThreshold : Nat}
    {ts : List Transfer} {p : Nat}
    (hreach : Run RegularStep (deployed admin multiSignature ledger) es₀ w₀)
    (hcreate : RegularStep w₀ (.call env (.createPoolInfo settleTime endTime interestRate maxSupply
      martgageRate lendToken borrowToken spToken jpToken autoLiquidateThreshold) ts) w₁)
    (hp : p = w₀.store.poolCounter + 1)
    (hrun : Run (Restrict Step fun w e w' => e.Honest ∧ ∀ side, Dedicated p side w e w') w₁ es w)
    (hundone : (w.store.pools p).state = .undone) :
    total (Event.tokens .sent (Call.paysSettle p) lendToken) es + (w.store.book p).lendDue =
        total (Event.tokens .received (Call.lends p) lendToken) es ∧
      total (Event.tokens .sent (Call.paysPledge p) borrowToken) es + (w.store.book p).pledgeDue =
        total (Event.tokens .received (Call.pledges p) borrowToken) es := by
  have hin₀ := reachable_inOrder hreach
  have hin₁ := hcreate.inOrder hin₀
  obtain ⟨-, halive₁, -, -, hfresh, hbook⟩ := hcreate.created hin₀ hp
  obtain ⟨ls, rfl, hlabelled⟩ := run_acted (fun h => h.1.regular) hin₁ p hrun
  have halong : Run (DedicatedStep p lendToken borrowToken) w₁ ls w :=
    hlabelled.along halive₁ fun h hs => h.step hs.2
  have hbooks := Acted.books hfresh hbook (halong.mono fun hs => hs.2.2)
  -- the creation itself moves nothing
  have hdrop (f : Act → Nat) (h0 : f (.create (w₁.store.pools p)) = 0) :
      total f ([.create (w₁.store.pools p)] ++ ls.map Prod.snd) = total (fun l => f l.2) ls := by
    simp [total, h0, Function.comp_def]
  have haccounted := Book.undone_balanced hbooks hundone
  rw [hdrop _ rfl, hdrop _ rfl, hdrop _ rfl, hdrop _ rfl] at haccounted
  rw [total_map, total_map, total_map, total_map, settlePaid_total halong, pledgePaid_total halong,
    lent_total halong, pledged_total halong]
  exact haccounted

namespace World

/-- Two lenders come, no borrower does, and the first lender leaves. -/
def unmatched : List (Setting × Call) :=
  [(setting 11 10 10, .depositLend 1 600),
    (setting 12 10 10, .depositLend 1 400),
    (setting 10 100 10, .settle 1),
    (setting 11 110 10, .emergencyLendWithdrawal 1)]

end World

theorem undone_accounted_unmatched :
    total (Event.tokens .sent (Call.paysSettle 1) 1) (World.afterCreation.events World.unmatched) +
          ((World.afterCreation.play World.unmatched).store.book 1).lendDue =
        total (Event.tokens .received (Call.lends 1) 1) (World.afterCreation.events World.unmatched) ∧
      total (Event.tokens .sent (Call.paysPledge 1) 2) (World.afterCreation.events World.unmatched) +
          ((World.afterCreation.play World.unmatched).store.book 1).pledgeDue =
        total (Event.tokens .received (Call.pledges 1) 2)
          (World.afterCreation.events World.unmatched) := by
  have hrun : Run (GuardedStep 1) World.afterCreation (World.afterCreation.events World.unmatched)
      (World.afterCreation.play World.unmatched) :=
    World.respected_run World.afterCreation_inOrder (by decide +kernel) (by decide +kernel)
  exact undone_accounted
    (World.setup_run.mono GuardedStep.regular)
    World.creation_honest.regular rfl
    (hrun.mono fun hs => ⟨hs.1, hs.2.1, hs.2.2.1⟩) (by decide +kernel)

end Pledge.Contract
