import Pledge.Contract.Bookkeeping

/-!
# What a pool can pay out

Over the life of one pool, every payment is of one of two kinds.

* An *entitlement* is collected once per account while the pool is in some phase: refunds, loans,
  claim tokens, emergency withdrawals. Its shares add up to no more than a budget
  (`Entitlement.within`).
* A *redemption* pays for burned claim tokens in proportion to a pot (`Redemption.within`).

Together with the deposits and the sale they give the solvency of the pool on its own
(`Solvency`), for any life in which no more claim tokens are burned than were minted.
-/

namespace Pledge.Contract

open Pledge.Evm Pledge.Arith

/-! ## Amounts of an action

Each of these reads one amount off an action and is zero for the actions that do not carry it.
Totals of them over a life are the quantities that the bounds are about. -/

namespace Act

def lent : Act → Nat
  | .lend _ n => n
  | _ => 0

def pledged : Act → Nat
  | .borrow _ n => n
  | _ => 0

def lendRefunded : Act → Nat
  | .refundLend _ n => n
  | _ => 0

def spMinted : Act → Nat
  | .claimLend _ n => n
  | _ => 0

def spBurned : Act → Nat
  | .withdrawLend n _ => n
  | _ => 0

def lendRedeemed : Act → Nat
  | .withdrawLend _ n => n
  | _ => 0

def emergencyLent : Act → Nat
  | .emergencyLend _ n => n
  | _ => 0

def borrowRefunded : Act → Nat
  | .refundBorrow _ n => n
  | _ => 0

def loaned : Act → Nat
  | .claimBorrow _ n _ => n
  | _ => 0

def jpMinted : Act → Nat
  | .claimBorrow _ _ n => n
  | _ => 0

def jpBurned : Act → Nat
  | .withdrawBorrow n _ => n
  | _ => 0

def borrowRedeemed : Act → Nat
  | .withdrawBorrow _ n => n
  | _ => 0

def emergencyBorrowed : Act → Nat
  | .emergencyBorrow _ n => n
  | _ => 0

/-- The settle tokens a sale raised for the pool. -/
def raised : Act → Nat
  | .finish n _ _ | .liquidate n _ _ => n
  | _ => 0

/-- The pledge tokens a sale took from the pool, with the fee. -/
def sold : Act → Nat
  | .finish _ n fee | .liquidate _ n fee => n + fee
  | _ => 0

/-- All settle tokens paid to users. -/
def settlePaid (a : Act) : Nat := a.lendRefunded + a.loaned + a.lendRedeemed + a.emergencyLent

/-- All pledge tokens paid to users. -/
def pledgePaid (a : Act) : Nat := a.borrowRefunded + a.borrowRedeemed + a.emergencyBorrowed

end Act

/-! ## After settlement the shares are fixed

A share is computed from the deposits and the settled amounts whenever it is asked for. That all
members can be served rests on these being constant from the settlement on, and on the flags going
up only. -/

namespace Book

/-- What one action cannot change once deposits are over. -/
structure Frozen (b b' : Book) : Prop where
  lenders : b'.lenders = b.lenders
  borrowers : b'.borrowers = b.borrowers
  lent : b'.lent = b.lent
  pledged : b'.pledged = b.pledged
  lendSupply : b'.pool.lendSupply = b.pool.lendSupply
  borrowSupply : b'.pool.borrowSupply = b.pool.borrowSupply
  settleAmountLend : b'.pool.settleAmountLend = b.pool.settleAmountLend
  settleAmountBorrow : b'.pool.settleAmountBorrow = b.pool.settleAmountBorrow
  pledgeRate : b'.pool.pledgeRate = b.pool.pledgeRate
  refunded : ∀ u, (b.lendInfo u).refunded = true → (b'.lendInfo u).refunded = true
  claimed : ∀ u, (b.lendInfo u).claimed = true → (b'.lendInfo u).claimed = true
  settled : ∀ u, (b.borrowInfo u).settled = true → (b'.borrowInfo u).settled = true

/-- Nothing changes. -/
theorem Frozen.refl (b : Book) : Frozen b b :=
  ⟨rfl, rfl, rfl, rfl, rfl, rfl, rfl, rfl, rfl, fun _ h => h, fun _ h => h, fun _ h => h⟩

/-- A record of a lender is written, with the amount kept and no flag taken back. -/
theorem Frozen.setLendInfo (b : Book) {u : Address} {info : LendInfo}
    (hamount : info.amount = (b.lendInfo u).amount)
    (hrefunded : (b.lendInfo u).refunded = true → info.refunded = true)
    (hclaimed : (b.lendInfo u).claimed = true → info.claimed = true) :
    Frozen b (b.setLendInfo u info) :=
  { Frozen.refl b with
    lent := setLendInfo_lent hamount
    refunded := fun v hv => by
      by_cases hvu : v = u
      · subst hvu
        simpa [Book.setLendInfo] using hrefunded hv
      · simpa [Book.setLendInfo, hvu] using hv
    claimed := fun v hv => by
      by_cases hvu : v = u
      · subst hvu
        simpa [Book.setLendInfo] using hclaimed hv
      · simpa [Book.setLendInfo, hvu] using hv }

/-- A record of a borrower is written, with the amount kept and the flag set. -/
theorem Frozen.setBorrowInfo (b : Book) {u : Address} {info : BorrowInfo}
    (hamount : info.pledgeAmount = (b.borrowInfo u).pledgeAmount) (hsettled : info.settled = true) :
    Frozen b (b.setBorrowInfo u info) :=
  { Frozen.refl b with
    pledged := setBorrowInfo_pledged hamount
    settled := fun v hv => by
      by_cases hvu : v = u
      · subst hvu
        simpa [Book.setBorrowInfo] using hsettled
      · simpa [Book.setBorrowInfo, hvu] using hv }

/-- **One action** after the deposits. -/
theorem Step.frozen {b b' : Book} {a : Act} (hs : Step b a b') (hst : b.pool.state ≠ .matching) :
    Frozen b b' := by
  cases hs with
  | create => exact absurd rfl hst
  | lend hstate | borrow hstate | settle hstate | undo hstate => exact absurd hstate hst
  | refundLend => exact .setLendInfo b rfl (fun _ => rfl) id
  | claimLend => exact .setLendInfo b rfl id fun _ => rfl
  | emergencyLend => exact .setLendInfo b rfl (fun _ => rfl) id
  | refundBorrow | claimBorrow | emergencyBorrow => exact .setBorrowInfo b rfl rfl
  | liquidate =>
      refine { Frozen.refl b with
        pledged := markLiquidated_pledged _, settled := fun u hu => ?_ }
      -- the mark leaves the other flags of a borrower alone
      unfold markLiquidated
      dsimp only
      split
      · exact hu
      · exact hu
  | _ => exact { Frozen.refl b with }

end Book

/-! ## Entitlements

The refunds, the claims and the emergency withdrawals are seven instances of one scheme. There is a
budget, fixed when the phase opens; the shares of all members add up to the budget at most; each
share is collected once. So at every time what was paid and what is still owed together stay within
the budget (`within`), for all seven by one induction. An instance has to show only that its shares
fit the budget when the phase opens, which is a matter of rounding down, and that an action which
pays takes an uncollected share. -/

/-- A payment each member can collect once during a phase of the pool. -/
structure Entitlement where
  phase : PoolState → Prop
  pays : Act → Nat
  members : Book → List Address
  share : Book → Address → Nat
  collected : Book → Address → Bool
  budget : Book → Nat
  /-- A pool does not start in the phase. -/
  start : ¬ phase .matching
  /-- Nothing is paid outside the phase. -/
  outside : ∀ {b a b'}, Book.Step b a b' → ¬ phase b.pool.state → pays a = 0
  /-- When the phase opens, the shares are within the budget. -/
  opening : ∀ {b a b'}, Book.Step b a b' → b.Sound → ¬ phase b.pool.state →
    phase b'.pool.state → tally (members b') (share b') ≤ budget b'
  /-- During the phase the shares stay, and a payment is of a share not collected before. -/
  during : ∀ {b a b'}, Book.Step b a b' → b.Sound → phase b.pool.state →
    phase b'.pool.state ∧ members b' = members b ∧ share b' = share b ∧ budget b' = budget b ∧
      (∀ u, collected b u = true → collected b' u = true) ∧
      (pays a = 0 ∨ ∃ u ∈ members b, collected b u = false ∧ collected b' u = true ∧
        pays a ≤ share b u)
  /-- Members are listed once. -/
  nodup : ∀ {b : Book}, b.Sound → (members b).Nodup

namespace Entitlement

variable (E : Entitlement)

/-- What is still to be collected. -/
def owed (b : Book) (u : Address) : Nat := if E.collected b u then 0 else E.share b u

/-- Nobody is owed more than the share. -/
theorem owed_le (b : Book) (u : Address) : E.owed b u ≤ E.share b u := by
  unfold owed
  split
  · exact Nat.zero_le _
  · exact Nat.le_refl _

/-- **One action**: what is paid comes off what is owed. -/
theorem step {b b' : Book} {a : Act} (hs : Book.Step b a b') (hsound : b.Sound)
    (hphase : E.phase b.pool.state) :
    E.pays a + tally (E.members b') (E.owed b') ≤ tally (E.members b) (E.owed b) := by
  obtain ⟨_, hmembers, hshare, _, hmono, hpays⟩ := E.during hs hsound hphase
  have howed : ∀ u, E.owed b' u ≤ E.owed b u := by
    intro u
    unfold owed
    rw [hshare]
    -- what was collected stays collected
    by_cases hu : E.collected b u = true
    · rw [if_pos (hmono u hu), if_pos hu]
    · rw [if_neg hu]
      split
      · exact Nat.zero_le _
      · exact Nat.le_refl _
  rw [hmembers]
  rcases hpays with h0 | ⟨u, hu, hfree, htaken, hpay⟩
  · rw [h0, Nat.zero_add]
    apply tally_le
    intro v _
    exact howed v
  · -- the collector's share leaves the sum
    have hcollect := tally_collect (E.nodup hsound) hu (E.owed b)
    have hle : tally (E.members b) (E.owed b') ≤
        tally (E.members b) (Function.update (E.owed b) u 0) := by
      apply tally_le
      intro v _
      by_cases hv : v = u
      · subst hv
        simp [owed, htaken]
      · rw [Function.update_of_ne hv]
        exact howed v
    have hshare_u : E.owed b u = E.share b u := by simp [owed, hfree]
    omega

/-- **An entitlement stays within its budget**, and nothing is paid before its phase. -/
theorem within {acts : List Act} {b : Book} (hrun : Run Book.Step {} acts b) :
    b.Sound ∧ (E.phase b.pool.state →
        total E.pays acts + tally (E.members b) (E.owed b) ≤ E.budget b) ∧
      (¬ E.phase b.pool.state → total E.pays acts = 0) := by
  refine hrun.invariant
    (I := fun acts b => b.Sound ∧ (E.phase b.pool.state →
        total E.pays acts + tally (E.members b) (E.owed b) ≤ E.budget b) ∧
      (¬ E.phase b.pool.state → total E.pays acts = 0)) ?_ ?_
  · exact ⟨.blank _ rfl rfl, fun h => absurd h E.start, fun _ => rfl⟩
  · intro acts b a b' ⟨hsound, hin, hout⟩ hs
    refine ⟨hsound.step hs, ?_, ?_⟩ <;> intro hphase'
    · rw [total_snoc]
      by_cases hphase : E.phase b.pool.state
      · -- inside the phase the budget stands, and the payment comes off what is owed
        have := E.step hs hsound hphase
        have hb := (E.during hs hsound hphase).2.2.2.1
        have := hin hphase
        omega
      · -- the phase opens with this action, and up to here nothing was paid
        have h0 := E.outside hs hphase
        have hopen := E.opening hs hsound hphase hphase'
        have hle : tally (E.members b') (E.owed b') ≤ tally (E.members b') (E.share b') :=
          tally_le fun u _ => E.owed_le b' u
        have := hout hphase
        omega
    · -- a phase once entered is never left
      have hphase : ¬ E.phase b.pool.state := fun h => hphase' (E.during hs hsound h).1
      rw [total_snoc, hout hphase, E.outside hs hphase]

/-- So what was paid is within the budget. -/
theorem le_budget {acts : List Act} {b : Book} (hrun : Run Book.Step {} acts b)
    (hphase : E.phase b.pool.state) : total E.pays acts ≤ E.budget b :=
  (Nat.le_add_right _ _).trans ((E.within hrun).2.1 hphase)

/-- And before the phase nothing was paid. -/
theorem eq_zero {acts : List Act} {b : Book} (hrun : Run Book.Step {} acts b)
    (hphase : ¬ E.phase b.pool.state) : total E.pays acts = 0 :=
  (E.within hrun).2.2 hphase

end Entitlement

theorem PoolState.matching_unsettled : ¬ PoolState.matching.Settled := by decide

theorem PoolState.matching_open : ¬ PoolState.matching.Closed := by decide

theorem PoolState.execution_open : ¬ PoolState.execution.Closed := by decide

theorem PoolState.undone_open : ¬ PoolState.undone.Closed := by decide

/-- `UNDONE` is final. -/
theorem PoolState.Path.undone {st st' : PoolState} (h : Path st st') (hst : st = .undone) :
    st' = .undone := by
  induction h with
  | refl => exact hst
  | tail _ hedge ih => cases hedge <;> cases ih

/-- The lend supply that was not lent. -/
def lendRefunds : Entitlement where
  phase := PoolState.Settled
  pays := Act.lendRefunded
  members := Book.lenders
  share b u := (b.pool.lendSupply - b.pool.settleAmountLend) * b.lent u / b.pool.lendSupply
  collected b u := (b.lendInfo u).refunded
  budget b := b.pool.lendSupply - b.pool.settleAmountLend
  start := PoolState.matching_unsettled
  outside hs hphase := by
    cases hs with
    | refundLend hstate => exact absurd hstate hphase
    | _ => rfl
  opening hs hsound _ _ := tally_share_le (hsound.step hs).lendSupply.ge _
  during hs hsound hphase := by
    have hf := hs.frozen hphase.ne_matching
    refine ⟨hs.progress.path.settled hphase, hf.lenders, ?_, ?_, hf.refunded, ?_⟩
    · rw [hf.lent, hf.lendSupply, hf.settleAmountLend]
    · rw [hf.lendSupply, hf.settleAmountLend]
    · cases hs with
      | refundLend hstate hamount hflag =>
          exact .inr ⟨_, (hsound.lenders.mem _).mpr hamount, hflag, by simp [Book.setLendInfo],
            Nat.le_refl _⟩
      | _ => exact .inl rfl
  nodup hsound := hsound.lenders.nodup

/-- The sp tokens. -/
def spClaims : Entitlement where
  phase := PoolState.Settled
  pays := Act.spMinted
  members := Book.lenders
  share b u := b.pool.settleAmountLend * b.lent u / b.pool.lendSupply
  collected b u := (b.lendInfo u).claimed
  budget b := b.pool.settleAmountLend
  start := PoolState.matching_unsettled
  outside hs hphase := by
    cases hs with
    | claimLend hstate => exact absurd hstate hphase
    | _ => rfl
  opening hs hsound _ _ := tally_share_le (hsound.step hs).lendSupply.ge _
  during hs hsound hphase := by
    have hf := hs.frozen hphase.ne_matching
    refine ⟨hs.progress.path.settled hphase, hf.lenders, ?_, hf.settleAmountLend, hf.claimed, ?_⟩
    · rw [hf.lent, hf.lendSupply, hf.settleAmountLend]
    · cases hs with
      | claimLend hstate hamount hflag =>
          exact .inr ⟨_, (hsound.lenders.mem _).mpr hamount, hflag, by simp [Book.setLendInfo],
            Nat.le_refl _⟩
      | _ => exact .inl rfl
  nodup hsound := hsound.lenders.nodup

/-- The collateral that settlement did not use. -/
def borrowRefunds : Entitlement where
  phase := PoolState.Settled
  pays := Act.borrowRefunded
  members := Book.borrowers
  share b u :=
    (b.pool.borrowSupply - b.pool.settleAmountBorrow) * b.pledged u / b.pool.borrowSupply
  collected b u := (b.borrowInfo u).settled
  budget b := b.pool.borrowSupply - b.pool.settleAmountBorrow
  start := PoolState.matching_unsettled
  outside hs hphase := by
    cases hs with
    | refundBorrow hstate => exact absurd hstate hphase
    | _ => rfl
  opening hs hsound _ _ := tally_share_le (hsound.step hs).borrowSupply.ge _
  during hs hsound hphase := by
    have hf := hs.frozen hphase.ne_matching
    refine ⟨hs.progress.path.settled hphase, hf.borrowers, ?_, ?_, hf.settled, ?_⟩
    · rw [hf.pledged, hf.borrowSupply, hf.settleAmountBorrow]
    · rw [hf.borrowSupply, hf.settleAmountBorrow]
    · cases hs with
      | refundBorrow hstate hamount hflag =>
          exact .inr ⟨_, (hsound.borrowers.mem _).mpr hamount, hflag, by simp [Book.setBorrowInfo],
            Nat.le_refl _⟩
      | _ => exact .inl rfl
  nodup hsound := hsound.borrowers.nodup

/-- The loans. -/
def loans : Entitlement where
  phase := PoolState.Settled
  pays := Act.loaned
  members := Book.borrowers
  share b u := b.pool.settleAmountLend * b.pledged u / b.pool.borrowSupply
  collected b u := (b.borrowInfo u).settled
  budget b := b.pool.settleAmountLend
  start := PoolState.matching_unsettled
  outside hs hphase := by
    cases hs with
    | claimBorrow hstate => exact absurd hstate hphase
    | _ => rfl
  opening hs hsound _ _ := tally_share_le (hsound.step hs).borrowSupply.ge _
  during hs hsound hphase := by
    have hf := hs.frozen hphase.ne_matching
    refine ⟨hs.progress.path.settled hphase, hf.borrowers, ?_, hf.settleAmountLend, hf.settled, ?_⟩
    · rw [hf.pledged, hf.borrowSupply, hf.settleAmountLend]
    · cases hs with
      | claimBorrow hstate hamount hflag =>
          exact .inr ⟨_, (hsound.borrowers.mem _).mpr hamount, hflag, by simp [Book.setBorrowInfo],
            Nat.le_refl _⟩
      | _ => exact .inl rfl
  nodup hsound := hsound.borrowers.nodup

/-- The jp tokens. -/
def jpClaims : Entitlement where
  phase := PoolState.Settled
  pays := Act.jpMinted
  members := Book.borrowers
  share b u :=
    b.pool.settleAmountLend * b.pool.pledgeRate * b.pledged u / (RATE_BASE * b.pool.borrowSupply)
  collected b u := (b.borrowInfo u).settled
  budget b := b.pool.totalJpAmount
  start := PoolState.matching_unsettled
  outside hs hphase := by
    cases hs with
    | claimBorrow hstate => exact absurd hstate hphase
    | _ => rfl
  opening hs hsound _ _ := tally_share_scaled_le (hsound.step hs).borrowSupply.ge _ _
  during hs hsound hphase := by
    have hf := hs.frozen hphase.ne_matching
    refine ⟨hs.progress.path.settled hphase, hf.borrowers, ?_, ?_, hf.settled, ?_⟩
    · rw [hf.pledged, hf.borrowSupply, hf.settleAmountLend, hf.pledgeRate]
    · unfold Pool.totalJpAmount
      rw [hf.settleAmountLend, hf.pledgeRate]
    · cases hs with
      | @claimBorrow _ u hstate hamount hflag =>
          refine .inr ⟨u, (hsound.borrowers.mem _).mpr hamount, hflag, by simp [Book.setBorrowInfo],
            ?_⟩
          simp only [Act.jpMinted]
          -- without a jp token nothing is minted
          split
          · exact Nat.le_refl _
          · exact Nat.zero_le _
      | _ => exact .inl rfl
  nodup hsound := hsound.borrowers.nodup

/-- The deposits of the lenders of an undone pool. -/
def emergencyLends : Entitlement where
  phase st := st = .undone
  pays := Act.emergencyLent
  members := Book.lenders
  share := Book.lent
  collected b u := (b.lendInfo u).refunded
  budget b := b.pool.lendSupply
  start := by decide
  outside hs hphase := by
    cases hs with
    | emergencyLend hstate => exact absurd hstate hphase
    | _ => rfl
  opening hs hsound _ _ := (hsound.step hs).lendSupply.ge
  during hs hsound hphase := by
    have hf := hs.frozen (by rw [hphase]; decide)
    refine ⟨hs.progress.path.undone hphase, hf.lenders, hf.lent, hf.lendSupply, hf.refunded, ?_⟩
    cases hs with
    | emergencyLend hstate hamount hflag =>
        exact .inr ⟨_, (hsound.lenders.mem _).mpr hamount, hflag, by simp [Book.setLendInfo],
          Nat.le_refl _⟩
    | _ => exact .inl rfl
  nodup hsound := hsound.lenders.nodup

/-- The pledges of the borrowers of an undone pool. -/
def emergencyBorrows : Entitlement where
  phase st := st = .undone
  pays := Act.emergencyBorrowed
  members := Book.borrowers
  share := Book.pledged
  collected b u := (b.borrowInfo u).settled
  budget b := b.pool.borrowSupply
  start := by decide
  outside hs hphase := by
    cases hs with
    | emergencyBorrow hstate => exact absurd hstate hphase
    | _ => rfl
  opening hs hsound _ _ := (hsound.step hs).borrowSupply.ge
  during hs hsound hphase := by
    have hf := hs.frozen (by rw [hphase]; decide)
    refine ⟨hs.progress.path.undone hphase, hf.borrowers, hf.pledged, hf.borrowSupply, hf.settled, ?_⟩
    cases hs with
    | emergencyBorrow hstate hamount hflag =>
        exact .inr ⟨_, (hsound.borrowers.mem _).mpr hamount, hflag, by simp [Book.setBorrowInfo],
          Nat.le_refl _⟩
    | _ => exact .inl rfl
  nodup hsound := hsound.borrowers.nodup

/-! ## Redemptions

A redemption asks for claim tokens, not for a record, so there are no members to count. Its bound is
a proportion: each payment is the floor of a share of the pot, and so all payments together are at
most the share of all tokens handed in. -/

/-- A payment for burned claim tokens, in proportion to a pot, once the pool has closed. -/
structure Redemption where
  pays : Act → Nat
  burns : Act → Nat
  pot : Pool → Nat
  whole : Pool → Nat
  outside : ∀ {b a b'}, Book.Step b a b' → ¬ b.pool.state.Closed → pays a = 0 ∧ burns a = 0
  during : ∀ {b a b'}, Book.Step b a b' → b.pool.state.Closed →
    pot b'.pool = pot b.pool ∧ whole b'.pool = whole b.pool ∧
      pays a * whole b.pool ≤ pot b.pool * burns a ∧ (whole b.pool = 0 → pays a = 0)

/-- **A redemption stays in proportion.** Each payment is rounded down, so the sum is too. -/
theorem Redemption.within (R : Redemption) {acts : List Act} {b : Book}
    (hrun : Run Book.Step {} acts b) :
    (b.pool.state.Closed →
        total R.pays acts * R.whole b.pool ≤ R.pot b.pool * total R.burns acts ∧
        (R.whole b.pool = 0 → total R.pays acts = 0)) ∧
      (¬ b.pool.state.Closed → total R.pays acts = 0 ∧ total R.burns acts = 0) := by
  refine hrun.invariant
    (I := fun acts b =>
      (b.pool.state.Closed →
        total R.pays acts * R.whole b.pool ≤ R.pot b.pool * total R.burns acts ∧
        (R.whole b.pool = 0 → total R.pays acts = 0)) ∧
      (¬ b.pool.state.Closed → total R.pays acts = 0 ∧ total R.burns acts = 0)) ?_ ?_
  · exact ⟨fun h => absurd h PoolState.matching_open, fun _ => ⟨rfl, rfl⟩⟩
  · intro acts b a b' ⟨hin, hout⟩ hs
    rw [total_snoc, total_snoc]
    by_cases hclosed : b.pool.state.Closed
    · -- the pot and the whole stay as they are, and the new payment is in proportion as well
      have hstate := hs.progress.path.closed hclosed
      obtain ⟨hpot, hwhole, hpay, hzero⟩ := R.during hs hclosed
      obtain ⟨hpays, hzeros⟩ := hin hclosed
      refine ⟨?_, fun hopen => absurd (hstate ▸ hclosed) hopen⟩
      intro _
      rw [hpot, hwhole, Nat.add_mul, Nat.mul_add]
      exact ⟨Nat.add_le_add hpays hpay, fun h0 => by rw [hzeros h0, hzero h0]⟩
    · obtain ⟨hp, hb⟩ := R.outside hs hclosed
      obtain ⟨hp', hb'⟩ := hout hclosed
      rw [hp, hb, hp', hb']
      exact ⟨fun _ => ⟨by simp, fun _ => rfl⟩, fun _ => ⟨rfl, rfl⟩⟩

/-- Sp tokens for the repayment. -/
def lendRedemptions : Redemption where
  pays := Act.lendRedeemed
  burns := Act.spBurned
  pot := Pool.lendPot
  whole := Pool.settleAmountLend
  outside hs hopen := by
    cases hs with
    | withdrawLend hstate => exact absurd hstate hopen
    | _ => exact ⟨rfl, rfl⟩
  during hs hclosed := by
    cases hs with
    | withdrawLend _ _ hsettle =>
        exact ⟨rfl, rfl, Nat.div_mul_le_self _ _, fun h0 => absurd h0 hsettle⟩
    | lend hstate | borrow hstate | settle hstate | undo hstate | finish hstate | liquidate hstate =>
        rw [hstate] at hclosed
        exact absurd hclosed (by decide)
    | create => exact absurd hclosed PoolState.matching_open
    | _ => exact ⟨rfl, rfl, by simp [Act.lendRedeemed], fun _ => rfl⟩

/-- Jp tokens for the collateral that was not sold. -/
def borrowRedemptions : Redemption where
  pays := Act.borrowRedeemed
  burns := Act.jpBurned
  pot := Pool.borrowPot
  whole := Pool.totalJpAmount
  outside hs hopen := by
    cases hs with
    | withdrawBorrow hstate => exact absurd hstate hopen
    | _ => exact ⟨rfl, rfl⟩
  during hs hclosed := by
    cases hs with
    | withdrawBorrow _ htotal =>
        exact ⟨rfl, rfl, Nat.div_mul_le_self _ _, fun h0 => absurd h0 htotal⟩
    | lend hstate | borrow hstate | settle hstate | undo hstate | finish hstate | liquidate hstate =>
        rw [hstate] at hclosed
        exact absurd hclosed (by decide)
    | create => exact absurd hclosed PoolState.matching_open
    | _ => exact ⟨rfl, rfl, by simp [Act.borrowRedeemed], fun _ => rfl⟩

/-- What is redeemed for at most the whole is at most the pot. -/
theorem Redemption.le_pot (R : Redemption) {acts : List Act} {b : Book}
    (hrun : Run Book.Step {} acts b) (hclosed : b.pool.state.Closed)
    (hburned : total R.burns acts ≤ R.whole b.pool) : total R.pays acts ≤ R.pot b.pool := by
  obtain ⟨hpays, hzero⟩ := (R.within hrun).1 hclosed
  rcases Nat.eq_zero_or_pos (R.whole b.pool) with h0 | hpos
  · rw [hzero h0]
    exact Nat.zero_le _
  · apply Nat.le_of_mul_le_mul_right _ hpos
    exact hpays.trans (Nat.mul_le_mul_left _ hburned)

/-! ## Deposits and the sale

The other side of the balance: what comes in. The supplies count the deposits exactly, and the sale
fills the pot of the lenders and leaves the borrowers the collateral that it did not take. -/

/-- The supplies are the sums of the deposits. -/
theorem deposits {acts : List Act} {b : Book} (hrun : Run Book.Step {} acts b) :
    total Act.lent acts = b.pool.lendSupply ∧ total Act.pledged acts = b.pool.borrowSupply := by
  refine hrun.invariant (I := fun acts b =>
    total Act.lent acts = b.pool.lendSupply ∧ total Act.pledged acts = b.pool.borrowSupply)
    ⟨rfl, rfl⟩ ?_
  intro acts b a b' ⟨hl, hb⟩ hs
  rw [total_snoc, total_snoc, hl, hb]
  cases hs with
  | create hfresh => exact ⟨hfresh.lendSupply.symm, hfresh.borrowSupply.symm⟩
  | _ => exact ⟨rfl, rfl⟩

/-- The sale fills the lenders' pot and leaves the borrowers' pot. -/
theorem sale {acts : List Act} {b : Book} (hrun : Run Book.Step {} acts b) :
    (b.pool.state.Closed → total Act.raised acts = b.pool.lendPot ∧
        total Act.sold acts + b.pool.borrowPot = b.pool.settleAmountBorrow) ∧
      (¬ b.pool.state.Closed → total Act.raised acts = 0 ∧ total Act.sold acts = 0) := by
  refine hrun.invariant (I := fun acts b =>
    (b.pool.state.Closed → total Act.raised acts = b.pool.lendPot ∧
        total Act.sold acts + b.pool.borrowPot = b.pool.settleAmountBorrow) ∧
      (¬ b.pool.state.Closed → total Act.raised acts = 0 ∧ total Act.sold acts = 0))
    ⟨fun h => absurd h PoolState.matching_open, fun _ => ⟨rfl, rfl⟩⟩ ?_
  intro acts b a b' ⟨hin, hout⟩ hs
  rw [total_snoc, total_snoc]
  -- a pool is sold off once, in the step that closes it
  have hopen {st : PoolState} (h : b.pool.state = st) (hst : ¬ st.Closed) :
      total Act.raised acts = 0 ∧ total Act.sold acts = 0 := hout (h ▸ hst)
  cases hs with
  | @finish _ raised sold fee hstate hraised hsold hfee =>
      obtain ⟨hr, hs⟩ := hopen hstate PoolState.execution_open
      refine ⟨?_, fun h => absurd (.inl rfl) h⟩
      intro _
      simp only [Act.raised, Act.sold, Pool.lendPot, Pool.borrowPot, if_true, hr, hs]
      omega
  | @liquidate _ raised sold fee hstate hraised hsold hfee =>
      obtain ⟨hr, hs⟩ := hopen hstate PoolState.execution_open
      refine ⟨?_, fun h => absurd (.inr rfl) h⟩
      intro _
      simp only [Book.markLiquidated, Act.raised, Act.sold, Pool.lendPot, Pool.borrowPot, hr, hs,
        reduceCtorEq, if_false]
      omega
  | create hfresh =>
      refine ⟨fun h => absurd h ?_, fun _ => hopen rfl PoolState.matching_open⟩
      rw [hfresh.state]
      exact PoolState.matching_open
  | settle hstate =>
      exact ⟨fun h => absurd h PoolState.execution_open, fun _ => hopen hstate PoolState.matching_open⟩
  | undo hstate =>
      exact ⟨fun h => absurd h PoolState.undone_open, fun _ => hopen hstate PoolState.matching_open⟩
  | _ => exact ⟨hin, hout⟩

/-- Each sale fills one of the two final amounts of a pool, which are empty until then. -/
theorem raised_total {acts : List Act} {b : Book} (hrun : Run Book.Step {} acts b) :
    total Act.raised acts = b.pool.finishAmountLend + b.pool.liquidationAmountLend ∧
      (¬ b.pool.state.Closed → b.pool.finishAmountLend = 0 ∧ b.pool.liquidationAmountLend = 0) := by
  refine hrun.invariant (I := fun acts b =>
    total Act.raised acts = b.pool.finishAmountLend + b.pool.liquidationAmountLend ∧
      (¬ b.pool.state.Closed → b.pool.finishAmountLend = 0 ∧ b.pool.liquidationAmountLend = 0))
    ⟨rfl, fun _ => ⟨rfl, rfl⟩⟩ ?_
  intro acts b a b' ⟨htotal, hopen⟩ hs
  rw [total_snoc, htotal]
  -- the state decides which of the two amounts a sale writes; both were empty before it
  cases hs with
  | create hfresh =>
      refine ⟨?_, fun _ => ⟨hfresh.finishAmountLend, hfresh.liquidationAmountLend⟩⟩
      rw [hfresh.finishAmountLend, hfresh.liquidationAmountLend]
      rfl
  | settle hstate =>
      refine ⟨rfl, fun _ => hopen ?_⟩
      rw [hstate]
      exact PoolState.matching_open
  | undo hstate =>
      refine ⟨rfl, fun _ => hopen ?_⟩
      rw [hstate]
      exact PoolState.matching_open
  | finish hstate =>
      rw [hstate] at hopen
      obtain ⟨h₁, h₂⟩ := hopen PoolState.execution_open
      refine ⟨?_, fun h => absurd (.inl rfl) h⟩
      simp only [Act.raised]
      omega
  | liquidate hstate =>
      rw [hstate] at hopen
      obtain ⟨h₁, h₂⟩ := hopen PoolState.execution_open
      refine ⟨?_, fun h => absurd (.inr rfl) h⟩
      simp only [Act.raised, Book.markLiquidated]
      omega
  | _ => exact ⟨rfl, hopen⟩

/-! ## Solvency

The two sides are put together. Before the pool is closed the lend supply covers refunds and loans;
once it is closed the sale covers the redemptions. In `UNDONE` nothing was lent, and all that is
paid are the deposits. -/

/-- **A pool is solvent on its own**: as long as no more claim tokens are burned than were minted, the
settle tokens paid to users are within the deposits and what the sale raised, and the pledge tokens
paid to users, sold and taken as fee are within the pledges. -/
theorem Book.solvent {acts : List Act} {b : Book} (hrun : Run Book.Step {} acts b)
    (hsettlement : b.Settlement)
    (hsp : total Act.spBurned acts ≤ total Act.spMinted acts)
    (hjp : total Act.jpBurned acts ≤ total Act.jpMinted acts) :
    total Act.settlePaid acts ≤ total Act.lent acts + total Act.raised acts ∧
      total Act.pledgePaid acts + total Act.sold acts ≤ total Act.pledged acts := by
  obtain ⟨hlent, hpledged⟩ := deposits hrun
  have hsettlePaid : total Act.settlePaid acts = total Act.lendRefunded acts +
      total Act.loaned acts + total Act.lendRedeemed acts + total Act.emergencyLent acts := by
    rw [← total_add, ← total_add, ← total_add]
    rfl
  have hpledgePaid : total Act.pledgePaid acts = total Act.borrowRefunded acts +
      total Act.borrowRedeemed acts + total Act.emergencyBorrowed acts := by
    rw [← total_add, ← total_add]
    rfl
  rw [hsettlePaid, hpledgePaid, hlent, hpledged]
  by_cases hst : b.pool.state.Settled
  · -- the settled loan and the rest of the supply are shared out, and the pots redeemed
    obtain ⟨hleLend, hleBorrow⟩ := hsettlement.le hst
    have hnot : b.pool.state ≠ .undone := hst.ne_undone
    have h₁ : total Act.lendRefunded acts ≤ b.pool.lendSupply - b.pool.settleAmountLend :=
      lendRefunds.le_budget hrun hst
    have h₂ : total Act.loaned acts ≤ b.pool.settleAmountLend := loans.le_budget hrun hst
    have h₃ : total Act.borrowRefunded acts ≤ b.pool.borrowSupply - b.pool.settleAmountBorrow :=
      borrowRefunds.le_budget hrun hst
    have h₄ : total Act.emergencyLent acts = 0 := emergencyLends.eq_zero hrun hnot
    have h₅ : total Act.emergencyBorrowed acts = 0 := emergencyBorrows.eq_zero hrun hnot
    have hminted : total Act.spMinted acts ≤ b.pool.settleAmountLend := spClaims.le_budget hrun hst
    have hminted' : total Act.jpMinted acts ≤ b.pool.totalJpAmount := jpClaims.le_budget hrun hst
    by_cases hclosed : b.pool.state.Closed
    · obtain ⟨hraised, hsold⟩ := (sale hrun).1 hclosed
      have h₆ : total Act.lendRedeemed acts ≤ b.pool.lendPot :=
        lendRedemptions.le_pot hrun hclosed (hsp.trans hminted)
      have h₇ : total Act.borrowRedeemed acts ≤ b.pool.borrowPot :=
        borrowRedemptions.le_pot hrun hclosed (hjp.trans hminted')
      omega
    · -- the loan is out, and nothing is sold or redeemed yet
      have h₆ : total Act.lendRedeemed acts = 0 := ((lendRedemptions.within hrun).2 hclosed).1
      have h₇ : total Act.borrowRedeemed acts = 0 := ((borrowRedemptions.within hrun).2 hclosed).1
      have h₈ := ((sale hrun).2 hclosed).2
      omega
  · -- before settlement nothing is paid, and an undone pool gives the deposits back
    have hclosed : ¬ b.pool.state.Closed := fun h => hst h.settled
    have h₁ : total Act.lendRefunded acts = 0 := lendRefunds.eq_zero hrun hst
    have h₂ : total Act.loaned acts = 0 := loans.eq_zero hrun hst
    have h₃ : total Act.borrowRefunded acts = 0 := borrowRefunds.eq_zero hrun hst
    have h₆ : total Act.lendRedeemed acts = 0 := ((lendRedemptions.within hrun).2 hclosed).1
    have h₇ : total Act.borrowRedeemed acts = 0 := ((borrowRedemptions.within hrun).2 hclosed).1
    have h₈ := ((sale hrun).2 hclosed).2
    by_cases hun : b.pool.state = .undone
    · have h₄ : total Act.emergencyLent acts ≤ b.pool.lendSupply := emergencyLends.le_budget hrun hun
      have h₅ : total Act.emergencyBorrowed acts ≤ b.pool.borrowSupply :=
        emergencyBorrows.le_budget hrun hun
      omega
    · have h₄ : total Act.emergencyLent acts = 0 := emergencyLends.eq_zero hrun hun
      have h₅ : total Act.emergencyBorrowed acts = 0 := emergencyBorrows.eq_zero hrun hun
      omega

end Pledge.Contract
