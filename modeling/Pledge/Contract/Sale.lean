import Pledge.Contract.Market
import Pledge.Contract.Refusal

/-!
# Where the collateral of an exit goes

`finish` and `liquidate` sell collateral, keep the repayment, send what the router delivered above it to
the fee address and take a fee on what is left of the collateral. A `Disposal` has the figures of one
exit and the worlds between its parts. `disposal_accounted` says when every unit is found again, in the
pool or at the fee address: the two fees are deducted with or without a fee address, and sent only
to one.
-/

namespace Pledge.Contract

open Pledge.Evm

/-! ## The parts of a sale

The proceeds of a sale and the collateral that is left, apart from the function that makes the sale.
-/

/-- The figures of a sale: what was sold, what the router delivered for it, and the worlds after the
swap, after the surplus went out and after the fee on the rest went out. -/
structure Disposal where
  sold : Nat
  received : Nat
  swapped : World
  divided : World
  paid : World

/-- In `w` the collateral of `p` was disposed of to raise `lend`, as `d` says. Between the two fees the
storage is written by `f`. -/
structure Disposal.Ran (env : Env) (w : World) (p lend : Nat) (f : Storage → Storage) (d : Disposal) :
    Prop where
  rate : RATE_BASE + w.store.lendFee < Tx.uint256
  target : lend * (RATE_BASE + w.store.lendFee) < Tx.uint256
  swap : (sellExactAmount env (w.store.pools p).pledgeToken (w.store.pools p).settleToken
    (w.store.saleTarget lend)).run w = .ok ((d.sold, d.received), d.swapped)
  raised : lend ≤ d.received
  surplus : FeeSent env w.store.feeAddress (w.store.pools p).settleToken (d.received - lend) d.swapped
    d.divided
  covered : d.sold ≤ (w.store.pools p).settleAmountBorrow
  product : ((w.store.pools p).settleAmountBorrow - d.sold) * w.store.borrowFee < Tx.uint256
  fee : feeOf w.store.borrowFee ((w.store.pools p).settleAmountBorrow - d.sold) ≤
    (w.store.pools p).settleAmountBorrow - d.sold
  leftover : FeeSent env w.store.feeAddress (w.store.pools p).pledgeToken
    (feeOf w.store.borrowFee ((w.store.pools p).settleAmountBorrow - d.sold)) (d.divided.mapStore f)
    d.paid

section Parts

variable {env : Env} {w w' : World}

/-- **A sell-off is one disposal.** -/
theorem disposal_iff (hq : Quiet env) {p lend sold amountIn rest : Nat} {f : Nat → Pool → Pool}
    {w₁ w₂ : World} :
    SellsOff env p lend f w sold amountIn rest w₁ w₂ ↔
      amountIn = lend ∧
        rest = (w.store.pools p).settleAmountBorrow - sold -
          feeOf w.store.borrowFee ((w.store.pools p).settleAmountBorrow - sold) ∧
        ∃ received swapped, Disposal.Ran env w p lend (fun s => s.setPool p (f lend (s.pools p)))
          ⟨sold, received, swapped, w₁, w₂⟩ := by
  constructor
  · rintro ⟨hsale, hcovered, hredeem⟩
    obtain ⟨hrate, htarget, rfl, received, swapped, hsell, hle, hsurplus⟩ :=
      (processSwapAndFees_ok hq).mp hsale
    obtain ⟨hproduct, hfee, rfl, hleft⟩ := redeemFees_ok.mp hredeem
    have hstore : w₁.store = w.store :=
      (hsurplus.store hq).trans (sellExactAmount_store hq hsell)
    rw [World.mapStore_store, hstore] at hleft
    exact ⟨rfl, rfl, received, swapped, hrate, htarget, hsell, hle, hsurplus, hcovered, hproduct, hfee,
      hleft⟩
  · rintro ⟨rfl, rfl, received, swapped, hd⟩
    have hstore : w₁.store = w.store :=
      (hd.surplus.store hq).trans (sellExactAmount_store hq hd.swap)
    refine ⟨?_, hd.covered, ?_⟩
    · exact (processSwapAndFees_ok hq).mpr
        ⟨hd.rate, hd.target, rfl, received, swapped, hd.swap, hd.raised, hd.surplus⟩
    · rw [redeemFees_ok, World.mapStore_store, hstore]
      exact ⟨hd.product, hd.fee, rfl, hd.leftover⟩

end Parts

/-! ## The two exits

`finish` and `liquidate` differ in their checks, in the time that is charged, and in the fields that
they write. -/

/-- A call that sells the collateral of a pool: what it is to raise, the world its sale starts in, and
how it writes down what it raised. -/
structure Exit where
  poolId : Nat
  lend : Nat
  start : World
  record : Storage → Storage

/-- The exit that a call is. -/
def Call.exit (env : Env) (w : World) : Call → Option Exit
  | .finish p =>
      let lend := (w.store.pools p).repayment
        ((w.store.pools p).endTime - (w.store.pools p).settleTime)
      some ⟨p, lend, w, fun s => s.setPool p { s.pools p with finishAmountLend := lend }⟩
  | .liquidate p =>
      let lend := (w.store.pools p).repayment (env.timestamp - (w.store.pools p).settleTime)
      some ⟨p, lend, w.guarded, fun s => s.setPool p { s.pools p with liquidationAmountLend := lend }⟩
  | _ => none

/-- The disposal of an exit. -/
def Exit.Disposes (env : Env) (x : Exit) (d : Disposal) : Prop :=
  d.Ran env x.start x.poolId x.lend x.record

/-- After an exit: the sale is behind it, and the pool has the two final amounts. -/
structure Exit.Ended (env : Env) (w : World) (x : Exit) (d : Disposal) (w' : World) : Prop where
  disposes : x.Disposes env d
  tokens : d.paid.SameTokens w'
  lender : (w'.store.pools x.poolId).lendPot = x.lend
  borrower : (w'.store.pools x.poolId).borrowPot =
    (w.store.pools x.poolId).settleAmountBorrow - d.sold -
      feeOf w.store.borrowFee ((w.store.pools x.poolId).settleAmountBorrow - d.sold)

section Exits

variable {env : Env} {w w' : World}

theorem finish_ended (hq : Quiet env) {p : Nat} {x : Exit} (hexit : (Call.finish p).exit env w = some x)
    (h : (finish env p).run w = .ok ((), w')) : ∃ d, x.Ended env w d w' := by
  cases hexit
  obtain ⟨-, -, -, -, -, -, sold, amountIn, rest, w₁, w₂, hsells, rfl⟩ := (finish_ok hq).mp h
  have hs₂ := hsells.store hq
  obtain ⟨rfl, rfl, received, swapped, hd⟩ := (disposal_iff hq).mp hsells
  refine ⟨_, hd, ⟨rfl, rfl⟩, ?_, ?_⟩
  · simp [hs₂, Pool.lendPot]
  · simp [hs₂, Pool.borrowPot]

/-- The loop of `liquidate` and the end of the guard leave the pools alone. -/
theorem Storage.marked_pools (s : Storage) (p : Nat) (us : List Address) (b : Bool) :
    ((s.markLiquidated p us).setEntered b).pools = s.pools := rfl

theorem liquidate_ended (hq : Quiet env) {p : Nat} {x : Exit}
    (hexit : (Call.liquidate p).exit env w = some x) (h : (liquidate env p).run w = .ok ((), w')) :
    ∃ d, x.Ended env w d w' := by
  cases hexit
  obtain ⟨-, -, -, -, -, -, sold, amountIn, rest, w₁, w₂, hsells, rfl⟩ := (liquidate_ok hq).mp h
  have hs₂ := hsells.store hq
  obtain ⟨rfl, rfl, received, swapped, hd⟩ := (disposal_iff hq).mp hsells
  refine ⟨_, hd, ⟨rfl, rfl⟩, ?_, ?_⟩
  · simp [hs₂, Storage.marked_pools, Pool.lendPot]
  · simp [hs₂, Storage.marked_pools, Pool.borrowPot]
    rfl

/-- A transaction that is an exit ends it. -/
theorem transaction_ended (hq : Quiet env) {c : Call} {x : Exit} (hexit : c.exit env w = some x)
    (h : (c.transaction env).run w = .ok ((), w')) : ∃ d, x.Ended env w d w' := by
  obtain ⟨-, -, hbody⟩ := Call.transaction_ok.mp h
  cases c with
  | finish p => exact finish_ended hq hexit hbody
  | liquidate p => exact liquidate_ended hq hexit hbody
  | _ => cases hexit

end Exits

/-! ## Accounting

The collateral of the pool is sold, sent to the fee address, or set aside for the borrowers. A fee
that has no address to go to is in none of these places. -/

/-- What the contract sent of a token to `a` after `w`, up to `w'`. -/
def Env.sentTo (env : Env) (token a : Address) (w w' : World) : Nat :=
  volume (fun t => t.token = token ∧ t.src = env.this ∧ t.dst = a)
    (w'.transfers.drop w.transfers.length)

/-- **Every unit is attributed.** The collateral of settlement was sold, is kept for the borrowers or
went to the fee address; and what the router delivered is kept for the lenders or went there. -/
structure Disposal.Accounted (env : Env) (w : World) (p : Nat) (d : Disposal) (w' : World) : Prop where
  collateral : (w.store.pools p).settleAmountBorrow = d.sold + (w'.store.pools p).borrowPot +
    env.sentTo (w.store.pools p).pledgeToken w.store.feeAddress d.divided w'
  proceeds : d.received = (w'.store.pools p).lendPot +
    env.sentTo (w.store.pools p).settleToken w.store.feeAddress d.swapped d.divided

/-- The exit deducts nothing: the router delivered just what was to be raised, and the fee on what is
left of the collateral rounds down to zero. -/
def Exit.Feeless (w : World) (x : Exit) (d : Disposal) : Prop :=
  d.received = x.lend ∧
    feeOf w.store.borrowFee ((w.store.pools x.poolId).settleAmountBorrow - d.sold) = 0

section Accounting

variable {env : Env} {w w' : World}

/-- A fee is sent in full, or not at all. -/
theorem FeeSent.sentTo (hx : Exact env) {feeAddress token : Address} {fee : Nat} (ht : token ≠ 0)
    (h : FeeSent env feeAddress token fee w w') :
    env.sentTo token feeAddress w w' = if feeAddress = 0 then 0 else fee := by
  unfold Env.sentTo
  rcases h.cases with ⟨⟨hpos, haddress⟩, hpay⟩ | ⟨hskip, rfl⟩
  · rcases transferToken_moved hx ht hpay with ⟨hzero, -⟩ | hmoved
    · exact absurd hzero hpos.ne'
    · rw [hmoved.transfers, List.drop_left, volume_single, if_neg haddress]
      simp
  · rw [List.drop_length]
    show 0 = _
    split
    · rfl
    · next haddress => exact (Nat.eq_zero_of_not_pos fun hpos => hskip ⟨hpos, haddress⟩).symm

/-- The books of an exit balance exactly when its fees have somewhere to go. -/
theorem Exit.Ended.accounted (hx : Exact env) {x : Exit} {d : Disposal} (h : x.Ended env w d w')
    (hpool : x.start.store.pools = w.store.pools) (hfees : x.start.store.borrowFee = w.store.borrowFee)
    (haddress : x.start.store.feeAddress = w.store.feeAddress)
    (hassets : (w.store.pools x.poolId).Assets) :
    d.Accounted env w x.poolId w' ↔ w.store.feeAddress ≠ 0 ∨ x.Feeless w d := by
  have hsurplus := h.disposes.surplus
  have hleftover := h.disposes.leftover
  have hraised := h.disposes.raised
  have hcovered := h.disposes.covered
  have hfee := h.disposes.fee
  rw [hpool] at hsurplus hleftover hcovered hfee
  rw [haddress] at hsurplus hleftover
  rw [hfees] at hleftover hfee
  have hsettle := hsurplus.sentTo hx hassets.1
  have hpledge := hleftover.sentTo hx hassets.2
  -- the last writes to storage send nothing
  have hlast : env.sentTo (w.store.pools x.poolId).pledgeToken w.store.feeAddress d.divided w' =
      env.sentTo (w.store.pools x.poolId).pledgeToken w.store.feeAddress (d.divided.mapStore x.record)
        d.paid := by
    unfold Env.sentTo
    rw [h.tokens.2, World.mapStore_transfers]
  constructor
  · rintro ⟨hcollateral, hproceeds⟩
    rw [h.borrower, hlast, hpledge] at hcollateral
    rw [h.lender, hsettle] at hproceeds
    by_cases hset : w.store.feeAddress = 0
    · rw [if_pos hset] at hcollateral hproceeds
      exact .inr ⟨hproceeds, by omega⟩
    · exact .inl hset
  · intro hgoes
    constructor
    · rw [h.borrower, hlast, hpledge]
      split
      · next hset =>
          have hzero := (hgoes.resolve_left (not_not.mpr hset)).2
          omega
      · omega
    · rw [h.lender, hsettle]
      split
      · next hset => exact (hgoes.resolve_left (not_not.mpr hset)).1
      · omega

/-- An exit starts where the transaction does, with the guard up or not. -/
theorem Call.exit_start {c : Call} {x : Exit} (hexit : c.exit env w = some x) :
    x.start.store.pools = w.store.pools ∧ x.start.store.borrowFee = w.store.borrowFee ∧
      x.start.store.feeAddress = w.store.feeAddress ∧ c.poolId = some x.poolId := by
  cases c with
  | finish p =>
      cases hexit
      exact ⟨rfl, rfl, rfl, rfl⟩
  | liquidate p =>
      cases hexit
      exact ⟨rfl, rfl, rfl, rfl⟩
  | _ => cases hexit

end Accounting

/-- **The final sale is accounted for exactly when its fees can be sent.** For every pool in every
reachable state, every fee setting and every exit that succeeds: the fee address is set, or the exit
deducts nothing. -/
theorem disposal_accounted {admin multiSignature : Address} {ledger : Ledger} {es : List Event}
    {env : Env} {w w' : World} {c : Call} {x : Exit}
    (hrun : Run QuietStep (deployed admin multiSignature ledger) es w) (hx : Exact env)
    (hexit : c.exit env w.opened = some x) (h : (c.transaction env).run w.opened = .ok ((), w')) :
    ∃ d, x.Disposes env d ∧
      (d.Accounted env w.opened x.poolId w' ↔ w.store.feeAddress ≠ 0 ∨ x.Feeless w.opened d) := by
  obtain ⟨moves, heff, -⟩ := transaction_effect hx.toQuiet h
  obtain ⟨hpool, hfees, haddress, hp⟩ := Call.exit_start hexit
  have hassets : (w.store.pools x.poolId).Assets := reachable_listed hrun _ (heff.exists hp)
  obtain ⟨d, hended⟩ := transaction_ended hx.toQuiet hexit h
  exact ⟨d, hended.disposes, hended.accounted hx hpool hfees haddress hassets⟩

theorem disposal_accounted_opening :
    ∃ x d, (Call.finish 1).exit (standardEnv (World.setting 10 1000 10)) World.afterOpening.opened =
        some x ∧ x.Disposes (standardEnv (World.setting 10 1000 10)) d ∧
      (d.Accounted (standardEnv (World.setting 10 1000 10)) World.afterOpening.opened x.poolId
          (World.afterOpening.next (standardEnv (World.setting 10 1000 10)) (.finish 1)) ↔
        World.afterOpening.store.feeAddress ≠ 0 ∨ x.Feeless World.afterOpening.opened d) := by
  have hexact : Exact (standardEnv (World.setting 10 1000 10)) := standard_exact (by decide) (by decide)
  obtain ⟨d, hd⟩ := disposal_accounted (c := .finish 1)
    ((World.play_run World.opening_plays).mono HonestStep.quiet) hexact rfl
    (World.next_ok (by decide +kernel))
  exact ⟨_, d, rfl, hd⟩

namespace World

/-- The opening with a fee of 1 % for borrowers and no address to send it to. -/
def taxed : List (Setting × Call) := opening ++ [(setting 10 100 10, .setFee 0 100)]

/-- The world after it. -/
def afterTaxed : World := (deployed 10 50 openingLedger).play taxed

end World

/-- 1500 pledge tokens back the loan of 1000. The sale takes 1000 of them and the borrowers keep 495 of
the rest; 5 are missing. -/
theorem disposal_unattributed : ∃ es env x w' d,
    Run HonestStep (deployed 10 50 World.openingLedger) es World.afterTaxed ∧ Exact env ∧
    (Call.finish 1).exit env World.afterTaxed.opened = some x ∧
    ((Call.finish 1).transaction env).run World.afterTaxed.opened = .ok ((), w') ∧ x.Disposes env d ∧
    (World.afterTaxed.store.pools 1).settleAmountBorrow = 1500 ∧
    (w'.store.pools 1).borrowPot = 495 ∧ ¬ d.Accounted env World.afterTaxed.opened x.poolId w' := by
  have hexact : Exact (standardEnv (World.setting 10 1000 10)) := standard_exact (by decide) (by decide)
  have hnext : ((Call.finish 1).transaction (standardEnv (World.setting 10 1000 10))).run
      World.afterTaxed.opened = .ok ((), _) := World.next_ok (by decide +kernel)
  have hpot : ((World.afterTaxed.next (standardEnv (World.setting 10 1000 10))
      (.finish 1)).store.pools 1).borrowPot = 495 := by decide +kernel
  have hassets : (World.afterTaxed.store.pools 1).Assets := ⟨by decide +kernel, by decide +kernel⟩
  have hset : World.afterTaxed.store.borrowFee = 100 ∧ World.afterTaxed.store.feeAddress = 0 := by
    decide +kernel
  obtain ⟨d, hended⟩ := transaction_ended hexact.toQuiet (c := .finish 1) rfl hnext
  refine ⟨_, _, _, _, d, World.play_run (by decide +kernel), hexact, rfl, hnext,
    hended.disposes, by decide +kernel, hpot, ?_⟩
  intro haccounted
  rcases (hended.accounted hexact rfl rfl rfl hassets).mp haccounted with haddress | ⟨-, hfee⟩
  · exact haddress hset.2
  · -- without a fee the borrowers would keep all of the rest, and on 495 there is one
    have hrest := hended.borrower
    rw [hfee, Nat.sub_zero] at hrest
    rw [← hrest] at hfee
    have hdue : feeOf 100 495 = 0 := by
      rw [← hset.1, ← hpot]
      exact hfee
    exact absurd hdue (by decide)

end Pledge.Contract
