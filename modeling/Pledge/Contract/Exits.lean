import Pledge.Contract.Market

/-!
# The exits from `EXECUTION`

A pool in `EXECUTION` leaves it through `finish` or `liquidate` only, and both sell collateral to
repay the lenders. On a fair market each of them succeeds under one condition (`ExitFits`): the
collateral that settlement set aside is worth the repayment with the lend fee, and the amounts are in
range. Where the pledge token has lost more than that since settlement, the router asks for more than
`settleAmountBorrow`, the subtraction that follows the sale reverts, and the pool stays where it is.
-/

namespace Pledge.Contract

open Pledge.Evm

/-! ## When an exit fits

Both exits compute a repayment, sell collateral for it, and take a fee off what is left. `ExitFits`
is the list of what has to be in range for that, with one condition of substance in it: the
collateral is worth the repayment and the fee of the lenders. -/

/-- A sale that raises `lend` out of the collateral of `p` at these prices is in range, and the
collateral covers it. -/
structure Storage.SaleFits (s : Storage) (p lend timestamp pledgePrice settlePrice : Nat) : Prop where
  target : lend * (RATE_BASE + s.lendFee) < Tx.uint256
  deadline : 0 < s.saleTarget lend → timestamp + 300 < Tx.uint256
  covered : s.saleTarget lend * settlePrice ≤ (s.pools p).settleAmountBorrow * pledgePrice
  fee : ((s.pools p).settleAmountBorrow - s.saleCost lend pledgePrice settlePrice) * s.borrowFee <
    Tx.uint256

/-- An exit after `duration` is in range, and the collateral covers it. -/
structure Storage.ExitFits (s : Storage) (p duration timestamp pledgePrice settlePrice : Nat) :
    Prop where
  repayment : (s.pools p).RepaymentFits duration
  sale : s.SaleFits p ((s.pools p).repayment duration) timestamp pledgePrice settlePrice

section Exits

variable {env : Env} {w w' : World} {p pledgePrice settlePrice : Nat}

/-- The collateral can be sold off exactly when the sale fits. -/
theorem sale_market (hm : DeepMarket env w p pledgePrice settlePrice)
    (hvalid : (w.store.pools p).Valid)
    (hfees : w.store.lendFee ≤ MAX_FEE_RATE ∧ w.store.borrowFee ≤ MAX_FEE_RATE)
    (lend : Nat) (f : Nat → Pool → Pool) :
    (∃ sold amountIn rest w₁ w₂, SellsOff env p lend f w sold amountIn rest w₁ w₂) ↔
      w.store.SaleFits p lend env.timestamp pledgePrice settlePrice := by
  constructor
  · -- the checks of the code are the parts of `SaleFits`, one by one
    rintro ⟨sold, amountIn, rest, w₁, w₂, hsale, hsold, hredeem⟩
    obtain ⟨htarget, hdeadline, rfl⟩ := processSwapAndFees_needs hm.toFairMarket hvalid hsale
    rw [Storage.saleCost_le _ _ _ hm.pledge_pos] at hsold
    exact ⟨htarget, hdeadline, hsold, (redeemFees_ok.mp hredeem).1⟩
  · rintro ⟨htarget, hdeadline, hcovered, hfee⟩
    rw [← Storage.saleCost_le _ _ _ hm.pledge_pos] at hcovered
    obtain ⟨w₁, hsale, -, hleft⟩ := processSwapAndFees_market hm.toFairMarket hvalid hfees.1 hm.funds
      hm.depth htarget hdeadline hcovered
    -- the fee on the rest is taken after the final amount is written
    obtain ⟨w₂, hredeem, -⟩ := redeemFees_market
      (w := w₁.mapStore fun s => s.setPool p (f lend (s.pools p))) hm.toFairMarket hvalid (.inr rfl)
      hfees.2 hfee hleft
    exact ⟨_, _, _, w₁, w₂, hsale, hcovered, hredeem⟩

/-- The guard does not enter into it. -/
theorem Storage.saleFits_setEntered (s : Storage) (b : Bool) {lend timestamp : Nat} :
    (s.setEntered b).SaleFits p lend timestamp pledgePrice settlePrice ↔
      s.SaleFits p lend timestamp pledgePrice settlePrice := by
  constructor
  · intro h
    exact ⟨h.target, h.deadline, h.covered, h.fee⟩
  · intro h
    exact ⟨h.target, h.deadline, h.covered, h.fee⟩

/-- The guard of `nonReentrant` is not part of the market. -/
theorem DeepMarket.setEntered (hm : DeepMarket env w p pledgePrice settlePrice) (b : Bool) :
    DeepMarket env (w.mapStore (·.setEntered b)) p pledgePrice settlePrice where
  toExact := hm.toExact
  oracle := hm.oracle
  pledge := hm.pledge
  settle := hm.settle
  pledge_pos := hm.pledge_pos
  settle_pos := hm.settle_pos
  router := hm.router
  quote := hm.quote
  fill := hm.fill
  approves := hm.approves
  pays := hm.pays
  funds := hm.funds
  depth := hm.depth

/-- An approved `finish` at the end of the pool. -/
theorem finish_market (hm : DeepMarket env w p pledgePrice settlePrice)
    (hvalid : (w.store.pools p).Valid)
    (hfees : w.store.lendFee ≤ MAX_FEE_RATE ∧ w.store.borrowFee ≤ MAX_FEE_RATE)
    (hex : w.store.Exists p) (hstate : (w.store.pools p).state = .execution)
    (htime : (w.store.pools p).endTime ≤ env.timestamp) (happroved : Approved env w) :
    (∃ w', (finish env p).run w = .ok ((), w')) ↔ w.store.ExitFits p
      ((w.store.pools p).endTime - (w.store.pools p).settleTime) env.timestamp pledgePrice
      settlePrice := by
  have hsale := sale_market hm hvalid hfees ((w.store.pools p).repayment
    ((w.store.pools p).endTime - (w.store.pools p).settleTime))
    fun n pool => { pool with finishAmountLend := n }
  constructor
  · rintro ⟨w', h⟩
    obtain ⟨-, -, -, -, -, hrepay, sold, amountIn, rest, w₁, w₂, hsells, -⟩ :=
      (finish_ok hm.toQuiet).mp h
    exact ⟨hrepay, hsale.mp ⟨sold, amountIn, rest, w₁, w₂, hsells⟩⟩
  · rintro ⟨hrepay, hfits⟩
    obtain ⟨sold, amountIn, rest, w₁, w₂, hsells⟩ := hsale.mpr hfits
    exact ⟨_, (finish_ok hm.toQuiet).mpr ⟨happroved, hex, htime, hstate, hvalid.times, hrepay, sold,
      amountIn, rest, w₁, w₂, hsells, rfl⟩⟩

/-- An open gate is a pool in `EXECUTION` after its settle time whose health factor is low. -/
theorem canLiquidate_opens (hprices : env.Prices w.store p pledgePrice settlePrice)
    (h : (canLiquidate env p).run w = .ok (true, w')) :
    w.store.Exists p ∧ (w.store.pools p).state = .execution ∧
      (w.store.pools p).settleTime ≤ env.timestamp ∧
      w.store.HealthFits p pledgePrice settlePrice ∧
      w.store.healthFactor p pledgePrice settlePrice < (w.store.pools p).liquidationRate := by
  have hopen : w.store.Exists p ∧ (w.store.pools p).state = .execution ∧
      (w.store.pools p).settleTime ≤ env.timestamp := by
    simp only [canLiquidate, storage_rules, Tx.rules, and_assoc, exists_and_left, exists_eq_left] at h
    obtain ⟨hex, _, ⟨hstate, htime, -⟩ | ⟨-, hfalse, -⟩⟩ := h
    · exact ⟨hex, hstate, htime⟩
    · cases hfalse
  obtain ⟨hex, hstate, htime⟩ := hopen
  obtain ⟨-, hfits, hlow⟩ := (canLiquidate_ok hex hstate htime hprices).mp h
  exact ⟨hex, hstate, htime, hfits, of_decide_eq_true hlow.symm⟩

/-- A `liquidate` through an open gate. -/
theorem liquidate_market (hm : DeepMarket env w p pledgePrice settlePrice)
    (hvalid : (w.store.pools p).Valid)
    (hfees : w.store.lendFee ≤ MAX_FEE_RATE ∧ w.store.borrowFee ≤ MAX_FEE_RATE)
    (hfree : w.store.entered = false) (hopen : (canLiquidate env p).run w = .ok (true, w)) :
    (∃ w', (liquidate env p).run w = .ok ((), w')) ↔ w.store.ExitFits p
      (env.timestamp - (w.store.pools p).settleTime) env.timestamp pledgePrice settlePrice := by
  obtain ⟨hex, hstate, htime, hhealth, hlow⟩ := canLiquidate_opens hm.toPrices hopen
  -- the guard is up during the body
  have hm' := hm.setEntered true
  have hsale := sale_market (w := w.guarded) hm' hvalid hfees
    ((w.store.pools p).repayment (env.timestamp - (w.store.pools p).settleTime))
    fun n pool => { pool with liquidationAmountLend := n }
  rw [World.guarded, World.mapStore_store, Storage.saleFits_setEntered] at hsale
  -- the gate is computed again in the body, with the same result
  have hhealth' : (calculateHealthFactor env p).run w.guarded =
      .ok (w.store.healthFactor p pledgePrice settlePrice, w.guarded) :=
    (calculateHealthFactor_ok (w := w.guarded) hstate).mpr
      ⟨rfl, hex, hm'.oracle, _, _, hm'.pledge_pos, hm'.settle_pos, hm'.pledge _, hm'.settle _, hhealth,
        rfl⟩
  constructor
  · rintro ⟨w', h⟩
    obtain ⟨-, -, -, -, -, hrepay, sold, amountIn, rest, w₁, w₂, hsells, -⟩ :=
      (liquidate_ok hm.toQuiet).mp h
    exact ⟨hrepay, hsale.mp ⟨sold, amountIn, rest, w₁, w₂, hsells⟩⟩
  · rintro ⟨hrepay, hfits⟩
    obtain ⟨sold, amountIn, rest, w₁, w₂, hsells⟩ := hsale.mpr hfits
    exact ⟨_, (liquidate_ok hm.toQuiet).mpr ⟨hfree, hex, hstate, htime, ⟨_, hhealth', hlow⟩, hrepay, sold,
      amountIn, rest, w₁, w₂, hsells, rfl⟩⟩

end Exits

/-- **When a pool leaves `EXECUTION`.** In every reachable state, for every pool in `EXECUTION` and
every market with the depth for its collateral: an open gate leads to `LIQUIDATION` exactly when the
collateral covers the repayment due now, and an approved `finish` at the end leads to `FINISH` exactly
when it covers the repayment due at the end. -/
theorem exits_open {admin multiSignature : Address} {ledger : Ledger} {es : List Event} {w : World}
    (hrun : Run RegularStep (deployed admin multiSignature ledger) es w)
    {p pledgePrice settlePrice : Nat} (hstate : (w.store.pools p).state = .execution) {env : Env}
    (hm : DeepMarket env w p pledgePrice settlePrice) :
    ((canLiquidate env p).run w = .ok (true, w) →
      ((∃ w', (liquidate env p).run w = .ok ((), w') ∧ (w'.store.pools p).state = .liquidation) ↔
        w.store.ExitFits p (env.timestamp - (w.store.pools p).settleTime) env.timestamp pledgePrice
          settlePrice)) ∧
    ((w.store.pools p).endTime ≤ env.timestamp → Approved env w →
      ((∃ w', (finish env p).run w = .ok ((), w') ∧ (w'.store.pools p).state = .finish) ↔
        w.store.ExitFits p ((w.store.pools p).endTime - (w.store.pools p).settleTime) env.timestamp
          pledgePrice settlePrice)) := by
  have hin := reachable_inOrder hrun
  have hex := hin.exists (p := p) (by rw [hstate]; decide)
  have hvalid := hin.valid p hex
  constructor
  · intro hopen
    rw [← liquidate_market hm hvalid hin.fees hin.free hopen]
    constructor
    · rintro ⟨w', h, -⟩
      exact ⟨w', h⟩
    · rintro ⟨w', h⟩
      refine ⟨w', h, ?_⟩
      -- a liquidation that succeeds has its effect
      obtain ⟨moves, heff, -⟩ := liquidate_does hm.toQuiet h
      generalize w'.store = s' at heff ⊢
      cases heff
      show ((Storage.setPool _ _ _).pools p).state = _
      rw [Storage.setPool_pools, if_pos rfl]
  · intro htime happroved
    rw [← finish_market hm hvalid hin.fees hex hstate htime happroved]
    constructor
    · rintro ⟨w', h, -⟩
      exact ⟨w', h⟩
    · rintro ⟨w', h⟩
      refine ⟨w', h, ?_⟩
      obtain ⟨moves, heff, -⟩ := finish_does hm.toQuiet h
      generalize w'.store = s' at heff ⊢
      cases heff
      simp

/-! At a pledge price of 5 the 1500 that back the loan of 1000 are worth 750. -/

namespace World

/-- The router has the depth for the claimed pool up to a pledge price of 6666. -/
theorem claim_market {sender timestamp pledgePrice : Nat} (hsender : sender ≠ 100)
    (hprice : 0 < pledgePrice) (hdepth : 1500 * pledgePrice / 10 ≤ 1000000) :
    DeepMarket (standardEnv (setting sender timestamp pledgePrice)) afterClaim 1 pledgePrice 10 := by
  have hassets : (afterClaim.store.pools 1).pledgeToken = 2 ∧
      (afterClaim.store.pools 1).settleToken = 1 := by decide +kernel
  have hprices : (setting sender timestamp pledgePrice).price (afterClaim.store.pools 1).pledgeToken =
        pledgePrice ∧
      (setting sender timestamp pledgePrice).price (afterClaim.store.pools 1).settleToken = 10 := by
    rw [hassets.1, hassets.2]
    exact ⟨rfl, rfl⟩
  have hrouter : afterClaim.store.swapRouter = 200 := by decide +kernel
  have hmarket : FairMarket (standardEnv (setting sender timestamp pledgePrice)) afterClaim.store 1
      ((setting sender timestamp pledgePrice).price (afterClaim.store.pools 1).pledgeToken)
      ((setting sender timestamp pledgePrice).price (afterClaim.store.pools 1).settleToken) :=
    standard_market hsender (by show 200 ≠ 100; decide) hrouter (by show 200 ≠ 0; decide)
      (by decide +kernel)
      (standard_prices (by decide +kernel) (by rwa [hprices.1]) (by rw [hprices.2]; decide))
  rw [hprices.1, hprices.2] at hmarket
  have hborrow : (afterClaim.store.pools 1).settleAmountBorrow = 1500 := by decide +kernel
  have hheld : 1500 ≤ afterClaim.ledger.balance (afterClaim.store.pools 1).pledgeToken 100 := by
    decide +kernel
  have hdeep : 1000000 ≤ afterClaim.ledger.balance (afterClaim.store.pools 1).settleToken
      afterClaim.store.swapRouter := by decide +kernel
  rw [← hborrow] at hheld hdepth
  exact { toFairMarket := hmarket, funds := hheld, depth := hdepth.trans hdeep }

end World

theorem exits_open_claim :
    ((canLiquidate (standardEnv (World.setting 10 1000 5)) 1).run World.afterClaim =
        .ok (true, World.afterClaim) →
      ((∃ w', (liquidate (standardEnv (World.setting 10 1000 5)) 1).run World.afterClaim =
          .ok ((), w') ∧ (w'.store.pools 1).state = .liquidation) ↔
        World.afterClaim.store.ExitFits 1
          (1000 - (World.afterClaim.store.pools 1).settleTime) 1000 5 10)) ∧
    ((World.afterClaim.store.pools 1).endTime ≤ 1000 →
      Approved (standardEnv (World.setting 10 1000 5)) World.afterClaim →
      ((∃ w', (finish (standardEnv (World.setting 10 1000 5)) 1).run World.afterClaim =
          .ok ((), w') ∧ (w'.store.pools 1).state = .finish) ↔
        World.afterClaim.store.ExitFits 1 ((World.afterClaim.store.pools 1).endTime -
          (World.afterClaim.store.pools 1).settleTime) 1000 5 10)) :=
  exits_open (World.claim_run.mono HonestStep.regular) (by decide +kernel)
    (World.claim_market (by decide) (by decide) (by decide))

/-- At the end of the pool the gate is open and the administrator is approved, but both exits
revert: 1500 pledge tokens do not buy back 1000. -/
theorem exits_shut : ∃ es w env, Run HonestStep (deployed 10 50 World.openingLedger) es w ∧
    (w.store.pools 1).state = .execution ∧ DeepMarket env w 1 5 10 ∧
    (canLiquidate env 1).run w = .ok (true, w) ∧ (¬ ∃ w', (liquidate env 1).run w = .ok ((), w')) ∧
    (w.store.pools 1).endTime ≤ env.timestamp ∧ Approved env w ∧
    ¬ ∃ w', (finish env 1).run w = .ok ((), w') := by
  have hin := reachable_inOrder (World.claim_run.mono HonestStep.regular)
  have hstate : (World.afterClaim.store.pools 1).state = .execution := by decide +kernel
  have hex : World.afterClaim.store.Exists 1 := by decide +kernel
  have hm : DeepMarket (standardEnv (World.setting 10 1000 5)) World.afterClaim 1 5 10 :=
    World.claim_market (by decide) (by decide) (by decide)
  have htime : (World.afterClaim.store.pools 1).endTime ≤ 1000 := by decide +kernel
  have hopen : (canLiquidate (standardEnv (World.setting 10 1000 5)) 1).run World.afterClaim =
      .ok (true, World.afterClaim) :=
    (canLiquidate_ok hex hstate (by decide +kernel) hm.toPrices).mpr
      ⟨rfl, by decide +kernel, by decide +kernel⟩
  have happroved : Approved (standardEnv (World.setting 10 1000 5)) World.afterClaim :=
    ⟨1, rfl, by decide⟩
  have hshort : ¬ World.afterClaim.store.saleTarget ((World.afterClaim.store.pools 1).repayment 900) *
      10 ≤ (World.afterClaim.store.pools 1).settleAmountBorrow * 5 := by decide +kernel
  have hduration : (World.afterClaim.store.pools 1).settleTime = 100 ∧
      (World.afterClaim.store.pools 1).endTime = 1000 := by decide +kernel
  refine ⟨_, World.afterClaim, standardEnv (World.setting 10 1000 5), World.claim_run, hstate, hm,
    hopen, ?_, htime, happroved, ?_⟩
  · rw [liquidate_market hm (hin.valid 1 hex) hin.fees hin.free hopen, hduration.1]
    intro hfits
    exact hshort hfits.sale.covered
  · rw [finish_market hm (hin.valid 1 hex) hin.fees hex hstate htime happroved, hduration.1,
      hduration.2]
    intro hfits
    exact hshort hfits.sale.covered

end Pledge.Contract
