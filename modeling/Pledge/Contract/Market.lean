import Mathlib.Algebra.Order.Floor.Div
import Pledge.Contract.Health

/-!
# Selling collateral on a fair market

The assumptions of the two exits: a router that quotes and fills exactly at the oracle prices,
rounding in its own favour, and two tokens of the pool that move whenever the funds are there. On such a market
`_processSwapAndFees` fails for few reasons, and `processSwapAndFees_market` names all of them.
-/

namespace Pledge.Contract

open Pledge.Evm

/-! ## The market

Nothing is assumed of tokens other than the two of the pool, nor of a transfer to the zero address,
which standard tokens refuse. -/

/-- One of the two tokens of the pool. -/
def Pool.Asset (pool : Pool) (token : Address) : Prop :=
  token = pool.settleToken ∨ token = pool.pledgeToken

theorem Pool.Asset.ne_zero {pool : Pool} {token : Address} (h : pool.Asset token)
    (hvalid : pool.Valid) : token ≠ 0 := by
  rcases h with rfl | rfl
  · exact hvalid.settleToken
  · exact hvalid.pledgeToken

/-- The router quotes and fills exactly at the oracle prices, quotes rounded up and fills rounded
down, and the two tokens of the pool approve it and move where there are funds. -/
structure FairMarket (env : Env) (s : Storage) (p pledgePrice settlePrice : Nat) : Prop
    extends Exact env, Env.Prices env s p pledgePrice settlePrice where
  router : s.swapRouter ≠ 0
  quote : ∀ n w, n ≠ 0 → env.getAmountsIn s.swapRouter n
    [(s.pools p).pledgeToken, (s.pools p).settleToken] w =
      .ok [n * settlePrice ⌈/⌉ pledgePrice, n]
  fill : ∀ n deadline w, n ≠ 0 → n ≤ w.ledger.balance (s.pools p).pledgeToken env.this →
    n * pledgePrice / settlePrice ≤ w.ledger.balance (s.pools p).settleToken s.swapRouter →
    ∃ w', (env.swapExactTokensForTokens s.swapRouter n 0
      [(s.pools p).pledgeToken, (s.pools p).settleToken] env.this deadline).run w =
        .ok ([n, n * pledgePrice / settlePrice], w')
  approves : ∀ token, (s.pools p).Asset token → ∀ n w,
    ∃ r w', (env.approve token s.swapRouter n).run w = .ok (r, w') ∧
      (r = .noData ∨ r = .returned true)
  pays : ∀ token, (s.pools p).Asset token → ∀ recipient, recipient ≠ 0 → ∀ n w,
    n ≤ w.ledger.balance token env.this →
      ∃ w', (env.transfer token recipient n).run w = .ok (true, w')

/-- A market with the depth for the collateral that settlement set aside, which the contract holds. -/
structure DeepMarket (env : Env) (w : World) (p pledgePrice settlePrice : Nat) : Prop
    extends FairMarket env w.store p pledgePrice settlePrice where
  funds : (w.store.pools p).settleAmountBorrow ≤
    w.ledger.balance (w.store.pools p).pledgeToken env.this
  depth : (w.store.pools p).settleAmountBorrow * pledgePrice / settlePrice ≤
    w.ledger.balance (w.store.pools p).settleToken w.store.swapRouter

/-! ## The cost of a sale

The quote is rounded up, so that what it buys is never less than the target. That it is the least such
amount makes the condition for affording it exact (`saleCost_le`). -/

namespace Storage

variable (s : Storage) (p : Nat)

/-- The pledge tokens that costs at these prices. -/
def saleCost (lend pledgePrice settlePrice : Nat) : Nat :=
  s.saleTarget lend * settlePrice ⌈/⌉ pledgePrice

end Storage

section Market

variable {env : Env} {w w' : World} {p pledgePrice settlePrice lend : Nat}

/-- The target covers what is to be raised. -/
theorem Storage.le_saleTarget (s : Storage) (lend : Nat) : lend ≤ s.saleTarget lend := by
  unfold saleTarget
  rw [Nat.le_div_iff_mul_le (by decide)]
  exact Nat.mul_le_mul_left lend (Nat.le_add_right _ _)

/-- The cost buys the target. -/
theorem Storage.saleTarget_le (s : Storage) (lend : Nat) (hpp : 0 < pledgePrice)
    (hsp : 0 < settlePrice) :
    s.saleTarget lend ≤ s.saleCost lend pledgePrice settlePrice * pledgePrice / settlePrice := by
  rw [Nat.le_div_iff_mul_le hsp, Nat.mul_comm (s.saleCost lend pledgePrice settlePrice)]
  exact le_smul_ceilDiv hpp

/-- The cost is affordable exactly when the collateral is worth the target. -/
theorem Storage.saleCost_le (s : Storage) (lend n : Nat) (hpp : 0 < pledgePrice) :
    s.saleCost lend pledgePrice settlePrice ≤ n ↔
      s.saleTarget lend * settlePrice ≤ n * pledgePrice := by
  unfold saleCost
  rw [ceilDiv_le_iff_le_smul hpp, smul_eq_mul, Nat.mul_comm n]

/-- The quote. -/
theorem getAmountIn_market (hm : FairMarket env w.store p pledgePrice settlePrice)
    (hvalid : (w.store.pools p).Valid) {n m : Nat} (hn : n ≠ 0) :
    (getAmountIn env (w.store.pools p).pledgeToken (w.store.pools p).settleToken n).run w =
        .ok (m, w') ↔ m = n * settlePrice ⌈/⌉ pledgePrice ∧ w' = w := by
  simp only [getAmountIn, getSwapPath, storage_rules, Tx.rules, and_assoc, exists_and_left,
    exists_eq_left, exists_const, hvalid.pledgeToken, hvalid.settleToken, hm.router, ne_eq,
    not_false_eq_true, true_and, false_and, false_or, hm.quote n _ hn, Except.ok.injEq]
  simp [eq_comm]

/-- A swap of something needs its deadline. -/
theorem swap_deadline (hm : FairMarket env w.store p pledgePrice settlePrice)
    (hvalid : (w.store.pools p).Valid) {n out : Nat} (hn : n ≠ 0)
    (h : (swap env (w.store.pools p).pledgeToken (w.store.pools p).settleToken n).run w =
      .ok (out, w')) : env.timestamp + 300 < Tx.uint256 := by
  simp only [swap, getSwapPath, storage_rules, Tx.rules, and_assoc, exists_and_left,
    exists_eq_left, exists_const, hvalid.pledgeToken, hvalid.settleToken, hm.router, ne_eq,
    not_false_eq_true, true_and, false_and, false_or, hn] at h
  obtain ⟨_, _, _, _, hdeadline, _⟩ := h
  exact hdeadline

/-- **A swap on a fair market succeeds** when both sides have the funds. -/
theorem swap_market (hm : FairMarket env w.store p pledgePrice settlePrice)
    (hvalid : (w.store.pools p).Valid) {n : Nat} (hn : n ≠ 0)
    (hfunds : n ≤ w.ledger.balance (w.store.pools p).pledgeToken env.this)
    (hdepth : n * pledgePrice / settlePrice ≤
      w.ledger.balance (w.store.pools p).settleToken w.store.swapRouter)
    (hdeadline : env.timestamp + 300 < Tx.uint256) :
    ∃ w', (swap env (w.store.pools p).pledgeToken (w.store.pools p).settleToken n).run w =
      .ok (n * pledgePrice / settlePrice, w') := by
  obtain ⟨r₀, w₁, happrove₀, hr₀⟩ := hm.approves (w.store.pools p).pledgeToken (.inr rfl) n w
  have hstore₁ : w₁.store = w.store := hm.toQuiet.approve happrove₀
  obtain ⟨r₁, w₂, happrove₁, hr₁⟩ := hm.approves (w.store.pools p).settleToken (.inl rfl) Tx.maxUint256 w₁
  -- the approvals move nothing, so the funds are still there for the fill
  have hbalance : w₂.ledger.balance = w.ledger.balance :=
    (hm.approve_same happrove₁).1.trans (hm.approve_same happrove₀).1
  obtain ⟨w', hfill⟩ := hm.fill n (env.timestamp + 300) w₂ hn (by rwa [hbalance]) (by rwa [hbalance])
  refine ⟨w', ?_⟩
  simp only [swap, getSwapPath, safeApprove, storage_rules, Tx.rules, and_assoc, exists_and_left,
    exists_eq_left, exists_const, hvalid.pledgeToken, hvalid.settleToken, hm.router, ne_eq,
    not_false_eq_true, true_and, false_and, false_or, hn, not_true_eq_false, or_false]
  refine ⟨w₁, ⟨r₀, w₁, happrove₀, hr₀, rfl⟩, w₂, ⟨r₁, w₂, ?_, hr₁, rfl⟩, hdeadline, _, w', hfill,
    by simp, by simp, rfl⟩
  rw [hstore₁]
  exact happrove₁

/-- What such a swap leaves the contract with. -/
theorem swap_funds (hx : Exact env) (hvalid : (w.store.pools p).Valid) {n out : Nat} (hn : n ≠ 0)
    (h : (swap env (w.store.pools p).pledgeToken (w.store.pools p).settleToken n).run w =
      .ok (out, w')) :
    out ≤ w'.ledger.balance (w.store.pools p).settleToken env.this ∧
      w.ledger.balance (w.store.pools p).pledgeToken env.this - n +
          (if (w.store.pools p).pledgeToken = (w.store.pools p).settleToken then out else 0) ≤
        w'.ledger.balance (w.store.pools p).pledgeToken env.this := by
  rcases swap_moved hx hvalid.pledgeToken hvalid.settleToken h with
    ⟨h0, -⟩ | ⟨w₀, w₁, sink, source, ⟨hbalance, -⟩, -, hsource, hin, hout⟩
  · exact absurd h0 hn
  have hspent : w.ledger.balance (w.store.pools p).pledgeToken env.this - n ≤
      w₁.ledger.balance (w.store.pools p).pledgeToken env.this := by
    rw [hin.balance, Function.update_self, hbalance]
    simpa using Holdings.le_move (w.ledger.balance (w.store.pools p).pledgeToken) env.this sink
      env.this n
  constructor
  · rw [hout.balance, Function.update_self]
    exact Holdings.le_move_dst _ _ _ _
  · split
    · -- both assets are one token, and the proceeds add to what is left of it
      next hsame =>
        rw [hsame] at hspent ⊢
        rw [hout.balance, Function.update_self, Holdings.move_dst _ (Ne.symm hsource)]
        exact Nat.add_le_add_right hspent out
    · next hdiff =>
        rw [hout.balance_ne hdiff]
        exact hspent

/-! ## Sales and fees

A sale has three external calls in a row: the quote, the swap with its approvals, and the payment of
what is above the debt. The balances after each are followed far enough to see that the next can be
paid. -/

/-- A fee that is due is paid, or skipped, where there are funds. -/
theorem fee_market {s : Storage} (hm : FairMarket env s p pledgePrice settlePrice)
    (hvalid : (s.pools p).Valid) {token : Address} (ht : (s.pools p).Asset token) {fee : Nat}
    (hfunds : fee ≤ w.ledger.balance token env.this) :
    ∃ w', FeeSent env w.store.feeAddress token fee w w' ∧
      w'.store = w.store ∧ ∀ t, w.ledger.balance t env.this - (if t = token then fee else 0) ≤
        w'.ledger.balance t env.this := by
  by_cases hdue : 0 < fee ∧ w.store.feeAddress ≠ 0
  · obtain ⟨w', htransfer⟩ := hm.pays token ht w.store.feeAddress hdue.2 fee w hfunds
    refine ⟨w', ?_, hm.toQuiet.transfer htransfer, ?_⟩
    · simp only [FeeSent, transferToken, Tx.rules]
      exact .inl ⟨hdue, .inr ⟨hdue.1.ne', .inr ⟨ht.ne_zero hvalid, true, w', htransfer, trivial, rfl⟩⟩⟩
    · intro t
      have hmoved := (hm.transfer_moved htransfer).2
      by_cases heq : t = token
      · rw [if_pos heq, heq, hmoved.balance, Function.update_self]
        simpa using Holdings.le_move (w.ledger.balance token) env.this w.store.feeAddress env.this fee
      · rw [if_neg heq, hmoved.balance_ne heq]
        exact Nat.sub_le _ _
  · refine ⟨w, ?_, rfl, fun t => Nat.sub_le _ _⟩
    rw [FeeSent, Tx.when_ok]
    exact .inr ⟨hdue, rfl⟩

/-- **A sale on a fair market** succeeds unless its amounts leave the range, its deadline does, or the
router asks for more than there is. -/
theorem processSwapAndFees_market (hm : FairMarket env w.store p pledgePrice settlePrice)
    (hvalid : (w.store.pools p).Valid) (hfee : w.store.lendFee ≤ MAX_FEE_RATE) {budget : Nat}
    (hfunds : budget ≤ w.ledger.balance (w.store.pools p).pledgeToken env.this)
    (hdepth : budget * pledgePrice / settlePrice ≤
      w.ledger.balance (w.store.pools p).settleToken w.store.swapRouter)
    (hfits : lend * (RATE_BASE + w.store.lendFee) < Tx.uint256)
    (hdeadline : 0 < w.store.saleTarget lend → env.timestamp + 300 < Tx.uint256)
    (hcost : w.store.saleCost lend pledgePrice settlePrice ≤ budget) :
    ∃ w', (processSwapAndFees env p lend).run w =
        .ok ((w.store.saleCost lend pledgePrice settlePrice, lend), w') ∧ w'.store = w.store ∧
      budget - w.store.saleCost lend pledgePrice settlePrice ≤
        w'.ledger.balance (w.store.pools p).pledgeToken env.this := by
  have hrate : RATE_BASE + w.store.lendFee < Tx.uint256 := by
    have hbound : RATE_BASE + MAX_FEE_RATE < Tx.uint256 := by decide
    omega
  have hlend := w.store.le_saleTarget lend
  have htarget := w.store.saleTarget_le lend hm.pledge_pos hm.settle_pos
  by_cases h0 : w.store.saleTarget lend = 0
  · -- nothing is to be raised
    obtain rfl : lend = 0 := by omega
    have hzero : w.store.saleCost 0 pledgePrice settlePrice = 0 := by
      rw [Storage.saleCost, h0, Nat.zero_mul]
      exact zero_ceilDiv _
    rw [hzero] at hcost ⊢
    refine ⟨w, (processSwapAndFees_ok hm.toQuiet).mpr ⟨hrate, hfits, rfl, 0, w, ?_, Nat.le_refl _, ?_⟩,
      rfl, hfunds⟩
    · rw [h0, sellExactAmount, if_pos rfl]
      rfl
    · rw [FeeSent, Tx.when_ok]
      exact .inr ⟨fun hdue => Nat.lt_irrefl 0 hdue.1, rfl⟩
  · -- the quote buys the target, so it is not zero, and it is within the budget
    have hne : w.store.saleCost lend pledgePrice settlePrice ≠ 0 := by
      intro hzero
      rw [hzero, Nat.zero_mul, Nat.zero_div] at htarget
      exact h0 (Nat.le_zero.mp htarget)
    have hdepth' : w.store.saleCost lend pledgePrice settlePrice * pledgePrice / settlePrice ≤
        w.ledger.balance (w.store.pools p).settleToken w.store.swapRouter :=
      (Nat.div_le_div_right (Nat.mul_le_mul_right _ hcost)).trans hdepth
    obtain ⟨w₁, hswap⟩ := swap_market hm hvalid hne (hcost.trans hfunds) hdepth'
      (hdeadline (Nat.pos_of_ne_zero h0))
    have hstore : w₁.store = w.store := swap_store hm.toQuiet hswap
    obtain ⟨hreceived, hspent⟩ := swap_funds hm.toExact hvalid hne hswap
    have hquote : (getAmountIn env (w.store.pools p).pledgeToken (w.store.pools p).settleToken
        (w.store.saleTarget lend)).run w = .ok (w.store.saleCost lend pledgePrice settlePrice, w) :=
      (getAmountIn_market hm hvalid h0).mpr ⟨rfl, rfl⟩
    have hsell : (sellExactAmount env (w.store.pools p).pledgeToken (w.store.pools p).settleToken
        (w.store.saleTarget lend)).run w = .ok ((w.store.saleCost lend pledgePrice settlePrice,
          w.store.saleCost lend pledgePrice settlePrice * pledgePrice / settlePrice), w₁) := by
      simp only [sellExactAmount, Tx.rules]
      exact .inr ⟨h0, _, w, hquote, _, w₁, hswap, rfl, rfl⟩
    -- what is above the amount to be raised is there for the fee
    obtain ⟨w₂, hpay, hstore₂, hkept⟩ :=
      fee_market (w := w₁) hm hvalid (.inl rfl) ((Nat.sub_le _ lend).trans hreceived)
    rw [hstore] at hpay
    refine ⟨w₂, (processSwapAndFees_ok hm.toQuiet).mpr ⟨hrate, hfits, rfl, _, w₁, hsell,
      hlend.trans htarget, hpay⟩, hstore₂.trans hstore, ?_⟩
    have hrest := hkept (w.store.pools p).pledgeToken
    split_ifs at hspent hrest <;> omega

/-- Conversely, a sale that succeeds had its amounts and its deadline in range, and paid the quote. -/
theorem processSwapAndFees_needs (hm : FairMarket env w.store p pledgePrice settlePrice)
    (hvalid : (w.store.pools p).Valid) {sold amountIn : Nat}
    (h : (processSwapAndFees env p lend).run w = .ok ((sold, amountIn), w')) :
    lend * (RATE_BASE + w.store.lendFee) < Tx.uint256 ∧
      (0 < w.store.saleTarget lend → env.timestamp + 300 < Tx.uint256) ∧
      sold = w.store.saleCost lend pledgePrice settlePrice := by
  obtain ⟨-, hfits, -, received, w₁, hsell, -⟩ := (processSwapAndFees_ok hm.toQuiet).mp h
  simp only [sellExactAmount, Tx.rules, Prod.mk.injEq, and_assoc] at hsell
  rcases hsell with ⟨h0, rfl, -, -⟩ | ⟨hne, quoted, w₂, hquote, out, w₃, hswap, rfl, -⟩
  · refine ⟨hfits, fun hpos => absurd h0 hpos.ne', ?_⟩
    rw [Storage.saleCost, h0, Nat.zero_mul]
    exact (zero_ceilDiv _).symm
  · obtain ⟨rfl, rfl⟩ := (getAmountIn_market hm hvalid hne).mp hquote
    refine ⟨hfits, ?_, rfl⟩
    intro _
    have hcost : w₂.store.saleCost lend pledgePrice settlePrice ≠ 0 := by
      intro hzero
      have htarget := w₂.store.saleTarget_le lend hm.pledge_pos hm.settle_pos
      rw [hzero, Nat.zero_mul, Nat.zero_div] at htarget
      exact hne (Nat.le_zero.mp htarget)
    exact swap_deadline hm hvalid hcost hswap

/-- The fee of `_redeemFees` where there are funds. -/
theorem redeemFees_market {s : Storage} (hm : FairMarket env s p pledgePrice settlePrice)
    (hvalid : (s.pools p).Valid) {token : Address} (ht : (s.pools p).Asset token)
    {ratio amount : Nat} (hratio : ratio ≤ MAX_FEE_RATE)
    (hfits : amount * ratio < Tx.uint256) (hfunds : amount ≤ w.ledger.balance token env.this) :
    ∃ w', (redeemFees env ratio token amount).run w = .ok (amount - feeOf ratio amount, w') ∧
      w'.store = w.store := by
  have hle : feeOf ratio amount ≤ amount := by
    have hbase : ratio ≤ RATE_BASE := hratio.trans (by decide)
    exact Nat.div_le_of_le_mul (by
      rw [Nat.mul_comm]
      exact Nat.mul_le_mul_right _ hbase)
  obtain ⟨w', hpay, hstore, -⟩ := fee_market hm hvalid ht (hle.trans hfunds)
  exact ⟨w', redeemFees_ok.mpr ⟨hfits, hle, rfl, hpay⟩, hstore⟩

end Market

/-- The router of the standard environment is such a market. -/
theorem World.standard_market {st : Setting} {s : Storage} {p : Nat} (hsender : st.sender ≠ st.this)
    (hrouter : st.router ≠ st.this) (hset : s.swapRouter = st.router) (hrouter0 : st.router ≠ 0)
    (hassets : (s.pools p).pledgeToken ≠ (s.pools p).settleToken)
    (hprices : (standardEnv st).Prices s p (st.price (s.pools p).pledgeToken)
      (st.price (s.pools p).settleToken)) :
    FairMarket (standardEnv st) s p (st.price (s.pools p).pledgeToken)
      (st.price (s.pools p).settleToken) where
  toExact := standard_exact hsender hrouter
  toPrices := hprices
  router := hset ▸ hrouter0
  quote n w _ := by
    rw [Nat.ceilDiv_eq_add_pred_div]
    rfl
  fill n deadline w _ hfunds hdepth := by
    rw [hset] at hdepth
    obtain ⟨w₁, hin⟩ := moveToken_runs st.router hfunds
    have hkept := (moveToken_ok hin).2.balance_ne hassets.symm
    rw [← hkept] at hdepth
    obtain ⟨w₂, hout⟩ := moveToken_runs st.this hdepth
    refine ⟨w₂, ?_⟩
    simp only [standardEnv, Tx.bind_ok, Tx.pure_ok]
    exact ⟨(), w₁, hin, (), w₂, hout, trivial, rfl⟩
  approves token _ n w := by
    simp only [standardEnv, setAllowance, Tx.rules, exists_and_left, exists_eq_left, exists_const]
    exact ⟨_, _, ⟨rfl, rfl⟩, .inr rfl⟩
  pays _ _ recipient _ _ _ hfunds := standard_pays recipient hfunds

end Pledge.Contract
