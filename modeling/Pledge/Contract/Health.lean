import Pledge.Contract.Backing

/-!
# The health factor against the collateral ratio

Settlement sets `settleAmountBorrow` aside for a loan of `settleAmountLend`, and a pool is `Under` at
given prices when that collateral is worth less than the liquidation rate asks for. The health factor
is something else: it divides the value of everything pledged by the borrowers that claimed or took
their excess back by the loans they took, each value rounded down.

The two differ by three terms: the `excess`, which is collateral the health factor counts beyond the
part that stands for the counted loans; the `truncation` of the divisions; and, where no loan is
counted at all, the constant `RATE_BASE`, which is below every liquidation rate. With these terms the
gate of `liquidate` is exactly a comparison (`healthFactor_lt_iff`).
-/

namespace Pledge.Contract

open Pledge.Evm Pledge.Arith

/-! ## Terms

The health factor adds up values that are rounded down borrower by borrower (`truncation`), and it
counts what the borrowers have pledged, not what settlement has kept (`excess`). With these two the
comparison of the gate has no divisions. -/

namespace Pool

variable (pool : Pool) (pledgePrice settlePrice : Nat)

/-- The collateral that settlement set aside is below the liquidation ratio of the settled loan. -/
def Under : Prop :=
  pool.settleAmountBorrow * pledgePrice * RATE_BASE <
    pool.liquidationRate * pool.settleAmountLend * settlePrice

instance : Decidable (pool.Under pledgePrice settlePrice) := inferInstanceAs (Decidable (_ < _))

/-- By how much it is above the ratio. -/
def surplus : Nat :=
  pool.settleAmountBorrow * pledgePrice * RATE_BASE -
    pool.liquidationRate * pool.settleAmountLend * settlePrice

/-- By how much it is below the ratio. -/
def shortfall : Nat :=
  pool.liquidationRate * pool.settleAmountLend * settlePrice -
    pool.settleAmountBorrow * pledgePrice * RATE_BASE

end Pool

namespace Storage

variable (s : Storage) (p : Nat) (pledgePrice settlePrice : Nat)

/-- Everything pledged by the counted borrowers. -/
def countedPledge : Nat :=
  tally (s.countedBorrowers p) fun user => (s.borrowInfos p user).pledgeAmount

/-- The counted collateral beyond the part of `settleAmountBorrow` that stands for the counted loans,
times the settled loan. -/
def excess : Nat :=
  s.countedPledge p * (s.pools p).settleAmountLend -
    (s.pools p).settleAmountBorrow * s.totalBorrowAmount p

/-- What the divisions of `_calculateTotals` drop. -/
def truncation : Nat :=
  tally (s.countedBorrowers p) fun user =>
    (s.borrowInfos p user).pledgeAmount * pledgePrice % settlePrice

/-- A loan is counted, and what the divisions drop is within the excess and the surplus. -/
def Shielded : Prop :=
  0 < s.totalBorrowAmount p ∧
    s.truncation p pledgePrice settlePrice * RATE_BASE * (s.pools p).settleAmountLend ≤
      s.excess p * pledgePrice * RATE_BASE +
        s.totalBorrowAmount p * (s.pools p).surplus pledgePrice settlePrice

/-- The excess and what the divisions drop do not make up for the shortfall. -/
def Exposed : Prop :=
  s.excess p * pledgePrice * RATE_BASE <
    s.totalBorrowAmount p * (s.pools p).shortfall pledgePrice settlePrice +
      s.truncation p pledgePrice settlePrice * RATE_BASE * (s.pools p).settleAmountLend

variable {s p pledgePrice settlePrice}

theorem mem_countedBorrowers {user : Address} :
    user ∈ s.countedBorrowers p ↔ user ∈ s.borrowers p ∧ s.Counted p user := by
  simp [countedBorrowers]

/-- Truncated and dropped parts together are the value. -/
theorem totalPledgeValue_split :
    s.totalPledgeValue p pledgePrice settlePrice * settlePrice +
        s.truncation p pledgePrice settlePrice = s.countedPledge p * pledgePrice := by
  have hsplit := tally_div_mod (s.countedBorrowers p)
    (fun user => (s.borrowInfos p user).pledgeAmount * pledgePrice) settlePrice
  have hvalue : tally (s.countedBorrowers p)
      (fun user => (s.borrowInfos p user).pledgeAmount * pledgePrice) =
        pledgePrice * s.countedPledge p := by
    rw [countedPledge, ← tally_mul]
    exact tally_congr fun user _ => Nat.mul_comm _ _
  rw [Nat.mul_comm _ pledgePrice, ← hvalue]
  exact hsplit

/-- Each counted loan is at most the borrower's share of the settled loan. -/
theorem loan_le (hs : (s.book p).Settlement) (user : Address) :
    (s.pools p).borrowSupply * (s.borrowInfos p user).borrowAmount ≤
      (s.pools p).settleAmountLend * (s.borrowInfos p user).pledgeAmount := by
  rcases hs.loan user with h0 | ⟨_, _, hloan⟩
  · rw [show (s.borrowInfos p user).borrowAmount = 0 from h0]
    exact Nat.zero_le _
  · rw [show (s.borrowInfos p user).borrowAmount = (s.pools p).loan (s.borrowInfos p user) from hloan]
    exact Nat.mul_div_le _ _

/-- The excess is not truncated: the counted loans are backed by counted collateral. -/
theorem excess_split (hs : (s.book p).Settlement) (hst : (s.pools p).state.Settled) :
    s.excess p + (s.pools p).settleAmountBorrow * s.totalBorrowAmount p =
      s.countedPledge p * (s.pools p).settleAmountLend := by
  apply Nat.sub_add_cancel
  have hsum : (s.pools p).borrowSupply * s.totalBorrowAmount p ≤
      (s.pools p).settleAmountLend * s.countedPledge p := by
    show _ * tally (s.countedBorrowers p) _ ≤ _
    rw [countedPledge, ← tally_mul, ← tally_mul]
    exact tally_le fun user _ => loan_le hs user
  calc (s.pools p).settleAmountBorrow * s.totalBorrowAmount p
      ≤ (s.pools p).borrowSupply * s.totalBorrowAmount p := Nat.mul_le_mul_right _ (hs.le hst).2
    _ ≤ (s.pools p).settleAmountLend * s.countedPledge p := hsum
    _ = s.countedPledge p * (s.pools p).settleAmountLend := Nat.mul_comm _ _

/-- A positive counted loan is a share of a positive settled loan. -/
theorem settleAmountLend_pos (hs : (s.book p).Settlement) (hst : (s.pools p).state.Settled)
    (hloan : 0 < s.totalBorrowAmount p) : 0 < (s.pools p).settleAmountLend := by
  apply Nat.pos_of_ne_zero
  intro h0
  have hsplit := excess_split hs hst
  have hnone : ∀ user ∈ s.countedBorrowers p, (s.borrowInfos p user).borrowAmount = 0 := by
    intro user _
    have hle := loan_le hs user
    rw [h0, Nat.zero_mul, Nat.le_zero, Nat.mul_eq_zero] at hle
    rcases hle with hsupply | hnone
    · exact absurd hsupply (hs.supplied hst).2.ne'
    · exact hnone
  exact absurd (tally_zero hnone) hloan.ne'

/-- **The gate as a comparison.** -/
theorem healthFactor_lt_iff (hs : (s.book p).Settlement) (hst : (s.pools p).state.Settled)
    (hsp : 0 < settlePrice) (hloan : 0 < s.totalBorrowAmount p) (rate : Nat) :
    s.healthFactor p pledgePrice settlePrice < rate ↔
      s.excess p * pledgePrice * RATE_BASE +
          s.totalBorrowAmount p * ((s.pools p).settleAmountBorrow * pledgePrice * RATE_BASE) <
        s.totalBorrowAmount p * (rate * (s.pools p).settleAmountLend * settlePrice) +
          s.truncation p pledgePrice settlePrice * RATE_BASE * (s.pools p).settleAmountLend := by
  have hlend := settleAmountLend_pos hs hst hloan
  -- both sides, times the settle price and the settled loan
  have hscale : 0 < settlePrice * (s.pools p).settleAmountLend := Nat.mul_pos hsp hlend
  have hleft : s.excess p * pledgePrice * RATE_BASE +
        s.totalBorrowAmount p * ((s.pools p).settleAmountBorrow * pledgePrice * RATE_BASE) =
      s.totalPledgeValue p pledgePrice settlePrice * RATE_BASE *
          (settlePrice * (s.pools p).settleAmountLend) +
        s.truncation p pledgePrice settlePrice * RATE_BASE * (s.pools p).settleAmountLend := by
    calc s.excess p * pledgePrice * RATE_BASE +
          s.totalBorrowAmount p * ((s.pools p).settleAmountBorrow * pledgePrice * RATE_BASE)
        = (s.excess p + (s.pools p).settleAmountBorrow * s.totalBorrowAmount p) *
            (pledgePrice * RATE_BASE) := by ring
      _ = s.countedPledge p * pledgePrice * ((s.pools p).settleAmountLend * RATE_BASE) := by
          rw [excess_split hs hst]
          ring
      _ = (s.totalPledgeValue p pledgePrice settlePrice * settlePrice +
            s.truncation p pledgePrice settlePrice) *
            ((s.pools p).settleAmountLend * RATE_BASE) := by rw [totalPledgeValue_split]
      _ = _ := by ring
  have hright : s.totalBorrowAmount p * (rate * (s.pools p).settleAmountLend * settlePrice) =
      rate * s.totalBorrowAmount p * (settlePrice * (s.pools p).settleAmountLend) := by ring
  rw [hleft, hright, Nat.add_lt_add_iff_right, Nat.mul_lt_mul_right hscale, healthFactor,
    if_neg hloan.ne', Nat.div_lt_iff_lt_mul hloan]

/-- A pool that is not under is liquidated only through truncation or when no loan is counted. -/
theorem healthFactor_lt_of_not_under (hs : (s.book p).Settlement)
    (hst : (s.pools p).state.Settled) (hvalid : (s.pools p).Valid) (hsp : 0 < settlePrice)
    (h : ¬ (s.pools p).Under pledgePrice settlePrice) :
    s.healthFactor p pledgePrice settlePrice < (s.pools p).liquidationRate ↔
      ¬ s.Shielded p pledgePrice settlePrice := by
  rcases Nat.eq_zero_or_pos (s.totalBorrowAmount p) with h0 | hloan
  · -- no loan is counted: the factor is par, below every valid liquidation rate
    rw [healthFactor, if_pos h0]
    constructor
    · rintro - ⟨hpos, -⟩
      exact absurd h0 hpos.ne'
    · intro _
      exact hvalid.liquidationRate.1
  · -- the collateral is the ratio and the surplus, so the ratio cancels in the comparison
    have hle : (s.pools p).liquidationRate * (s.pools p).settleAmountLend * settlePrice ≤
        (s.pools p).settleAmountBorrow * pledgePrice * RATE_BASE := Nat.not_lt.mp h
    have hsurplus : s.totalBorrowAmount p *
          ((s.pools p).settleAmountBorrow * pledgePrice * RATE_BASE) =
        s.totalBorrowAmount p * (s.pools p).surplus pledgePrice settlePrice +
          s.totalBorrowAmount p *
            ((s.pools p).liquidationRate * (s.pools p).settleAmountLend * settlePrice) := by
      rw [← Nat.mul_add, Pool.surplus, Nat.sub_add_cancel hle]
    rw [healthFactor_lt_iff hs hst hsp hloan, hsurplus, Shielded]
    constructor
    · rintro hlt ⟨-, hshield⟩
      omega
    · intro hnot
      by_contra hge
      exact hnot ⟨hloan, by omega⟩

/-- A pool that is under is liquidated unless the excess makes up for it. -/
theorem healthFactor_lt_of_under (hs : (s.book p).Settlement) (hst : (s.pools p).state.Settled)
    (hsp : 0 < settlePrice) (hloan : 0 < s.totalBorrowAmount p)
    (h : (s.pools p).Under pledgePrice settlePrice) :
    s.healthFactor p pledgePrice settlePrice < (s.pools p).liquidationRate ↔
      s.Exposed p pledgePrice settlePrice := by
  have hshortfall : s.totalBorrowAmount p *
        ((s.pools p).liquidationRate * (s.pools p).settleAmountLend * settlePrice) =
      s.totalBorrowAmount p * (s.pools p).shortfall pledgePrice settlePrice +
        s.totalBorrowAmount p * ((s.pools p).settleAmountBorrow * pledgePrice * RATE_BASE) := by
    rw [← Nat.mul_add, Pool.shortfall, Nat.sub_add_cancel (Nat.le_of_lt h)]
  rw [healthFactor_lt_iff hs hst hsp hloan, hshortfall, Exposed]
  constructor <;> intro hlt <;> omega

end Storage

/-! ## The gate of a reachable pool

For a pool that is reachable the checks of the gate other than the comparison are known. -/

/-- Throughout a transaction the oracle is set and answers these prices for the assets of `p`. -/
structure Env.Prices (env : Env) (s : Storage) (p pledgePrice settlePrice : Nat) : Prop where
  oracle : s.oracle ≠ 0
  pledge : ∀ w, env.getPrice s.oracle (s.pools p).pledgeToken w = .ok pledgePrice
  settle : ∀ w, env.getPrice s.oracle (s.pools p).settleToken w = .ok settlePrice
  pledge_pos : 0 < pledgePrice
  settle_pos : 0 < settlePrice

/-- A pool that is not in `MATCH` was created. -/
theorem Storage.InOrder.exists {s : Storage} (hs : s.InOrder) {p : Nat}
    (hstate : (s.pools p).state ≠ .matching) : s.Exists p := by
  by_contra hex
  apply hstate
  rw [← Storage.book_pool, hs.blank p hex]

section Gate

variable {env : Env} {w w' : World} {p pledgePrice settlePrice : Nat}

/-- `canLiquidate` compares the health factor with the liquidation rate, or overflows. -/
theorem canLiquidate_ok (hex : w.store.Exists p) (hstate : (w.store.pools p).state = .execution)
    (htime : (w.store.pools p).settleTime ≤ env.timestamp)
    (hprices : env.Prices w.store p pledgePrice settlePrice) {answer : Bool} :
    (canLiquidate env p).run w = .ok (answer, w') ↔
      w' = w ∧ w.store.HealthFits p pledgePrice settlePrice ∧
        answer = decide (w.store.healthFactor p pledgePrice settlePrice <
          (w.store.pools p).liquidationRate) := by
  simp only [canLiquidate, storage_rules, Tx.rules, and_assoc, exists_and_left, exists_eq_left,
    exists_const, hex, hstate, htime, true_and, not_true_eq_false, false_and, or_false,
    calculateHealthFactor_ok hstate]
  constructor
  · rintro ⟨-, _, ⟨pp, -, sp, -, hpledge, hsettle, hfits, rfl⟩, rfl, rfl⟩
    rw [hprices.pledge] at hpledge
    rw [hprices.settle] at hsettle
    cases hpledge
    cases hsettle
    exact ⟨rfl, hfits, rfl⟩
  · rintro ⟨rfl, hfits, rfl⟩
    exact ⟨hprices.oracle, _, ⟨_, hprices.pledge_pos, _, hprices.settle_pos, hprices.pledge _,
      hprices.settle _, hfits, rfl⟩, rfl, rfl⟩

/-- A liquidation passed the gate at the oracle's prices. -/
theorem RegularStep.liquidated {ts : List Transfer}
    (h : RegularStep w (.call env (.liquidate p) ts) w')
    (hprices : env.Prices w.store p pledgePrice settlePrice) :
    w.store.Exists p ∧ (w.store.pools p).state = .execution ∧
      w.store.healthFactor p pledgePrice settlePrice < (w.store.pools p).liquidationRate := by
  obtain ⟨hstep, hreg⟩ := h
  cases hstep with
  | call env c hrun =>
      obtain ⟨moves, heff, -⟩ := transaction_effect hreg.1 hrun
      generalize w'.store = s' at heff
      cases heff with
      | liquidate hex hstate htime hpp hsp hpledge hsettle hhealth =>
          obtain ⟨_, hpledge⟩ := hpledge
          obtain ⟨_, hsettle⟩ := hsettle
          rw [hprices.pledge] at hpledge
          rw [hprices.settle] at hsettle
          cases hpledge
          cases hsettle
          exact ⟨hex, hstate, hhealth⟩

end Gate

/-- **When liquidation keeps to the ratio.** In every reachable state, for every pool in `EXECUTION`
and all positive prices: if the pool is shielded unless it is under, a liquidation that succeeds
happens below the ratio; and if not, the gate is open although the pool is not below the ratio. -/
theorem liquidation_under {admin multiSignature : Address} {ledger : Ledger} {es : List Event}
    {w : World} (hrun : Run RegularStep (deployed admin multiSignature ledger) es w)
    {p pledgePrice settlePrice : Nat} (hstate : (w.store.pools p).state = .execution)
    (hsettle : 0 < settlePrice) :
    ((¬ (w.store.pools p).Under pledgePrice settlePrice →
        w.store.Shielded p pledgePrice settlePrice) →
      ∀ env ts w', env.Prices w.store p pledgePrice settlePrice →
        RegularStep w (.call env (.liquidate p) ts) w' →
          (w.store.pools p).Under pledgePrice settlePrice) ∧
    (¬ (¬ (w.store.pools p).Under pledgePrice settlePrice →
        w.store.Shielded p pledgePrice settlePrice) →
      ¬ (w.store.pools p).Under pledgePrice settlePrice ∧
        w.store.healthFactor p pledgePrice settlePrice < (w.store.pools p).liquidationRate) := by
  have hin := reachable_inOrder hrun
  have hsettled : (w.store.pools p).state.Settled := .inl hstate
  have hvalid := hin.valid p (hin.exists (by rw [hstate]; decide))
  have hiff (hunder : ¬ (w.store.pools p).Under pledgePrice settlePrice) :
      w.store.healthFactor p pledgePrice settlePrice < (w.store.pools p).liquidationRate ↔
        ¬ w.store.Shielded p pledgePrice settlePrice :=
    Storage.healthFactor_lt_of_not_under (hin.settlement p) hsettled hvalid hsettle hunder
  constructor
  · intro hshield env ts w' hprices hliquidate
    by_contra hunder
    obtain ⟨-, -, hhealth⟩ := hliquidate.liquidated hprices
    exact (hiff hunder).mp hhealth (hshield hunder)
  · intro hnot
    obtain ⟨hunder, hshield⟩ := Classical.not_imp.mp hnot
    exact ⟨hunder, (hiff hunder).mpr hshield⟩

/-! The borrower of the opening pledged 2000, of which 1500 back the settled loan of 1000. -/

namespace World

theorem standard_prices {st : Setting} {s : Storage} {p : Nat} (horacle : s.oracle ≠ 0)
    (hpledge : 0 < st.price (s.pools p).pledgeToken) (hsettle : 0 < st.price (s.pools p).settleToken) :
    (standardEnv st).Prices s p (st.price (s.pools p).pledgeToken)
      (st.price (s.pools p).settleToken) where
  oracle := horacle
  pledge _ := rfl
  settle _ := rfl
  pledge_pos := hpledge
  settle_pos := hsettle

/-- The borrower takes the loan. -/
def claim : List (Setting × Call) := [(setting 12 110 10, .claimBorrow 1)]

/-- The world after the opening and the claim. -/
def afterClaim : World := (deployed 10 50 openingLedger).play (opening ++ claim)

theorem claim_run : Run HonestStep (deployed 10 50 openingLedger)
    ((deployed 10 50 openingLedger).events (opening ++ claim)) afterClaim :=
  play_run (by decide +kernel)

theorem opening_run : Run HonestStep (deployed 10 50 openingLedger)
    ((deployed 10 50 openingLedger).events opening) afterOpening :=
  play_run opening_plays

end World

theorem liquidation_under_claim :
    ((¬ (World.afterClaim.store.pools 1).Under 10 10 → World.afterClaim.store.Shielded 1 10 10) →
      ∀ env ts w', env.Prices World.afterClaim.store 1 10 10 →
        RegularStep World.afterClaim (.call env (.liquidate 1) ts) w' →
          (World.afterClaim.store.pools 1).Under 10 10) ∧
    (¬ (¬ (World.afterClaim.store.pools 1).Under 10 10 →
        World.afterClaim.store.Shielded 1 10 10) →
      ¬ (World.afterClaim.store.pools 1).Under 10 10 ∧
        World.afterClaim.store.healthFactor 1 10 10 <
          (World.afterClaim.store.pools 1).liquidationRate) :=
  liquidation_under (World.claim_run.mono HonestStep.regular) (by decide +kernel) (by decide)

/-- Before anyone claims, a stranger liquidates the pool at the prices it was settled at. -/
theorem liquidation_healthy : ∃ es w env ts w',
    Run HonestStep (deployed 10 50 World.openingLedger) es w ∧ env.Prices w.store 1 10 10 ∧
      HonestStep w (.call env (.liquidate 1) ts) w' ∧ (w'.store.pools 1).state = .liquidation ∧
      ¬ (w.store.pools 1).Under 10 10 := by
  refine ⟨_, World.afterOpening, standardEnv (World.setting 13 110 10), _, _, World.opening_run,
    World.standard_prices (by decide +kernel) (by decide +kernel) (by decide +kernel),
    ⟨World.next_step (by decide +kernel), standard_exact (by decide) (by decide), rfl⟩,
    by decide +kernel, by decide +kernel⟩

/-- **When a pool under the ratio can be liquidated.** In every reachable state, for every pool in
`EXECUTION` at or after its settle time with a positive loan claimed, at all positive prices at which
it is under: `canLiquidate` returns true exactly when its sums are in range and the excess does not
make up for the shortfall. -/
theorem canLiquidate_under {admin multiSignature : Address} {ledger : Ledger} {es : List Event}
    {w : World} (hrun : Run RegularStep (deployed admin multiSignature ledger) es w)
    {p pledgePrice settlePrice : Nat} (hstate : (w.store.pools p).state = .execution) {env : Env}
    (htime : (w.store.pools p).settleTime ≤ env.timestamp)
    (hprices : env.Prices w.store p pledgePrice settlePrice) {user : Address}
    (hclaimed : 0 < (w.store.borrowInfos p user).borrowAmount)
    (hunder : (w.store.pools p).Under pledgePrice settlePrice) :
    (canLiquidate env p).run w = .ok (true, w) ↔
      w.store.HealthFits p pledgePrice settlePrice ∧
        w.store.Exposed p pledgePrice settlePrice := by
  have hin := reachable_inOrder hrun
  have hsettled : (w.store.pools p).state.Settled := .inl hstate
  have hex := hin.exists (p := p) (by rw [hstate]; decide)
  -- a borrower with a loan is settled, not liquidated yet, and in the list
  have hcounted : user ∈ w.store.countedBorrowers p := by
    rw [Storage.mem_countedBorrowers]
    rcases (hin.settlement p).loan user with h0 | ⟨-, hflag, hloan⟩
    · exact absurd h0 hclaimed.ne'
    · refine ⟨?_, hflag, (hin.settlement p).standing hstate user⟩
      apply ((hin.sound p).borrowers.mem user).mpr
      apply Nat.pos_of_ne_zero
      intro h0
      have hzero : (w.store.pools p).loan (w.store.borrowInfos p user) = 0 := by
        have hpledge : (w.store.borrowInfos p user).pledgeAmount = 0 := h0
        rw [Pool.loan, hpledge, Nat.mul_zero, Nat.zero_div]
      exact hclaimed.ne' (hloan.trans hzero)
  have hpositive : 0 < w.store.totalBorrowAmount p := by
    have hle : (w.store.borrowInfos p user).borrowAmount ≤ tally (w.store.countedBorrowers p)
        fun user => (w.store.borrowInfos p user).borrowAmount :=
      le_tally (f := fun user => (w.store.borrowInfos p user).borrowAmount) hcounted
    exact hclaimed.trans_le hle
  rw [canLiquidate_ok hex hstate htime hprices,
    ← Storage.healthFactor_lt_of_under (hin.settlement p) hsettled hprices.settle_pos hpositive hunder]
  simp

theorem canLiquidate_under_claim :
    (canLiquidate (standardEnv (World.setting 13 120 5)) 1).run World.afterClaim =
        .ok (true, World.afterClaim) ↔
      World.afterClaim.store.HealthFits 1 5 10 ∧ World.afterClaim.store.Exposed 1 5 10 := by
  have hclaimed : 0 < (World.afterClaim.store.borrowInfos 1 12).borrowAmount := by decide +kernel
  exact canLiquidate_under (World.claim_run.mono HonestStep.regular) (by decide +kernel)
    (by decide +kernel) (World.standard_prices (by decide +kernel) (by decide +kernel)
      (by decide +kernel)) hclaimed (by decide +kernel)

/-- At a pledge price of 7 the pool is under, but the health factor counts all 2000. -/
theorem canLiquidate_masked : ∃ es w env user,
    Run HonestStep (deployed 10 50 World.openingLedger) es w ∧
      (w.store.pools 1).state = .execution ∧ (w.store.pools 1).settleTime ≤ env.timestamp ∧
      env.Prices w.store 1 7 10 ∧ 0 < (w.store.borrowInfos 1 user).borrowAmount ∧
      (w.store.pools 1).Under 7 10 ∧ (canLiquidate env 1).run w = .ok (false, w) := by
  have hprices : (standardEnv (World.setting 13 120 7)).Prices World.afterClaim.store 1 7 10 :=
    World.standard_prices (by decide +kernel) (by decide +kernel) (by decide +kernel)
  refine ⟨_, World.afterClaim, standardEnv (World.setting 13 120 7), 12, World.claim_run,
    by decide +kernel, by decide +kernel, hprices, by decide +kernel, by decide +kernel, ?_⟩
  exact (canLiquidate_ok (by decide +kernel) (by decide +kernel) (by decide +kernel) hprices).mpr
    ⟨rfl, by decide +kernel, by decide +kernel⟩

end Pledge.Contract
