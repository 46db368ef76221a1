import Pledge.Contract.Exits
import Pledge.Contract.Oracle
import Pledge.Contract.Settlement

/-!
# What the pool makes of a quotation

The pool asks the oracle for two prices, refuses a zero, and otherwise computes with what it is told.
The health factor falls when the collateral is quoted lower or the loan higher, in spite of all
rounding (`canLiquidate_worse`). What the feed behind a price reported does not reach the pool: a
negative answer is read as a huge number, and whether that ends as a zero, as a revert or as a price
depends on the digits and the divisor (`nonpositive_answer`).
-/

namespace Pledge.Contract

open Pledge.Evm Pledge.Arith

/-! ## Worse prices

The value of the collateral falls with the price of the pledge token and rises as that of the settle
token falls, for each borrower and so for the sum. -/

namespace Storage

variable {s : Storage} {p pledgePrice settlePrice pledgePrice' settlePrice' : Nat}

/-- Each borrower's collateral is worth no more, so the sum is not. -/
theorem totalPledgeValue_antitone (hsp : 0 < settlePrice) (hpledge : pledgePrice' ≤ pledgePrice)
    (hsettle : settlePrice ≤ settlePrice') :
    s.totalPledgeValue p pledgePrice' settlePrice' ≤ s.totalPledgeValue p pledgePrice settlePrice := by
  show tally (s.countedBorrowers p) _ ≤ tally (s.countedBorrowers p) _
  apply tally_le
  intro user _
  calc (s.borrowInfos p user).pledgeAmount * pledgePrice' / settlePrice'
      ≤ (s.borrowInfos p user).pledgeAmount * pledgePrice / settlePrice' :=
        Nat.div_le_div_right (Nat.mul_le_mul_left _ hpledge)
    _ ≤ (s.borrowInfos p user).pledgeAmount * pledgePrice / settlePrice :=
        Nat.div_le_div_left hsettle hsp

theorem healthFactor_antitone (hsp : 0 < settlePrice) (hpledge : pledgePrice' ≤ pledgePrice)
    (hsettle : settlePrice ≤ settlePrice') :
    s.healthFactor p pledgePrice' settlePrice' ≤ s.healthFactor p pledgePrice settlePrice := by
  unfold healthFactor
  split
  · exact Nat.le_refl _
  · exact Nat.div_le_div_right
      (Nat.mul_le_mul_right _ (totalPledgeValue_antitone hsp hpledge hsettle))

/-- What is in range stays in range. -/
theorem HealthFits.worse (h : s.HealthFits p pledgePrice settlePrice) (hsp : 0 < settlePrice)
    (hpledge : pledgePrice' ≤ pledgePrice) (hsettle : settlePrice ≤ settlePrice') :
    s.HealthFits p pledgePrice' settlePrice' := by
  obtain ⟨hproducts, hvalue, hborrow, hscaled⟩ := h
  have hle : s.totalPledgeValue p pledgePrice' settlePrice' ≤
      s.totalPledgeValue p pledgePrice settlePrice :=
    totalPledgeValue_antitone hsp hpledge hsettle
  refine ⟨?_, hle.trans_lt hvalue, hborrow, ?_⟩
  · intro user huser
    exact (Nat.mul_le_mul_left _ hpledge).trans_lt (hproducts user huser)
  · intro hloan
    exact (Nat.mul_le_mul_right _ hle).trans_lt (hscaled hloan)

end Storage

section Worse

variable {env env' : Env} {w : World} {p pledgePrice settlePrice pledgePrice' settlePrice' : Nat}

/-- **Worse prices, lower factor.** For every pool in `EXECUTION` and every borrower list: if the
health factor can be computed at some prices, it can at lower pledge and higher settle prices, where it
is at most the same; and a pool that can be liquidated at the former can be at the latter. -/
theorem canLiquidate_worse (hstate : (w.store.pools p).state = .execution)
    (hprices : env.Prices w.store p pledgePrice settlePrice)
    (hprices' : env'.Prices w.store p pledgePrice' settlePrice')
    (hpledge : pledgePrice' ≤ pledgePrice) (hsettle : settlePrice ≤ settlePrice') :
    (∀ factor, (calculateHealthFactor env p).run w = .ok (factor, w) →
      ∃ factor', (calculateHealthFactor env' p).run w = .ok (factor', w) ∧ factor' ≤ factor) ∧
    (env.timestamp ≤ env'.timestamp → (canLiquidate env p).run w = .ok (true, w) →
      (canLiquidate env' p).run w = .ok (true, w)) := by
  have hsp : 0 < settlePrice := hprices.settle_pos
  have hlower : w.store.healthFactor p pledgePrice' settlePrice' ≤
      w.store.healthFactor p pledgePrice settlePrice :=
    Storage.healthFactor_antitone hsp hpledge hsettle
  constructor
  · intro factor h
    obtain ⟨-, hex, horacle, pp, sp, -, -, hpp, hsp', hfits, rfl⟩ :=
      (calculateHealthFactor_ok hstate).mp h
    obtain rfl : pp = pledgePrice := Except.ok.inj (hpp.symm.trans (hprices.pledge w))
    obtain rfl : sp = settlePrice := Except.ok.inj (hsp'.symm.trans (hprices.settle w))
    refine ⟨_, (calculateHealthFactor_ok hstate).mpr ⟨rfl, hex, horacle, pledgePrice', settlePrice',
      hprices'.pledge_pos, hprices'.settle_pos, hprices'.pledge w, hprices'.settle w,
      hfits.worse hsp hpledge hsettle, rfl⟩, hlower⟩
  · intro hlater h
    obtain ⟨hex, -, htime, hfits, hlow⟩ := canLiquidate_opens hprices h
    apply (canLiquidate_ok hex hstate (htime.trans hlater) hprices').mpr
    exact ⟨rfl, hfits.worse hsp hpledge hsettle, (decide_eq_true (hlower.trans_lt hlow)).symm⟩

end Worse

/-- The pledge token falls from 10 to 5. -/
theorem canLiquidate_worse_claim :
    (∀ factor, (calculateHealthFactor (standardEnv (World.setting 13 120 10)) 1).run
        World.afterClaim = .ok (factor, World.afterClaim) →
      ∃ factor', (calculateHealthFactor (standardEnv (World.setting 13 120 5)) 1).run
        World.afterClaim = .ok (factor', World.afterClaim) ∧ factor' ≤ factor) ∧
    ((standardEnv (World.setting 13 120 10)).timestamp ≤
        (standardEnv (World.setting 13 120 5)).timestamp →
      (canLiquidate (standardEnv (World.setting 13 120 10)) 1).run World.afterClaim =
        .ok (true, World.afterClaim) →
      (canLiquidate (standardEnv (World.setting 13 120 5)) 1).run World.afterClaim =
        .ok (true, World.afterClaim)) :=
  canLiquidate_worse (by decide +kernel)
    (World.standard_prices (by decide +kernel) (by decide +kernel) (by decide +kernel))
    (World.standard_prices (by decide +kernel) (by decide +kernel) (by decide +kernel))
    (by decide +kernel) (by decide +kernel)

/-! ## Answers that are not positive

An `int256` that is negative becomes a number near `2 ^ 256` when it is converted. The
multiplication that follows leaves the range unless the feed has eighteen digits, and then the
quotient may still be a price. The answer zero gives the price zero. -/

/-- A number on the way to the price is out of range, or the price is zero: the feed has no 18 digits,
answers zero, or the divisor and the digits of the token take the answer, read as an unsigned number,
below one or beyond `uint256`. -/
def OracleStorage.Rejects (o : OracleStorage) (asset : Address) (answer : BitVec 256)
    (digits : Nat) : Prop :=
  answer = 0 ∨ digits ≠ 18 ∨ o.decimals = 0 ∨
    answer.toNat < o.decimals * 10 ^ (o.decimalsMap asset - 18) ∨
    Tx.uint256 ≤ answer.toNat / o.decimals * 10 ^ (18 - o.decimalsMap asset)

instance (o : OracleStorage) (asset : Address) (answer : BitVec 256) (digits : Nat) :
    Decidable (o.Rejects asset answer digits) :=
  inferInstanceAs (Decidable (_ ∨ _ ∨ _ ∨ _ ∨ _))

section Rejected

variable {oenv : OracleEnv} {o : OracleStorage} {asset : Address} {answer : BitVec 256}
  {digits : Nat}

/-- A negative number has the highest bit set. -/
theorem toNat_of_toInt_neg (h : answer.toInt < 0) : 2 ^ 255 ≤ answer.toNat := by
  rw [BitVec.toInt_eq_toNat_cond] at h
  split at h
  · omega
  · next hlt => omega

theorem answer_cases (h : answer.toInt ≤ 0) : answer = 0 ∨ 2 ^ 255 ≤ answer.toNat := by
  rcases Int.lt_or_eq_of_le h with hneg | hzero
  · exact .inr (toNat_of_toInt_neg hneg)
  · left
    apply BitVec.eq_of_toInt_eq
    rw [hzero]
    rfl

/-- **When an answer that is not positive gives no price.** -/
theorem price_zero_iff (hfeed : o.Feeds oenv asset answer digits) (hanswer : answer.toInt ≤ 0) :
    (∀ price, o.price oenv asset = .ok price → price = 0) ↔ o.Rejects asset answer digits := by
  constructor
  · intro hzero
    by_contra hnot
    simp only [OracleStorage.Rejects, not_or, not_not, not_lt, not_le] at hnot
    obtain ⟨-, rfl, hdivisor, hlow, hhigh⟩ := hnot
    have hpow : 0 < 10 ^ (18 - o.decimalsMap asset) := Nat.pow_pos (by omega)
    have hprice18 : o.price18 answer.toNat 18 = answer.toNat / o.decimals := by
      rw [OracleStorage.price18, Nat.sub_self, Nat.pow_zero, Nat.mul_one]
    -- the answer over the divisor is at least what the last division takes
    have hquotient : 10 ^ (o.decimalsMap asset - 18) ≤ answer.toNat / o.decimals := by
      rw [Nat.le_div_iff_mul_le (Nat.pos_of_ne_zero hdivisor), Nat.mul_comm]
      exact hlow
    have hpower : 10 ^ (o.decimalsMap asset - 18) < Tx.uint256 :=
      hquotient.trans_lt ((Nat.div_le_self _ _).trans_lt answer.isLt)
    have hprice := hzero _ ((Oracle.price_feed hfeed).mpr ⟨Nat.le_refl _, hdivisor,
      by rw [Nat.sub_self, Nat.pow_zero, Nat.mul_one]; exact answer.isLt,
      by rw [hprice18]; exact hhigh, hpower, rfl⟩)
    rw [hprice18, Nat.div_eq_zero_iff] at hprice
    rcases hprice with h0 | hlt
    · exact absurd h0 (Nat.pow_pos (by omega)).ne'
    · have := Nat.le_mul_of_pos_right (answer.toNat / o.decimals) hpow
      omega
  · rintro hrejects price hprice
    obtain ⟨hdigits, hdivisor, hproduct, hscaled, -, rfl⟩ := (Oracle.price_feed hfeed).mp hprice
    rcases answer_cases hanswer with rfl | hbig
    · simp [OracleStorage.price18]
    · -- one more factor ten takes a negative answer out of range
      have heighteen : digits = 18 := by
        by_contra hne
        have hfactor : 10 ^ 1 ≤ 10 ^ (18 - digits) := Nat.pow_le_pow_right (by omega) (by omega)
        have hover : 2 ^ 255 * 10 ≤ answer.toNat * 10 ^ (18 - digits) := Nat.mul_le_mul hbig hfactor
        have huint : Tx.uint256 ≤ 2 ^ 255 * 10 := by decide
        omega
      subst heighteen
      have hprice18 : o.price18 answer.toNat 18 = answer.toNat / o.decimals := by
        rw [OracleStorage.price18, Nat.sub_self, Nat.pow_zero, Nat.mul_one]
      rw [hprice18] at hscaled ⊢
      rcases hrejects with rfl | hne | h0 | hlow | hhigh
      · exact absurd hbig (by decide)
      · exact absurd rfl hne
      · exact absurd h0 hdivisor
      · have hquotient : answer.toNat / o.decimals < 10 ^ (o.decimalsMap asset - 18) :=
          (Nat.div_lt_iff_lt_mul (Nat.pos_of_ne_zero hdivisor)).mpr (by rwa [Nat.mul_comm])
        apply Nat.div_eq_of_lt
        rcases Nat.le_total (o.decimalsMap asset) 18 with hle | hle
        · rw [Nat.sub_eq_zero_of_le hle, Nat.pow_zero] at hquotient ⊢
          rw [Nat.lt_one_iff.mp hquotient, Nat.zero_mul]
          exact Nat.one_pos
        · rwa [Nat.sub_eq_zero_of_le hle, Nat.pow_zero, Nat.mul_one]
      · exact absurd hscaled hhigh.not_gt

end Rejected

/-- The pool asks this oracle. -/
def Env.Asks (env : Env) (s : Storage) (o : OracleStorage) (oenv : OracleEnv) : Prop :=
  ∀ asset w, env.getPrice s.oracle asset w = o.price oenv asset

section Refused

variable {env : Env} {oenv : OracleEnv} {o : OracleStorage} {w w' : World} {asset : Address} {p : Nat}

/-- A price that is never positive is a price the guards refuse. -/
theorem settle_refuses (hasks : env.Asks w.store o oenv)
    (hzero : ∀ price, o.price oenv asset = .ok price → price = 0)
    (hasset : asset = (w.store.pools p).pledgeToken ∨ asset = (w.store.pools p).settleToken)
    (hlend : 0 < (w.store.pools p).lendSupply) (hborrow : 0 < (w.store.pools p).borrowSupply) :
    ¬ (settle env p).run w = .ok ((), w') := by
  intro h
  obtain ⟨-, -, -, -, pp, sp, hpp, hsp, hpos, hpos', -⟩ := (settle_ok_iff hlend hborrow).mp h
  rw [hasks] at hpp hsp
  rcases hasset with rfl | rfl
  · exact hpos.ne' (hzero pp hpp)
  · exact hpos'.ne' (hzero sp hsp)

theorem healthFactor_refuses (hasks : env.Asks w.store o oenv)
    (hzero : ∀ price, o.price oenv asset = .ok price → price = 0)
    (hasset : asset = (w.store.pools p).pledgeToken ∨ asset = (w.store.pools p).settleToken)
    (hstate : (w.store.pools p).state = .execution) {factor : Nat} :
    ¬ (calculateHealthFactor env p).run w = .ok (factor, w') := by
  intro h
  obtain ⟨-, -, -, pp, sp, hpos, hpos', hpp, hsp, -⟩ := (calculateHealthFactor_ok hstate).mp h
  rw [hasks] at hpp hsp
  rcases hasset with rfl | rfl
  · exact hpos.ne' (hzero pp hpp)
  · exact hpos'.ne' (hzero sp hsp)

theorem liquidate_refuses (hasks : env.Asks w.store o oenv)
    (hzero : ∀ price, o.price oenv asset = .ok price → price = 0)
    (hasset : asset = (w.store.pools p).pledgeToken ∨ asset = (w.store.pools p).settleToken) :
    ¬ (liquidate env p).run w = .ok ((), w') := by
  intro h
  simp only [liquidate, nonReentrant_ok, storage_rules, Tx.rules, and_assoc, exists_and_left,
    exists_eq_left] at h
  obtain ⟨-, -, hstate, -, _, ⟨_, _, _, _, hfactor, -⟩, -⟩ := h
  exact healthFactor_refuses (w := w.guarded) hasks hzero hasset hstate hfactor

end Refused

/-- **When a bad answer is refused.** For every configuration of the oracle and every answer that is
not positive: `getPrice` reverts or returns zero exactly when the answer is rejected, and then no pool
with this asset is settled or liquidated, and none has a health factor. -/
theorem nonpositive_answer {oenv : OracleEnv} {o : OracleStorage} {asset : Address}
    {answer : BitVec 256} {digits : Nat} (hfeed : o.Feeds oenv asset answer digits)
    (hanswer : answer.toInt ≤ 0) :
    ((∀ price, o.price oenv asset = .ok price → price = 0) ↔ o.Rejects asset answer digits) ∧
    (o.Rejects asset answer digits → ∀ env w p, Env.Asks env w.store o oenv →
      (asset = (w.store.pools p).pledgeToken ∨ asset = (w.store.pools p).settleToken) →
      (0 < (w.store.pools p).lendSupply → 0 < (w.store.pools p).borrowSupply →
        ∀ w', (settle env p).run w ≠ .ok ((), w')) ∧
      ((w.store.pools p).state = .execution →
        ∀ factor w', (calculateHealthFactor env p).run w ≠ .ok (factor, w')) ∧
      ∀ w', (liquidate env p).run w ≠ .ok ((), w')) := by
  have hiff := price_zero_iff hfeed hanswer
  refine ⟨hiff, ?_⟩
  intro hrejects env w p hasks hasset
  have hzero := hiff.mpr hrejects
  refine ⟨?_, ?_, ?_⟩
  · intro hlend hborrow w'
    exact settle_refuses hasks hzero hasset hlend hborrow
  · intro hstate factor w'
    exact healthFactor_refuses hasks hzero hasset hstate
  · intro w'
    exact liquidate_refuses hasks hzero hasset

/-! The feed behind the settle token reports −1, with 18 digits. -/

namespace Oracle

/-- The answer −1. -/
def minusOne : BitVec 256 := BitVec.ofInt 256 (-1)

/-- The setting, with the configured oracle in the place of a price for each asset. -/
def askingEnv (st : Setting) (answer : BitVec 256) (digits : Nat) : Env :=
  { standardEnv st with getPrice := fun _ asset _ => configured.price (feedEnv answer digits) asset }

theorem askingEnv_prices {st : Setting} {s : Storage} {p : Nat} (horacle : s.oracle ≠ 0)
    (hassets : (s.pools p).pledgeToken = 2 ∧ (s.pools p).settleToken = 1) :
    (askingEnv st minusOne 18).Prices s p 10 (2 ^ 256 - 1) where
  oracle := horacle
  pledge _ := by
    rw [hassets.1]
    rfl
  settle _ := by
    rw [hassets.2]
    rfl
  pledge_pos := by decide
  settle_pos := by decide

end Oracle

/-- With eight digits, −1 makes `getPrice` revert. -/
theorem nonpositive_answer_configured :
    ((∀ price, Oracle.configured.price (Oracle.feedEnv Oracle.minusOne 8) 1 = .ok price →
        price = 0) ↔ Oracle.configured.Rejects 1 Oracle.minusOne 8) ∧
    (Oracle.configured.Rejects 1 Oracle.minusOne 8 → ∀ env w p,
      Env.Asks env w.store Oracle.configured (Oracle.feedEnv Oracle.minusOne 8) →
      (1 = (w.store.pools p).pledgeToken ∨ 1 = (w.store.pools p).settleToken) →
      (0 < (w.store.pools p).lendSupply → 0 < (w.store.pools p).borrowSupply →
        ∀ w', (settle env p).run w ≠ .ok ((), w')) ∧
      ((w.store.pools p).state = .execution →
        ∀ factor w', (calculateHealthFactor env p).run w ≠ .ok (factor, w')) ∧
      ∀ w', (liquidate env p).run w ≠ .ok ((), w')) :=
  nonpositive_answer (Oracle.configured_feeds 1 Oracle.minusOne 8 (by decide)) (by decide)

/-- With 18 digits, −1 is a price of `2 ^ 256 - 1`. A pool is settled on it, and one that was settled at
a good price can be liquidated. -/
theorem negative_answer_settles :
    Run Oracle.Step (Oracle.deployed 50) Oracle.setup Oracle.configured ∧
    Oracle.configured.Feeds (Oracle.feedEnv Oracle.minusOne 18) 1 Oracle.minusOne 18 ∧
    Oracle.minusOne.toInt = -1 ∧
    Oracle.configured.price (Oracle.feedEnv Oracle.minusOne 18) 1 = .ok (2 ^ 256 - 1) ∧
    (∃ es w env w', Run HonestStep (deployed 10 50 World.openingLedger) es w ∧
      env.Asks w.store Oracle.configured (Oracle.feedEnv Oracle.minusOne 18) ∧
      (w.store.pools 1).settleToken = 1 ∧ (settle env 1).run w = .ok ((), w') ∧
      (w'.store.pools 1).state = .execution) ∧
    (∃ es w env, Run HonestStep (deployed 10 50 World.openingLedger) es w ∧
      env.Asks w.store Oracle.configured (Oracle.feedEnv Oracle.minusOne 18) ∧
      (w.store.pools 1).settleToken = 1 ∧ (canLiquidate env 1).run w = .ok (true, w)) := by
  refine ⟨Oracle.configured_run, Oracle.configured_feeds 1 Oracle.minusOne 18 (by decide), by decide,
    rfl, ?_, ?_⟩
  · have hw := World.supplied_waiting
    have hprices : (Oracle.askingEnv (World.setting 10 100 10) Oracle.minusOne 18).Prices
        (World.supplied 2000).store 1 10 (2 ^ 256 - 1) :=
      Oracle.askingEnv_prices (by decide +kernel) hw.assets
    have hfits : ((World.supplied 2000).store.pools 1).SettlementFits 10 (2 ^ 256 - 1) :=
      ⟨by decide +kernel, by decide +kernel, by decide +kernel, by decide +kernel⟩
    have hsettle := (settle_ok_iff hw.supplies.1 hw.supplies.2).mpr
      ⟨⟨1, rfl, by decide⟩, hw.created, hw.due, hw.matching, 10, 2 ^ 256 - 1, hprices.pledge _,
        hprices.settle _, hprices.pledge_pos, hprices.settle_pos, hfits, rfl⟩
    exact ⟨_, World.supplied 2000, _, _, World.play_run (by decide +kernel), fun _ _ => rfl,
      hw.assets.2, hsettle, by decide +kernel⟩
  · have hprices : (Oracle.askingEnv (World.setting 13 120 10) Oracle.minusOne 18).Prices
        World.afterClaim.store 1 10 (2 ^ 256 - 1) :=
      Oracle.askingEnv_prices (by decide +kernel) (by decide +kernel)
    refine ⟨_, World.afterClaim, Oracle.askingEnv (World.setting 13 120 10) Oracle.minusOne 18,
      World.claim_run, fun _ _ => rfl, by decide +kernel, ?_⟩
    exact (canLiquidate_ok (by decide +kernel) (by decide +kernel) (by decide +kernel) hprices).mpr
      ⟨rfl, by decide +kernel, by decide +kernel⟩

end Pledge.Contract
