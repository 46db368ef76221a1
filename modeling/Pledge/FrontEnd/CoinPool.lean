import Mathlib.Algebra.Order.Field.Rat
import Pledge.Arith.Scale
import Pledge.Contract.Settlement
import Pledge.Contract.Views

/-!
# The terms that `Coin_pool` quotes

The page reads a pool's rates and prices from the backend, scales the rates with `dealNumber_8` and
computes from them what a pledge borrows and the interest to expect. Its numbers are exact rationals
here; amounts are entered and shown in whole tokens, `10 ^ 18` units of the contract.

`dealNumber_8` divides by `10 ^ 6` and the formulas by a further `10 ^ 2`, where the contract's rates
are in basis points. `quote_matches` says what remains: the two handlers invert each other, and the
other two figures agree only where the contract's amounts vanish.
-/

namespace Pledge.FrontEnd

open Pledge.Contract Pledge.Evm Pledge.Arith

/-! ## The page

The formulas of the page, with rational numbers for its floats. -/

/-- `dealNumber`: tokens to units. -/
def dealNumber (num : ℚ) : ℚ := num * 10 ^ 18

/-- `dealNumber_18`: units to tokens. -/
def dealNumber18 (num : ℚ) : ℚ := num / 10 ^ 18

/-- `dealNumber_8`, which is `undefined` for zero. -/
def dealNumber8 (num : ℚ) : Option ℚ := if num = 0 then none else some (num / 10 ^ 6)

/-- An element of `poolinfo`. -/
structure PoolInfo where
  fixedRate : Option ℚ
  collateralizationRatio : Option ℚ
  length : Nat
  borrowPrice : ℚ
  lendPrice : ℚ

/-- `getPoolInfo` on one item of the backend's answer: the pool's base info and the two token
prices. -/
def getPoolInfo (item : BaseInfo) (borrowPrice lendPrice : ℚ) : PoolInfo where
  fixedRate := dealNumber8 item.interestRate
  collateralizationRatio := dealNumber8 item.martgageRate
  length := (item.endTime - item.settleTime) / 86400
  borrowPrice := borrowPrice
  lendPrice := lendPrice

/-- The numbers the page keeps while they are typed. -/
structure Form where
  data : ℚ := 0
  borrowvalue : ℚ := 0
  lendvalue : ℚ := 0

namespace Form

variable (info : PoolInfo) (form : Form)

/-- The lender's amount is typed. -/
def handleOnChange (value : ℚ) : Form := { form with lendvalue := value }

/-- The pledge is typed, and the loan follows. -/
def handleOnChange2 (value : ℚ) : Form :=
  { form with
    data := value
    borrowvalue :=
      value * info.borrowPrice / info.lendPrice / info.collateralizationRatio.getD 0 * 100 }

/-- The loan is typed, and the pledge follows. -/
def handleOnChange3 (value : ℚ) : Form :=
  { form with
    borrowvalue := value
    data := value / info.borrowPrice * info.lendPrice * info.collateralizationRatio.getD 0 / 100 }

/-- The term of the pool in days, at least one. -/
def days (info : PoolInfo) : ℚ := if info.length = 0 then 1 else info.length

/-- The figure under "Expected Interest". -/
def expectedInterest : ℚ :=
  if form.borrowvalue ≠ 0 then
    info.fixedRate.getD 0 / 100 * form.borrowvalue / 365 * days info
  else if form.lendvalue ≠ 0 then
    info.fixedRate.getD 0 / 100 * form.lendvalue / 365 * days info
  else 0

end Form

/-! ## The page against the contract

What the page shows, as rational numbers, against the figures of the contract, which are rounded
down. -/

/-- `shown` is `charged` before it was rounded down, where `yearly` is a year's interest at the basis
points: the last quotient drops less than a unit, the time ratio less than one part in `RATE_BASE` of
the year. -/
def Unrounded (shown : ℚ) (charged : Nat) (yearly : ℚ) : Prop :=
  (charged : ℚ) ≤ shown ∧ shown < charged + 1 + yearly / RATE_BASE

/-- The page's figures for a pledge and for an amount are the contract's `loan` and `interest`. -/
structure Matches (info : PoolInfo) (pledge loan amount interest : Nat) (yearly : ℚ) : Prop where
  quote : ∀ form : Form,
    |dealNumber (form.handleOnChange2 info (dealNumber18 pledge)).borrowvalue - loan| ≤ 1
  inverse : ∀ (form : Form) (value : ℚ),
    (form.handleOnChange3 info (form.handleOnChange2 info value).borrowvalue).data = value ∧
      (form.handleOnChange2 info (form.handleOnChange3 info value).data).borrowvalue = value
  interest : ∀ form : Form, form.borrowvalue = dealNumber18 amount →
    Unrounded (dealNumber (form.expectedInterest info)) interest yearly

section Rates

variable {pool : Pool} {pledgePrice settlePrice : Nat}

/-- What the page computes from a pool, at the contract's prices. -/
abbrev pageOf (pool : Pool) (pledgePrice settlePrice : Nat) : PoolInfo :=
  getPoolInfo pool.baseInfo pledgePrice settlePrice

theorem dealNumber8_getD (num : ℚ) : (dealNumber8 num).getD 0 = num / 10 ^ 6 := by
  unfold dealNumber8
  split
  · next h => rw [h, zero_div, Option.getD_none]
  · rw [Option.getD_some]

theorem dealNumber18_pos {n : Nat} (hn : 0 < n) : 0 < dealNumber18 n :=
  div_pos (Nat.cast_pos.mpr hn) (by norm_num)

/-- The quote for a pledge, in units of the contract. -/
theorem handleOnChange2_quote (form : Form) (pledge : Nat) :
    dealNumber (form.handleOnChange2 (pageOf pool pledgePrice settlePrice)
        (dealNumber18 pledge)).borrowvalue =
      10 ^ 4 * ((pledge * pledgePrice : Nat) * RATE_BASE / (settlePrice * pool.pledgeRate)) := by
  show dealNumber (dealNumber18 pledge * pledgePrice / settlePrice /
    (dealNumber8 pool.pledgeRate).getD 0 * 100) = _
  rw [dealNumber8_getD]
  unfold dealNumber dealNumber18 RATE_BASE
  push_cast
  field_simp
  ring

/-- The quote is off by the factor `10 ^ 4`: it is within one unit of the loan only where it is at
most one unit itself. -/
theorem quote_iff (hpool : pool.Valid) (hprice : 0 < settlePrice) {pledge : Nat} :
    (∀ form : Form, |dealNumber (form.handleOnChange2 (pageOf pool pledgePrice settlePrice)
        (dealNumber18 pledge)).borrowvalue -
        (pledge * pledgePrice / settlePrice * RATE_BASE / pool.pledgeRate : Nat)| ≤ 1) ↔
      pledge * pledgePrice * 10 ^ 8 ≤ settlePrice * pool.pledgeRate := by
  have hrate : 0 < pool.pledgeRate := Nat.lt_of_lt_of_le (by decide) hpool.pledgeRate.1
  have hscale : (0 : ℚ) < settlePrice * pool.pledgeRate :=
    mul_pos (Nat.cast_pos.mpr hprice) (Nat.cast_pos.mpr hrate)
  have hbelow := cast_nested_div_le (K := ℚ) (a := pledge * pledgePrice) (k := RATE_BASE) hprice hrate
  have hone : (10 ^ 4 * ((pledge * pledgePrice : Nat) * RATE_BASE /
        (settlePrice * pool.pledgeRate)) : ℚ) ≤ 1 ↔
      pledge * pledgePrice * 10 ^ 8 ≤ settlePrice * pool.pledgeRate := by
    rw [← mul_div_assoc, div_le_one hscale]
    unfold RATE_BASE
    constructor
    · intro h
      have h' : ((pledge * pledgePrice * 10 ^ 8 : Nat) : ℚ) ≤ (settlePrice * pool.pledgeRate : Nat) := by
        push_cast at h ⊢
        linarith
      exact_mod_cast h'
    · intro h
      have h' : ((pledge * pledgePrice * 10 ^ 8 : Nat) : ℚ) ≤ (settlePrice * pool.pledgeRate : Nat) := by
        exact_mod_cast h
      push_cast at h' ⊢
      linarith
  rw [← hone, ← abs_scaled_sub_le_one (by norm_num) hbelow]
  constructor
  · intro h
    have hform := h {}
    rwa [handleOnChange2_quote] at hform
  · intro h form
    rwa [handleOnChange2_quote]

/-- The two handlers undo each other. -/
theorem handlers_inverse (hpool : pool.Valid) (hpledge : 0 < pledgePrice) (hsettle : 0 < settlePrice)
    (form : Form) (value : ℚ) :
    (form.handleOnChange3 (pageOf pool pledgePrice settlePrice)
        (form.handleOnChange2 (pageOf pool pledgePrice settlePrice) value).borrowvalue).data = value ∧
      (form.handleOnChange2 (pageOf pool pledgePrice settlePrice)
        (form.handleOnChange3 (pageOf pool pledgePrice settlePrice) value).data).borrowvalue =
        value := by
  have hrate : (0 : ℚ) < pool.pledgeRate :=
    Nat.cast_pos.mpr (Nat.lt_of_lt_of_le (by decide) hpool.pledgeRate.1)
  have hpp : (0 : ℚ) < pledgePrice := Nat.cast_pos.mpr hpledge
  have hsp : (0 : ℚ) < settlePrice := Nat.cast_pos.mpr hsettle
  have hratio : (pageOf pool pledgePrice settlePrice).collateralizationRatio.getD 0 =
      pool.pledgeRate / 10 ^ 6 := dealNumber8_getD _
  constructor
  · show value * pledgePrice / settlePrice / _ * 100 / pledgePrice * settlePrice * _ / 100 = value
    rw [hratio]
    field_simp
  · show value / pledgePrice * settlePrice * _ / 100 * pledgePrice / settlePrice / _ * 100 = value
    rw [hratio]
    field_simp

/-- The expected interest on an amount over a term of whole days, in units of the contract. -/
theorem expectedInterest_quote {form : Form} {amount days : Nat} (hamount : 0 < amount)
    (hdays : 0 < days) (hterm : pool.endTime = pool.settleTime + days * 86400)
    (hform : form.borrowvalue = dealNumber18 amount) :
    dealNumber (form.expectedInterest (pageOf pool pledgePrice settlePrice)) =
      (days * 86400 * RATE_BASE : Nat) * (pool.interestRate * amount : Nat) /
        (SECONDS_PER_YEAR * (RATE_BASE * RATE_BASE : Nat)) / 10 ^ 4 := by
  have hlength : (pageOf pool pledgePrice settlePrice).length = days := by
    show (pool.endTime - pool.settleTime) / 86400 = days
    rw [hterm, Nat.add_sub_cancel_left, Nat.mul_div_cancel _ (by decide)]
  have hne : form.borrowvalue ≠ 0 := by
    rw [hform]
    exact (dealNumber18_pos hamount).ne'
  unfold Form.expectedInterest Form.days
  rw [if_pos hne, hlength, if_neg hdays.ne', hform]
  show dealNumber ((dealNumber8 pool.interestRate).getD 0 / 100 * dealNumber18 amount / 365 * days) = _
  rw [dealNumber8_getD]
  unfold dealNumber dealNumber18 RATE_BASE SECONDS_PER_YEAR
  push_cast
  ring

/-- The interest is below the contract's by the factor `10 ^ 4`: it is the contract's before rounding
only where that is rounded to zero. -/
theorem interest_iff {amount days : Nat} (hamount : 0 < amount) (hdays : 0 < days)
    (hterm : pool.endTime = pool.settleTime + days * 86400) :
    (∀ form : Form, form.borrowvalue = dealNumber18 amount →
        Unrounded (dealNumber (form.expectedInterest (pageOf pool pledgePrice settlePrice)))
          (days * 86400 * RATE_BASE / SECONDS_PER_YEAR * (pool.interestRate * amount) /
            (RATE_BASE * RATE_BASE))
          (pool.interestRate * amount / RATE_BASE)) ↔
      days * 86400 * RATE_BASE / SECONDS_PER_YEAR * (pool.interestRate * amount) <
        RATE_BASE * RATE_BASE := by
  have hyear : 0 < SECONDS_PER_YEAR := by decide
  have hbase : 0 < RATE_BASE * RATE_BASE := by decide
  have hday : SECONDS_PER_YEAR ≤ days * 86400 * RATE_BASE := by
    unfold SECONDS_PER_YEAR RATE_BASE
    omega
  have hiff := nested_div_le_scaled (K := ℚ) (k := pool.interestRate * amount) hyear hbase
    (c := 10 ^ 4) (by norm_num) hday
  have hexact := lt_cast_nested_div (K := ℚ) (a := days * 86400 * RATE_BASE)
    (k := pool.interestRate * amount) hyear hbase
  rw [← hiff]
  constructor
  · intro h
    obtain ⟨hle, -⟩ := h { borrowvalue := dealNumber18 amount } rfl
    rwa [expectedInterest_quote hamount hdays hterm rfl] at hle
  · intro hle form hform
    unfold Unrounded
    rw [expectedInterest_quote hamount hdays hterm hform]
    refine ⟨hle, lt_of_le_of_lt (div_le_self ?_ (by norm_num)) ?_⟩
    · exact div_nonneg (mul_nonneg (Nat.cast_nonneg _) (Nat.cast_nonneg _))
        (mul_nonneg (Nat.cast_nonneg _) (Nat.cast_nonneg _))
    · calc _ < _ := hexact
        _ = _ := by
          unfold RATE_BASE
          push_cast
          ring

end Rates

/-- The world in which the pool's settled loan is `amount`. -/
def lending (w : World) (p amount : Nat) : World :=
  w.mapStore fun s => s.setPool p { s.pools p with settleAmountLend := amount }

section Claims

variable {env : Env} {w w' w₁ : World} {p pledgePrice settlePrice amount interest days : Nat}

/-- **The page's terms against the contract's.** `settle` granted a loan that the lend supply covers,
and `_calculateRepayAmount` charges `interest` on `amount` for a term of `days`. -/
theorem quote_matches (hvalid : (w.store.pools p).Valid) (hdays : 0 < days)
    (hterm : (w.store.pools p).endTime = (w.store.pools p).settleTime + days * 86400)
    (hlend : 0 < (w.store.pools p).lendSupply) (hborrow : 0 < (w.store.pools p).borrowSupply)
    (hsupply : (w.store.pools p).borrowable pledgePrice settlePrice ≤ (w.store.pools p).lendSupply)
    (hpledge : env.getPrice w.store.oracle (w.store.pools p).pledgeToken w = .ok pledgePrice)
    (hsettle : env.getPrice w.store.oracle (w.store.pools p).settleToken w = .ok settlePrice)
    (h : (settle env p).run w = .ok ((), w')) (hamount : 0 < amount)
    (hrepay : (calculateRepayAmount p (days * 86400)).run (lending w' p amount) =
      .ok (amount + interest, w₁)) :
    Matches (pageOf (w.store.pools p) pledgePrice settlePrice) (w.store.pools p).borrowSupply
        (w'.store.pools p).settleAmountLend amount interest
        ((w.store.pools p).interestRate * amount / RATE_BASE) ↔
      (w.store.pools p).borrowSupply * pledgePrice * 10 ^ 8 ≤
          settlePrice * (w.store.pools p).pledgeRate ∧
        days * 86400 * RATE_BASE / SECONDS_PER_YEAR * ((w.store.pools p).interestRate * amount) <
          RATE_BASE * RATE_BASE := by
  obtain ⟨hpp, hsp, hpool⟩ := settle_settled hlend hborrow hpledge hsettle h
  -- the supply is not short, so the loan is what the collateral supports
  have hloan : (w'.store.pools p).settleAmountLend =
      (w.store.pools p).borrowable pledgePrice settlePrice := by
    rw [hpool]
    unfold Pool.settled Pool.settlement
    split
    · rfl
    · next hge => exact Nat.le_antisymm (Nat.not_lt.mp hge) hsupply
  -- the interest of `_calculateRepayAmount`, with the loan of one borrower in place of all
  have hcharged : interest = days * 86400 * RATE_BASE / SECONDS_PER_YEAR *
      ((w.store.pools p).interestRate * amount) / (RATE_BASE * RATE_BASE) := by
    obtain ⟨-, hsum, -⟩ := calculateRepayAmount_ok.mp hrepay
    have hlent : (lending w' p amount).store.pools p =
        { w'.store.pools p with settleAmountLend := amount } := by
      unfold lending
      rw [World.mapStore_store, Storage.setPool_pools, if_pos rfl]
    rw [hlent, hpool, Pool.repayment, Nat.add_left_cancel_iff, Nat.mul_assoc _ _ amount] at hsum
    exact hsum
  rw [hloan, hcharged]
  constructor
  · intro hm
    exact ⟨(quote_iff hvalid hsp).mp hm.quote, (interest_iff hamount hdays hterm).mp hm.interest⟩
  · intro hcond
    exact ⟨(quote_iff hvalid hsp).mpr hcond.1, handlers_inverse hvalid hpp hsp,
      (interest_iff hamount hdays hterm).mpr hcond.2⟩

end Claims

/-! A pool over a year at ten percent and a pledge rate of 150 percent. 1500 pledge tokens support the
loan of 1000 that the lender supplies. -/

/-- The world before the settlement. -/
def listed : World :=
  (deployed 10 50 World.openingLedger).play (World.setup ++
    [(World.setting 10 0 10, .createPoolInfo 100 31536100 1000 1000000 15000 1 2 3 4 12000),
      (World.setting 11 10 10, .depositLend 1 1000), (World.setting 12 10 10, .depositBorrow 1 1500)])

/-- The world after it, at equal prices. -/
def afterListing : World := listed.mapStore fun s => s.setPool 1 ((s.pools 1).settled 10 10)

theorem listed_valid : (listed.store.pools 1).Valid where
  settleToken := by decide +kernel
  pledgeToken := by decide +kernel
  maxSupply := by decide +kernel
  interestRate := by decide +kernel
  pledgeRate := by decide +kernel
  liquidationRate := by decide +kernel
  times := by decide +kernel

theorem listed_fits : (listed.store.pools 1).SettlementFits 10 10 where
  value := by decide +kernel
  scaled := by decide +kernel
  rate := by decide +kernel
  collateral := by decide +kernel

theorem listed_settles : (settle (standardEnv (World.setting 10 100 10)) 1).run listed =
    .ok ((), afterListing) := by
  apply (settle_ok_iff (by decide +kernel) (by decide +kernel)).mpr
  exact ⟨⟨1, rfl, by decide⟩, by decide +kernel, by decide +kernel, by decide +kernel, 10, 10,
    by decide +kernel, by decide +kernel, by decide, by decide, listed_fits, rfl⟩

theorem listed_repays : (calculateRepayAmount 1 (365 * 86400)).run (lending afterListing 1 1000) =
    .ok (1000 + 100, lending afterListing 1 1000) := by
  apply calculateRepayAmount_ok.mpr
  exact ⟨⟨by decide, by decide +kernel, by decide +kernel, by decide +kernel⟩, by decide +kernel, rfl⟩

theorem quote_matches_listed :
    Matches (pageOf (listed.store.pools 1) 10 10) (listed.store.pools 1).borrowSupply
        (afterListing.store.pools 1).settleAmountLend 1000 100
        ((listed.store.pools 1).interestRate * (1000 : Nat) / RATE_BASE) ↔
      (listed.store.pools 1).borrowSupply * 10 * 10 ^ 8 ≤ 10 * (listed.store.pools 1).pledgeRate ∧
        365 * 86400 * RATE_BASE / SECONDS_PER_YEAR * ((listed.store.pools 1).interestRate * 1000) <
          RATE_BASE * RATE_BASE :=
  quote_matches listed_valid (by decide) (by decide +kernel) (by decide +kernel) (by decide +kernel)
    (by decide +kernel) (by decide +kernel) (by decide +kernel) listed_settles (by decide)
    listed_repays

/-- The page offers 10 000 000 tokens for the pledge that settles for 1000. -/
theorem quote_mismatch : ∃ (env : Env) (w w' w₁ : World),
    (∃ es, Run HonestStep (deployed 10 50 World.openingLedger) es w) ∧ (w.store.pools 1).Valid ∧
    (w.store.pools 1).endTime = (w.store.pools 1).settleTime + 365 * 86400 ∧
    0 < (w.store.pools 1).lendSupply ∧ (w.store.pools 1).borrowSupply = 1500 ∧
    (w.store.pools 1).borrowable 10 10 ≤ (w.store.pools 1).lendSupply ∧
    env.getPrice w.store.oracle (w.store.pools 1).pledgeToken w = .ok 10 ∧
    env.getPrice w.store.oracle (w.store.pools 1).settleToken w = .ok 10 ∧
    (settle env 1).run w = .ok ((), w') ∧ (w'.store.pools 1).settleAmountLend = 1000 ∧
    (calculateRepayAmount 1 (365 * 86400)).run (lending w' 1 1000) = .ok (1000 + 100, w₁) ∧
    ¬ Matches (pageOf (w.store.pools 1) 10 10) (w.store.pools 1).borrowSupply
      (w'.store.pools 1).settleAmountLend 1000 100
      ((w.store.pools 1).interestRate * (1000 : Nat) / RATE_BASE) := by
  refine ⟨standardEnv (World.setting 10 100 10), listed, afterListing, lending afterListing 1 1000,
    ⟨_, World.play_run (by decide +kernel)⟩, listed_valid, by decide +kernel, by decide +kernel,
    by decide +kernel, by decide +kernel, by decide +kernel, by decide +kernel, listed_settles,
    by decide +kernel, listed_repays, ?_⟩
  intro hm
  have hquote := hm.quote
  rw [show (afterListing.store.pools 1).settleAmountLend = (listed.store.pools 1).borrowSupply * 10 /
    10 * RATE_BASE / (listed.store.pools 1).pledgeRate by decide +kernel,
    quote_iff listed_valid (by decide)] at hquote
  exact absurd hquote (by decide +kernel)

end Pledge.FrontEnd
