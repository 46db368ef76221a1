import Pledge.Arith.Rounding
import Pledge.Contract.Bookkeeping

/-!
# What a settlement grants

`settle` compares the lend supply with the loan that the collateral supports and cuts the larger side
down to the smaller. Both sides are rounded: the loan in two nested quotients, the collateral in one.
`settle_tight` bounds the loan from both sides; `settle_covered` says when the collateral that is kept
covers the loan at the pledge rate.
-/

namespace Pledge.Contract

open Pledge.Evm Pledge.Arith

namespace Pool

variable (pool : Pool) (pledgePrice settlePrice : Nat)

/-- The collateral does not support the whole lend supply at the pledge rate. -/
def Short : Prop :=
  pool.borrowSupply * pledgePrice / settlePrice * RATE_BASE < pool.lendSupply * pool.pledgeRate

instance : Decidable (pool.Short pledgePrice settlePrice) := inferInstanceAs (Decidable (_ < _))

/-- The arithmetic of `settle` stays in range. -/
structure SettlementFits : Prop where
  value : pool.borrowSupply * pledgePrice < Tx.uint256
  scaled : pool.borrowSupply * pledgePrice / settlePrice * RATE_BASE < Tx.uint256
  rate : pool.pledgeRate ≠ 0
  /-- The collateral is computed when it is the larger side. -/
  collateral : ¬ pool.borrowable pledgePrice settlePrice < pool.lendSupply →
    pool.lendSupply * pool.pledgeRate < Tx.uint256 ∧
      pool.lendSupply * pool.pledgeRate * settlePrice < Tx.uint256 ∧
      RATE_BASE * pledgePrice < Tx.uint256

/-- The pool after a settlement at these prices. -/
def settled : Pool :=
  { pool with
    settleAmountLend := (pool.settlement pledgePrice settlePrice).1
    settleAmountBorrow := (pool.settlement pledgePrice settlePrice).2
    state := .execution }

/-- What a settlement promises: both amounts are within the supplies and one of them is the whole
supply, and the loan is what the collateral supports, short of the largest such loan by at most one. -/
structure WellSettled : Prop where
  lend_le : pool.settleAmountLend ≤ pool.lendSupply
  borrow_le : pool.settleAmountBorrow ≤ pool.borrowSupply
  exhausts : pool.settleAmountLend = pool.lendSupply ∨ pool.settleAmountBorrow = pool.borrowSupply
  supported : pool.settleAmountLend * pool.pledgeRate * settlePrice ≤
    pool.borrowSupply * pledgePrice * RATE_BASE
  tight : ∃ best, IsGreatest {loan | loan ≤ pool.lendSupply ∧
      loan * pool.pledgeRate * settlePrice ≤ pool.borrowSupply * pledgePrice * RATE_BASE} best ∧
    best ≤ pool.settleAmountLend + 1

/-- The collateral that is kept is worth the pledge rate times the loan. -/
def Covered : Prop :=
  pool.settleAmountLend * pool.pledgeRate * settlePrice ≤
    pool.settleAmountBorrow * pledgePrice * RATE_BASE

instance : Decidable (pool.Covered pledgePrice settlePrice) := inferInstanceAs (Decidable (_ ≤ _))

end Pool

section Settle

variable {env : Env} {w w' : World} {p : Nat}

/-- **`settle` with both sides supplied**, in both directions. -/
theorem settle_ok_iff (hlend : 0 < (w.store.pools p).lendSupply)
    (hborrow : 0 < (w.store.pools p).borrowSupply) :
    (settle env p).run w = .ok ((), w') ↔
      Approved env w ∧ w.store.Exists p ∧ (w.store.pools p).settleTime ≤ env.timestamp ∧
      (w.store.pools p).state = .matching ∧ ∃ pledgePrice settlePrice,
        env.getPrice w.store.oracle (w.store.pools p).pledgeToken w = .ok pledgePrice ∧
        env.getPrice w.store.oracle (w.store.pools p).settleToken w = .ok settlePrice ∧
        0 < pledgePrice ∧ 0 < settlePrice ∧
        (w.store.pools p).SettlementFits pledgePrice settlePrice ∧
        w' = w.mapStore fun s => s.setPool p ((s.pools p).settled pledgePrice settlePrice) := by
  -- the checks are the same on both sides; what is left is the arithmetic and its ranges
  simp only [settle, validCall_ok, storage_rules, Tx.rules, and_assoc, exists_and_left,
    exists_eq_left, exists_const, hlend, hborrow, and_self, true_and, not_true_eq_false, false_and,
    or_false]
  refine and_congr_right fun _ => and_congr_right fun _ => and_congr_right fun _ =>
    and_congr_right fun _ => ?_
  constructor
  · rintro ⟨pp, hpp, sp, hsp, hpos, hpos', hvalue, -, hscaled, hrate, w₁, hw, rfl⟩
    refine ⟨pp, hpp, sp, hsp, hpos, hpos', ⟨hvalue, hscaled, hrate, ?_⟩, ?_⟩
    · intro hge
      rcases hw with ⟨hlt, -⟩ | ⟨-, hrated, hproduct, hbase, -, -⟩
      · exact absurd hlt hge
      · exact ⟨hrated, hproduct, hbase⟩
    · unfold Pool.settled Pool.settlement Pool.borrowable
      rcases hw with ⟨hlt, rfl⟩ | ⟨hge, -, -, -, -, rfl⟩
      · simp only [if_pos hlt, World.mapStore, Storage.setPool_setPool, Storage.setPool_pools,
          ↓reduceIte]
      · simp only [if_neg hge, World.mapStore, Storage.setPool_setPool, Storage.setPool_pools,
          ↓reduceIte]
  · rintro ⟨pp, hpp, sp, hsp, hpos, hpos', hfits, rfl⟩
    refine ⟨pp, hpp, sp, hsp, hpos, hpos', hfits.value, hpos'.ne', hfits.scaled, hfits.rate, ?_⟩
    unfold Pool.settled Pool.settlement
    by_cases hlt : (w.store.pools p).borrowable pp sp < (w.store.pools p).lendSupply
    · refine ⟨_, .inl ⟨hlt, rfl⟩, ?_⟩
      simp only [if_pos hlt, World.mapStore, Storage.setPool_setPool, Storage.setPool_pools,
        ↓reduceIte]
      rfl
    · obtain ⟨hrated, hproduct, hbase⟩ := hfits.collateral hlt
      have hne : RATE_BASE * pp ≠ 0 := (Nat.mul_pos (by decide) hpos).ne'
      refine ⟨_, .inr ⟨hlt, hrated, hproduct, hbase, hne, rfl⟩, ?_⟩
      simp only [if_neg hlt, World.mapStore, Storage.setPool_setPool, Storage.setPool_pools,
        ↓reduceIte]

/-- A settlement that succeeded, at the prices the oracle answered in it. -/
theorem settle_settled {pledgePrice settlePrice : Nat} (hlend : 0 < (w.store.pools p).lendSupply)
    (hborrow : 0 < (w.store.pools p).borrowSupply)
    (hpledge : env.getPrice w.store.oracle (w.store.pools p).pledgeToken w = .ok pledgePrice)
    (hsettle : env.getPrice w.store.oracle (w.store.pools p).settleToken w = .ok settlePrice)
    (h : (settle env p).run w = .ok ((), w')) :
    0 < pledgePrice ∧ 0 < settlePrice ∧
      w'.store.pools p = (w.store.pools p).settled pledgePrice settlePrice := by
  obtain ⟨-, -, -, -, pp, sp, hpp, hsp, hpos, hpos', -, rfl⟩ := (settle_ok_iff hlend hborrow).mp h
  obtain rfl : pp = pledgePrice := Except.ok.inj (hpp.symm.trans hpledge)
  obtain rfl : sp = settlePrice := Except.ok.inj (hsp.symm.trans hsettle)
  refine ⟨hpos, hpos', ?_⟩
  rw [World.mapStore_store, Storage.setPool_pools, if_pos rfl]

end Settle

/-! ## The two amounts

What is lent is the smaller of two amounts, and the collateral that is kept is computed from it,
rounded down. -/

namespace Pool

variable {pool : Pool} {pledgePrice settlePrice : Nat}

theorem borrowable_lt_iff (hrate : 0 < pool.pledgeRate) :
    pool.borrowable pledgePrice settlePrice < pool.lendSupply ↔
      pool.Short pledgePrice settlePrice :=
  Nat.div_lt_iff_lt_mul hrate

/-- The collateral supports what the code computes from it. -/
theorem borrowable_supported (pool : Pool) (pledgePrice settlePrice : Nat) :
    pool.borrowable pledgePrice settlePrice * pool.pledgeRate * settlePrice ≤
      pool.borrowSupply * pledgePrice * RATE_BASE :=
  nested_div_mul_le _ _ _ _

theorem settled_supported (pool : Pool) (pledgePrice settlePrice : Nat) :
    (pool.settled pledgePrice settlePrice).settleAmountLend * pool.pledgeRate * settlePrice ≤
      pool.borrowSupply * pledgePrice * RATE_BASE := by
  have hloan : (pool.settled pledgePrice settlePrice).settleAmountLend ≤
      pool.borrowable pledgePrice settlePrice := by
    unfold settled settlement
    split
    · exact Nat.le_refl _
    · next hge => exact Nat.not_lt.mp hge
  exact (Nat.mul_le_mul_right _ (Nat.mul_le_mul_right _ hloan)).trans (pool.borrowable_supported _ _)

theorem settled_exhausts (pool : Pool) (pledgePrice settlePrice : Nat) :
    (pool.settled pledgePrice settlePrice).settleAmountLend = pool.lendSupply ∨
      (pool.settled pledgePrice settlePrice).settleAmountBorrow = pool.borrowSupply := by
  unfold settled settlement
  split
  · exact .inr rfl
  · exact .inl rfl

/-- No supported loan is larger by more than one. -/
theorem settled_tight (hsp : 0 < settlePrice) (hrate : RATE_BASE ≤ pool.pledgeRate) {loan : Nat}
    (hle : loan ≤ pool.lendSupply)
    (hloan : loan * pool.pledgeRate * settlePrice ≤ pool.borrowSupply * pledgePrice * RATE_BASE) :
    loan ≤ (pool.settled pledgePrice settlePrice).settleAmountLend + 1 := by
  have hpos : 0 < pool.pledgeRate := Nat.lt_of_lt_of_le (by decide) hrate
  unfold settled settlement
  split
  · exact le_nested_div_succ hsp hpos hrate hloan
  · exact Nat.le_succ_of_le hle

theorem settled_wellSettled (hlend : 0 < pool.lendSupply) (hsp : 0 < settlePrice)
    (hrate : RATE_BASE ≤ pool.pledgeRate) :
    (pool.settled pledgePrice settlePrice).WellSettled pledgePrice settlePrice where
  lend_le := (pool.settlement_le hlend pledgePrice settlePrice).1
  borrow_le := (pool.settlement_le hlend pledgePrice settlePrice).2
  exhausts := pool.settled_exhausts pledgePrice settlePrice
  supported := pool.settled_supported pledgePrice settlePrice
  tight := by
    have hpos : 0 < pool.pledgeRate * settlePrice :=
      Nat.mul_pos (Nat.lt_of_lt_of_le (by decide) hrate) hsp
    have hbest := isGreatest_min_div hpos pool.lendSupply (pool.borrowSupply * pledgePrice * RATE_BASE)
    simp only [← Nat.mul_assoc] at hbest
    exact ⟨_, hbest, settled_tight hsp hrate hbest.1.1 hbest.1.2⟩

/-- The collateral is rounded off only where it is the larger side. -/
theorem settled_covered_iff (hrate : 0 < pool.pledgeRate) :
    (pool.settled pledgePrice settlePrice).Covered pledgePrice settlePrice ↔
      pool.Short pledgePrice settlePrice ∨
        RATE_BASE * pledgePrice ∣ pool.lendSupply * pool.pledgeRate * settlePrice := by
  rw [← borrowable_lt_iff hrate]
  have hsupported := pool.settled_supported pledgePrice settlePrice
  unfold Covered settled settlement at *
  by_cases hlt : pool.borrowable pledgePrice settlePrice < pool.lendSupply
  · simp only [if_pos hlt] at hsupported ⊢
    exact ⟨fun _ => .inl hlt, fun _ => hsupported⟩
  · simp only [hlt, false_or, ↓reduceIte, Nat.mul_assoc _ pledgePrice, Nat.mul_comm pledgePrice]
    exact le_div_mul_iff_dvd

end Pool

/-! ## After `settle`

The pool that `settle` has written, and what its figures are worth at the same prices. -/

section Claims

variable {env : Env} {w w' : World} {p pledgePrice settlePrice : Nat}

/-- **Settlement is within its bounds and tight**, at every pledge rate `createPool` admits. -/
theorem settle_tight (hlend : 0 < (w.store.pools p).lendSupply)
    (hborrow : 0 < (w.store.pools p).borrowSupply)
    (hrate : MIN_PLEDGE_RATE ≤ (w.store.pools p).pledgeRate ∧
      (w.store.pools p).pledgeRate ≤ MAX_PLEDGE_RATE)
    (hpledge : env.getPrice w.store.oracle (w.store.pools p).pledgeToken w = .ok pledgePrice)
    (hsettle : env.getPrice w.store.oracle (w.store.pools p).settleToken w = .ok settlePrice)
    (h : (settle env p).run w = .ok ((), w')) :
    (w'.store.pools p).WellSettled pledgePrice settlePrice ∧
      (w'.store.pools p).lendSupply = (w.store.pools p).lendSupply ∧
      (w'.store.pools p).borrowSupply = (w.store.pools p).borrowSupply ∧
      (w'.store.pools p).pledgeRate = (w.store.pools p).pledgeRate := by
  obtain ⟨-, hsp, hpool⟩ := settle_settled hlend hborrow hpledge hsettle h
  rw [hpool]
  exact ⟨Pool.settled_wellSettled hlend hsp hrate.1, rfl, rfl, rfl⟩

/-- **When the collateral that is kept covers the loan**: when the lenders have too much for the
collateral, so that all of it is kept, or when the collateral that is needed is a whole number. -/
theorem settle_covered (hlend : 0 < (w.store.pools p).lendSupply)
    (hborrow : 0 < (w.store.pools p).borrowSupply)
    (hrate : MIN_PLEDGE_RATE ≤ (w.store.pools p).pledgeRate ∧
      (w.store.pools p).pledgeRate ≤ MAX_PLEDGE_RATE)
    (hpledge : env.getPrice w.store.oracle (w.store.pools p).pledgeToken w = .ok pledgePrice)
    (hsettle : env.getPrice w.store.oracle (w.store.pools p).settleToken w = .ok settlePrice)
    (h : (settle env p).run w = .ok ((), w')) :
    (w'.store.pools p).Covered pledgePrice settlePrice ↔
      (w.store.pools p).Short pledgePrice settlePrice ∨
        RATE_BASE * pledgePrice ∣
          (w.store.pools p).lendSupply * (w.store.pools p).pledgeRate * settlePrice := by
  obtain ⟨-, -, hpool⟩ := settle_settled hlend hborrow hpledge hsettle h
  rw [hpool]
  exact Pool.settled_covered_iff (Nat.lt_of_lt_of_le (by decide) hrate.1)

end Claims

/-! A pool with 1000 settle tokens lent, before its settlement. At a pledge price of 20000000 and a
settle price of 10, one and a half times the loan is less than a thousandth of one pledge token. -/

namespace World

/-- The lender supplies 1000 and the borrower `pledged`. -/
def supplying (pledged : Nat) : List (Setting × Call) :=
  setup ++ [creation, (setting 11 10 10, .depositLend 1 1000),
    (setting 12 10 10, .depositBorrow 1 pledged)]

/-- The world before the settlement. -/
def supplied (pledged : Nat) : World := (deployed 10 50 openingLedger).play (supplying pledged)

/-- The world after the settlement at these prices. -/
def afterSettlement (pledged pledgePrice : Nat) : World :=
  (supplied pledged).mapStore fun s => s.setPool 1 ((s.pools 1).settled pledgePrice 10)

/-- The pool waits for its settlement. -/
structure Waiting (w : World) : Prop where
  supplies : 0 < (w.store.pools 1).lendSupply ∧ 0 < (w.store.pools 1).borrowSupply
  assets : (w.store.pools 1).pledgeToken = 2 ∧ (w.store.pools 1).settleToken = 1
  created : w.store.Exists 1
  matching : (w.store.pools 1).state = .matching
  due : (w.store.pools 1).settleTime ≤ 100

/-- The administrator settles it at these prices. -/
theorem Waiting.settles {pledged : Nat} (h : (supplied pledged).Waiting) (pledgePrice : Nat)
    (hpos : 0 < pledgePrice)
    (hfits : ((supplied pledged).store.pools 1).SettlementFits pledgePrice 10) :
    (standardEnv (setting 10 100 pledgePrice)).getPrice (supplied pledged).store.oracle
        ((supplied pledged).store.pools 1).pledgeToken (supplied pledged) = .ok pledgePrice ∧
      (standardEnv (setting 10 100 pledgePrice)).getPrice (supplied pledged).store.oracle
        ((supplied pledged).store.pools 1).settleToken (supplied pledged) = .ok 10 ∧
      (settle (standardEnv (setting 10 100 pledgePrice)) 1).run (supplied pledged) =
        .ok ((), afterSettlement pledged pledgePrice) := by
  have hpledge : (standardEnv (setting 10 100 pledgePrice)).getPrice (supplied pledged).store.oracle
      ((supplied pledged).store.pools 1).pledgeToken (supplied pledged) = .ok pledgePrice := by
    rw [h.assets.1]
    rfl
  have hsettle : (standardEnv (setting 10 100 pledgePrice)).getPrice (supplied pledged).store.oracle
      ((supplied pledged).store.pools 1).settleToken (supplied pledged) = .ok 10 := by
    rw [h.assets.2]
    rfl
  refine ⟨hpledge, hsettle, (settle_ok_iff h.supplies.1 h.supplies.2).mpr ?_⟩
  exact ⟨⟨1, rfl, by decide⟩, h.created, h.due, h.matching, pledgePrice, 10, hpledge, hsettle, hpos,
    by decide, hfits, rfl⟩

theorem supplied_waiting : (supplied 2000).Waiting where
  supplies := by decide +kernel
  assets := by decide +kernel
  created := by decide +kernel
  matching := by decide +kernel
  due := by decide +kernel

theorem supplied_fits : ((supplied 2000).store.pools 1).SettlementFits 10 10 where
  value := by decide +kernel
  scaled := by decide +kernel
  rate := by decide +kernel
  collateral := by decide +kernel

end World

theorem settle_tight_supplied :
    ((World.afterSettlement 2000 10).store.pools 1).WellSettled 10 10 ∧
      ((World.afterSettlement 2000 10).store.pools 1).lendSupply =
        ((World.supplied 2000).store.pools 1).lendSupply ∧
      ((World.afterSettlement 2000 10).store.pools 1).borrowSupply =
        ((World.supplied 2000).store.pools 1).borrowSupply ∧
      ((World.afterSettlement 2000 10).store.pools 1).pledgeRate =
        ((World.supplied 2000).store.pools 1).pledgeRate :=
  have h := World.supplied_waiting.settles 10 (by decide) World.supplied_fits
  settle_tight World.supplied_waiting.supplies.1 World.supplied_waiting.supplies.2 (by decide +kernel)
    h.1 h.2.1 h.2.2

theorem settle_covered_supplied :
    ((World.afterSettlement 2000 10).store.pools 1).Covered 10 10 ↔
      ((World.supplied 2000).store.pools 1).Short 10 10 ∨
        RATE_BASE * 10 ∣ ((World.supplied 2000).store.pools 1).lendSupply *
          ((World.supplied 2000).store.pools 1).pledgeRate * 10 :=
  have h := World.supplied_waiting.settles 10 (by decide) World.supplied_fits
  settle_covered World.supplied_waiting.supplies.1 World.supplied_waiting.supplies.2
    (by decide +kernel) h.1 h.2.1 h.2.2

/-- One unit of collateral is more than the loan of 1000 needs, so part of a unit should stay, and
none does: the whole loan is granted against no collateral. -/
theorem settle_uncovered : ∃ (env : Env) (w w' : World),
    (∃ es, Run HonestStep (deployed 10 50 World.openingLedger) es w) ∧
    (w.store.pools 1).state = .matching ∧
    0 < (w.store.pools 1).lendSupply ∧ 0 < (w.store.pools 1).borrowSupply ∧
    (MIN_PLEDGE_RATE ≤ (w.store.pools 1).pledgeRate ∧
      (w.store.pools 1).pledgeRate ≤ MAX_PLEDGE_RATE) ∧
    env.getPrice w.store.oracle (w.store.pools 1).pledgeToken w = .ok 20000000 ∧
    env.getPrice w.store.oracle (w.store.pools 1).settleToken w = .ok 10 ∧
    (settle env 1).run w = .ok ((), w') ∧
    (w'.store.pools 1).settleAmountLend = 1000 ∧ (w'.store.pools 1).settleAmountBorrow = 0 ∧
    ¬ (w'.store.pools 1).Covered 20000000 10 := by
  have hwait : (World.supplied 1).Waiting :=
    ⟨by decide +kernel, by decide +kernel, by decide +kernel, by decide +kernel, by decide +kernel⟩
  obtain ⟨hpledge, hsettle, hrun⟩ := hwait.settles 20000000 (by decide)
    ⟨by decide +kernel, by decide +kernel, by decide +kernel, by decide +kernel⟩
  exact ⟨standardEnv (World.setting 10 100 20000000), World.supplied 1,
    World.afterSettlement 1 20000000, ⟨_, World.play_run (by decide +kernel)⟩, hwait.matching,
    hwait.supplies.1, hwait.supplies.2, by decide +kernel, hpledge, hsettle, hrun,
    by decide +kernel, by decide +kernel, by decide +kernel⟩

end Pledge.Contract
