import Pledge.Arith.Scale
import Pledge.Contract.Bookkeeping

/-!
# Interest

What `_calculateRepayAmount` charges, against the exact interest for the same time, and the time it
charges for, against the time the pool has existed.

The contract rounds twice. First the duration becomes a `timeRatio`, in basis points of a year, and
then the product with rate and principal is rounded again; so the first error is scaled by the
principal (`Pool.exactInterest_lt`).

The duration itself is counted from `settleTime`. `createPool` leaves `settleTime` at zero and
`createPoolInfo` accepts one that has passed, so it can reach back to before the pool existed.
-/

namespace Pledge.Contract

open Pledge.Evm Pledge.Arith

/-! ## The amount for a duration

The exact interest is a rational number. The source divides by the length of a year before it
multiplies, which makes two roundings. -/

namespace Pool

variable (pool : Pool)

/-- The interest in a repayment. -/
def interest (duration : Nat) : Nat :=
  duration * RATE_BASE / SECONDS_PER_YEAR * pool.interestRate * pool.settleAmountLend /
    (RATE_BASE * RATE_BASE)

/-- The pro-rata interest, without rounding. -/
def exactInterest (duration : ℚ) : ℚ :=
  pool.settleAmountLend * pool.interestRate * duration / (RATE_BASE * SECONDS_PER_YEAR)

theorem repayment_eq (duration : Nat) :
    pool.repayment duration = pool.settleAmountLend + pool.interest duration := rfl

theorem interest_mono {duration duration' : Nat} (h : duration ≤ duration') :
    pool.interest duration ≤ pool.interest duration' := by
  unfold interest
  gcongr

theorem repayment_mono {duration duration' : Nat} (h : duration ≤ duration') :
    pool.repayment duration ≤ pool.repayment duration' :=
  Nat.add_le_add_left (pool.interest_mono h) _

theorem exactInterest_mono {duration duration' : ℚ} (h : duration ≤ duration') :
    pool.exactInterest duration ≤ pool.exactInterest duration' := by
  unfold exactInterest
  gcongr

/-- The nested quotients of the source, without rounding. -/
theorem exactInterest_eq (duration : Nat) :
    pool.exactInterest duration =
      (duration * RATE_BASE : Nat) * (pool.interestRate * pool.settleAmountLend : Nat) /
        (SECONDS_PER_YEAR * (RATE_BASE * RATE_BASE : Nat)) := by
  have hbase : (RATE_BASE : ℚ) ≠ 0 := by norm_num [RATE_BASE]
  have hyear : (SECONDS_PER_YEAR : ℚ) ≠ 0 := by norm_num [SECONDS_PER_YEAR]
  unfold exactInterest
  push_cast
  field_simp

/-- Rounding is in the borrower's favour. -/
theorem interest_le (duration : Nat) : (pool.interest duration : ℚ) ≤ pool.exactInterest duration := by
  rw [exactInterest_eq, interest, Nat.mul_assoc _ pool.interestRate]
  exact cast_nested_div_le (by decide) (by decide)

/-- It costs less than a unit and one basis point of the yearly interest. -/
theorem exactInterest_lt (duration : Nat) :
    pool.exactInterest duration <
      pool.interest duration + (pool.settleAmountLend * pool.interestRate / RATE_BASE ^ 2 + 1) := by
  have hnested : pool.exactInterest duration <
      pool.interest duration + 1 +
        ((pool.interestRate * pool.settleAmountLend : Nat) : ℚ) / (RATE_BASE * RATE_BASE : Nat) := by
    rw [exactInterest_eq, interest, Nat.mul_assoc _ pool.interestRate]
    exact lt_cast_nested_div (by decide) (by decide)
  have hshare : ((pool.interestRate * pool.settleAmountLend : Nat) : ℚ) /
      (RATE_BASE * RATE_BASE : Nat) =
        pool.settleAmountLend * pool.interestRate / RATE_BASE ^ 2 := by
    push_cast
    rw [mul_comm (pool.interestRate : ℚ), pow_two]
  rw [hshare] at hnested
  linarith

end Pool

/-- A liquidation charges for the time since `settleTime`, whatever the callees do. -/
theorem liquidate_charges {env : Env} {w w' : World} {p : Nat}
    (h : (liquidate env p).run w = .ok ((), w')) :
    (w.store.pools p).settleTime ≤ env.timestamp ∧
      (w.store.pools p).RepaymentFits (env.timestamp - (w.store.pools p).settleTime) := by
  obtain ⟨-, _, h, -⟩ := nonReentrant_ok.mp h
  simp only [calculateRepayAmount_ok, storage_rules, Tx.rules, and_assoc, exists_and_left,
    exists_eq_left, exists_const] at h
  obtain ⟨-, hstate, htime, _, w₀, hhealth, -, -, hfits, -⟩ := h
  obtain ⟨rfl, -⟩ := (calculateHealthFactor_ok hstate).mp hhealth
  exact ⟨htime, hfits⟩

/-- **The repayment is the principal with interest, rounded down**, grows with the time and is short
of the exact amount by less than `S * r / RATE_BASE ^ 2 + 1`. So a liquidation, which charges up to
now, repays no more than `finish` would until the pool ends. -/
theorem repayment_rounds_down (w : World) (p : Nat) :
    (∀ d d', d ≤ d' → (w.store.pools p).RepaymentFits d → (w.store.pools p).RepaymentFits d' →
      ∃ repay repay', (calculateRepayAmount p d).run w = .ok (repay, w) ∧
        (calculateRepayAmount p d').run w = .ok (repay', w) ∧
        (w.store.pools p).settleAmountLend ≤ repay ∧ repay ≤ repay' ∧
        ((repay : ℚ) - (w.store.pools p).settleAmountLend ≤
          (w.store.pools p).settleAmountLend * (w.store.pools p).interestRate * d /
            (RATE_BASE * SECONDS_PER_YEAR)) ∧
        ((w.store.pools p).settleAmountLend * (w.store.pools p).interestRate * d /
            (RATE_BASE * SECONDS_PER_YEAR) - ((repay : ℚ) - (w.store.pools p).settleAmountLend) <
          (w.store.pools p).settleAmountLend * (w.store.pools p).interestRate / RATE_BASE ^ 2 + 1)) ∧
    (∀ env w', (liquidate env p).run w = .ok ((), w') →
      env.timestamp ≤ (w.store.pools p).endTime →
      (w.store.pools p).RepaymentFits ((w.store.pools p).endTime - (w.store.pools p).settleTime) →
      ∃ repay repay',
        (calculateRepayAmount p (env.timestamp - (w.store.pools p).settleTime)).run w =
          .ok (repay, w) ∧
        (calculateRepayAmount p ((w.store.pools p).endTime - (w.store.pools p).settleTime)).run w =
          .ok (repay', w) ∧
        repay ≤ repay' ∧ (Quiet env → (w'.store.pools p).liquidationAmountLend = repay)) := by
  constructor
  · intro d d' hd hfits hfits'
    refine ⟨_, _, calculateRepayAmount_ok.mpr ⟨hfits, rfl, rfl⟩,
      calculateRepayAmount_ok.mpr ⟨hfits', rfl, rfl⟩, Pool.le_repayment _ _,
      Pool.repayment_mono _ hd, ?_⟩
    have hle := (w.store.pools p).interest_le d
    have hlt := (w.store.pools p).exactInterest_lt d
    -- what is repaid above the loan is the interest, and its bounds are those of two divisions
    have hinterest : (((w.store.pools p).repayment d : ℚ)) - (w.store.pools p).settleAmountLend =
        (w.store.pools p).interest d := by
      rw [Pool.repayment_eq]
      push_cast
      ring
    rw [hinterest]
    unfold Pool.exactInterest at hle hlt
    constructor
    · exact hle
    · linarith
  · intro env w' h hend hfits
    -- a liquidation is charged for the time until now, which is no more than the whole life
    obtain ⟨-, hnow⟩ := liquidate_charges h
    refine ⟨_, _, calculateRepayAmount_ok.mpr ⟨hnow, rfl, rfl⟩,
      calculateRepayAmount_ok.mpr ⟨hfits, rfl, rfl⟩,
      Pool.repayment_mono _ (Nat.sub_le_sub_right hend _), ?_⟩
    intro hq
    obtain ⟨moves, heff, -⟩ := liquidate_does hq h
    generalize w'.store = s' at heff ⊢
    cases heff with
    | liquidate =>
        show ((Storage.setPool _ p _).pools p).liquidationAmountLend = _
        rw [Storage.setPool_pools, if_pos rfl]

theorem repayment_rounds_down_opening :
    (∃ repay repay', (calculateRepayAmount 1 450).run World.afterOpening =
        .ok (repay, World.afterOpening) ∧
      (calculateRepayAmount 1 900).run World.afterOpening = .ok (repay', World.afterOpening) ∧
      (World.afterOpening.store.pools 1).settleAmountLend ≤ repay ∧ repay ≤ repay') ∧
    ∃ w', (liquidate (standardEnv (World.setting 13 550 10)) 1).run World.afterOpening =
        .ok ((), w') ∧
      ∃ repay', (calculateRepayAmount 1 900).run World.afterOpening = .ok (repay', World.afterOpening) ∧
        (w'.store.pools 1).liquidationAmountLend ≤ repay' := by
  have h := repayment_rounds_down World.afterOpening 1
  have htimes : (World.afterOpening.store.pools 1).settleTime = 100 ∧
      (World.afterOpening.store.pools 1).endTime = 1000 := by decide +kernel
  have hfits : (World.afterOpening.store.pools 1).RepaymentFits 900 :=
    ⟨by decide +kernel, by decide +kernel, by decide +kernel, by decide +kernel⟩
  constructor
  · have hhalf : (World.afterOpening.store.pools 1).RepaymentFits 450 :=
      ⟨by decide +kernel, by decide +kernel, by decide +kernel, by decide +kernel⟩
    obtain ⟨repay, repay', hrun, hrun', hlent, hmono, -⟩ := h.1 450 900 (by decide) hhalf hfits
    exact ⟨repay, repay', hrun, hrun', hlent, hmono⟩
  · obtain ⟨w', hrun⟩ := Tx.exists_of_isOk (x := liquidate (standardEnv (World.setting 13 550 10)) 1)
      (s := World.afterOpening) (by decide +kernel)
    obtain ⟨repay, repay', -, hrun', hmono, hraised⟩ := h.2 _ w' hrun (by decide +kernel)
      (by rw [htimes.1, htimes.2]; exact hfits)
    rw [htimes.1, htimes.2] at hrun'
    have hq : Quiet (standardEnv (World.setting 13 550 10)) :=
      (standard_exact (by decide) (by decide)).toQuiet
    exact ⟨w', hrun, repay', hrun', (hraised hq).trans_le hmono⟩

/-! ## The time that is charged

`finish` charges the whole life of the pool, and `liquidate` the time until it is called, which may
be after the end. -/

namespace Pool

variable (pool : Pool)

/-- The seconds that a closing call charges interest for. -/
def charged (time : Nat) : Call → Nat
  | .liquidate _ => time - pool.settleTime
  | _ => pool.endTime - pool.settleTime

/-- The seconds from the creation to the later of the closing and the end time. -/
def life (created closed : Nat) : ℚ := (max closed pool.endTime : Nat) - (created : ℚ)

/-- The interest in what a closed pool keeps for its lenders. -/
def interestPaid : ℚ := (pool.lendPot : ℚ) - pool.settleAmountLend

variable {pool}

/-- A pool whose settle time is not before its creation is charged for its life at most. -/
theorem charged_le_life {created closed : Nat} (hsettle : created ≤ pool.settleTime)
    (hend : pool.settleTime ≤ pool.endTime) (c : Call) :
    pool.charged closed c ≤ pool.life created closed := by
  have hmax : pool.endTime ≤ max closed pool.endTime := Nat.le_max_right _ _
  have hcharged : pool.charged closed c + created ≤ max closed pool.endTime := by
    unfold charged
    split <;> omega
  unfold life
  rw [le_sub_iff_add_le]
  exact_mod_cast hcharged

end Pool

/-- A closing call keeps the repayment for the time it charges. -/
theorem Effect.closes {env : Env} {s s' : Storage} {c : Call} {moves : List Move} {p : Nat}
    (h : Effect env s c moves s') (hc : c = .finish p ∨ c = .liquidate p) :
    (s'.pools p).settleAmountLend = (s.pools p).settleAmountLend ∧
      (s'.pools p).lendPot = (s.pools p).repayment ((s.pools p).charged env.timestamp c) := by
  rcases hc with rfl | rfl
  · cases h with
    | finish =>
        rw [Storage.setPool_pools, if_pos rfl]
        exact ⟨rfl, rfl⟩
  · cases h with
    | liquidate =>
        show ((Storage.setPool s p _).pools p).settleAmountLend = _ ∧
          ((Storage.setPool s p _).pools p).lendPot = _
        rw [Storage.setPool_pools, if_pos rfl]
        exact ⟨rfl, rfl⟩

section Life

variable {admin multiSignature : Address} {ledger : Ledger} {es es' : List Event}
  {w₀ w₁ w w' : World} {env₀ env : Env} {c₀ c : Call} {ts₀ ts : List Transfer}

theorem RegularStep.closes {p : Nat} (h : RegularStep w (.call env c ts) w')
    (hc : c = .finish p ∨ c = .liquidate p) :
    (w'.store.pools p).settleAmountLend = (w.store.pools p).settleAmountLend ∧
      (w'.store.pools p).lendPot =
        (w.store.pools p).repayment ((w.store.pools p).charged env.timestamp c) := by
  obtain ⟨hstep, hreg⟩ := h
  cases hstep with
  | call env c hrun =>
      obtain ⟨moves, heff, -⟩ := transaction_effect hreg.1 hrun
      exact heff.closes hc

/-- **When interest is charged only for time the pool existed**: when the time that is charged is not
longer than that. Where it is longer by more than the roundings take off, the bound is exceeded. -/
theorem interest_within_life (hrun : Run RegularStep (deployed admin multiSignature ledger) es w₀)
    (hcreate : RegularStep w₀ (.call env₀ c₀ ts₀) w₁) (hc₀ : c₀.creates = true)
    (hlife : Run RegularStep w₁ es' w) (hclose : RegularStep w (.call env c ts) w') {p : Nat}
    (hp : p = w₁.store.poolCounter) (hc : c = .finish p ∨ c = .liquidate p) :
    (((w₁.store.pools p).charged env.timestamp c : ℚ) ≤
        (w₁.store.pools p).life env₀.timestamp env.timestamp →
      (w'.store.pools p).interestPaid ≤
        (w'.store.pools p).settleAmountLend * (w₁.store.pools p).interestRate / RATE_BASE *
          (w₁.store.pools p).life env₀.timestamp env.timestamp / SECONDS_PER_YEAR) ∧
    ((w'.store.pools p).settleAmountLend * (w₁.store.pools p).interestRate / RATE_BASE ^ 2 + 1 ≤
        (w'.store.pools p).settleAmountLend * (w₁.store.pools p).interestRate *
          ((w₁.store.pools p).charged env.timestamp c -
            (w₁.store.pools p).life env₀.timestamp env.timestamp) /
          (RATE_BASE * SECONDS_PER_YEAR) →
      (w'.store.pools p).settleAmountLend * (w₁.store.pools p).interestRate / RATE_BASE *
          (w₁.store.pools p).life env₀.timestamp env.timestamp / SECONDS_PER_YEAR <
        (w'.store.pools p).interestPaid) := by
  have hin₁ := hcreate.inOrder (reachable_inOrder hrun)
  have hvalid : (w₁.store.pools p).Valid := by
    obtain ⟨pool, hfresh, -, hstore⟩ := hcreate.adds_pool hc₀
    rw [hp, hstore, Storage.addPool_poolCounter, Storage.addPool_pools, if_pos rfl]
    exact hfresh.toValid
  -- the terms of the pool are the same when it is closed
  have hterms := (run_kept hin₁ hvalid hlife).2
  obtain ⟨hlent, hpot⟩ := hclose.closes hc
  have hcharged : (w.store.pools p).charged env.timestamp c =
      (w₁.store.pools p).charged env.timestamp c := by
    unfold Pool.charged
    rw [hterms.settleTime, hterms.endTime]
  have hpaid : (w'.store.pools p).interestPaid =
      (w.store.pools p).interest ((w₁.store.pools p).charged env.timestamp c) := by
    unfold Pool.interestPaid
    rw [hpot, hlent, hcharged, Pool.repayment_eq]
    push_cast
    ring
  have hle := (w.store.pools p).interest_le ((w₁.store.pools p).charged env.timestamp c)
  have hlt := (w.store.pools p).exactInterest_lt ((w₁.store.pools p).charged env.timestamp c)
  have hbound : (w.store.pools p).exactInterest ((w₁.store.pools p).life env₀.timestamp env.timestamp) =
      (w.store.pools p).settleAmountLend * (w₁.store.pools p).interestRate / RATE_BASE *
        (w₁.store.pools p).life env₀.timestamp env.timestamp / SECONDS_PER_YEAR := by
    unfold Pool.exactInterest
    rw [hterms.interestRate]
    field_simp
  rw [hpaid, hlent, ← hbound]
  constructor
  · intro hshort
    exact hle.trans ((w.store.pools p).exactInterest_mono hshort)
  · intro hlong
    have hexcess : (w.store.pools p).exactInterest ((w₁.store.pools p).charged env.timestamp c) -
        (w.store.pools p).exactInterest ((w₁.store.pools p).life env₀.timestamp env.timestamp) =
          (w.store.pools p).settleAmountLend * (w₁.store.pools p).interestRate *
            ((w₁.store.pools p).charged env.timestamp c -
              (w₁.store.pools p).life env₀.timestamp env.timestamp) /
            (RATE_BASE * SECONDS_PER_YEAR) := by
      unfold Pool.exactInterest
      rw [hterms.interestRate]
      ring
    rw [hterms.interestRate] at hlt
    linarith

end Life

/-- The pool of the opening is finished when it ends. -/
theorem interest_within_life_opening :
    ((World.afterOpening.next (standardEnv (World.setting 10 1000 10)) (.finish 1)).store.pools
        1).interestPaid ≤
      ((World.afterOpening.next (standardEnv (World.setting 10 1000 10)) (.finish 1)).store.pools
          1).settleAmountLend * (World.afterCreation.store.pools 1).interestRate / RATE_BASE *
        (World.afterCreation.store.pools 1).life 0 1000 / SECONDS_PER_YEAR := by
  have hlife : Run RegularStep World.afterCreation (World.afterCreation.events World.supplies)
      World.afterOpening :=
    (World.play_run (by decide +kernel)).mono HonestStep.regular
  have hfinish : HonestStep World.afterOpening _
      (World.afterOpening.next (standardEnv (World.setting 10 1000 10)) (.finish 1)) :=
    World.next_honest (by decide +kernel) (by decide) (by decide) rfl
  have hp : 1 = World.afterCreation.store.poolCounter := by decide +kernel
  refine (interest_within_life (World.setup_honest.mono HonestStep.regular)
    World.creation_honest.regular rfl hlife hfinish.regular hp (.inl rfl)).1 ?_
  exact Pool.charged_le_life (by decide +kernel) (by decide +kernel) _

namespace World

/-- `createPool` in the year 2020, for a term of 1000 seconds at 0.1 % a year. -/
def launch : Setting × Call :=
  (setting 10 1600000000 10, .createPool 1 2 1000000 10 15000 12000 1600001000)

/-- Both sides deposit, and the pool is settled. -/
def lending : List (Setting × Call) :=
  [(setting 11 1600000010 10, .depositLend 1 1000),
    (setting 12 1600000010 10, .depositBorrow 1 2000),
    (setting 10 1600000020 10, .settle 1)]

/-- The world with the pool of `createPool`. -/
def afterLaunch : World := afterSetup.next (standardEnv launch.1) launch.2

/-- The world before the pool is finished. -/
def afterLending : World := afterLaunch.play lending

/-- The world after it. -/
def afterTerm : World := afterLending.next (standardEnv (setting 10 1600001000 10)) (.finish 1)

end World

/-- The settle time of the new pool is zero, so for 1000 seconds it pays the interest of half a
century: 50 on a loan of 1000, where the time it existed earns less than a thousandth. -/
theorem interest_before_creation : ∃ es w₀ env₀ c₀ w₁ es' w env w',
    Run HonestStep (deployed 10 50 World.openingLedger) es w₀ ∧ c₀.creates = true ∧
    (∃ ts, HonestStep w₀ (.call env₀ c₀ ts) w₁) ∧ 1 = w₁.store.poolCounter ∧
    Run HonestStep w₁ es' w ∧ (∃ ts, HonestStep w (.call env (.finish 1) ts) w') ∧
    (w'.store.pools 1).settleAmountLend = 1000 ∧ (w'.store.pools 1).interestPaid = 50 ∧
    ¬ (w'.store.pools 1).interestPaid ≤
      (w'.store.pools 1).settleAmountLend * (w₁.store.pools 1).interestRate / RATE_BASE *
        (w₁.store.pools 1).life env₀.timestamp env.timestamp / SECONDS_PER_YEAR := by
  have hcreated : (World.afterLaunch.store.pools 1).interestRate = 10 ∧
      (World.afterLaunch.store.pools 1).endTime = 1600001000 := by decide +kernel
  have hclosed : (World.afterTerm.store.pools 1).settleAmountLend = 1000 ∧
      (World.afterTerm.store.pools 1).lendPot = 1050 := by decide +kernel
  have hpaid : (World.afterTerm.store.pools 1).interestPaid = 50 := by
    unfold Pool.interestPaid
    rw [hclosed.1, hclosed.2]
    norm_num
  have hlife : (World.afterLaunch.store.pools 1).life 1600000000 1600001000 = 1000 := by
    unfold Pool.life
    rw [hcreated.2]
    norm_num
  refine ⟨_, World.afterSetup, standardEnv World.launch.1, World.launch.2, World.afterLaunch, _,
    World.afterLending, standardEnv (World.setting 10 1600001000 10), World.afterTerm,
    World.setup_honest, rfl, ⟨_, World.next_honest (by decide +kernel) (by decide) (by decide) rfl⟩,
    by decide +kernel, World.play_run (by decide +kernel),
    ⟨_, World.next_honest (by decide +kernel) (by decide) (by decide) rfl⟩, hclosed.1, hpaid, ?_⟩
  show ¬ (World.afterTerm.store.pools 1).interestPaid ≤ _ *
    (World.afterLaunch.store.pools 1).life 1600000000 1600001000 / _
  rw [hpaid, hlife, hclosed.1, hcreated.1]
  norm_num [RATE_BASE, SECONDS_PER_YEAR]

end Pledge.Contract
