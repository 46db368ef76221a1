import Pledge.Contract.Sale

/-!
# What a pause stops

`setPause` stops the system, says the README. The modifier `notPaused` is attached function by function,
and three functions that anybody may call do without it: `claimLend`, `withdrawLend` and `liquidate`.
While the contract is paused, a call of an account without approval reverts unless it is one of these
three, and each of the three that succeeds changes a record or a balance (`paused_still`).

What the three ask for is the same whether the contract is paused or not (`unpausable_succeeds`).
-/

namespace Pledge.Contract

open Pledge.Evm

/-- The functions that anybody may call and that do not ask whether the contract is paused. -/
def Call.unpausable : Call → Bool
  | .claimLend .. | .withdrawLend .. | .liquidate .. => true
  | _ => false

/-- Pools, records and the balances of the four tokens of every pool are as before. -/
structure World.Still (w w' : World) : Prop where
  pools : w'.store.pools = w.store.pools
  lendInfos : w'.store.lendInfos = w.store.lendInfos
  borrowInfos : w'.store.borrowInfos = w.store.borrowInfos
  balances : ∀ p, w.store.Exists p → ∀ token ∈ [(w.store.pools p).settleToken,
    (w.store.pools p).pledgeToken, (w.store.pools p).spToken, (w.store.pools p).jpToken],
      w'.ledger.balance token = w.ledger.balance token

/-! ## The checks of the three functions -/

/-- What `claimLend` asks for. -/
structure ClaimsLend (env : Env) (w : World) (p : Nat) : Prop where
  exists_pool : w.store.Exists p
  state : (w.store.pools p).state.Settled
  position : 0 < (w.store.lendInfos p env.sender).amount
  unclaimed : (w.store.lendInfos p env.sender).claimed = false
  token : (w.store.pools p).spToken ≠ 0
  supply : 0 < (w.store.pools p).lendSupply
  product : (w.store.pools p).settleAmountLend * (w.store.lendInfos p env.sender).amount < Tx.uint256
  minted : ∃ b w₁, (env.mint (w.store.pools p).spToken env.sender
    ((w.store.pools p).spShare (w.store.lendInfos p env.sender))).run w.guarded = .ok (b, w₁)

/-- What `withdrawLend` asks for. -/
structure WithdrawsLend (env : Env) (w : World) (p n : Nat) : Prop where
  exists_pool : w.store.Exists p
  amount : 0 < n
  state : (w.store.pools p).state.Closed
  token : (w.store.pools p).spToken ≠ 0
  time : (w.store.pools p).redeemTime < env.timestamp
  product : (w.store.pools p).lendPot * n < Tx.uint256
  loan : (w.store.pools p).settleAmountLend ≠ 0
  positive : 0 < (w.store.pools p).lendRedemption n
  paid : ∃ b w₁ w₂, (env.burn (w.store.pools p).spToken env.sender n).run w.guarded = .ok (b, w₁) ∧
    (transferToken env (w.store.pools p).settleToken env.sender
      ((w.store.pools p).lendRedemption n)).run w₁ = .ok ((), w₂)

/-- What `liquidate` asks for: a pool in `EXECUTION` below its liquidation rate, and a sale that goes
through. -/
structure Liquidates (env : Env) (w : World) (p : Nat) : Prop where
  exists_pool : w.store.Exists p
  state : (w.store.pools p).state = .execution
  time : (w.store.pools p).settleTime ≤ env.timestamp
  below : ∃ healthFactor, (calculateHealthFactor env p).run w.guarded = .ok (healthFactor, w.guarded) ∧
    healthFactor < (w.store.pools p).liquidationRate
  repayment : (w.store.pools p).RepaymentFits (env.timestamp - (w.store.pools p).settleTime)
  sale : ∃ x d, (Call.liquidate p).exit env w = some x ∧ x.Disposes env d

/-- The call is one of the three and passes the checks of its own function. -/
def Call.GetsThrough (env : Env) (w : World) : Call → Prop
  | .claimLend p => ClaimsLend env w p
  | .withdrawLend p n => WithdrawsLend env w p n
  | .liquidate p => Liquidates env w p
  | _ => False

section Checks

variable {env : Env} {w w' : World} {p n : Nat}

theorem claimLend_succeeds (hfree : w.store.entered = false) :
    (∃ w', (claimLend env p).run w = .ok ((), w')) ↔ ClaimsLend env w p := by
  simp only [claimLend, nonReentrant_ok, storage_rules, Tx.rules, and_assoc, exists_and_left,
    exists_eq_left, exists_const]
  constructor
  · rintro ⟨-, hex, hstate, hposition, hflag, hsp, hsupply, hproduct, -, w', w₁, ⟨b, w₂, hmint, -⟩, -⟩
    exact ⟨hex, hstate, hposition, hflag, hsp, hsupply, hproduct, b, w₂, hmint⟩
  · rintro ⟨hex, hstate, hposition, hflag, hsp, hsupply, hproduct, b, w₂, hmint⟩
    exact ⟨hfree, hex, hstate, hposition, hflag, hsp, hsupply, hproduct, hsupply.ne', _, _,
      ⟨b, w₂, hmint, rfl⟩, rfl⟩

theorem withdrawLend_succeeds (hq : Quiet env) (hfree : w.store.entered = false) :
    (∃ w', (withdrawLend env p n).run w = .ok ((), w')) ↔ WithdrawsLend env w p n := by
  constructor
  · rintro ⟨w', h⟩
    obtain ⟨-, hex, hamount, hstate, hsp, htime, hproduct, hloan, hpos, b, w₁, hburn, w₂, hpay, -⟩ :=
      (withdrawLend_ok hq).mp h
    exact ⟨hex, hamount, hstate, hsp, htime, hproduct, hloan, hpos, b, w₁, w₂, hburn, hpay⟩
  · rintro ⟨hex, hamount, hstate, hsp, htime, hproduct, hloan, hpos, b, w₁, w₂, hburn, hpay⟩
    exact ⟨_, (withdrawLend_ok hq).mpr ⟨hfree, hex, hamount, hstate, hsp, htime, hproduct, hloan, hpos,
      b, w₁, hburn, w₂, hpay, rfl⟩⟩

theorem liquidate_succeeds (hq : Quiet env) (hfree : w.store.entered = false) :
    (∃ w', (liquidate env p).run w = .ok ((), w')) ↔ Liquidates env w p := by
  constructor
  · rintro ⟨w', h⟩
    obtain ⟨-, hex, hstate, htime, hbelow, hrepay, sold, amountIn, rest, w₁, w₂, hsells, -⟩ :=
      (liquidate_ok hq).mp h
    obtain ⟨-, -, received, swapped, hd⟩ := (disposal_iff hq).mp hsells
    exact ⟨hex, hstate, htime, hbelow, hrepay, _, _, rfl, hd⟩
  · rintro ⟨hex, hstate, htime, hbelow, hrepay, x, ⟨sold, received, swapped, w₁, w₂⟩, hexit, hd⟩
    cases hexit
    have hsells := (disposal_iff (f := fun n pool => { pool with liquidationAmountLend := n }) hq).mpr
      ⟨rfl, rfl, received, swapped, hd⟩
    exact ⟨_, (liquidate_ok hq).mpr
      ⟨hfree, hex, hstate, htime, hbelow, hrepay, sold, _, _, w₁, w₂, hsells, rfl⟩⟩

end Checks

/-- The call is one of the three and nothing stops it: the arguments decode, no ETH comes with it and
its function goes through. -/
structure Call.Escapes (env : Env) (w : World) (c : Call) : Prop where
  decodes : c.decodes
  value : env.value = 0
  through : c.GetsThrough env w

section Transactions

variable {env : Env} {w w' : World} {c : Call}

theorem unpausable_succeeds (hq : Quiet env) (hfree : w.store.entered = false)
    (hc : c.unpausable = true) :
    (∃ w', (c.transaction env).run w = .ok ((), w')) ↔ c.Escapes env w := by
  have hpayable : c.payable = false := by
    cases c with
    | claimLend | withdrawLend | liquidate => rfl
    | _ => cases hc
  have hbody : (∃ w', (c.body env).run w = .ok ((), w')) ↔ c.GetsThrough env w := by
    cases c with
    | claimLend p => exact claimLend_succeeds hfree
    | withdrawLend p n => exact withdrawLend_succeeds hq hfree
    | liquidate p => exact liquidate_succeeds hq hfree
    | _ => cases hc
  simp only [Call.transaction_ok, exists_and_left, hpayable, Bool.false_eq_true, false_or, hbody]
  constructor
  · rintro ⟨hdecodes, hvalue, hthrough⟩
    exact ⟨hdecodes, hvalue, hthrough⟩
  · intro h
    exact ⟨h.decodes, h.value, h.through⟩

/-- While the contract is paused, nothing else is open to an account without approval. -/
theorem unpausable_of_paused (hpaused : w.store.globalPaused = true) (hnot : ¬ Approved env w)
    (h : (c.transaction env).run w = .ok ((), w')) : c.unpausable = true := by
  by_contra hc
  have hadmin : c.administrative ≠ true := fun hadmin => hnot (transaction_approved hadmin h)
  obtain ⟨-, -, h⟩ := Call.transaction_ok.mp h
  cases c with
  | claimLend | withdrawLend | liquidate => exact hc rfl
  | depositLend | refundLend | emergencyLendWithdrawal | depositBorrow | refundBorrow | claimBorrow
  | withdrawBorrow | emergencyBorrowWithdrawal =>
      obtain ⟨-, w₁, hbody, -⟩ := nonReentrant_ok.mp h
      simp only [Tx.bind_ok, storage_rules] at hbody
      obtain ⟨_, _, ⟨hrunning, -⟩, -⟩ := hbody
      exact Bool.false_ne_true (hrunning.symm.trans hpaused)
  | _ => exact hadmin rfl

/-- A burn of somebody else's claim tokens leaves the holdings of the contract alone. -/
theorem burn_own (hx : Exact env) {token t : Address} (hdebt : DebtToken env token) {n : Nat}
    {b : Bool} (h : (env.burn token env.sender n).run w = .ok (b, w')) :
    w'.ledger.balance t env.this = w.ledger.balance t env.this := by
  by_cases ht : t = token
  · obtain ⟨-, hbalance, -⟩ := hdebt.burn h
    rw [ht, hbalance, Holdings.debit_apply, if_neg (Ne.symm hx.external), Nat.sub_zero]
  · rw [(hx.burn_touched h).balance t ht]

/-- A redemption takes what it pays from the holdings of the contract. -/
theorem redemption_drains (hx : Exact env) {spToken token : Address} (hdebt : DebtToken env spToken)
    (ht : token ≠ 0) {n r : Nat} (hr : 0 < r)
    (h : Chain env w [.burn spToken env.sender n, .pay token env.sender r] w') :
    w'.ledger.balance token env.this + r = w.ledger.balance token env.this := by
  rcases h with _ | ⟨h₁, ⟨b, hburn⟩, _ | ⟨h₂, hpay, ⟨h₃⟩⟩⟩
  have hkept := burn_own (t := token) hx hdebt hburn
  rcases transferToken_moved hx ht hpay with ⟨hzero, -⟩ | hmoved
  · exact absurd hzero hr.ne'
  · have henough := hmoved.enough
    have hleft : w'.ledger.balance token env.this = w.ledger.balance token env.this - r := by
      rw [h₃.1, hmoved.balance, Function.update_self, Holdings.move, Holdings.credit_apply,
        if_neg (Ne.symm hx.external), Holdings.debit_apply, if_pos rfl, h₂.1, hkept, h₁.1, Nat.add_zero]
    rw [h₂.1, hkept, h₁.1] at henough
    rw [hleft, Nat.sub_add_cancel henough]

/-- Each of the three changes something: a flag, a balance or a state. -/
theorem unpausable_moves (hx : Exact env) (hc : c.unpausable = true)
    (hassets : ∀ p, w.store.Exists p → (w.store.pools p).Assets)
    (hdebt : ∀ p n, c = .withdrawLend p n → DebtToken env (w.store.pools p).spToken)
    (h : (c.transaction env).run w = .ok ((), w')) : ¬ w.Still w' := by
  intro hstill
  obtain ⟨hpools, hlend, -, hbalances⟩ := hstill
  obtain ⟨moves, heff, hchain⟩ := transaction_effect hx.toQuiet h
  generalize w'.store = s at heff hpools hlend
  cases heff with
  | @claimLend p hex hstate hposition hflag =>
      have hclaimed := congrArg LendInfo.claimed (congrFun (congrFun hlend p) env.sender)
      simp [hflag] at hclaimed
  | @liquidate p _ _ _ _ _ hex hstate =>
      have hstates := congrArg Pool.state (congrFun hpools p)
      simp [Storage.markLiquidated, hstate] at hstates
  | @withdrawLend p n hex hstate hamount hsp htime hloan hpos =>
      have hdrained := redemption_drains hx (hdebt p n rfl) (hassets p hex).1 hpos hchain
      rw [hbalances p hex _ List.mem_cons_self] at hdrained
      exact absurd hdrained (Nat.ne_of_gt (Nat.lt_add_of_pos_right hpos))
  | _ => cases hc

end Transactions

/-! ## Reachable states

The condition is met: there is a paused pool in which a lender who has nobody's approval gets
through. -/

section Claim

variable {admin multiSignature : Address} {ledger : Ledger} {es : List Event} {env : Env}
  {w : World} {c : Call}

/-- **What a pause stops.** In every reachable state in which the contract is paused, of the calls of an
account without approval: those that are not `claimLend`, `withdrawLend` or `liquidate` revert, and one
that succeeds leaves everything as it is exactly when it is none of the three. -/
theorem paused_still (hrun : Run QuietStep (deployed admin multiSignature ledger) es w)
    (hpaused : w.store.globalPaused = true) (hnot : ¬ Approved env w.opened) :
    (c.unpausable = false → ∀ w', (c.transaction env).run w.opened ≠ .ok ((), w')) ∧
      ∀ w', (c.transaction env).run w.opened = .ok ((), w') → Exact env →
        (∀ p n, c = .withdrawLend p n → DebtToken env (w.store.pools p).spToken) →
          (w.opened.Still w' ↔ c.unpausable = false) := by
  constructor
  · intro hc w' h
    rw [unpausable_of_paused (w := w.opened) hpaused hnot h] at hc
    cases hc
  · intro w' h hx hdebt
    have hc := unpausable_of_paused (w := w.opened) hpaused hnot h
    have hlisted := reachable_listed hrun
    have hmoves := unpausable_moves (w := w.opened) hx hc hlisted hdebt h
    exact iff_of_false hmoves (by simp [hc])

end Claim

namespace World

/-- The opening, and then a pause. -/
def paused : List (Setting × Call) := opening ++ [(setting 10 100 10, .setPause)]

/-- The world after it. -/
def afterPaused : World := (deployed 10 50 openingLedger).play paused

theorem paused_run : Run HonestStep (deployed 10 50 openingLedger)
    ((deployed 10 50 openingLedger).events paused) afterPaused :=
  play_run (by decide +kernel)

/-- An account without approval. -/
def stranger (sender timestamp pledgePrice : Nat) : Setting :=
  { setting sender timestamp pledgePrice with approval := 0 }

theorem stranger_unapproved (sender timestamp pledgePrice : Nat) (w : World) :
    ¬ Approved (standardEnv (stranger sender timestamp pledgePrice)) w := by
  rintro ⟨n, hn, hpos⟩
  cases hn
  exact absurd hpos (Nat.lt_irrefl 0)

end World

/-- A deposit reverts, and a claim goes through. -/
theorem paused_still_claim :
    (∀ w', (Call.transaction (standardEnv (World.stranger 11 110 10)) (.depositLend 1 1)).run
        World.afterPaused.opened ≠ .ok ((), w')) ∧
      ∃ w', (Call.transaction (standardEnv (World.stranger 11 110 10)) (.claimLend 1)).run
          World.afterPaused.opened = .ok ((), w') ∧
        (World.afterPaused.opened.Still w' ↔ Call.unpausable (.claimLend 1) = false) := by
  have hnot := World.stranger_unapproved 11 110 10 World.afterPaused.opened
  have hrun := World.paused_run.mono HonestStep.quiet
  have hclaim : ((Call.claimLend 1).transaction (standardEnv (World.stranger 11 110 10))).run
      World.afterPaused.opened = .ok ((), _) := World.next_ok (by decide +kernel)
  refine ⟨(paused_still hrun (by decide +kernel) hnot).1 rfl, _, hclaim, ?_⟩
  exact (paused_still hrun (by decide +kernel) hnot).2 _ hclaim
    (standard_exact (by decide) (by decide)) fun p _ _ => standard_debtToken _ _

/-- The contract is paused, and the lender still gets sp tokens for the deposit. -/
theorem pause_escaped : ∃ es env w',
    Run HonestStep (deployed 10 50 World.openingLedger) es World.afterPaused ∧
    World.afterPaused.store.globalPaused = true ∧ ¬ Approved env World.afterPaused.opened ∧
    Exact env ∧ (∀ token, DebtToken env token) ∧
    (Call.transaction env (.claimLend 1)).run World.afterPaused.opened = .ok ((), w') ∧
    World.afterPaused.ledger.balance 3 11 = 0 ∧ w'.ledger.balance 3 11 = 1000 ∧
    ¬ World.afterPaused.opened.Still w' := by
  have hexact : Exact (standardEnv (World.stranger 11 110 10)) := standard_exact (by decide) (by decide)
  have hnext : ((Call.claimLend 1).transaction (standardEnv (World.stranger 11 110 10))).run
      World.afterPaused.opened = .ok ((), _) := World.next_ok (by decide +kernel)
  have hrun := World.paused_run
  have hlisted := reachable_listed (hrun.mono HonestStep.quiet)
  exact ⟨_, _, _, hrun, by decide +kernel, World.stranger_unapproved 11 110 10 _, hexact,
    standard_debtToken _, hnext, by decide +kernel, by decide +kernel,
    unpausable_moves (w := World.afterPaused.opened) hexact rfl hlisted (by simp) hnext⟩

end Pledge.Contract
