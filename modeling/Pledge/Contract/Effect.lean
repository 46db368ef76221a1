import Pledge.Contract.Call

/-!
# What a transaction can do

A successful transaction is described once, by two things that later proofs use and never go behind:

* its `Effect` on storage: for each function, the guards it passed, the amounts it computed, what it
  asked of the tokens and the storage it leaves;
* the `Chain` of external calls it made, in order, with nothing but storage writes in between.

The amounts are closed formulas over the records (`Pool.lendRefund`, `Pool.loan`, …), one for each
division in the source.
-/

namespace Pledge.Contract

open Pledge.Evm

/-! ## Amounts

Every amount that the contract pays is a function of the stored pool and one record. They are named
here once, with the roundings of the source. -/

namespace PoolState

/-- `EXECUTION`, `FINISH` or `LIQUIDATION`: the states in which entitlements are paid. -/
def Settled (st : PoolState) : Prop := st = .execution ∨ st = .finish ∨ st = .liquidation

/-- `FINISH` or `LIQUIDATION`: the states in which claim tokens are redeemed. -/
def Closed (st : PoolState) : Prop := st = .finish ∨ st = .liquidation

instance (st : PoolState) : Decidable st.Settled := inferInstanceAs (Decidable (_ ∨ _ ∨ _))

instance (st : PoolState) : Decidable st.Closed := inferInstanceAs (Decidable (_ ∨ _))

theorem Closed.settled {st : PoolState} (h : st.Closed) : st.Settled := .inr h

theorem Settled.ne_matching {st : PoolState} (h : st.Settled) : st ≠ .matching := by
  rcases h with h | h | h <;> simp [h]

theorem Settled.ne_undone {st : PoolState} (h : st.Settled) : st ≠ .undone := by
  rcases h with h | h | h <;> simp [h]

end PoolState

namespace Pool

variable (pool : Pool)

/-- What `refundLend` pays: the lender's share of the lend supply that was not lent. -/
def lendRefund (info : LendInfo) : Nat :=
  (pool.lendSupply - pool.settleAmountLend) * info.amount / pool.lendSupply

/-- The sp tokens `claimLend` mints: the lender's share of the settled loan. -/
def spShare (info : LendInfo) : Nat := pool.settleAmountLend * info.amount / pool.lendSupply

/-- What `refundBorrow` pays: the borrower's share of the collateral settlement did not use. -/
def borrowRefund (info : BorrowInfo) : Nat :=
  (pool.borrowSupply - pool.settleAmountBorrow) * info.pledgeAmount / pool.borrowSupply

/-- The loan `claimBorrow` pays. -/
def loan (info : BorrowInfo) : Nat :=
  pool.settleAmountLend * info.pledgeAmount / pool.borrowSupply

/-- The jp tokens `claimBorrow` mints. -/
def jpShare (info : BorrowInfo) : Nat :=
  pool.settleAmountLend * pool.pledgeRate * info.pledgeAmount / (RATE_BASE * pool.borrowSupply)

/-- `totalJpAmount` of `withdrawBorrow`. -/
def totalJpAmount : Nat := pool.settleAmountLend * pool.pledgeRate / RATE_BASE

/-- The settle tokens that the sp tokens of a closed pool share. -/
def lendPot : Nat :=
  if pool.state = .finish then pool.finishAmountLend else pool.liquidationAmountLend

/-- The pledge tokens that the jp tokens of a closed pool share. -/
def borrowPot : Nat :=
  if pool.state = .finish then pool.finishAmountBorrow else pool.liquidationAmountBorrow

/-- When redemption opens. -/
def redeemTime : Nat := if pool.state = .finish then pool.endTime else pool.settleTime

/-- What `withdrawLend` pays for `spAmount`. -/
def lendRedemption (spAmount : Nat) : Nat := pool.lendPot * spAmount / pool.settleAmountLend

/-- What `withdrawBorrow` pays for `jpAmount`. -/
def borrowRedemption (jpAmount : Nat) : Nat := pool.borrowPot * jpAmount / pool.totalJpAmount

/-- The settled loan with interest for `duration` seconds. -/
def repayment (duration : Nat) : Nat :=
  pool.settleAmountLend +
    duration * RATE_BASE / SECONDS_PER_YEAR * pool.interestRate * pool.settleAmountLend /
      (RATE_BASE * RATE_BASE)

/-- The arithmetic of `_calculateRepayAmount` stays in range. -/
def RepaymentFits (duration : Nat) : Prop :=
  duration * RATE_BASE < Tx.uint256 ∧
    duration * RATE_BASE / SECONDS_PER_YEAR * pool.interestRate < Tx.uint256 ∧
    duration * RATE_BASE / SECONDS_PER_YEAR * pool.interestRate * pool.settleAmountLend <
      Tx.uint256 ∧
    pool.repayment duration < Tx.uint256

/-- The loan the whole collateral supports at the pledge rate. -/
def borrowable (pledgePrice settlePrice : Nat) : Nat :=
  pool.borrowSupply * pledgePrice / settlePrice * RATE_BASE / pool.pledgeRate

/-- `(settleAmountLend, settleAmountBorrow)` of a settlement at these prices. -/
def settlement (pledgePrice settlePrice : Nat) : Nat × Nat :=
  if pool.borrowable pledgePrice settlePrice < pool.lendSupply then
    (pool.borrowable pledgePrice settlePrice, pool.borrowSupply)
  else
    (pool.lendSupply,
      pool.lendSupply * pool.pledgeRate * settlePrice / (RATE_BASE * pledgePrice))

end Pool

/-- The fee of `_redeemFees`. -/
def feeOf (feeRatio amount : Nat) : Nat := amount * feeRatio / RATE_BASE

namespace Storage

variable (s : Storage) (p : Nat)

/-- The identifier passes `poolExists`. -/
def Exists : Prop := 0 < p ∧ p ≤ s.poolCounter

instance : Decidable (s.Exists p) := inferInstanceAs (Decidable (_ ∧ _))

/-- The storage after `depositLend` credited `n`. -/
def recordLend (user : Address) (n : Nat) : Storage :=
  let info := s.lendInfos p user
  let pool := s.pools p
  ((if info.amount = 0 then s.pushLender p user else s).setLendInfo p user
    { info with amount := info.amount + n, claimed := false, refunded := false }).setPool p
    { pool with lendSupply := pool.lendSupply + n }

/-- The storage after `depositBorrow` credited `n`. -/
def recordBorrow (user : Address) (n : Nat) : Storage :=
  let info := s.borrowInfos p user
  let pool := s.pools p
  ((if info.pledgeAmount = 0 then s.pushBorrower p user else s).setBorrowInfo p user
    { info with pledgeAmount := info.pledgeAmount + n, settled := false, liquidated := false }).setPool p
    { pool with borrowSupply := pool.borrowSupply + n }

/-- A deposit writes the pool, the record of the lender and the list of lenders. -/
theorem recordLend_writes (user : Address) (n : Nat) : ∃ pools lendInfos lenders,
    s.recordLend p user n = { s with pools := pools, lendInfos := lendInfos, lenders := lenders } := by
  by_cases h : (s.lendInfos p user).amount = 0 <;> simp only [recordLend, h, ↓reduceIte] <;>
    exact ⟨_, _, _, rfl⟩

theorem recordBorrow_writes (user : Address) (n : Nat) : ∃ pools borrowInfos borrowers,
    s.recordBorrow p user n =
      { s with pools := pools, borrowInfos := borrowInfos, borrowers := borrowers } := by
  by_cases h : (s.borrowInfos p user).pledgeAmount = 0 <;> simp only [recordBorrow, h, ↓reduceIte] <;>
    exact ⟨_, _, _, rfl⟩

/-- A borrower the health factor counts. -/
def Counted (user : Address) : Prop :=
  (s.borrowInfos p user).settled = true ∧ (s.borrowInfos p user).liquidated = false

instance (user : Address) : Decidable (s.Counted p user) := inferInstanceAs (Decidable (_ ∧ _))

/-- The storage after the loop of `liquidate` over `borrowerList`. -/
def markLiquidated (borrowerList : List Address) : Storage :=
  { s with
    borrowInfos := Function.update s.borrowInfos p fun user =>
      if user ∈ borrowerList ∧ s.Counted p user then
        { s.borrowInfos p user with liquidated := true }
      else s.borrowInfos p user }

/-- The borrowers the health factor counts. -/
def countedBorrowers : List Address := (s.borrowers p).filter fun user => decide (s.Counted p user)

/-- `totalPledgeValue` of `_calculateTotals`. -/
def totalPledgeValue (pledgePrice settlePrice : Nat) : Nat :=
  ((s.countedBorrowers p).map fun user =>
    (s.borrowInfos p user).pledgeAmount * pledgePrice / settlePrice).sum

/-- `totalBorrowAmount` of `_calculateTotals`. -/
def totalBorrowAmount : Nat :=
  ((s.countedBorrowers p).map fun user => (s.borrowInfos p user).borrowAmount).sum

/-- The arithmetic of `_calculateTotals` and `calculateHealthFactor` stays in range. -/
def HealthFits (pledgePrice settlePrice : Nat) : Prop :=
  (∀ user ∈ s.countedBorrowers p,
      (s.borrowInfos p user).pledgeAmount * pledgePrice < Tx.uint256) ∧
    s.totalPledgeValue p pledgePrice settlePrice < Tx.uint256 ∧
    s.totalBorrowAmount p < Tx.uint256 ∧
    (s.totalBorrowAmount p ≠ 0 →
      s.totalPledgeValue p pledgePrice settlePrice * RATE_BASE < Tx.uint256)

instance (pledgePrice settlePrice : Nat) : Decidable (s.HealthFits p pledgePrice settlePrice) :=
  inferInstanceAs (Decidable (_ ∧ _ ∧ _ ∧ _))

/-- The health factor of a pool in `EXECUTION`. -/
def healthFactor (pledgePrice settlePrice : Nat) : Nat :=
  if s.totalBorrowAmount p = 0 then RATE_BASE
  else s.totalPledgeValue p pledgePrice settlePrice * RATE_BASE / s.totalBorrowAmount p

/-- What `_processSwapAndFees` asks the router for to raise `lend`. -/
def saleTarget (lend : Nat) : Nat := lend * (RATE_BASE + s.lendFee) / RATE_BASE

end Storage

/-! ## External calls

A call to a token or to the router is a move. `Chain` is a list of them that was made, one after the
other, with the transfers that they show. -/

/-- What the contract asks of the tokens and the router. -/
inductive Move where
  | pull (token source : Address) (amount : Nat)
  | pay (token recipient : Address) (amount : Nat)
  | mint (token holder : Address) (amount : Nat)
  | burn (token holder : Address) (amount : Nat)
  | swap (tokenIn tokenOut : Address) (amountIn amountOut : Nat)
  deriving Repr, DecidableEq

/-- The move as a call that returned. -/
def Move.Ran (env : Env) (w : World) : Move → World → Prop
  | .pull token source amount, w' =>
      ∃ b, (env.transferFrom token source env.this amount).run w = .ok (b, w')
  | .pay token recipient amount, w' =>
      (transferToken env token recipient amount).run w = .ok ((), w')
  | .mint token holder amount, w' => ∃ b, (env.mint token holder amount).run w = .ok (b, w')
  | .burn token holder amount, w' => ∃ b, (env.burn token holder amount).run w = .ok (b, w')
  | .swap tokenIn tokenOut amountIn amountOut, w' =>
      (Contract.swap env tokenIn tokenOut amountIn).run w = .ok (amountOut, w')

/-- The tokens are as they were. -/
def World.SameTokens (w w' : World) : Prop := w'.ledger = w.ledger ∧ w'.transfers = w.transfers

@[refl] theorem World.SameTokens.refl (w : World) : w.SameTokens w := ⟨rfl, rfl⟩

theorem World.SameTokens.trans {w₁ w₂ w₃ : World} (h : w₁.SameTokens w₂) (h' : w₂.SameTokens w₃) :
    w₁.SameTokens w₃ :=
  ⟨h'.1.trans h.1, h'.2.trans h.2⟩

/-- The moves ran in this order, and between them the contract only wrote to its own storage. -/
inductive Chain (env : Env) : World → List Move → World → Prop
  | done {w w' : World} (h : w.SameTokens w') : Chain env w [] w'
  | move {w w₁ w₂ w' : World} {m : Move} {ms : List Move} (h : w.SameTokens w₁)
      (hm : m.Ran env w₁ w₂) (rest : Chain env w₂ ms w') : Chain env w (m :: ms) w'

namespace Chain

variable {env : Env} {w w₁ w₂ w' : World} {ms ms' : List Move} {m : Move}

theorem of_same (h : w.SameTokens w₁) (hc : Chain env w₁ ms w') : Chain env w ms w' := by
  cases hc with
  | done h' => exact .done (h.trans h')
  | move h' hm rest => exact .move (h.trans h') hm rest

theorem append (h₁ : Chain env w ms w₁) (h₂ : Chain env w₁ ms' w') : Chain env w (ms ++ ms') w' := by
  induction h₁ with
  | done h => exact of_same h h₂
  | move h hm _ ih => exact .move h hm (ih h₂)

theorem then_same (hc : Chain env w ms w₁) (h : w₁.SameTokens w') : Chain env w ms w' := by
  simpa using hc.append (.done h)

/-- A single move. -/
theorem single (h : w.SameTokens w₁) (hm : m.Ran env w₁ w₂) (h' : w₂.SameTokens w') :
    Chain env w [m] w' :=
  .move h hm (.done h')

end Chain

/-- A fee goes to `feeAddress` when one is due and the address is set. -/
def feeMoves (s : Storage) (token : Address) (fee : Nat) : List Move :=
  if 0 < fee ∧ s.feeAddress ≠ 0 then [.pay token s.feeAddress fee] else []

@[simp] theorem feeMoves_setPool (s : Storage) (p : Nat) (pool : Pool) :
    feeMoves (s.setPool p pool) = feeMoves s := rfl

/-- `_receiveToken` credited `n`: ETH as sent, or `amount` of a token pulled from the sender. -/
inductive Received (env : Env) : (token : Address) → (amount n : Nat) → List Move → Prop
  | eth {amount : Nat} (h : 0 < env.value) : Received env 0 amount env.value []
  | token {token : Address} {amount : Nat} (ht : token ≠ 0) (hv : env.value = 0) (h : 0 < amount) :
      Received env token amount amount [.pull token env.sender amount]

theorem Received.pos {env : Env} {token : Address} {amount n : Nat} {ms : List Move}
    (h : Received env token amount n ms) : 0 < n := by
  cases h <;> assumption

/-- The sale that raises `lend` settle tokens: `sold` pledge tokens left for the router, and the
proceeds above `lend` are the lend fee. Nothing is sold for a repayment of zero. -/
inductive Sale (s : Storage) (pool : Pool) : (lend sold received : Nat) → List Move → Prop
  | none : Sale s pool 0 0 0 []
  | some {lend sold received : Nat} (hlend : 0 < lend) (hsold : 0 < sold) (h : lend ≤ received) :
      Sale s pool lend sold received
        (.swap pool.pledgeToken pool.settleToken sold received ::
          feeMoves s pool.settleToken (received - lend))

/-! ## Effects

One constructor for each function that changes something, with its checks, what it writes and which
moves it makes. -/

/-- `Effect env s c moves s'`: from storage `s`, the call `c` asks for `moves` and leaves `s'`. -/
inductive Effect (env : Env) (s : Storage) : Call → List Move → Storage → Prop
  | createPool {settleToken pledgeToken : Address}
      {borrowAmount interestRate pledgeRate liquidationRate endTime : Nat}
      (hsettle : settleToken ≠ 0) (hpledge : pledgeToken ≠ 0) (hborrow : 0 < borrowAmount)
      (hinterest : 0 < interestRate ∧ interestRate ≤ MAX_INTEREST_RATE)
      (hrate : MIN_PLEDGE_RATE ≤ pledgeRate ∧ pledgeRate ≤ MAX_PLEDGE_RATE)
      (hliq : RATE_BASE < liquidationRate ∧ liquidationRate < pledgeRate)
      (hend : env.timestamp < endTime) :
      Effect env s (.createPool settleToken pledgeToken borrowAmount interestRate pledgeRate
        liquidationRate endTime) []
        (s.addPool (newPool env.sender settleToken pledgeToken borrowAmount interestRate pledgeRate
          liquidationRate endTime))
  | createPoolInfo {settleTime endTime interestRate maxSupply martgageRate : Nat}
      {lendToken borrowToken spToken jpToken : Address} {autoLiquidateThreshold : Nat}
      (htime : settleTime < endTime) (hsp : spToken ≠ 0) (hjp : jpToken ≠ 0)
      (hsettle : lendToken ≠ 0) (hpledge : borrowToken ≠ 0) (hborrow : 0 < maxSupply)
      (hinterest : 0 < interestRate ∧ interestRate ≤ MAX_INTEREST_RATE)
      (hrate : MIN_PLEDGE_RATE ≤ martgageRate ∧ martgageRate ≤ MAX_PLEDGE_RATE)
      (hliq : RATE_BASE < autoLiquidateThreshold ∧ autoLiquidateThreshold < martgageRate)
      (hend : env.timestamp < endTime) :
      Effect env s (.createPoolInfo settleTime endTime interestRate maxSupply martgageRate lendToken
        borrowToken spToken jpToken autoLiquidateThreshold) []
        (s.addPool { newPool env.sender lendToken borrowToken maxSupply interestRate martgageRate
          autoLiquidateThreshold endTime with
          settleTime := settleTime, spToken := spToken, jpToken := jpToken })
  | setPoolState {p : Nat} {newState : PoolState} (hex : s.Exists p) :
      Effect env s (.setPoolState p newState) []
        (s.setPool p { s.pools p with state := newState })
  | setPoolSpToken {p : Nat} {spToken : Address} (hex : s.Exists p) (h : spToken ≠ 0) :
      Effect env s (.setPoolSpToken p spToken) []
        (s.setPool p { s.pools p with spToken := spToken })
  | setPoolJpToken {p : Nat} {jpToken : Address} (hex : s.Exists p) (h : jpToken ≠ 0) :
      Effect env s (.setPoolJpToken p jpToken) []
        (s.setPool p { s.pools p with jpToken := jpToken })
  | setOracle {oracle : Address} (h : oracle ≠ 0) :
      Effect env s (.setOracle oracle) [] { s with oracle := oracle }
  | setDebtToken {debtToken : Address} (h : debtToken ≠ 0) :
      Effect env s (.setDebtToken debtToken) [] { s with debtToken := debtToken }
  | setFee {lendFee borrowFee : Nat} (hl : lendFee ≤ MAX_FEE_RATE) (hb : borrowFee ≤ MAX_FEE_RATE) :
      Effect env s (.setFee lendFee borrowFee) []
        { s with lendFee := lendFee, borrowFee := borrowFee }
  | setFeeAddress {feeAddress : Address} (h : feeAddress ≠ 0) :
      Effect env s (.setFeeAddress feeAddress) [] { s with feeAddress := feeAddress }
  | setMinAmount {minAmount : Nat} :
      Effect env s (.setMinAmount minAmount) [] { s with minAmount := minAmount }
  | setPause : Effect env s .setPause [] { s with globalPaused := !s.globalPaused }
  | setSwapRouterAddress {swapRouter : Address} (h : swapRouter ≠ 0) :
      Effect env s (.setSwapRouterAddress swapRouter) [] { s with swapRouter := swapRouter }
  | depositLend {p amount n : Nat} {moves : List Move} (hex : s.Exists p)
      (hstate : (s.pools p).state = .matching) (hend : env.timestamp < (s.pools p).endTime)
      (hrecv : Received env (s.pools p).settleToken amount n moves) (hmin : s.minAmount ≤ n)
      (hmax : (s.pools p).lendSupply + n ≤ (s.pools p).maxSupply) :
      Effect env s (.depositLend p amount) moves (s.recordLend p env.sender n)
  | refundLend {p : Nat} (hex : s.Exists p) (hstate : (s.pools p).state.Settled)
      (htime : (s.pools p).settleTime ≤ env.timestamp)
      (hamount : 0 < (s.lendInfos p env.sender).amount)
      (hflag : (s.lendInfos p env.sender).refunded = false)
      (hexcess : (s.pools p).settleAmountLend < (s.pools p).lendSupply)
      (hpos : 0 < (s.pools p).lendRefund (s.lendInfos p env.sender)) :
      Effect env s (.refundLend p)
        [.pay (s.pools p).settleToken env.sender ((s.pools p).lendRefund (s.lendInfos p env.sender))]
        (s.setLendInfo p env.sender { s.lendInfos p env.sender with refunded := true })
  | claimLend {p : Nat} (hex : s.Exists p) (hstate : (s.pools p).state.Settled)
      (hamount : 0 < (s.lendInfos p env.sender).amount)
      (hflag : (s.lendInfos p env.sender).claimed = false) (hsp : (s.pools p).spToken ≠ 0)
      (hsupply : 0 < (s.pools p).lendSupply) :
      Effect env s (.claimLend p)
        [.mint (s.pools p).spToken env.sender ((s.pools p).spShare (s.lendInfos p env.sender))]
        (s.setLendInfo p env.sender
          { s.lendInfos p env.sender with
            claimed := true, lendAmount := (s.pools p).spShare (s.lendInfos p env.sender) })
  | withdrawLend {p spAmount : Nat} (hex : s.Exists p) (hstate : (s.pools p).state.Closed)
      (hamount : 0 < spAmount) (hsp : (s.pools p).spToken ≠ 0)
      (htime : (s.pools p).redeemTime < env.timestamp)
      (hsettle : (s.pools p).settleAmountLend ≠ 0)
      (hpos : 0 < (s.pools p).lendRedemption spAmount) :
      Effect env s (.withdrawLend p spAmount)
        [.burn (s.pools p).spToken env.sender spAmount,
          .pay (s.pools p).settleToken env.sender ((s.pools p).lendRedemption spAmount)] s
  | emergencyLendWithdrawal {p : Nat} (hex : s.Exists p) (hstate : (s.pools p).state = .undone)
      (hamount : 0 < (s.lendInfos p env.sender).amount)
      (hflag : (s.lendInfos p env.sender).refunded = false) :
      Effect env s (.emergencyLendWithdrawal p)
        [.pay (s.pools p).settleToken env.sender (s.lendInfos p env.sender).amount]
        (s.setLendInfo p env.sender { s.lendInfos p env.sender with refunded := true })
  | depositBorrow {p amount n : Nat} {moves : List Move} (hex : s.Exists p)
      (hstate : (s.pools p).state = .matching) (hend : env.timestamp < (s.pools p).endTime)
      (hrecv : Received env (s.pools p).pledgeToken amount n moves) :
      Effect env s (.depositBorrow p amount) moves (s.recordBorrow p env.sender n)
  | refundBorrow {p : Nat} (hex : s.Exists p)
      (hamount : 0 < (s.borrowInfos p env.sender).pledgeAmount)
      (hflag : (s.borrowInfos p env.sender).settled = false) (hstate : (s.pools p).state.Settled)
      (hexcess : (s.pools p).settleAmountBorrow < (s.pools p).borrowSupply)
      (htime : (s.pools p).settleTime ≤ env.timestamp)
      (hpos : 0 < (s.pools p).borrowRefund (s.borrowInfos p env.sender)) :
      Effect env s (.refundBorrow p)
        [.pay (s.pools p).pledgeToken env.sender
          ((s.pools p).borrowRefund (s.borrowInfos p env.sender))]
        (s.setBorrowInfo p env.sender { s.borrowInfos p env.sender with settled := true })
  | claimBorrow {p : Nat} (hex : s.Exists p)
      (hamount : 0 < (s.borrowInfos p env.sender).pledgeAmount)
      (hflag : (s.borrowInfos p env.sender).settled = false) (hstate : (s.pools p).state.Settled)
      (htime : (s.pools p).settleTime ≤ env.timestamp) (hsupply : (s.pools p).borrowSupply ≠ 0) :
      Effect env s (.claimBorrow p)
        ((if (s.pools p).jpToken ≠ 0 then
            [.mint (s.pools p).jpToken env.sender ((s.pools p).jpShare (s.borrowInfos p env.sender))]
          else []) ++
          if 0 < (s.pools p).loan (s.borrowInfos p env.sender) then
            [.pay (s.pools p).settleToken env.sender ((s.pools p).loan (s.borrowInfos p env.sender))]
          else [])
        (s.setBorrowInfo p env.sender
          { s.borrowInfos p env.sender with
            borrowAmount := (s.pools p).loan (s.borrowInfos p env.sender), settled := true })
  | withdrawBorrow {p jpAmount : Nat} (hex : s.Exists p) (hstate : (s.pools p).state.Closed)
      (hamount : 0 < jpAmount) (htime : (s.pools p).redeemTime < env.timestamp)
      (htotal : (s.pools p).totalJpAmount ≠ 0) :
      Effect env s (.withdrawBorrow p jpAmount)
        ((if (s.pools p).jpToken ≠ 0 then [.burn (s.pools p).jpToken env.sender jpAmount] else []) ++
          if 0 < (s.pools p).borrowRedemption jpAmount then
            [.pay (s.pools p).pledgeToken env.sender ((s.pools p).borrowRedemption jpAmount)]
          else []) s
  | emergencyBorrowWithdrawal {p : Nat} (hex : s.Exists p) (hstate : (s.pools p).state = .undone)
      (hamount : 0 < (s.borrowInfos p env.sender).pledgeAmount)
      (hflag : (s.borrowInfos p env.sender).settled = false) :
      Effect env s (.emergencyBorrowWithdrawal p)
        [.pay (s.pools p).pledgeToken env.sender (s.borrowInfos p env.sender).pledgeAmount]
        (s.setBorrowInfo p env.sender { s.borrowInfos p env.sender with settled := true })
  | settleExecution {p pledgePrice settlePrice : Nat} (hex : s.Exists p)
      (htime : (s.pools p).settleTime ≤ env.timestamp) (hstate : (s.pools p).state = .matching)
      (hlend : 0 < (s.pools p).lendSupply) (hborrow : 0 < (s.pools p).borrowSupply)
      (hpledge : 0 < pledgePrice) (hsettle : 0 < settlePrice) :
      Effect env s (.settle p) []
        (s.setPool p { s.pools p with
          settleAmountLend := ((s.pools p).settlement pledgePrice settlePrice).1
          settleAmountBorrow := ((s.pools p).settlement pledgePrice settlePrice).2
          state := .execution })
  | settleUndone {p : Nat} (hex : s.Exists p) (htime : (s.pools p).settleTime ≤ env.timestamp)
      (hstate : (s.pools p).state = .matching)
      (hempty : ¬ (0 < (s.pools p).lendSupply ∧ 0 < (s.pools p).borrowSupply)) :
      Effect env s (.settle p) []
        (s.setPool p { s.pools p with
          settleAmountLend := (s.pools p).lendSupply
          settleAmountBorrow := (s.pools p).borrowSupply
          state := .undone })
  | finish {p sold received : Nat} {moves : List Move} (hex : s.Exists p)
      (htime : (s.pools p).endTime ≤ env.timestamp) (hstate : (s.pools p).state = .execution)
      (horder : (s.pools p).settleTime ≤ (s.pools p).endTime)
      (hsale : Sale s (s.pools p)
        ((s.pools p).repayment ((s.pools p).endTime - (s.pools p).settleTime)) sold received moves)
      (hsold : sold ≤ (s.pools p).settleAmountBorrow)
      (hfee : feeOf s.borrowFee ((s.pools p).settleAmountBorrow - sold) ≤
        (s.pools p).settleAmountBorrow - sold) :
      Effect env s (.finish p)
        (moves ++ feeMoves s (s.pools p).pledgeToken
          (feeOf s.borrowFee ((s.pools p).settleAmountBorrow - sold)))
        (s.setPool p { s.pools p with
          finishAmountLend := (s.pools p).repayment ((s.pools p).endTime - (s.pools p).settleTime)
          finishAmountBorrow := (s.pools p).settleAmountBorrow - sold -
            feeOf s.borrowFee ((s.pools p).settleAmountBorrow - sold)
          state := .finish })
  | liquidate {p sold received pledgePrice settlePrice : Nat} {moves : List Move} (hex : s.Exists p)
      (hstate : (s.pools p).state = .execution)
      (htime : (s.pools p).settleTime ≤ env.timestamp)
      (hpledge : 0 < pledgePrice) (hsettle : 0 < settlePrice)
      (hpledgePrice : ∃ w, env.getPrice s.oracle (s.pools p).pledgeToken w = .ok pledgePrice)
      (hsettlePrice : ∃ w, env.getPrice s.oracle (s.pools p).settleToken w = .ok settlePrice)
      (hhealth : s.healthFactor p pledgePrice settlePrice < (s.pools p).liquidationRate)
      (hsale : Sale s (s.pools p)
        ((s.pools p).repayment (env.timestamp - (s.pools p).settleTime)) sold received moves)
      (hsold : sold ≤ (s.pools p).settleAmountBorrow)
      (hfee : feeOf s.borrowFee ((s.pools p).settleAmountBorrow - sold) ≤
        (s.pools p).settleAmountBorrow - sold) :
      Effect env s (.liquidate p)
        (moves ++ feeMoves s (s.pools p).pledgeToken
          (feeOf s.borrowFee ((s.pools p).settleAmountBorrow - sold)))
        ((s.setPool p { s.pools p with
          liquidationAmountLend := (s.pools p).repayment (env.timestamp - (s.pools p).settleTime)
          liquidationAmountBorrow := (s.pools p).settleAmountBorrow - sold -
            feeOf s.borrowFee ((s.pools p).settleAmountBorrow - sold)
          state := .liquidation }).markLiquidated p (s.borrowers p))

end Pledge.Contract
