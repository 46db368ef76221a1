import Pledge.Contract.Env

/-!
# `PoolLendBorrow`: administration, lending and borrowing

The functions of `PoolLendBorrow.sol`, statement by statement. A storage reference is read again
after every external call, since the callee may have changed what it points to.
-/

namespace Pledge.Contract

open Pledge.Evm

/-! ## Admin

Each of these needs the agreement of the signers, which `validCall` asks the wallet for.
`setPoolState` writes any state over any other and touches nothing else. -/

/-- The record `createPool` writes. -/
def newPool (creator settleToken pledgeToken : Address)
    (borrowAmount interestRate pledgeRate liquidationRate endTime : Nat) : Pool where
  settleToken := settleToken
  pledgeToken := pledgeToken
  maxSupply := borrowAmount
  lendSupply := 0
  borrowSupply := 0
  borrowAmount := borrowAmount
  interestRate := interestRate
  pledgeRate := pledgeRate
  liquidationRate := liquidationRate
  autoLiquidateThreshold := liquidationRate
  endTime := endTime
  settleTime := 0
  lendAmount := 0
  settleAmountLend := 0
  settleAmountBorrow := 0
  finishAmountLend := 0
  finishAmountBorrow := 0
  liquidationAmountLend := 0
  liquidationAmountBorrow := 0
  state := .matching
  creator := creator
  spToken := 0
  jpToken := 0

def createPool (env : Env) (settleToken pledgeToken : Address)
    (borrowAmount interestRate pledgeRate liquidationRate endTime : Nat) : Tx World Nat := do
  validCall env
  Tx.require (settleToken ≠ 0) "PoolLendBorrow: invalid settle token"
  Tx.require (pledgeToken ≠ 0) "PoolLendBorrow: invalid pledge token"
  Tx.require (0 < borrowAmount) "PoolLendBorrow: invalid borrow amount"
  Tx.require (0 < interestRate ∧ interestRate ≤ MAX_INTEREST_RATE)
    "PoolLendBorrow: invalid interest rate"
  Tx.require (MIN_PLEDGE_RATE ≤ pledgeRate ∧ pledgeRate ≤ MAX_PLEDGE_RATE)
    "PoolLendBorrow: invalid pledge rate"
  Tx.require (RATE_BASE < liquidationRate ∧ liquidationRate < pledgeRate)
    "PoolLendBorrow: invalid liquidation rate"
  Tx.require (env.timestamp < endTime) "PoolLendBorrow: invalid end time"
  let poolCounter ← load (·.poolCounter)
  -- the first pool has the number 1
  let poolId ← Tx.uadd poolCounter 1
  save fun s => { s with poolCounter := poolId }
  updatePool poolId fun _ =>
    newPool env.sender settleToken pledgeToken borrowAmount interestRate pledgeRate liquidationRate
      endTime
  pure poolId

def setPoolState (env : Env) (poolId : Nat) (newState : PoolState) : Tx World Unit := do
  validCall env
  poolExists poolId
  updatePool poolId fun pool => { pool with state := newState }

def setOracle (env : Env) (oracle : Address) : Tx World Unit := do
  validCall env
  Tx.require (oracle ≠ 0) "PoolLendBorrow: invalid oracle address"
  save fun s => { s with oracle := oracle }

def setDebtToken (env : Env) (debtToken : Address) : Tx World Unit := do
  validCall env
  Tx.require (debtToken ≠ 0) "PoolLendBorrow: invalid debt token address"
  save fun s => { s with debtToken := debtToken }

def setPoolSpToken (env : Env) (poolId : Nat) (spToken : Address) : Tx World Unit := do
  validCall env
  poolExists poolId
  Tx.require (spToken ≠ 0) "PoolLendBorrow: invalid sp token address"
  updatePool poolId fun pool => { pool with spToken := spToken }

def setPoolJpToken (env : Env) (poolId : Nat) (jpToken : Address) : Tx World Unit := do
  validCall env
  poolExists poolId
  Tx.require (jpToken ≠ 0) "PoolLendBorrow: invalid jp token address"
  updatePool poolId fun pool => { pool with jpToken := jpToken }

/-! ## Lend

`claimLend` and `withdrawLend` run while the contract is paused; the others do not. The supply is
bounded by `maxSupply` on the side of the lenders only. -/

def depositLend (env : Env) (poolId amount : Nat) : Tx World Unit := nonReentrant do
  notPaused
  poolExists poolId
  validState poolId .matching
  Tx.require (0 < amount ∨ 0 < env.value) "PoolLendBorrow: amount must be greater than 0"
  let pool ← getPool poolId
  Tx.require (env.timestamp < pool.endTime) "PoolLendBorrow: pool has ended"
  -- for a token this is the amount asked for, not what came
  let actualAmount ← receiveToken env pool.settleToken env.sender amount
  let minAmount ← load (·.minAmount)
  Tx.require (minAmount ≤ actualAmount) "PoolLendBorrow: less than min amount"
  let pool ← getPool poolId
  let newSupply ← Tx.uadd pool.lendSupply actualAmount
  Tx.require (newSupply ≤ pool.maxSupply) "PoolLendBorrow: exceeds max supply"
  let lendInfo ← getLendInfo poolId env.sender
  Tx.when (lendInfo.amount = 0) (save fun s => s.pushLender poolId env.sender)
  let newAmount ← Tx.uadd lendInfo.amount actualAmount
  updateLendInfo poolId env.sender fun info =>
    -- a second deposit lets the lender claim and refund again
    { info with amount := newAmount, claimed := false, refunded := false }
  updatePool poolId fun pool => { pool with lendSupply := newSupply }

def refundLend (env : Env) (poolId : Nat) : Tx World Unit := nonReentrant do
  notPaused
  poolExists poolId
  let pool ← getPool poolId
  Tx.require (pool.state = .execution ∨ pool.state = .finish ∨ pool.state = .liquidation)
    "PoolLendBorrow: invalid state for refund"
  Tx.require (pool.settleTime ≤ env.timestamp) "PoolLendBorrow: before settle time"
  let lendInfo ← getLendInfo poolId env.sender
  Tx.require (0 < lendInfo.amount) "PoolLendBorrow: no lending position"
  Tx.require (lendInfo.refunded = false) "PoolLendBorrow: already refunded"
  Tx.require (pool.settleAmountLend < pool.lendSupply) "PoolLendBorrow: no refund needed"
  -- the excess of all lenders, in proportion, rounded down
  let excess ← Tx.usub pool.lendSupply pool.settleAmountLend
  let product ← Tx.umul excess lendInfo.amount
  let refundAmount ← Tx.udiv product pool.lendSupply
  Tx.require (0 < refundAmount) "PoolLendBorrow: no refund amount"
  updateLendInfo poolId env.sender fun info => { info with refunded := true }
  transferToken env pool.settleToken env.sender refundAmount

def claimLend (env : Env) (poolId : Nat) : Tx World Unit := nonReentrant do
  poolExists poolId
  let pool ← getPool poolId
  Tx.require (pool.state = .execution ∨ pool.state = .finish ∨ pool.state = .liquidation)
    "PoolLendBorrow: invalid state"
  let lendInfo ← getLendInfo poolId env.sender
  Tx.require (0 < lendInfo.amount) "PoolLendBorrow: no lending position"
  Tx.require (lendInfo.claimed = false) "PoolLendBorrow: already claimed"
  Tx.require (pool.spToken ≠ 0) "PoolLendBorrow: spToken not set"
  Tx.require (0 < pool.lendSupply) "PoolLendBorrow: no lend supply"
  let product ← Tx.umul pool.settleAmountLend lendInfo.amount
  let spAmount ← Tx.udiv product pool.lendSupply
  -- the token is minted before the claim is written
  let _ ← env.mint pool.spToken env.sender spAmount
  updateLendInfo poolId env.sender fun info => { info with claimed := true, lendAmount := spAmount }

def withdrawLend (env : Env) (poolId spAmount : Nat) : Tx World Unit := nonReentrant do
  poolExists poolId
  Tx.require (0 < spAmount) "PoolLendBorrow: spAmount must be greater than 0"
  let pool ← getPool poolId
  Tx.require (pool.state = .finish ∨ pool.state = .liquidation) "PoolLendBorrow: invalid state"
  Tx.require (pool.spToken ≠ 0) "PoolLendBorrow: spToken not set"
  -- the state is read again after the token has burned
  let _ ← env.burn pool.spToken env.sender spAmount
  let pool ← getPool poolId
  let redeemAmount ← (if pool.state = .finish then do
      Tx.require (pool.endTime < env.timestamp) "PoolLendBorrow: pool not ended"
      let product ← Tx.umul pool.finishAmountLend spAmount
      Tx.udiv product pool.settleAmountLend
    else do
      Tx.require (pool.settleTime < env.timestamp) "PoolLendBorrow: before settle time"
      let product ← Tx.umul pool.liquidationAmountLend spAmount
      Tx.udiv product pool.settleAmountLend)
  Tx.require (0 < redeemAmount) "PoolLendBorrow: no amount to redeem"
  transferToken env pool.settleToken env.sender redeemAmount

def emergencyLendWithdrawal (env : Env) (poolId : Nat) : Tx World Unit := nonReentrant do
  notPaused
  poolExists poolId
  let pool ← getPool poolId
  Tx.require (pool.state = .undone) "PoolLendBorrow: pool not undone"
  Tx.require (0 < pool.lendSupply) "PoolLendBorrow: no lend supply"
  let lendInfo ← getLendInfo poolId env.sender
  Tx.require (0 < lendInfo.amount) "PoolLendBorrow: no lending position"
  Tx.require (lendInfo.refunded = false) "PoolLendBorrow: already refunded"
  -- the whole deposit, which stays in the record
  let refundAmount := lendInfo.amount
  updateLendInfo poolId env.sender fun info => { info with refunded := true }
  transferToken env pool.settleToken env.sender refundAmount

/-! ## Borrow

All of these have `notPaused`. A refund and a claim of a borrower share one flag, `settled`, where a
lender has one for each. -/

def depositBorrow (env : Env) (poolId pledgeAmount : Nat) : Tx World Unit := nonReentrant do
  notPaused
  poolExists poolId
  validState poolId .matching
  timeBefore poolId env.timestamp
  Tx.require (0 < pledgeAmount ∨ 0 < env.value) "PoolLendBorrow: amount must be greater than 0"
  let pool ← getPool poolId
  let actualAmount ← receiveToken env pool.pledgeToken env.sender pledgeAmount
  let borrowInfo ← getBorrowInfo poolId env.sender
  Tx.when (borrowInfo.pledgeAmount = 0) (save fun s => s.pushBorrower poolId env.sender)
  let newAmount ← Tx.uadd borrowInfo.pledgeAmount actualAmount
  updateBorrowInfo poolId env.sender fun info =>
    -- a second deposit lets the borrower settle again
    { info with pledgeAmount := newAmount, settled := false, liquidated := false }
  let pool ← getPool poolId
  let newSupply ← Tx.uadd pool.borrowSupply actualAmount
  updatePool poolId fun pool => { pool with borrowSupply := newSupply }

def refundBorrow (env : Env) (poolId : Nat) : Tx World Unit := nonReentrant do
  notPaused
  poolExists poolId
  let pool ← getPool poolId
  let borrowInfo ← getBorrowInfo poolId env.sender
  Tx.require (0 < borrowInfo.pledgeAmount) "PoolLendBorrow: no pledge to refund"
  Tx.require (borrowInfo.settled = false) "PoolLendBorrow: already settled"
  Tx.require (pool.state = .execution ∨ pool.state = .finish ∨ pool.state = .liquidation)
    "PoolLendBorrow: invalid state"
  Tx.require (pool.settleAmountBorrow < pool.borrowSupply) "PoolLendBorrow: no refund needed"
  Tx.require (pool.settleTime ≤ env.timestamp) "PoolLendBorrow: before settle time"
  let excess ← Tx.usub pool.borrowSupply pool.settleAmountBorrow
  let product ← Tx.umul excess borrowInfo.pledgeAmount
  let refundAmount ← Tx.udiv product pool.borrowSupply
  Tx.require (0 < refundAmount) "PoolLendBorrow: no refund amount"
  -- the payment comes before the flag
  transferToken env pool.pledgeToken env.sender refundAmount
  updateBorrowInfo poolId env.sender fun info => { info with settled := true }

def claimBorrow (env : Env) (poolId : Nat) : Tx World Unit := nonReentrant do
  notPaused
  poolExists poolId
  let pool ← getPool poolId
  let borrowInfo ← getBorrowInfo poolId env.sender
  Tx.require (0 < borrowInfo.pledgeAmount) "PoolLendBorrow: no pledge to claim"
  Tx.require (borrowInfo.settled = false) "PoolLendBorrow: already claimed"
  Tx.require (pool.state = .execution ∨ pool.state = .finish ∨ pool.state = .liquidation)
    "PoolLendBorrow: invalid state"
  Tx.require (pool.settleTime ≤ env.timestamp) "PoolLendBorrow: before settle time"
  let rated ← Tx.umul pool.settleAmountLend pool.pledgeRate
  let product ← Tx.umul rated borrowInfo.pledgeAmount
  let base ← Tx.umul RATE_BASE pool.borrowSupply
  let jpAmount ← Tx.udiv product base
  -- a pool without a claim token lends all the same
  Tx.when (pool.jpToken ≠ 0) do
    let _ ← env.mint pool.jpToken env.sender jpAmount
    pure ()
  let pool ← getPool poolId
  -- the token may have called back, so both records are read again
  let borrowInfo ← getBorrowInfo poolId env.sender
  let product ← Tx.umul pool.settleAmountLend borrowInfo.pledgeAmount
  let borrowAmount ← Tx.udiv product pool.borrowSupply
  Tx.when (0 < borrowAmount) (transferToken env pool.settleToken env.sender borrowAmount)
  updateBorrowInfo poolId env.sender fun info =>
    { info with borrowAmount := borrowAmount, settled := true }

def withdrawBorrow (env : Env) (poolId jpAmount : Nat) : Tx World Unit := nonReentrant do
  notPaused
  poolExists poolId
  Tx.require (0 < jpAmount) "PoolLendBorrow: jpAmount must be greater than 0"
  let pool ← getPool poolId
  Tx.require (pool.state = .finish ∨ pool.state = .liquidation) "PoolLendBorrow: invalid state"
  Tx.when (pool.jpToken ≠ 0) do
    let _ ← env.burn pool.jpToken env.sender jpAmount
    pure ()
  let pool ← getPool poolId
  let rated ← Tx.umul pool.settleAmountLend pool.pledgeRate
  let totalJpAmount ← Tx.udiv rated RATE_BASE
  let redeemAmount ← (if pool.state = .finish then do
      Tx.require (pool.endTime < env.timestamp) "PoolLendBorrow: not yet finished"
      let product ← Tx.umul pool.finishAmountBorrow jpAmount
      Tx.udiv product totalJpAmount
    else do
      Tx.require (pool.settleTime < env.timestamp) "PoolLendBorrow: before settle time"
      let product ← Tx.umul pool.liquidationAmountBorrow jpAmount
      Tx.udiv product totalJpAmount)
  Tx.when (0 < redeemAmount) (transferToken env pool.pledgeToken env.sender redeemAmount)

def emergencyBorrowWithdrawal (env : Env) (poolId : Nat) : Tx World Unit := nonReentrant do
  notPaused
  poolExists poolId
  let pool ← getPool poolId
  Tx.require (pool.state = .undone) "PoolLendBorrow: pool not undone"
  Tx.require (0 < pool.borrowSupply) "PoolLendBorrow: no borrow supply"
  let borrowInfo ← getBorrowInfo poolId env.sender
  Tx.require (0 < borrowInfo.pledgeAmount) "PoolLendBorrow: no pledge"
  Tx.require (borrowInfo.settled = false) "PoolLendBorrow: already settled"
  let refundAmount := borrowInfo.pledgeAmount
  updateBorrowInfo poolId env.sender fun info => { info with settled := true }
  transferToken env pool.pledgeToken env.sender refundAmount

end Pledge.Contract
