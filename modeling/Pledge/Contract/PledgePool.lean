import Pledge.Contract.PoolLendBorrow

/-!
# `PledgePool`: creation, fees, the exchange, settlement and liquidation

The functions of `PledgePool.sol`, statement by statement.
-/

namespace Pledge.Contract

open Pledge.Evm

/-! ## Creation

`createPoolInfo` is `createPool` with a settle time and the two claim tokens. It asks the wallet
four times, once by itself and once in each function that it calls. -/

def createPoolInfo (env : Env) (settleTime endTime interestRate maxSupply martgageRate : Nat)
    (lendToken borrowToken spToken jpToken : Address) (autoLiquidateThreshold : Nat) :
    Tx World Nat := do
  validCall env
  Tx.require (settleTime < endTime) "PledgePool: end time must be greater than settle time"
  Tx.require (jpToken ≠ 0) "PledgePool: jpToken is zero address"
  Tx.require (spToken ≠ 0) "PledgePool: spToken is zero address"
  let poolId ← createPool env lendToken borrowToken maxSupply interestRate martgageRate
    autoLiquidateThreshold endTime
  -- nothing compares the settle time with the present
  updatePool poolId fun pool => { pool with settleTime := settleTime }
  setPoolSpToken env poolId spToken
  setPoolJpToken env poolId jpToken
  pure poolId

/-! ## Fees

A fee is a share of an amount in units of `RATE_BASE`, rounded down. It is taken off the amount even
where there is no address to send it to. -/

def setFee (env : Env) (lendFee borrowFee : Nat) : Tx World Unit := do
  validCall env
  Tx.require (lendFee ≤ MAX_FEE_RATE) "PledgePool: lend fee too high"
  Tx.require (borrowFee ≤ MAX_FEE_RATE) "PledgePool: borrow fee too high"
  save fun s => { s with lendFee := lendFee, borrowFee := borrowFee }

def setFeeAddress (env : Env) (feeAddress : Address) : Tx World Unit := do
  validCall env
  Tx.require (feeAddress ≠ 0) "PledgePool: invalid fee address"
  save fun s => { s with feeAddress := feeAddress }

def setMinAmount (env : Env) (minAmount : Nat) : Tx World Unit := do
  validCall env
  save fun s => { s with minAmount := minAmount }

def setPause (env : Env) : Tx World Unit := do
  validCall env
  save fun s => { s with globalPaused := !s.globalPaused }

/-- `_redeemFees`. -/
def redeemFees (env : Env) (feeRatio : Nat) (token : Address) (amount : Nat) : Tx World Nat :=
  if feeRatio = 0 ∨ amount = 0 then
    pure amount
  else do
    let product ← Tx.umul amount feeRatio
    let fee ← Tx.udiv product RATE_BASE
    let feeAddress ← load (·.feeAddress)
    Tx.when (0 < fee ∧ feeAddress ≠ 0) (transferToken env token feeAddress fee)
    Tx.usub amount fee

/-! ## Exchange

Selling an exact amount asks the router for the price of what is to be raised, and then sells what
it named, with no bound on what comes back; `_processSwapAndFees` compares afterwards. -/

def setSwapRouterAddress (env : Env) (swapRouter : Address) : Tx World Unit := do
  validCall env
  Tx.require (swapRouter ≠ 0) "PledgePool: invalid router address"
  save fun s => { s with swapRouter := swapRouter }

/-- `_getSwapPath`. -/
def getSwapPath (env : Env) (token0 token1 : Address) : Tx World (List Address) := do
  let swapRouter ← load (·.swapRouter)
  Tx.require (swapRouter ≠ 0) "PledgePool: swap router not set"
  let path0 ← (if token0 = 0 then Tx.view (env.weth swapRouter) else pure token0)
  let path1 ← (if token1 = 0 then Tx.view (env.weth swapRouter) else pure token1)
  pure [path0, path1]

/-- `_getAmountIn`. -/
def getAmountIn (env : Env) (token0 token1 : Address) (amountOut : Nat) : Tx World Nat := do
  let swapRouter ← load (·.swapRouter)
  Tx.require (swapRouter ≠ 0) "PledgePool: swap router not set"
  let path ← getSwapPath env token0 token1
  let amounts ← Tx.view (env.getAmountsIn swapRouter amountOut path)
  Tx.index amounts 0

/-- `_safeApprove`. -/
def safeApprove (env : Env) (token spender : Address) (value : Nat) : Tx World Unit := do
  let result ← env.approve token spender value
  Tx.require (result = .noData ∨ result = .returned true) "PledgePool: approve failed"

/-- `_swap`. The last entry of `amounts` is read as the source reads it, by index. -/
def swap (env : Env) (token0 token1 : Address) (amount0 : Nat) : Tx World Nat := do
  let swapRouter ← load (·.swapRouter)
  Tx.require (swapRouter ≠ 0) "PledgePool: swap router not set"
  if amount0 = 0 then
    pure 0
  else do
    let path ← getSwapPath env token0 token1
    Tx.when (token0 ≠ 0) do
      let swapRouter ← load (·.swapRouter)
      safeApprove env token0 swapRouter amount0
    -- the token that comes back is approved too, without a limit
    Tx.when (token1 ≠ 0) do
      let swapRouter ← load (·.swapRouter)
      safeApprove env token1 swapRouter Tx.maxUint256
    let deadline ← Tx.uadd env.timestamp 300
    let amounts ← (if token0 = 0 then
        env.swapExactETHForTokens swapRouter amount0 0 path env.this deadline
      else if token1 = 0 then
        env.swapExactTokensForETH swapRouter amount0 0 path env.this deadline
      else
        env.swapExactTokensForTokens swapRouter amount0 0 path env.this deadline)
    let last ← Tx.usub amounts.length 1
    Tx.index amounts last

/-- `_sellExactAmount`, returning `(amountIn, amountReceived)`. -/
def sellExactAmount (env : Env) (token0 token1 : Address) (amountOut : Nat) :
    Tx World (Nat × Nat) :=
  if amountOut = 0 then
    pure (0, 0)
  else do
    let amountIn ← getAmountIn env token0 token1 amountOut
    let amountReceived ← swap env token0 token1 amountIn
    pure (amountIn, amountReceived)

/-- `_calculateRepayAmount`. -/
def calculateRepayAmount (poolId duration : Nat) : Tx World Nat := do
  let pool ← getPool poolId
  let scaled ← Tx.umul duration RATE_BASE
  let timeRatio ← Tx.udiv scaled SECONDS_PER_YEAR
  let rated ← Tx.umul timeRatio pool.interestRate
  let product ← Tx.umul rated pool.settleAmountLend
  let base ← Tx.umul RATE_BASE RATE_BASE
  let interest ← Tx.udiv product base
  Tx.uadd pool.settleAmountLend interest

/-- `_processSwapAndFees`, returning `(amountSell, amountIn)`. -/
def processSwapAndFees (env : Env) (poolId lendAmount : Nat) : Tx World (Nat × Nat) := do
  let lendFee ← load (·.lendFee)
  let rate ← Tx.uadd RATE_BASE lendFee
  let product ← Tx.umul lendAmount rate
  let sellAmount ← Tx.udiv product RATE_BASE
  let pool ← getPool poolId
  let (amountSell, amountIn) ← sellExactAmount env pool.pledgeToken pool.settleToken sellAmount
  Tx.require (lendAmount ≤ amountIn) "PledgePool: slippage too high"
  if lendAmount < amountIn then do
    let feeAmount ← Tx.usub amountIn lendAmount
    let feeAddress ← load (·.feeAddress)
    Tx.when (0 < feeAmount ∧ feeAddress ≠ 0) do
      let pool ← getPool poolId
      transferToken env pool.settleToken feeAddress feeAmount
    let amountIn ← Tx.usub amountIn feeAmount
    pure (amountSell, amountIn)
  else
    pure (amountSell, amountIn)

/-! ## Settlement

What is lent is the smaller of the lenders' supply and of what the collateral supports at the prices
of the oracle. Where one side is empty, the pool is undone and nothing is lent. -/

/-- `checkoutSettle`. -/
def checkoutSettle (env : Env) (poolId : Nat) : Tx World Bool := do
  poolExists poolId
  let pool ← getPool poolId
  pure (decide (pool.settleTime ≤ env.timestamp ∧ pool.state = .matching))

def settle (env : Env) (poolId : Nat) : Tx World Unit := do
  validCall env
  poolExists poolId
  let pool ← getPool poolId
  Tx.require (pool.settleTime ≤ env.timestamp) "PledgePool: before settle time"
  Tx.require (pool.state = .matching) "PledgePool: invalid state"
  if 0 < pool.lendSupply ∧ 0 < pool.borrowSupply then do
    let oracle ← load (·.oracle)
    let pledgePrice ← Tx.view (env.getPrice oracle pool.pledgeToken)
    let settlePrice ← Tx.view (env.getPrice oracle pool.settleToken)
    Tx.require (0 < pledgePrice ∧ 0 < settlePrice) "PledgePool: invalid price"
    let product ← Tx.umul pool.borrowSupply pledgePrice
    let totalPledgeValue ← Tx.udiv product settlePrice
    let product ← Tx.umul totalPledgeValue RATE_BASE
    let actualBorrowValue ← Tx.udiv product pool.pledgeRate
    -- the collateral is short, and all of it is taken
    (if actualBorrowValue < pool.lendSupply then
      updatePool poolId fun pool =>
        { pool with settleAmountLend := actualBorrowValue, settleAmountBorrow := pool.borrowSupply }
    else do
      -- the lenders are short, and some collateral is left for a refund
      let product ← Tx.umul pool.lendSupply pool.pledgeRate
      let product ← Tx.umul product settlePrice
      let base ← Tx.umul RATE_BASE pledgePrice
      let settleAmountBorrow ← Tx.udiv product base
      updatePool poolId fun pool =>
        { pool with settleAmountLend := pool.lendSupply, settleAmountBorrow := settleAmountBorrow })
    updatePool poolId fun pool => { pool with state := .execution }
  else
    updatePool poolId fun pool =>
      { pool with
        settleAmountLend := pool.lendSupply
        settleAmountBorrow := pool.borrowSupply
        state := .undone }

/-- `checkoutFinish`. -/
def checkoutFinish (env : Env) (poolId : Nat) : Tx World Bool := do
  poolExists poolId
  let pool ← getPool poolId
  pure (decide (pool.endTime ≤ env.timestamp ∧ pool.state = .execution))

def finish (env : Env) (poolId : Nat) : Tx World Unit := do
  validCall env
  poolExists poolId
  let pool ← getPool poolId
  Tx.require (pool.endTime ≤ env.timestamp) "PledgePool: before end time"
  Tx.require (pool.state = .execution) "PledgePool: invalid state"
  let duration ← Tx.usub pool.endTime pool.settleTime
  let lendAmount ← calculateRepayAmount poolId duration
  let (amountSell, amountIn) ← processSwapAndFees env poolId lendAmount
  updatePool poolId fun pool => { pool with finishAmountLend := amountIn }
  let pool ← getPool poolId
  let borrowFee ← load (·.borrowFee)
  -- what the sale has left goes to the borrowers, less the fee
  let rest ← Tx.usub pool.settleAmountBorrow amountSell
  let finishAmountBorrow ← redeemFees env borrowFee pool.pledgeToken rest
  updatePool poolId fun pool => { pool with finishAmountBorrow := finishAmountBorrow }
  updatePool poolId fun pool => { pool with state := .finish }

/-! ## Liquidation -/

/-- `_getPrices`, returning `(pledgePrice, settlePrice)`. -/
def getPrices (env : Env) (poolId : Nat) : Tx World (Nat × Nat) := do
  let oracle ← load (·.oracle)
  Tx.require (oracle ≠ 0) "PledgePool: oracle not set"
  let pool ← getPool poolId
  let pledgePrice ← Tx.view (env.getPrice oracle pool.pledgeToken)
  let settlePrice ← Tx.view (env.getPrice oracle pool.settleToken)
  pure (pledgePrice, settlePrice)

/-- One round of the loop of `_calculateTotals`. -/
def addTotals (poolId pledgePrice settlePrice : Nat) (totals : Nat × Nat) (borrower : Address) :
    Tx World (Nat × Nat) := do
  let info ← getBorrowInfo poolId borrower
  -- who has neither claimed nor been refunded does not count
  if info.settled = true ∧ info.liquidated = false then do
    let product ← Tx.umul info.pledgeAmount pledgePrice
    let pledgeValue ← Tx.udiv product settlePrice
    let totalPledgeValue ← Tx.uadd totals.1 pledgeValue
    let totalBorrowAmount ← Tx.uadd totals.2 info.borrowAmount
    pure (totalPledgeValue, totalBorrowAmount)
  else
    pure totals

/-- `_calculateTotals`, returning `(totalPledgeValue, totalBorrowAmount)`. -/
def calculateTotals (poolId pledgePrice settlePrice : Nat) : Tx World (Nat × Nat) := do
  let borrowerList ← load (·.borrowers poolId)
  Tx.fold (addTotals poolId pledgePrice settlePrice) (0, 0) borrowerList

def calculateHealthFactor (env : Env) (poolId : Nat) : Tx World Nat := do
  poolExists poolId
  let pool ← getPool poolId
  if pool.state ≠ .execution then
    pure RATE_BASE
  else do
    let (pledgePrice, settlePrice) ← getPrices env poolId
    Tx.require (0 < pledgePrice ∧ 0 < settlePrice) "PledgePool: invalid price"
    let (totalPledgeValue, totalBorrowAmount) ← calculateTotals poolId pledgePrice settlePrice
    if totalBorrowAmount = 0 then
      pure RATE_BASE
    else do
      let product ← Tx.umul totalPledgeValue RATE_BASE
      Tx.udiv product totalBorrowAmount

/-- `canLiquidate`. `&&` evaluates its right side only when the left side holds. -/
def canLiquidate (env : Env) (poolId : Nat) : Tx World Bool := do
  poolExists poolId
  let pool ← getPool poolId
  if pool.state = .execution ∧ pool.settleTime ≤ env.timestamp then do
    let healthFactor ← calculateHealthFactor env poolId
    pure (decide (healthFactor < pool.liquidationRate))
  else
    pure false

/-- One round of the loop of `liquidate` over the borrowers. -/
def markLiquidated (poolId : Nat) (_ : Unit) (borrower : Address) : Tx World Unit := do
  let info ← getBorrowInfo poolId borrower
  Tx.when (info.settled = true ∧ info.liquidated = false)
    (updateBorrowInfo poolId borrower fun info => { info with liquidated := true })

def liquidate (env : Env) (poolId : Nat) : Tx World Unit := nonReentrant do
  poolExists poolId
  let pool ← getPool poolId
  Tx.require (pool.state = .execution ∧ pool.settleTime ≤ env.timestamp) "PledgePool: invalid state"
  let healthFactor ← calculateHealthFactor env poolId
  Tx.require (healthFactor < pool.liquidationRate) "PledgePool: health factor above threshold"
  let duration ← Tx.usub env.timestamp pool.settleTime
  let lendAmount ← calculateRepayAmount poolId duration
  let (amountSell, amountIn) ← processSwapAndFees env poolId lendAmount
  updatePool poolId fun pool => { pool with liquidationAmountLend := amountIn }
  let pool ← getPool poolId
  let borrowFee ← load (·.borrowFee)
  let rest ← Tx.usub pool.settleAmountBorrow amountSell
  let liquidationAmountBorrow ← redeemFees env borrowFee pool.pledgeToken rest
  updatePool poolId fun pool => { pool with liquidationAmountBorrow := liquidationAmountBorrow }
  updatePool poolId fun pool => { pool with state := .liquidation }
  let borrowerList ← load (·.borrowers poolId)
  Tx.fold (markLiquidated poolId) () borrowerList

end Pledge.Contract
