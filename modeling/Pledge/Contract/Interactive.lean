import Pledge.Contract.Call
import Pledge.Evm.Interaction

/-!
# The sale of the collateral, with its external calls in view

`finish` and `liquidate` once more, statement by statement, as programs that make requests. What a
callee does before it answers is not part of the program. With the answers of an environment they are
the functions of `PledgePool` (`finish_run`, `liquidate_run`).
-/

namespace Pledge.Contract

open Pledge.Evm

/-! ## Requests

What the sale asks of others, with the arguments that it passes. Calls that only read (the path and
the price of the router, the prices of the oracle) are not requests: they are static and cannot call
back. The two kinds of fee are told apart, since one of them is paid out of the collateral. -/

/-- The fees of a sale: `lendFee` comes out of the proceeds, `borrowFee` out of the rest of the
collateral. -/
inductive Fee where
  | lend
  | borrow
  deriving Repr, DecidableEq

/-- The external calls of a sale that may change state. -/
inductive Request where
  | approve (token spender : Address) (value : Nat)
  | swapExactTokensForTokens (router : Address) (amountIn amountOutMin : Nat) (path : List Address)
      (recipient : Address) (deadline : Nat)
  | swapExactETHForTokens (router : Address) (value amountOutMin : Nat) (path : List Address)
      (recipient : Address) (deadline : Nat)
  | swapExactTokensForETH (router : Address) (amountIn amountOutMin : Nat) (path : List Address)
      (recipient : Address) (deadline : Nat)
  | transfer (fee : Fee) (token recipient : Address) (amount : Nat)
  | sendEth (fee : Fee) (recipient : Address) (amount : Nat)
  deriving Repr, DecidableEq

/-- What a request returns. -/
def Request.Answer : Request → Type
  | .approve .. => CallResult
  | .swapExactTokensForTokens .. | .swapExactETHForTokens .. | .swapExactTokensForETH .. => List Nat
  | .transfer .. => Bool
  | .sendEth .. => Unit

/-- The answers of an environment. -/
def Env.answer (env : Env) : (r : Request) → Tx World r.Answer
  | .approve token spender value => env.approve token spender value
  | .swapExactTokensForTokens router amountIn amountOutMin path recipient deadline =>
      env.swapExactTokensForTokens router amountIn amountOutMin path recipient deadline
  | .swapExactETHForTokens router value amountOutMin path recipient deadline =>
      env.swapExactETHForTokens router value amountOutMin path recipient deadline
  | .swapExactTokensForETH router amountIn amountOutMin path recipient deadline =>
      env.swapExactTokensForETH router amountIn amountOutMin path recipient deadline
  | .transfer _ token recipient amount => env.transfer token recipient amount
  | .sendEth _ recipient amount => env.sendEth recipient amount

/-- A program of the contract. -/
abbrev Program (α : Type) : Type := Prog World Request.Answer α

namespace Interactive

open Prog (lift ask)

/-- The modifier: the guard is up while the body runs, whatever its requests do. -/
def nonReentrant (body : Program Unit) : Program Unit := do
  let entered ← lift (load (·.entered))
  lift (Tx.require (entered = false) "ReentrancyGuardReentrantCall")
  lift (save fun s => s.setEntered true)
  let result ← body
  lift (save fun s => s.setEntered false)
  pure result

def approve (token spender : Address) (value : Nat) : Program CallResult :=
  ask (Request.approve token spender value)

def swapExactTokensForTokens (router : Address) (amountIn amountOutMin : Nat) (path : List Address)
    (recipient : Address) (deadline : Nat) : Program (List Nat) :=
  ask (Request.swapExactTokensForTokens router amountIn amountOutMin path recipient deadline)

def swapExactETHForTokens (router : Address) (value amountOutMin : Nat) (path : List Address)
    (recipient : Address) (deadline : Nat) : Program (List Nat) :=
  ask (Request.swapExactETHForTokens router value amountOutMin path recipient deadline)

def swapExactTokensForETH (router : Address) (amountIn amountOutMin : Nat) (path : List Address)
    (recipient : Address) (deadline : Nat) : Program (List Nat) :=
  ask (Request.swapExactTokensForETH router amountIn amountOutMin path recipient deadline)

def transfer (fee : Fee) (token recipient : Address) (amount : Nat) : Program Bool :=
  ask (Request.transfer fee token recipient amount)

def sendEth (fee : Fee) (recipient : Address) (amount : Nat) : Program Unit :=
  ask (Request.sendEth fee recipient amount)

/-- A payment of a fee. -/
def transferToken (fee : Fee) (token recipient : Address) (amount : Nat) : Program Unit :=
  if amount = 0 then
    pure ()
  else if token = 0 then
    sendEth fee recipient amount
  else do
    let _ ← transfer fee token recipient amount
    pure ()

def safeApprove (token spender : Address) (value : Nat) : Program Unit := do
  let result ← approve token spender value
  lift (Tx.require (result = .noData ∨ result = .returned true) "PledgePool: approve failed")

/-- The sale of `amount0`; the router is approved for the amount of the one token and without limit
for the other. -/
def swap (env : Env) (token0 token1 : Address) (amount0 : Nat) : Program Nat := do
  let swapRouter ← lift (load (·.swapRouter))
  lift (Tx.require (swapRouter ≠ 0) "PledgePool: swap router not set")
  if amount0 = 0 then
    pure 0
  else do
    let path ← lift (getSwapPath env token0 token1)
    Prog.when (token0 ≠ 0) do
      let swapRouter ← lift (load (·.swapRouter))
      safeApprove token0 swapRouter amount0
    Prog.when (token1 ≠ 0) do
      let swapRouter ← lift (load (·.swapRouter))
      safeApprove token1 swapRouter Tx.maxUint256
    let deadline ← lift (Tx.uadd env.timestamp 300)
    let amounts ← (if token0 = 0 then
        swapExactETHForTokens swapRouter amount0 0 path env.this deadline
      else if token1 = 0 then
        swapExactTokensForETH swapRouter amount0 0 path env.this deadline
      else
        swapExactTokensForTokens swapRouter amount0 0 path env.this deadline)
    let last ← lift (Tx.usub amounts.length 1)
    lift (Tx.index amounts last)

/-- The sale of what brings in `amountOut`. -/
def sellExactAmount (env : Env) (token0 token1 : Address) (amountOut : Nat) : Program (Nat × Nat) :=
  if amountOut = 0 then
    pure (0, 0)
  else do
    let amountIn ← lift (getAmountIn env token0 token1 amountOut)
    let amountReceived ← swap env token0 token1 amountIn
    pure (amountIn, amountReceived)

/-- The fee on `amount`, and what is left of it. -/
def redeemFees (feeRatio : Nat) (token : Address) (amount : Nat) : Program Nat :=
  if feeRatio = 0 ∨ amount = 0 then
    pure amount
  else do
    let product ← lift (Tx.umul amount feeRatio)
    let fee ← lift (Tx.udiv product RATE_BASE)
    let feeAddress ← lift (load (·.feeAddress))
    Prog.when (0 < fee ∧ feeAddress ≠ 0) (transferToken .borrow token feeAddress fee)
    lift (Tx.usub amount fee)

/-- The sale for `lendAmount` and the lend fee. -/
def processSwapAndFees (env : Env) (poolId lendAmount : Nat) : Program (Nat × Nat) := do
  let lendFee ← lift (load (·.lendFee))
  let rate ← lift (Tx.uadd RATE_BASE lendFee)
  let product ← lift (Tx.umul lendAmount rate)
  let sellAmount ← lift (Tx.udiv product RATE_BASE)
  let pool ← lift (getPool poolId)
  let (amountSell, amountIn) ← sellExactAmount env pool.pledgeToken pool.settleToken sellAmount
  lift (Tx.require (lendAmount ≤ amountIn) "PledgePool: slippage too high")
  if lendAmount < amountIn then do
    let feeAmount ← lift (Tx.usub amountIn lendAmount)
    let feeAddress ← lift (load (·.feeAddress))
    Prog.when (0 < feeAmount ∧ feeAddress ≠ 0) do
      let pool ← lift (getPool poolId)
      transferToken .lend pool.settleToken feeAddress feeAmount
    let amountIn ← lift (Tx.usub amountIn feeAmount)
    pure (amountSell, amountIn)
  else
    pure (amountSell, amountIn)

/-- Not guarded, and the state is written after all requests. -/
def finish (env : Env) (poolId : Nat) : Program Unit := do
  lift (validCall env)
  lift (poolExists poolId)
  let pool ← lift (getPool poolId)
  lift (Tx.require (pool.endTime ≤ env.timestamp) "PledgePool: before end time")
  lift (Tx.require (pool.state = .execution) "PledgePool: invalid state")
  let duration ← lift (Tx.usub pool.endTime pool.settleTime)
  let lendAmount ← lift (calculateRepayAmount poolId duration)
  let (amountSell, amountIn) ← processSwapAndFees env poolId lendAmount
  lift (updatePool poolId fun pool => { pool with finishAmountLend := amountIn })
  let pool ← lift (getPool poolId)
  let borrowFee ← lift (load (·.borrowFee))
  let rest ← lift (Tx.usub pool.settleAmountBorrow amountSell)
  let finishAmountBorrow ← redeemFees borrowFee pool.pledgeToken rest
  lift (updatePool poolId fun pool => { pool with finishAmountBorrow := finishAmountBorrow })
  lift (updatePool poolId fun pool => { pool with state := .finish })

/-- Guarded; here too the state is written after all requests. -/
def liquidate (env : Env) (poolId : Nat) : Program Unit := nonReentrant do
  lift (poolExists poolId)
  let pool ← lift (getPool poolId)
  lift (Tx.require (pool.state = .execution ∧ pool.settleTime ≤ env.timestamp)
    "PledgePool: invalid state")
  let healthFactor ← lift (calculateHealthFactor env poolId)
  lift (Tx.require (healthFactor < pool.liquidationRate)
    "PledgePool: health factor above threshold")
  let duration ← lift (Tx.usub env.timestamp pool.settleTime)
  let lendAmount ← lift (calculateRepayAmount poolId duration)
  let (amountSell, amountIn) ← processSwapAndFees env poolId lendAmount
  lift (updatePool poolId fun pool => { pool with liquidationAmountLend := amountIn })
  let pool ← lift (getPool poolId)
  let borrowFee ← lift (load (·.borrowFee))
  let rest ← lift (Tx.usub pool.settleAmountBorrow amountSell)
  let liquidationAmountBorrow ← redeemFees borrowFee pool.pledgeToken rest
  lift (updatePool poolId fun pool =>
    { pool with liquidationAmountBorrow := liquidationAmountBorrow })
  lift (updatePool poolId fun pool => { pool with state := .liquidation })
  let borrowerList ← lift (load (·.borrowers poolId))
  lift (Tx.fold (markLiquidated poolId) () borrowerList)

/-! ## With the answers of an environment

When an environment answers the requests, the programs are the functions of `PledgePool`, one
equation for each. So a statement about all answers covers those of any environment, and the quiet
ones are a special case. -/

variable (env : Env)

theorem nonReentrant_run (body : Program Unit) :
    (nonReentrant body).run env.answer = Contract.nonReentrant (body.run env.answer) := by
  simp only [nonReentrant, Contract.nonReentrant, Prog.run_bind, Prog.run_lift, Prog.run_pure]

theorem transferToken_run (fee : Fee) (token recipient : Address) (amount : Nat) :
    (transferToken fee token recipient amount).run env.answer =
      Contract.transferToken env token recipient amount := by
  have heth : (sendEth fee recipient amount).run env.answer = env.sendEth recipient amount :=
    Prog.run_ask ..
  have htoken : (transfer fee token recipient amount).run env.answer =
      env.transfer token recipient amount := Prog.run_ask ..
  simp only [transferToken, Contract.transferToken, Prog.run_ite, Prog.run_bind, Prog.run_pure, heth,
    htoken]

theorem safeApprove_run (token spender : Address) (value : Nat) :
    (safeApprove token spender value).run env.answer =
      Contract.safeApprove env token spender value := by
  have happrove : (approve token spender value).run env.answer = env.approve token spender value :=
    Prog.run_ask ..
  simp only [safeApprove, Contract.safeApprove, Prog.run_bind, Prog.run_lift, happrove]

theorem swapExact_run (token0 token1 router : Address) (amount0 amountOutMin : Nat)
    (path : List Address) (recipient : Address) (deadline : Nat) :
    (if token0 = 0 then
        swapExactETHForTokens router amount0 amountOutMin path recipient deadline
      else if token1 = 0 then
        swapExactTokensForETH router amount0 amountOutMin path recipient deadline
      else
        swapExactTokensForTokens router amount0 amountOutMin path recipient deadline).run env.answer =
      if token0 = 0 then
        env.swapExactETHForTokens router amount0 amountOutMin path recipient deadline
      else if token1 = 0 then
        env.swapExactTokensForETH router amount0 amountOutMin path recipient deadline
      else
        env.swapExactTokensForTokens router amount0 amountOutMin path recipient deadline := by
  rw [Prog.run_ite, Prog.run_ite]
  congr 1
  · exact Prog.run_ask ..
  · congr 1
    · exact Prog.run_ask ..
    · exact Prog.run_ask ..

theorem swap_run (token0 token1 : Address) (amount0 : Nat) :
    (swap env token0 token1 amount0).run env.answer =
      Contract.swap env token0 token1 amount0 := by
  simp only [swap, Contract.swap, Prog.run_bind, Prog.run_lift, Prog.run_pure,
    Prog.run_ite env.answer (pure 0), Prog.run_when, swapExact_run, safeApprove_run]

theorem sellExactAmount_run (token0 token1 : Address) (amountOut : Nat) :
    (sellExactAmount env token0 token1 amountOut).run env.answer =
      Contract.sellExactAmount env token0 token1 amountOut := by
  simp only [sellExactAmount, Contract.sellExactAmount, Prog.run_bind, Prog.run_lift, Prog.run_pure,
    Prog.run_ite, swap_run]

theorem redeemFees_run (feeRatio : Nat) (token : Address) (amount : Nat) :
    (redeemFees feeRatio token amount).run env.answer =
      Contract.redeemFees env feeRatio token amount := by
  simp only [redeemFees, Contract.redeemFees, Prog.run_bind, Prog.run_lift, Prog.run_pure,
    Prog.run_ite, Prog.run_when, transferToken_run]

theorem processSwapAndFees_run (poolId lendAmount : Nat) :
    (processSwapAndFees env poolId lendAmount).run env.answer =
      Contract.processSwapAndFees env poolId lendAmount := by
  simp only [processSwapAndFees, Contract.processSwapAndFees, Prog.run_bind, Prog.run_lift,
    Prog.run_pure, Prog.run_ite, Prog.run_when, sellExactAmount_run, transferToken_run]

theorem finish_run (poolId : Nat) :
    (finish env poolId).run env.answer = Contract.finish env poolId := by
  simp only [finish, Contract.finish, Prog.run_bind, Prog.run_lift, processSwapAndFees_run,
    redeemFees_run]

theorem liquidate_run (poolId : Nat) :
    (liquidate env poolId).run env.answer = Contract.liquidate env poolId := by
  simp only [liquidate, Contract.liquidate, nonReentrant_run, Prog.run_bind, Prog.run_lift,
    processSwapAndFees_run, redeemFees_run]

end Interactive
end Pledge.Contract
