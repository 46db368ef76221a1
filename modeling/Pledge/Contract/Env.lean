import Pledge.Contract.Storage

/-!
# The environment of a transaction

Who calls, when, with how much ETH, and how the contracts that `PledgePool` calls answer. The code of
those contracts (tokens, debt tokens, oracle, router, multi-signature wallet) is not fixed by this
repository, so each of their functions is a field, and a result that depends on how they behave says
so in its hypotheses. A callee that changes state may do anything to the `World` before it returns;
in particular it may call back into the contract.
-/

namespace Pledge.Contract

open Pledge.Evm

/-- What a low-level `call` reports: failure, success without return data, or a decoded `bool`. -/
inductive CallResult where
  | failed
  | noData
  | returned (value : Bool)
  deriving Repr, DecidableEq

structure Env where
  /-- `address(this)` -/
  this : Address
  /-- `msg.sender` -/
  sender : Address
  /-- `msg.value` -/
  value : Nat
  /-- `block.timestamp` -/
  timestamp : Nat
  /-- `keccak256(abi.encodePacked(a, b))` -/
  keccak : Address → Address → Nat
  /-- `IMultiSignature(wallet).getValidSignature(msghash, lastIndex)` -/
  getValidSignature : Address → Nat → Nat → World → Except Revert Nat
  /-- `IOracle(oracle).getPrice(asset)` -/
  getPrice : Address → Address → World → Except Revert Nat
  /-- `IERC20(token).transfer(to, amount)`, called by `this` -/
  transfer : Address → Address → Nat → Tx World Bool
  /-- `IERC20(token).transferFrom(from, to, amount)` -/
  transferFrom : Address → Address → Address → Nat → Tx World Bool
  /-- the low-level `token.call(approve(spender, value))` -/
  approve : Address → Address → Nat → Tx World CallResult
  /-- `payable(to).transfer(amount)` -/
  sendEth : Address → Nat → Tx World Unit
  /-- `IDebtToken(token).mint(to, amount)` -/
  mint : Address → Address → Nat → Tx World Bool
  /-- `IDebtToken(token).burn(from, amount)` -/
  burn : Address → Address → Nat → Tx World Bool
  /-- `IUniswapV2Router(router).WETH()` -/
  weth : Address → World → Except Revert Address
  /-- `router.getAmountsIn(amountOut, path)` -/
  getAmountsIn : Address → Nat → List Address → World → Except Revert (List Nat)
  /-- `router.swapExactTokensForTokens(amountIn, amountOutMin, path, to, deadline)` -/
  swapExactTokensForTokens : Address → Nat → Nat → List Address → Address → Nat → Tx World (List Nat)
  /-- `router.swapExactETHForTokens{value: v}(amountOutMin, path, to, deadline)` -/
  swapExactETHForTokens : Address → Nat → Nat → List Address → Address → Nat → Tx World (List Nat)
  /-- `router.swapExactTokensForETH(amountIn, amountOutMin, path, to, deadline)` -/
  swapExactTokensForETH : Address → Nat → Nat → List Address → Address → Nat → Tx World (List Nat)

/-- `checkMultiSignature` of `MultiSigClient`, the body of the modifier `validCall`. -/
def validCall (env : Env) : Tx World Unit := do
  let msgHash := env.keccak env.sender env.this
  let multiSign ← load (·.multiSignature)
  let newIndex ← Tx.view (env.getValidSignature multiSign msgHash 0)
  Tx.require (0 < newIndex) "MultiSigClient: Transaction not approved by multi-signature"

/-- `_transferToken`. The answer of the token is dropped, as in the source. -/
def transferToken (env : Env) (token recipient : Address) (amount : Nat) : Tx World Unit :=
  if amount = 0 then
    pure ()
  else if token = 0 then
    env.sendEth recipient amount
  else do
    let _ ← env.transfer token recipient amount
    pure ()

/-- `_receiveToken`. -/
def receiveToken (env : Env) (token source : Address) (amount : Nat) : Tx World Nat :=
  if token = 0 then do
    Tx.require (0 < env.value) "PoolStorage: ETH required"
    pure env.value
  else do
    Tx.require (env.value = 0) "PoolStorage: ETH not accepted"
    Tx.require (0 < amount) "PoolStorage: amount required"
    let _ ← env.transferFrom token source env.this amount
    pure amount

end Pledge.Contract
