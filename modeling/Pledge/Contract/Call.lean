import Pledge.Contract.PledgePool
import Pledge.Evm.Run

/-!
# Runs of the pledge pool

The entry points of the contract as data, the transaction each one is, and the system they form: a
step is a transaction that succeeds, or something that happens to the tokens outside the contract.
A transaction is recorded with the `Transfer` events it caused, as its receipt records them.
-/

namespace Pledge.Contract

open Pledge.Evm

/-- The state-changing functions of `PledgePool`, with their arguments. -/
inductive Call where
  | createPool (settleToken pledgeToken : Address)
      (borrowAmount interestRate pledgeRate liquidationRate endTime : Nat)
  | createPoolInfo (settleTime endTime interestRate maxSupply martgageRate : Nat)
      (lendToken borrowToken spToken jpToken : Address) (autoLiquidateThreshold : Nat)
  | setPoolState (poolId : Nat) (newState : PoolState)
  | setOracle (oracle : Address)
  | setDebtToken (debtToken : Address)
  | setPoolSpToken (poolId : Nat) (spToken : Address)
  | setPoolJpToken (poolId : Nat) (jpToken : Address)
  | setFee (lendFee borrowFee : Nat)
  | setFeeAddress (feeAddress : Address)
  | setMinAmount (minAmount : Nat)
  | setPause
  | setSwapRouterAddress (swapRouter : Address)
  | depositLend (poolId amount : Nat)
  | refundLend (poolId : Nat)
  | claimLend (poolId : Nat)
  | withdrawLend (poolId spAmount : Nat)
  | emergencyLendWithdrawal (poolId : Nat)
  | depositBorrow (poolId pledgeAmount : Nat)
  | refundBorrow (poolId : Nat)
  | claimBorrow (poolId : Nat)
  | withdrawBorrow (poolId jpAmount : Nat)
  | emergencyBorrowWithdrawal (poolId : Nat)
  | settle (poolId : Nat)
  | finish (poolId : Nat)
  | liquidate (poolId : Nat)
  deriving Repr, DecidableEq

/-- The functions declared `payable`; the others reject ETH. -/
def Call.payable : Call → Bool
  | .depositLend .. | .depositBorrow .. | .withdrawBorrow .. => true
  | _ => false

/-- The pool a call is about. -/
def Call.poolId : Call → Option Nat
  | .setPoolState poolId _ | .setPoolSpToken poolId _ | .setPoolJpToken poolId _
  | .refundLend poolId | .claimLend poolId | .emergencyLendWithdrawal poolId
  | .refundBorrow poolId | .claimBorrow poolId | .emergencyBorrowWithdrawal poolId
  | .settle poolId | .finish poolId | .liquidate poolId
  | .depositLend poolId _ | .withdrawLend poolId _ | .depositBorrow poolId _
  | .withdrawBorrow poolId _ => some poolId
  | _ => none

/-- The call writes a pool state directly. -/
def Call.setsState : Call → Bool
  | .setPoolState .. => true
  | _ => false

/-- The call creates a pool. -/
def Call.creates : Call → Bool
  | .createPool .. | .createPoolInfo .. => true
  | _ => false

/-- The functions with the modifier `validCall`. -/
def Call.administrative : Call → Bool
  | .createPool .. | .createPoolInfo .. | .setPoolState .. | .setOracle .. | .setDebtToken ..
  | .setPoolSpToken .. | .setPoolJpToken .. | .setFee .. | .setFeeAddress .. | .setMinAmount ..
  | .setPause | .setSwapRouterAddress .. | .settle .. | .finish .. => true
  | _ => false

/-- The `uint256` arguments of a call. -/
def Call.words : Call → List Nat
  | .createPool _ _ borrowAmount interestRate pledgeRate liquidationRate endTime =>
      [borrowAmount, interestRate, pledgeRate, liquidationRate, endTime]
  | .createPoolInfo settleTime endTime _ maxSupply martgageRate _ _ _ _ autoLiquidateThreshold =>
      [settleTime, endTime, maxSupply, martgageRate, autoLiquidateThreshold]
  | .setPoolState poolId _ | .setPoolSpToken poolId _ | .setPoolJpToken poolId _
  | .refundLend poolId | .claimLend poolId | .emergencyLendWithdrawal poolId
  | .refundBorrow poolId | .claimBorrow poolId | .emergencyBorrowWithdrawal poolId
  | .settle poolId | .finish poolId | .liquidate poolId => [poolId]
  | .setFee lendFee borrowFee => [lendFee, borrowFee]
  | .setMinAmount minAmount => [minAmount]
  | .depositLend poolId amount | .withdrawLend poolId amount | .depositBorrow poolId amount
  | .withdrawBorrow poolId amount => [poolId, amount]
  | .setOracle _ | .setDebtToken _ | .setFeeAddress _ | .setPause | .setSwapRouterAddress _ => []

/-- The `uint64` arguments of a call. -/
def Call.words64 : Call → List Nat
  | .createPoolInfo _ _ interestRate _ _ _ _ _ _ _ => [interestRate]
  | _ => []

/-- The arguments decode: every word is in the range of its type. -/
def Call.decodes (c : Call) : Prop := (∀ n ∈ c.words, n < Tx.uint256) ∧ ∀ n ∈ c.words64, n < 2 ^ 64

instance (c : Call) : Decidable c.decodes := inferInstanceAs (Decidable (_ ∧ _))

/-- The function a call runs. -/
def Call.body (env : Env) : Call → Tx World Unit
  | .createPool settleToken pledgeToken borrowAmount interestRate pledgeRate liquidationRate
      endTime => do
      let _ ← Contract.createPool env settleToken pledgeToken borrowAmount interestRate pledgeRate
        liquidationRate endTime
      pure ()
  | .createPoolInfo settleTime endTime interestRate maxSupply martgageRate lendToken borrowToken
      spToken jpToken autoLiquidateThreshold => do
      let _ ← Contract.createPoolInfo env settleTime endTime interestRate maxSupply martgageRate
        lendToken borrowToken spToken jpToken autoLiquidateThreshold
      pure ()
  | .setPoolState poolId newState => Contract.setPoolState env poolId newState
  | .setOracle oracle => Contract.setOracle env oracle
  | .setDebtToken debtToken => Contract.setDebtToken env debtToken
  | .setPoolSpToken poolId spToken => Contract.setPoolSpToken env poolId spToken
  | .setPoolJpToken poolId jpToken => Contract.setPoolJpToken env poolId jpToken
  | .setFee lendFee borrowFee => Contract.setFee env lendFee borrowFee
  | .setFeeAddress feeAddress => Contract.setFeeAddress env feeAddress
  | .setMinAmount minAmount => Contract.setMinAmount env minAmount
  | .setPause => Contract.setPause env
  | .setSwapRouterAddress swapRouter => Contract.setSwapRouterAddress env swapRouter
  | .depositLend poolId amount => Contract.depositLend env poolId amount
  | .refundLend poolId => Contract.refundLend env poolId
  | .claimLend poolId => Contract.claimLend env poolId
  | .withdrawLend poolId spAmount => Contract.withdrawLend env poolId spAmount
  | .emergencyLendWithdrawal poolId => Contract.emergencyLendWithdrawal env poolId
  | .depositBorrow poolId pledgeAmount => Contract.depositBorrow env poolId pledgeAmount
  | .refundBorrow poolId => Contract.refundBorrow env poolId
  | .claimBorrow poolId => Contract.claimBorrow env poolId
  | .withdrawBorrow poolId jpAmount => Contract.withdrawBorrow env poolId jpAmount
  | .emergencyBorrowWithdrawal poolId => Contract.emergencyBorrowWithdrawal env poolId
  | .settle poolId => Contract.settle env poolId
  | .finish poolId => Contract.finish env poolId
  | .liquidate poolId => Contract.liquidate env poolId

/-- The transaction a call is: decode, check the value, run the function. -/
def Call.transaction (env : Env) (c : Call) : Tx World Unit := do
  Tx.require c.decodes "ABI decoding"
  Tx.require (c.payable = true ∨ env.value = 0) "function is not payable"
  c.body env

/-- What can happen in one step. -/
inductive Event where
  /-- A successful transaction, with the token movements it caused. -/
  | call (env : Env) (c : Call) (transfers : List Transfer)
  /-- The token ledgers change without the contract. -/
  | outside

/-- One step of the system. -/
inductive Step : World → Event → World → Prop
  | call {w w' : World} (env : Env) (c : Call)
      (h : (c.transaction env).run { w with transfers := [] } = .ok ((), w')) :
      Step w (.call env c w'.transfers) w'
  | outside {w : World} (ledger : Ledger) :
      Step w .outside { w with ledger := ledger, transfers := [] }

/-- The contract as the constructor leaves it. -/
def deployed (admin multiSignature : Address) (ledger : Ledger) : World :=
  { store := { admin := admin, multiSignature := multiSignature }
    ledger := ledger
    transfers := [] }

end Pledge.Contract
