import Pledge.Evm.Tx
import Pledge.Evm.Ledger

/-!
# `PoolStorage`: what the pledge pool stores

The records, mappings and constants of `PoolStorage.sol`, and the world a transaction runs in: the
contract's storage, the token ledgers it acts on, and the `Transfer` events of the transaction.

Amounts, rates, times and identifiers are `uint256` in the source and `Nat` here; the range is
enforced where the source enforces it, in the checked operations of `Evm/Tx.lean` and in the decoding
of call arguments (`Contract/Call.lean`). Contract events carry no state and are not modelled.
-/

namespace Pledge.Contract

open Pledge.Evm

/-- `enum PoolState`. The first member is `MATCH` in the source. -/
inductive PoolState where
  | matching
  | execution
  | finish
  | liquidation
  | undone
  deriving Repr, DecidableEq

/-- `struct Pool`. -/
structure Pool where
  creator : Address := 0
  state : PoolState := .matching
  settleToken : Address := 0
  pledgeToken : Address := 0
  spToken : Address := 0
  jpToken : Address := 0
  maxSupply : Nat := 0
  lendSupply : Nat := 0
  borrowSupply : Nat := 0
  borrowAmount : Nat := 0
  interestRate : Nat := 0
  pledgeRate : Nat := 0
  liquidationRate : Nat := 0
  autoLiquidateThreshold : Nat := 0
  endTime : Nat := 0
  settleTime : Nat := 0
  lendAmount : Nat := 0
  settleAmountLend : Nat := 0
  finishAmountLend : Nat := 0
  liquidationAmountLend : Nat := 0
  settleAmountBorrow : Nat := 0
  finishAmountBorrow : Nat := 0
  liquidationAmountBorrow : Nat := 0
  deriving Repr, DecidableEq

/-- `struct LendInfo`. -/
structure LendInfo where
  amount : Nat := 0
  lendAmount : Nat := 0
  interestAmount : Nat := 0
  claimed : Bool := false
  settled : Bool := false
  refunded : Bool := false
  deriving Repr, DecidableEq

/-- `struct BorrowInfo`. -/
structure BorrowInfo where
  pledgeAmount : Nat := 0
  borrowAmount : Nat := 0
  settled : Bool := false
  liquidated : Bool := false
  deriving Repr, DecidableEq

/-- The storage of the contract. `entered` is the status of `ReentrancyGuard` and `multiSignature`
the wallet address `MultiSigClient` keeps. -/
structure Storage where
  pools : Nat → Pool := fun _ => {}
  lendInfos : Nat → Address → LendInfo := fun _ _ => {}
  borrowInfos : Nat → Address → BorrowInfo := fun _ _ => {}
  lenders : Nat → List Address := fun _ => []
  borrowers : Nat → List Address := fun _ => []
  poolCounter : Nat := 0
  admin : Address := 0
  oracle : Address := 0
  debtToken : Address := 0
  swapRouter : Address := 0
  feeAddress : Address := 0
  lendFee : Nat := 0
  borrowFee : Nat := 0
  minAmount : Nat := 0
  globalPaused : Bool := false
  entered : Bool := false
  multiSignature : Address := 0

/-- What a transaction of the contract can see and change. -/
structure World where
  store : Storage
  ledger : Ledger
  transfers : List Transfer

/-- `RATE_BASE`: rates are in basis points. -/
def RATE_BASE : Nat := 10000

/-- `SECONDS_PER_YEAR`: 365 days. -/
def SECONDS_PER_YEAR : Nat := 31536000

def MAX_INTEREST_RATE : Nat := 10000

def MIN_PLEDGE_RATE : Nat := 10000

def MAX_PLEDGE_RATE : Nat := 50000

def MAX_FEE_RATE : Nat := 1000

/-! ## Storage references

The functions of the source write to one pool or to one record at a time. Reading back what was
written is done by the simp lemmas here. -/

namespace Storage

/-- Write `pools[poolId]`. -/
def setPool (s : Storage) (poolId : Nat) (pool : Pool) : Storage :=
  { s with pools := Function.update s.pools poolId pool }

/-- Write `lendInfos[poolId][user]`. -/
def setLendInfo (s : Storage) (poolId : Nat) (user : Address) (info : LendInfo) : Storage :=
  { s with
    lendInfos := Function.update s.lendInfos poolId
      (Function.update (s.lendInfos poolId) user info) }

/-- Write `borrowInfos[poolId][user]`. -/
def setBorrowInfo (s : Storage) (poolId : Nat) (user : Address) (info : BorrowInfo) : Storage :=
  { s with
    borrowInfos := Function.update s.borrowInfos poolId
      (Function.update (s.borrowInfos poolId) user info) }

/-- `lenders[poolId].push(user)`. -/
def pushLender (s : Storage) (poolId : Nat) (user : Address) : Storage :=
  { s with lenders := Function.update s.lenders poolId (s.lenders poolId ++ [user]) }

/-- `borrowers[poolId].push(user)`. -/
def pushBorrower (s : Storage) (poolId : Nat) (user : Address) : Storage :=
  { s with borrowers := Function.update s.borrowers poolId (s.borrowers poolId ++ [user]) }

/-- `poolCounter` goes up by one and the new identifier gets `pool`. -/
def addPool (s : Storage) (pool : Pool) : Storage :=
  { s with
    poolCounter := s.poolCounter + 1
    pools := Function.update s.pools (s.poolCounter + 1) pool }

/-- Write the status of the reentrancy guard. -/
def setEntered (s : Storage) (entered : Bool) : Storage := { s with entered := entered }

variable (s : Storage) (p q : Nat) (u v : Address)

@[simp] theorem setPool_pools (pool : Pool) :
    (s.setPool p pool).pools q = if q = p then pool else s.pools q := Function.update_apply ..

@[simp] theorem setPool_lendInfos (pool : Pool) : (s.setPool p pool).lendInfos = s.lendInfos := rfl

@[simp] theorem setPool_borrowInfos (pool : Pool) :
    (s.setPool p pool).borrowInfos = s.borrowInfos := rfl

@[simp] theorem setPool_lenders (pool : Pool) : (s.setPool p pool).lenders = s.lenders := rfl

@[simp] theorem setPool_borrowers (pool : Pool) : (s.setPool p pool).borrowers = s.borrowers := rfl

@[simp] theorem setPool_poolCounter (pool : Pool) :
    (s.setPool p pool).poolCounter = s.poolCounter := rfl

@[simp] theorem setPool_borrowFee (pool : Pool) : (s.setPool p pool).borrowFee = s.borrowFee := rfl

@[simp] theorem setLendInfo_pools (info : LendInfo) : (s.setLendInfo p u info).pools = s.pools := rfl

@[simp] theorem setLendInfo_lendInfos (info : LendInfo) :
    (s.setLendInfo p u info).lendInfos q v = if q = p ∧ v = u then info else s.lendInfos q v := by
  by_cases hq : q = p <;> by_cases hv : v = u <;> simp [setLendInfo, hq, hv]

@[simp] theorem setLendInfo_borrowInfos (info : LendInfo) :
    (s.setLendInfo p u info).borrowInfos = s.borrowInfos := rfl

@[simp] theorem setLendInfo_lenders (info : LendInfo) :
    (s.setLendInfo p u info).lenders = s.lenders := rfl

@[simp] theorem setLendInfo_borrowers (info : LendInfo) :
    (s.setLendInfo p u info).borrowers = s.borrowers := rfl

@[simp] theorem setLendInfo_poolCounter (info : LendInfo) :
    (s.setLendInfo p u info).poolCounter = s.poolCounter := rfl

@[simp] theorem setBorrowInfo_pools (info : BorrowInfo) :
    (s.setBorrowInfo p u info).pools = s.pools := rfl

@[simp] theorem setBorrowInfo_lendInfos (info : BorrowInfo) :
    (s.setBorrowInfo p u info).lendInfos = s.lendInfos := rfl

@[simp] theorem setBorrowInfo_borrowInfos (info : BorrowInfo) :
    (s.setBorrowInfo p u info).borrowInfos q v =
      if q = p ∧ v = u then info else s.borrowInfos q v := by
  by_cases hq : q = p <;> by_cases hv : v = u <;> simp [setBorrowInfo, hq, hv]

@[simp] theorem setBorrowInfo_lenders (info : BorrowInfo) :
    (s.setBorrowInfo p u info).lenders = s.lenders := rfl

@[simp] theorem setBorrowInfo_borrowers (info : BorrowInfo) :
    (s.setBorrowInfo p u info).borrowers = s.borrowers := rfl

@[simp] theorem setBorrowInfo_poolCounter (info : BorrowInfo) :
    (s.setBorrowInfo p u info).poolCounter = s.poolCounter := rfl

@[simp] theorem pushLender_pools : (s.pushLender p u).pools = s.pools := rfl

@[simp] theorem pushLender_lendInfos : (s.pushLender p u).lendInfos = s.lendInfos := rfl

@[simp] theorem pushLender_borrowInfos : (s.pushLender p u).borrowInfos = s.borrowInfos := rfl

@[simp] theorem pushLender_lenders :
    (s.pushLender p u).lenders q = if q = p then s.lenders p ++ [u] else s.lenders q :=
  Function.update_apply ..

@[simp] theorem pushLender_borrowers : (s.pushLender p u).borrowers = s.borrowers := rfl

@[simp] theorem pushLender_poolCounter : (s.pushLender p u).poolCounter = s.poolCounter := rfl

@[simp] theorem pushBorrower_pools : (s.pushBorrower p u).pools = s.pools := rfl

@[simp] theorem pushBorrower_lendInfos : (s.pushBorrower p u).lendInfos = s.lendInfos := rfl

@[simp] theorem pushBorrower_borrowInfos : (s.pushBorrower p u).borrowInfos = s.borrowInfos := rfl

@[simp] theorem pushBorrower_lenders : (s.pushBorrower p u).lenders = s.lenders := rfl

@[simp] theorem pushBorrower_borrowers :
    (s.pushBorrower p u).borrowers q = if q = p then s.borrowers p ++ [u] else s.borrowers q :=
  Function.update_apply ..

@[simp] theorem pushBorrower_poolCounter : (s.pushBorrower p u).poolCounter = s.poolCounter := rfl

@[simp] theorem addPool_pools (pool : Pool) :
    (s.addPool pool).pools q = if q = s.poolCounter + 1 then pool else s.pools q :=
  Function.update_apply ..

@[simp] theorem addPool_lendInfos (pool : Pool) : (s.addPool pool).lendInfos = s.lendInfos := rfl

@[simp] theorem addPool_borrowInfos (pool : Pool) :
    (s.addPool pool).borrowInfos = s.borrowInfos := rfl

@[simp] theorem addPool_lenders (pool : Pool) : (s.addPool pool).lenders = s.lenders := rfl

@[simp] theorem addPool_borrowers (pool : Pool) : (s.addPool pool).borrowers = s.borrowers := rfl

@[simp] theorem addPool_poolCounter (pool : Pool) :
    (s.addPool pool).poolCounter = s.poolCounter + 1 := rfl

@[simp] theorem setPool_setPool (pool pool' : Pool) :
    (s.setPool p pool).setPool p pool' = s.setPool p pool' := by
  simp [setPool]

theorem addPool_setPool (pool pool' : Pool) :
    (s.addPool pool).setPool (s.poolCounter + 1) pool' = s.addPool pool' := by
  simp [addPool, setPool]

/-- Entering and leaving the guard is invisible when it was free. -/
theorem setEntered_of_eq {b : Bool} (h : s.entered = b) : s.setEntered b = s := by
  subst h; rfl

end Storage

/-- A read of a storage variable. -/
def load {α : Type} (f : Storage → α) : Tx World α := Tx.reads fun w => f w.store

/-- A write to storage variables. -/
def save (f : Storage → Storage) : Tx World Unit :=
  Tx.modifies fun w => { w with store := f w.store }

/-- `Pool storage pool = pools[poolId]`, read. -/
def getPool (poolId : Nat) : Tx World Pool := load fun s => s.pools poolId

/-- A write through `Pool storage pool = pools[poolId]`. -/
def updatePool (poolId : Nat) (f : Pool → Pool) : Tx World Unit :=
  save fun s => s.setPool poolId (f (s.pools poolId))

def getLendInfo (poolId : Nat) (user : Address) : Tx World LendInfo :=
  load fun s => s.lendInfos poolId user

def updateLendInfo (poolId : Nat) (user : Address) (f : LendInfo → LendInfo) : Tx World Unit :=
  save fun s => s.setLendInfo poolId user (f (s.lendInfos poolId user))

def getBorrowInfo (poolId : Nat) (user : Address) : Tx World BorrowInfo :=
  load fun s => s.borrowInfos poolId user

def updateBorrowInfo (poolId : Nat) (user : Address) (f : BorrowInfo → BorrowInfo) : Tx World Unit :=
  save fun s => s.setBorrowInfo poolId user (f (s.borrowInfos poolId user))

/-! ## Modifiers

A modifier reverts or changes nothing, other than `nonReentrant`, which stands around a body. -/

def poolExists (poolId : Nat) : Tx World Unit := do
  let poolCounter ← load (·.poolCounter)
  Tx.require (0 < poolId ∧ poolId ≤ poolCounter) "PoolStorage: pool does not exist"

def validState (poolId : Nat) (expectedState : PoolState) : Tx World Unit := do
  let pool ← getPool poolId
  Tx.require (pool.state = expectedState) "PoolStorage: invalid pool state"

def notPaused : Tx World Unit := do
  let globalPaused ← load (·.globalPaused)
  Tx.require (globalPaused = false) "PoolStorage: contract is paused"

def timeBefore (poolId timestamp : Nat) : Tx World Unit := do
  let pool ← getPool poolId
  Tx.require (timestamp < pool.endTime) "PoolStorage: after end time"

/-- `nonReentrant` of `ReentrancyGuard`. -/
def nonReentrant {α : Type} (body : Tx World α) : Tx World α := do
  let entered ← load (·.entered)
  Tx.require (entered = false) "ReentrancyGuardReentrantCall"
  save fun s => s.setEntered true
  let result ← body
  save fun s => s.setEntered false
  pure result

end Pledge.Contract
