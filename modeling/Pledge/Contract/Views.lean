import Pledge.Contract.Inversion

/-!
# The views that the indexer and the front end read

`poolLength`, `poolBaseInfo` and `poolDataInfo` of `PledgePool.sol`. Identifiers start at 1, and the
last two revert for an identifier that is not in use.
-/

namespace Pledge.Contract

open Pledge.Evm

/-- What `poolBaseInfo` returns. -/
structure BaseInfo where
  settleTime : Nat
  endTime : Nat
  interestRate : Nat
  maxSupply : Nat
  lendSupply : Nat
  borrowSupply : Nat
  martgageRate : Nat
  lendToken : Address
  borrowToken : Address
  state : PoolState
  spCoin : Address
  jpCoin : Address
  autoLiquidateThreshold : Nat
  deriving Repr, DecidableEq

/-- What `poolDataInfo` returns. -/
structure DataInfo where
  settleAmountLend : Nat
  settleAmountBorrow : Nat
  finishAmountLend : Nat
  finishAmountBorrow : Nat
  liquidationAmounLend : Nat
  liquidationAmounBorrow : Nat
  deriving Repr, DecidableEq

/-- `poolLength`, the number of the last pool. -/
def poolLength : Tx World Nat := load (·.poolCounter)

/-- The names of the answer differ from those of the storage: the indexer has `lendToken` for the
settle token and `borrowToken` for the pledge token. -/
def Pool.baseInfo (pool : Pool) : BaseInfo where
  settleTime := pool.settleTime
  endTime := pool.endTime
  interestRate := pool.interestRate
  maxSupply := pool.maxSupply
  lendSupply := pool.lendSupply
  borrowSupply := pool.borrowSupply
  martgageRate := pool.pledgeRate
  lendToken := pool.settleToken
  borrowToken := pool.pledgeToken
  state := pool.state
  spCoin := pool.spToken
  jpCoin := pool.jpToken
  autoLiquidateThreshold := pool.autoLiquidateThreshold

def Pool.dataInfo (pool : Pool) : DataInfo where
  settleAmountLend := pool.settleAmountLend
  settleAmountBorrow := pool.settleAmountBorrow
  finishAmountLend := pool.finishAmountLend
  finishAmountBorrow := pool.finishAmountBorrow
  liquidationAmounLend := pool.liquidationAmountLend
  liquidationAmounBorrow := pool.liquidationAmountBorrow

/-- `poolBaseInfo`. -/
def poolBaseInfo (poolId : Nat) : Tx World BaseInfo := do
  poolExists poolId
  let pool ← getPool poolId
  pure pool.baseInfo

/-- `poolDataInfo`, with the names of its results as they are spelled there. -/
def poolDataInfo (poolId : Nat) : Tx World DataInfo := do
  poolExists poolId
  let pool ← getPool poolId
  pure pool.dataInfo

/-! ## Answers

A view changes nothing, so a caller sees its value or that it reverts. `answer` forgets the state
that it ends in. -/

/-- What an `eth_call` of a view answers; a reverted call has no answer. -/
def World.answer {α : Type} (w : World) (view : Tx World α) : Option α :=
  match view.run w with
  | .ok (a, _) => some a
  | .error _ => none

section Answers

variable {w : World} {p : Nat}

theorem World.answer_eq_some {α : Type} {view : Tx World α} {a : α} :
    w.answer view = some a ↔ ∃ w', view.run w = .ok (a, w') := by
  unfold World.answer
  cases view.run w with
  | error e => simp
  | ok r => simp [Prod.ext_iff]

/-- The length is always answered. -/
theorem answer_poolLength : w.answer poolLength = some w.store.poolCounter := by
  rw [World.answer_eq_some]
  exact ⟨w, rfl⟩

/-- **Only pools that exist answer**, with their own data. -/
theorem answer_poolBaseInfo {info : BaseInfo} :
    w.answer (poolBaseInfo p) = some info ↔ w.store.Exists p ∧ info = (w.store.pools p).baseInfo := by
  simp only [World.answer_eq_some, poolBaseInfo, storage_rules, Tx.rules, and_assoc,
    exists_and_left, exists_eq_left, exists_const]
  constructor
  · rintro ⟨hex, hinfo, -⟩
    exact ⟨hex, hinfo⟩
  · rintro ⟨hex, hinfo⟩
    exact ⟨hex, hinfo, w, rfl⟩

/-- The same of the amounts. -/
theorem answer_poolDataInfo {info : DataInfo} :
    w.answer (poolDataInfo p) = some info ↔ w.store.Exists p ∧ info = (w.store.pools p).dataInfo := by
  simp only [World.answer_eq_some, poolDataInfo, storage_rules, Tx.rules, and_assoc,
    exists_and_left, exists_eq_left, exists_const]
  constructor
  · rintro ⟨hex, hinfo, -⟩
    exact ⟨hex, hinfo⟩
  · rintro ⟨hex, hinfo⟩
    exact ⟨hex, hinfo, w, rfl⟩

end Answers

end Pledge.Contract
