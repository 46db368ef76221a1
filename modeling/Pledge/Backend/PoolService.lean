import Pledge.Backend.Database

/-!
# `UpdatePoolInfo`

The sync job of the backend for one chain: it asks the contract how many pools there are and reads
their base and data information one after the other. A read that fails skips the rest of its round; a
record whose MD5 is the cached one is not saved again. Go carries on after an error, so a failed write
leaves what was written before it, and `SavePoolBase` and `SavePoolData` only log it.

`PoolBaseInfo` and `PoolDataInfo` are asked for the loop index, and the answers are stored under the
index plus one.
-/

namespace Pledge.Backend

open Pledge.Contract Pledge.Store

/-! ## A pass

Everything from outside that a pass meets is in one record: the answers of the contract, the clocks,
and which statements fail. -/

/-- The writes of a round that may fail. -/
inductive Write where
  | borrowToken
  | lendToken
  | createBase
  | updateBase
  | createData
  | updateData
  deriving Repr, DecidableEq

/-- What a pass meets: the contract at each call, which calls fail, which writes fail, and the clock at
each save. -/
structure Pass where
  lengthAt : World
  baseAt : Nat → World
  dataAt : Nat → World
  lengthFails : Bool := false
  baseFails : Nat → Bool := fun _ => false
  dataFails : Nat → Bool := fun _ => false
  lendFee : Option Nat := some 0
  borrowFee : Option Nat := some 0
  writeFails : Nat → Write → Bool := fun _ _ => false
  baseClock : Nat → String := fun _ => ""
  dataClock : Nat → String := fun _ => ""

namespace Pass

variable (pass : Pass)

/-- `PoolLength(nil)`; also nothing when the connection fails. -/
def poolLength : Option Nat :=
  if pass.lengthFails then none else pass.lengthAt.answer Contract.poolLength

/-- `PoolBaseInfo(nil, i)`. -/
def poolBaseInfo (i : Nat) : Option BaseInfo :=
  if pass.baseFails i then none else (pass.baseAt i).answer (Contract.poolBaseInfo i)

/-- `PoolDataInfo(nil, i)`. -/
def poolDataInfo (i : Nat) : Option DataInfo :=
  if pass.dataFails i then none else (pass.dataAt i).answer (Contract.poolDataInfo i)

end Pass

/-- The indices of `for i := 0; i <= int(pLength.Int64())-1; i++`. An index never passes a bound of
`math.MaxInt64`, so for that one bound these are the indices of one sweep of a loop without an end. -/
def loopIndices (pLength : Nat) : List Nat :=
  List.range ((Int64.ofNat pLength - 1).toInt + 1).toNat

/-! ## Tokens

The pool job writes tokens too: it creates the row of a token that is missing, and caches what it
has looked up. -/

/-- `GetTokenInfo`. -/
def getTokenInfo [TokenCollation] (token : String) (chainId : Nat) (db : Database) :
    TokenInfo × Database :=
  match db.tokenCache (chainId, token) with
  | some cached => ({ cached with token := token, chainId := chainId }, db)
  | none =>
      match first TokenInfo.place (chainId, TokenCollation.fold token) db.tokenInfo with
      | none => ({}, db)
      | some row =>
          (row, { db with tokenCache := Function.update db.tokenCache (chainId, token) (some row) })

/-- One half of `SaveTokenInfo`: the symbol of a token, whose row is created when it is missing. -/
def tokenSymbol [TokenCollation] (fails : Bool) (token : String) (chainId : Nat) (db : Database) :
    Option String × Database :=
  match first TokenInfo.place (chainId, TokenCollation.fold token) db.tokenInfo with
  | some row => (some row.symbol, db)
  | none =>
      if fails then (none, db)
      else (some "", { db with tokenInfo := db.tokenInfo ++ [{ token := token, chainId := chainId }] })

/-- `SaveTokenInfo`, returning the symbols of the borrow token and of the lend token. -/
def saveTokenInfo [TokenCollation] (fails : Write → Bool) (base : PoolBase) (db : Database) :
    Option (String × String) × Database :=
  match tokenSymbol (fails .borrowToken) base.borrowToken base.chainId db with
  | (none, db) => (none, db)
  | (some borrowSymbol, db) =>
      match tokenSymbol (fails .lendToken) base.lendToken base.chainId db with
      | (none, db) => (none, db)
      | (some lendSymbol, db) => (some (borrowSymbol, lendSymbol), db)

/-! ## Pools

Base record and amounts are saved by the same scheme. The MD5 that is compared for the amounts is
that of the base record, as in the source. -/

/-- `Updates(poolBase)`, or nothing when the write fails. -/
def updateBase (fails : Bool) (chainId poolId : Nat) (poolBase : PoolBase) (db : Database) :
    Database :=
  if fails then db
  else { db with poolbases := updates PoolBase.key (chainId, poolId) poolBase.updates db.poolbases }

/-- `SavePoolBase`. It also writes to the record it is given. -/
def savePoolBase [TokenCollation] (fails : Write → Bool) (nowDateTime : String) (chainId poolId : Nat)
    (poolBase : PoolBase) (db : Database) : PoolBase × Database :=
  match saveTokenInfo fails poolBase db with
  | (none, db) => (poolBase, db)
  | (some (borrowSymbol, lendSymbol), db) =>
      let poolBase :=
        { poolBase with borrowTokenSymbol := borrowSymbol, lendTokenSymbol := lendSymbol }
      match first PoolBase.key (chainId, poolId) db.poolbases with
      | some _ =>
          let poolBase := { poolBase with updatedAt := nowDateTime }
          (poolBase, updateBase (fails .updateBase) chainId poolId poolBase db)
      | none =>
          let poolBase := { poolBase with createdAt := nowDateTime, updatedAt := nowDateTime }
          if fails .createBase then (poolBase, db)
          else
            (poolBase, updateBase (fails .updateBase) chainId poolId poolBase
              { db with poolbases := db.poolbases ++ [poolBase] })

/-- `Updates(poolData)`, or nothing when the write fails. -/
def updateData (fails : Bool) (chainId : Nat) (poolId : String) (poolData : PoolData)
    (db : Database) : Database :=
  if fails then db
  else { db with pooldata := updates PoolData.key (chainId, poolId) poolData.updates db.pooldata }

/-- `SavePoolData`. -/
def savePoolData (fails : Write → Bool) (nowDateTime : String) (chainId : Nat) (poolId : String)
    (poolData : PoolData) (db : Database) : Database :=
  let poolData := { poolData with updatedAt := nowDateTime }
  match first PoolData.key (chainId, poolId) db.pooldata with
  | some _ => updateData (fails .updateData) chainId poolId poolData db
  | none =>
      let poolData := { poolData with createdAt := nowDateTime }
      if fails .createData then db
      else
        updateData (fails .updateData) chainId poolId poolData
          { db with pooldata := db.pooldata ++ [poolData] }

/-- The record built from an answer of `PoolBaseInfo`. -/
def newPoolBase (enc : Encoding) (pass : Pass) (chainId poolId : Nat) (baseInfo : BaseInfo)
    (lendToken borrowToken : TokenInfo) : PoolBase where
  settleTime := toString baseInfo.settleTime
  poolId := poolId
  chainId := chainId
  endTime := toString baseInfo.endTime
  interestRate := toString baseInfo.interestRate
  maxSupply := toString baseInfo.maxSupply
  lendSupply := toString baseInfo.lendSupply
  borrowSupply := toString baseInfo.borrowSupply
  martgageRate := toString baseInfo.martgageRate
  lendToken := enc.hex baseInfo.lendToken
  lendTokenSymbol := lendToken.symbol
  lendTokenInfo :=
    enc.lendTokenJson (feeText pass.lendFee) lendToken.logo lendToken.symbol lendToken.price
  borrowToken := enc.hex baseInfo.borrowToken
  borrowTokenSymbol := borrowToken.symbol
  borrowTokenInfo :=
    enc.borrowTokenJson (feeText pass.borrowFee) borrowToken.logo borrowToken.symbol borrowToken.price
  state := stateText baseInfo.state
  spCoin := enc.hex baseInfo.spCoin
  jpCoin := enc.hex baseInfo.jpCoin
  autoLiquidateThreshold := toString baseInfo.autoLiquidateThreshold

/-- The record built from an answer of `PoolDataInfo`. -/
def newPoolData (chainId : Nat) (poolId : String) (dataInfo : DataInfo) : PoolData where
  poolId := poolId
  chainId := chainId
  finishAmountBorrow := toString dataInfo.finishAmountBorrow
  finishAmountLend := toString dataInfo.finishAmountLend
  liquidationAmounBorrow := toString dataInfo.liquidationAmounBorrow
  liquidationAmounLend := toString dataInfo.liquidationAmounLend
  settleAmountBorrow := toString dataInfo.settleAmountBorrow
  settleAmountLend := toString dataInfo.settleAmountLend

/-- Save the base record unless its MD5 is the cached one. -/
def syncBase [TokenCollation] (enc : Encoding) (pass : Pass) (chainId i : Nat) (poolBase : PoolBase)
    (db : Database) : PoolBase × Database :=
  let baseInfoMd5Str := enc.md5 poolBase
  if db.cache (.baseInfo chainId (i + 1)) = some baseInfoMd5Str then
    (poolBase, db)
  else
    let (poolBase, db) :=
      savePoolBase (pass.writeFails i) (pass.baseClock i) chainId (i + 1) poolBase db
    (poolBase, db.setCache (.baseInfo chainId (i + 1)) baseInfoMd5Str)

/-- Save the data record unless the MD5 of the base record is the one cached for it. -/
def syncData (enc : Encoding) (pass : Pass) (chainId i : Nat) (poolBase : PoolBase)
    (dataInfo : DataInfo) (db : Database) : Database :=
  let dataInfoMd5Str := enc.md5 poolBase
  if db.cache (.dataInfo chainId (i + 1)) = some dataInfoMd5Str then
    db
  else
    let poolId := toString (i + 1)
    let db := savePoolData (pass.writeFails i) (pass.dataClock i) chainId poolId
      (newPoolData chainId poolId dataInfo) db
    db.setCache (.dataInfo chainId (i + 1)) dataInfoMd5Str

/-- One round of the loop of `UpdatePoolInfo`. -/
def updatePool [TokenCollation] (enc : Encoding) (pass : Pass) (chainId : Nat) (db : Database)
    (i : Nat) : Database :=
  match pass.poolBaseInfo i with
  | none => db
  | some baseInfo =>
      let (borrowToken, db) := getTokenInfo (enc.hex baseInfo.borrowToken) chainId db
      let (lendToken, db) := getTokenInfo (enc.hex baseInfo.lendToken) chainId db
      let poolBase := newPoolBase enc pass chainId (i + 1) baseInfo lendToken borrowToken
      let (poolBase, db) := syncBase enc pass chainId i poolBase db
      match pass.poolDataInfo i with
      | none => db
      | some dataInfo => syncData enc pass chainId i poolBase dataInfo db

def updatePoolInfo [TokenCollation] (enc : Encoding) (chainId : Nat) (pass : Pass) (db : Database) :
    Database :=
  match pass.poolLength with
  | none => db
  | some pLength => (loopIndices pLength).foldl (updatePool enc pass chainId) db

end Pledge.Backend
