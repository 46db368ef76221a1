import Mathlib.Logic.Function.Basic
import Pledge.Contract.Views
import Pledge.Store.Table

/-!
# What the backend stores

The rows of `poolbases`, `pooldata` and `token_info` as the Go structs of `schedule/models` declare
them, and the Redis keys that `UpdatePoolInfo` reads and writes. Chain ids are decimal texts that are
compared as numbers, and numbers here. The `id` columns and the creation times of `token_info` are
left out, since nothing reads them. `gorm` updates the non-zero fields of a struct only, which for a
text is `merge`.
-/

namespace Pledge.Backend

open Pledge.Evm Pledge.Contract Pledge.Store

/-- `type PoolBase struct`. -/
structure PoolBase where
  poolId : Nat := 0
  chainId : Nat := 0
  settleTime : String := ""
  endTime : String := ""
  interestRate : String := ""
  maxSupply : String := ""
  lendSupply : String := ""
  borrowSupply : String := ""
  martgageRate : String := ""
  lendToken : String := ""
  lendTokenInfo : String := ""
  borrowToken : String := ""
  borrowTokenInfo : String := ""
  state : String := ""
  spCoin : String := ""
  jpCoin : String := ""
  lendTokenSymbol : String := ""
  borrowTokenSymbol : String := ""
  autoLiquidateThreshold : String := ""
  createdAt : String := ""
  updatedAt : String := ""
  deriving Repr, DecidableEq

/-- `type PoolData struct`. Its `pool_id` is a text. -/
structure PoolData where
  poolId : String := ""
  chainId : Nat := 0
  finishAmountBorrow : String := ""
  finishAmountLend : String := ""
  liquidationAmounBorrow : String := ""
  liquidationAmounLend : String := ""
  settleAmountBorrow : String := ""
  settleAmountLend : String := ""
  createdAt : String := ""
  updatedAt : String := ""
  deriving Repr, DecidableEq

/-- `type TokenInfo struct`. -/
structure TokenInfo where
  token : String := ""
  chainId : Nat := 0
  logo : String := ""
  symbol : String := ""
  price : String := ""
  deriving Repr, DecidableEq

/-- The keys `base_info:pool_<chain>_<pool>` and `data_info:pool_<chain>_<pool>`. -/
inductive CacheKey where
  | baseInfo (chainId poolId : Nat)
  | dataInfo (chainId poolId : Nat)
  deriving Repr, DecidableEq

/-- MySQL and Redis. -/
structure Database where
  poolbases : List PoolBase := []
  pooldata : List PoolData := []
  tokenInfo : List TokenInfo := []
  cache : CacheKey → Option String := fun _ => none
  /-- `token_info:<chain>:<token>` -/
  tokenCache : Nat × String → Option TokenInfo := fun _ => none

/-- The `WHERE` clauses on `chain_id` and `pool_id`, and a token as Redis knows it. -/
def PoolBase.key (row : PoolBase) : Nat × Nat := (row.chainId, row.poolId)

def PoolData.key (row : PoolData) : Nat × String := (row.chainId, row.poolId)

def TokenInfo.key (row : TokenInfo) : Nat × String := (row.chainId, row.token)

/-- How MySQL compares the texts of the column `token`: two are the same when their folds are. Redis
compares its keys as they are. -/
class TokenCollation where
  fold : String → String

/-- Texts that are compared as they are. -/
instance TokenCollation.exact : TokenCollation := ⟨id⟩

/-- What `token=? and chain_id=?` compares of a row. -/
def TokenInfo.place [TokenCollation] (row : TokenInfo) : Nat × String :=
  (row.chainId, TokenCollation.fold row.token)

theorem first_exact (chainId : Nat) (token : String) (rows : List TokenInfo) :
    first TokenInfo.place (chainId, TokenCollation.fold token) rows =
      first TokenInfo.key (chainId, token) rows := rfl

/-- `RedisSet`. -/
def Database.setCache (db : Database) (key : CacheKey) (value : String) : Database :=
  { db with cache := Function.update db.cache key (some value) }

theorem Database.setCache_cache (db : Database) (key k : CacheKey) (value : String) :
    (db.setCache key value).cache k = if k = key then some value else db.cache k :=
  Function.update_apply ..

/-- A text column after an update. -/
def merge (old new : String) : String := if new = "" then old else new

@[simp] theorem merge_of_ne {old new : String} (h : new ≠ "") : merge old new = new := if_neg h

/-- `Updates(poolBase)` on one row found by its key. -/
def PoolBase.updates (new row : PoolBase) : PoolBase where
  poolId := row.poolId
  chainId := row.chainId
  settleTime := merge row.settleTime new.settleTime
  endTime := merge row.endTime new.endTime
  interestRate := merge row.interestRate new.interestRate
  maxSupply := merge row.maxSupply new.maxSupply
  lendSupply := merge row.lendSupply new.lendSupply
  borrowSupply := merge row.borrowSupply new.borrowSupply
  martgageRate := merge row.martgageRate new.martgageRate
  lendToken := merge row.lendToken new.lendToken
  lendTokenInfo := merge row.lendTokenInfo new.lendTokenInfo
  borrowToken := merge row.borrowToken new.borrowToken
  borrowTokenInfo := merge row.borrowTokenInfo new.borrowTokenInfo
  state := merge row.state new.state
  spCoin := merge row.spCoin new.spCoin
  jpCoin := merge row.jpCoin new.jpCoin
  lendTokenSymbol := merge row.lendTokenSymbol new.lendTokenSymbol
  borrowTokenSymbol := merge row.borrowTokenSymbol new.borrowTokenSymbol
  autoLiquidateThreshold := merge row.autoLiquidateThreshold new.autoLiquidateThreshold
  createdAt := merge row.createdAt new.createdAt
  updatedAt := merge row.updatedAt new.updatedAt

/-- `Updates(poolData)` on one row found by its key. -/
def PoolData.updates (new row : PoolData) : PoolData where
  poolId := row.poolId
  chainId := row.chainId
  finishAmountBorrow := merge row.finishAmountBorrow new.finishAmountBorrow
  finishAmountLend := merge row.finishAmountLend new.finishAmountLend
  liquidationAmounBorrow := merge row.liquidationAmounBorrow new.liquidationAmounBorrow
  liquidationAmounLend := merge row.liquidationAmounLend new.liquidationAmounLend
  settleAmountBorrow := merge row.settleAmountBorrow new.settleAmountBorrow
  settleAmountLend := merge row.settleAmountLend new.settleAmountLend
  createdAt := merge row.createdAt new.createdAt
  updatedAt := merge row.updatedAt new.updatedAt

/-- The updated row has the key it was found by. -/
theorem PoolBase.updates_key (new row : PoolBase) : (new.updates row).key = row.key := rfl

/-! ## How contract values become texts

The columns are texts, even where the contract has numbers. `Carries` says that a row has the texts
of an answer. -/

/-- The functions of the Go libraries that turn values into texts: `common.Address.String`, the JSON of
the two token structs, and the MD5 of the JSON of a pool record. -/
structure Encoding where
  hex : Address → String
  lendTokenJson : (lendFee tokenLogo tokenName tokenPrice : String) → String
  borrowTokenJson : (borrowFee tokenLogo tokenName tokenPrice : String) → String
  md5 : PoolBase → String
  /-- An address starts with `0x`. -/
  hex_ne : ∀ a, hex a ≠ ""

/-- `big.Int.String`, where a failed call leaves the pointer nil. -/
def feeText : Option Nat → String
  | some fee => toString fee
  | none => "<nil>"

/-- `utils.IntToString(int(baseInfo.State))`. -/
def stateText : PoolState → String
  | .matching => "0"
  | .execution => "1"
  | .finish => "2"
  | .liquidation => "3"
  | .undone => "4"

/-- The row carries this answer of `poolBaseInfo`. -/
structure PoolBase.Carries (enc : Encoding) (row : PoolBase) (info : BaseInfo) : Prop where
  settleTime : row.settleTime = toString info.settleTime
  endTime : row.endTime = toString info.endTime
  interestRate : row.interestRate = toString info.interestRate
  maxSupply : row.maxSupply = toString info.maxSupply
  lendSupply : row.lendSupply = toString info.lendSupply
  borrowSupply : row.borrowSupply = toString info.borrowSupply
  martgageRate : row.martgageRate = toString info.martgageRate
  lendToken : row.lendToken = enc.hex info.lendToken
  borrowToken : row.borrowToken = enc.hex info.borrowToken
  state : row.state = stateText info.state
  spCoin : row.spCoin = enc.hex info.spCoin
  jpCoin : row.jpCoin = enc.hex info.jpCoin
  autoLiquidateThreshold : row.autoLiquidateThreshold = toString info.autoLiquidateThreshold

/-- The row carries this answer of `poolDataInfo`. -/
structure PoolData.Carries (row : PoolData) (info : DataInfo) : Prop where
  finishAmountBorrow : row.finishAmountBorrow = toString info.finishAmountBorrow
  finishAmountLend : row.finishAmountLend = toString info.finishAmountLend
  liquidationAmounBorrow : row.liquidationAmounBorrow = toString info.liquidationAmounBorrow
  liquidationAmounLend : row.liquidationAmounLend = toString info.liquidationAmounLend
  settleAmountBorrow : row.settleAmountBorrow = toString info.settleAmountBorrow
  settleAmountLend : row.settleAmountLend = toString info.settleAmountLend

theorem toString_ne (n : Nat) : toString n ≠ "" := Nat.repr_ne_empty

theorem toString_inj {m n : Nat} : toString m = toString n ↔ m = n := by
  constructor
  · intro h
    have hdigits : Nat.toDigits 10 m = Nat.toDigits 10 n := by
      rw [← Nat.toList_repr, ← Nat.toList_repr]
      exact congrArg String.toList h
    rw [← Nat.ofDigitChars_ten_toDigits (n := m), hdigits, Nat.ofDigitChars_ten_toDigits]
  · rintro rfl
    rfl

theorem stateText_ne (s : PoolState) : stateText s ≠ "" := by
  cases s <;> decide

/-- **An update with an answer carries that answer**, whatever the row held. -/
theorem PoolBase.Carries.updates {enc : Encoding} {new : PoolBase} {info : BaseInfo}
    (h : new.Carries enc info) (row : PoolBase) : (new.updates row).Carries enc info := by
  constructor <;> simp only [PoolBase.updates, h.settleTime, h.endTime, h.interestRate, h.maxSupply,
    h.lendSupply, h.borrowSupply, h.martgageRate, h.lendToken, h.borrowToken, h.state, h.spCoin,
    h.jpCoin, h.autoLiquidateThreshold, merge_of_ne (toString_ne _), merge_of_ne (enc.hex_ne _),
    merge_of_ne (stateText_ne _)]

theorem PoolData.Carries.updates {new : PoolData} {info : DataInfo} (h : new.Carries info)
    (row : PoolData) : (new.updates row).Carries info := by
  constructor <;> simp only [PoolData.updates, h.finishAmountBorrow, h.finishAmountLend,
    h.liquidationAmounBorrow, h.liquidationAmounLend, h.settleAmountBorrow, h.settleAmountLend,
    merge_of_ne (toString_ne _)]

end Pledge.Backend
