import Mathlib.Data.String.Basic
import Pledge.Backend.Mirror

/-!
# The pools on the page

The API returns the rows of a chain in the order of their `pool_id`, and the page of the front end
numbers them again: the entry at a position has the position plus one as its `key`, and all calls for
this entry name the pool `key - 1`. So the pool a user sees and the pool the user acts on are related
through the number of rows in front of an entry.

Identifiers in the table are unique and at least 2, so the row at position `j` comes from pool `j + 1`
or a later one, while its calls go to pool `j`.

The page takes its lists from the API here, as it does with `USE_MOCK` off.
-/

namespace Pledge.Backend

open Pledge.Contract Pledge.Store

variable {enc : Encoding} {chainId : Nat} {db : Database}

/-! ## The API

The entries of both lists have an index, which is one less than the identifier that the row has. -/

/-- `type PoolBaseInfo struct` of `api/models`. The two token records stay JSON texts. -/
structure PoolBaseInfo where
  poolID : Nat
  autoLiquidateThreshold : String
  borrowSupply : String
  borrowToken : String
  borrowTokenInfo : String
  endTime : String
  interestRate : String
  jpCoin : String
  lendSupply : String
  lendToken : String
  lendTokenInfo : String
  martgageRate : String
  maxSupply : String
  settleTime : String
  spCoin : String
  state : String
  deriving Repr, DecidableEq

/-- `type PoolBaseInfoRes struct`. -/
structure PoolBaseInfoRes where
  index : Int
  poolData : PoolBaseInfo
  deriving Repr, DecidableEq

/-- `type PoolDataInfoRes struct`. -/
structure PoolDataInfoRes where
  index : Int
  poolData : PoolData
  deriving Repr, DecidableEq

/-- A row as `type PoolBases struct` reads it. The column tag of `AutoLiquidateThreshold` is misspelt
and that of `BorrowToken` is `pool_id`, which belongs to `PoolID`, so both stay empty. -/
def PoolBase.read (v : PoolBase) : PoolBaseInfo where
  poolID := v.poolId
  autoLiquidateThreshold := ""
  borrowSupply := v.borrowSupply
  borrowToken := ""
  borrowTokenInfo := v.borrowTokenInfo
  endTime := v.endTime
  interestRate := v.interestRate
  jpCoin := v.jpCoin
  lendSupply := v.lendSupply
  lendToken := v.lendToken
  lendTokenInfo := v.lendTokenInfo
  martgageRate := v.martgageRate
  maxSupply := v.maxSupply
  settleTime := v.settleTime
  spCoin := v.spCoin
  state := v.state

/-- The rows of `poolbases` in the order of the answer. -/
def Database.poolBases (db : Database) (chainId : Nat) : List PoolBase :=
  orderBy PoolBase.poolId (db.poolbases.filter fun row => decide (row.chainId = chainId))

/-- `PoolBases.PoolBaseInfo`. -/
def Database.poolBaseInfo (db : Database) (chainId : Nat) : List PoolBaseInfoRes :=
  (db.poolBases chainId).map fun v => { index := (v.poolId : Int) - 1, poolData := v.read }

/-- `PoolData.PoolDataInfo`. The `pool_id` of this table is a text and is ordered as one. -/
def Database.poolDataInfo (db : Database) (chainId : Nat) : List PoolDataInfoRes :=
  (orderBy PoolData.poolId (db.pooldata.filter fun row => decide (row.chainId = chainId))).map fun v =>
    { index := v.poolId.toInt?.getD 0 - 1, poolData := v }

/-! ## The page

The page joins the two lists by their index, and takes for the identifier of a pool the one of its
first list. -/

/-- An entry of the list. The page shows the values of `poolData` in its own formats. -/
structure Item where
  key : Nat
  poolData : PoolBaseInfo
  deriving Repr, DecidableEq

/-- `getPoolInfo`. -/
def getPoolInfo (data : List PoolBaseInfoRes) : List Item :=
  data.mapIdx fun index item => { key := index + 1, poolData := item.poolData }

/-- `Number(item.key) - 1`, the pool of every call that is made for this entry. -/
def Item.pid (item : Item) : Nat := item.key - 1

/-- `datainfo1[item.key - 1]`. -/
def Item.datainfo (item : Item) (datainfo1 : List PoolDataInfoRes) : Option PoolDataInfoRes :=
  datainfo1[item.key - 1]?

/-- The entry shows this answer of `poolBaseInfo`, in the fields that the API fills. -/
structure PoolBaseInfo.Shows (enc : Encoding) (poolData : PoolBaseInfo) (info : BaseInfo) : Prop where
  settleTime : poolData.settleTime = toString info.settleTime
  endTime : poolData.endTime = toString info.endTime
  interestRate : poolData.interestRate = toString info.interestRate
  maxSupply : poolData.maxSupply = toString info.maxSupply
  lendSupply : poolData.lendSupply = toString info.lendSupply
  borrowSupply : poolData.borrowSupply = toString info.borrowSupply
  martgageRate : poolData.martgageRate = toString info.martgageRate
  lendToken : poolData.lendToken = enc.hex info.lendToken
  state : poolData.state = stateText info.state
  spCoin : poolData.spCoin = enc.hex info.spCoin
  jpCoin : poolData.jpCoin = enc.hex info.jpCoin

theorem PoolBase.Carries.shows {row : PoolBase} {info : BaseInfo} (h : row.Carries enc info) :
    row.read.Shows enc info :=
  { h with }

/-! ## Histories

Passes, with anything between them that may change the tokens or drop a cached key. What was read so
far is read off the history. -/

/-- What happens to the database. -/
inductive Event where
  | pass (pass : Pass)
  /-- Redis drops keys, one by one or with `RedisFlushDB`. -/
  | expire (dropped : CacheKey → Bool)
  /-- The jobs for prices, symbols and logos write what is known about tokens. -/
  | tokens (tokenInfo : List TokenInfo) (tokenCache : Nat × String → Option TokenInfo)

namespace Event

def after (enc : Encoding) (chainId : Nat) (db : Database) : Event → Database
  | .pass p => updatePoolInfo enc chainId p db
  | .expire dropped => { db with cache := fun key => if dropped key then none else db.cache key }
  | .tokens tokenInfo tokenCache => { db with tokenInfo := tokenInfo, tokenCache := tokenCache }

/-- Reads of a pass may fail but its writes do not. -/
def WritesSucceed : Event → Prop
  | .pass p => ∀ i write, p.writeFails i write = false
  | .expire _ => True
  | .tokens _ _ => True

def ReadsBase (i : Nat) (info : BaseInfo) : Event → Prop
  | .pass p => p.ReadsBase i info
  | .expire _ => False
  | .tokens _ _ => False

def ReadsData (i : Nat) (info : DataInfo) : Event → Prop
  | .pass p => p.ReadsData i info
  | .expire _ => False
  | .tokens _ _ => False

end Event

/-- The database after a history. -/
def history (enc : Encoding) (chainId : Nat) (es : List Event) : Database :=
  es.foldl (Event.after enc chainId) {}

/-- Some pass of the history asked for the base information of `i` and got this answer. -/
def ReadBase (es : List Event) (i : Nat) (info : BaseInfo) : Prop := ∃ e ∈ es, e.ReadsBase i info

/-- The same for data information. -/
def ReadData (es : List Event) (i : Nat) (info : DataInfo) : Prop := ∃ e ∈ es, e.ReadsData i info

section Reflects

variable {B : Nat → BaseInfo → Prop} {D : Nat → DataInfo → Prop}

theorem event_reflects {e : Event} (hok : e.WritesSucceed) (h : Reflects enc chainId B D db) :
    Reflects enc chainId (fun i info => B i info ∨ e.ReadsBase i info)
      (fun i info => D i info ∨ e.ReadsData i info) (e.after enc chainId db) := by
  cases e with
  | pass pass => exact updatePoolInfo_reflects hok h
  | expire dropped =>
      -- a dropped key only makes a later pass write again
      have hsame : Reflects enc chainId B D ((Event.expire dropped).after enc chainId db) := by
        refine h.of_same rfl rfl ?_
        intro poolId md5 hmd5
        by_cases hdropped : dropped (.baseInfo chainId poolId) = true
        · simp only [Event.after, hdropped, if_true] at hmd5
          cases hmd5
        · simp only [Event.after, hdropped] at hmd5
          exact hmd5
      exact hsame.of_iff (fun _ _ => iff_of_eq (or_false _)) fun _ _ => iff_of_eq (or_false _)
  | tokens tokenInfo tokenCache =>
      have hsame : Reflects enc chainId B D
          ((Event.tokens tokenInfo tokenCache).after enc chainId db) :=
        h.of_same rfl rfl fun _ _ hmd5 => hmd5
      exact hsame.of_iff (fun _ _ => iff_of_eq (or_false _)) fun _ _ => iff_of_eq (or_false _)

theorem events_reflect {es : List Event} (hok : ∀ e ∈ es, e.WritesSucceed)
    (h : Reflects enc chainId B D db) :
    Reflects enc chainId (fun i info => B i info ∨ ReadBase es i info)
      (fun i info => D i info ∨ ReadData es i info) (es.foldl (Event.after enc chainId) db) := by
  induction es generalizing B D db with
  | nil =>
      apply h.of_iff <;> intro i info <;> simp [ReadBase, ReadData]
  | cons e es ih =>
      rw [List.forall_mem_cons] at hok
      apply (ih hok.2 (event_reflects hok.1 h)).of_iff
      · intro i info
        rw [ReadBase, List.exists_mem_cons_iff, ← or_assoc]
        rfl
      · intro i info
        rw [ReadData, List.exists_mem_cons_iff, ← or_assoc]
        rfl

/-- **After any history** the tables hold nothing but what its passes read. -/
theorem history_reflects (enc : Encoding) (chainId : Nat) {es : List Event}
    (hok : ∀ e ∈ es, e.WritesSucceed) :
    Reflects enc chainId (ReadBase es) (ReadData es) (history enc chainId es) :=
  (events_reflect hok Reflects.empty).of_iff (fun _ _ => (iff_of_eq (false_or _)).symm)
    fun _ _ => (iff_of_eq (false_or _)).symm

end Reflects

theorem ReadBase.pos {es : List Event} {i : Nat} {info : BaseInfo} (h : ReadBase es i info) :
    0 < i := by
  obtain ⟨e, -, hread⟩ := h
  cases e with
  | pass pass => exact hread.pos
  | expire dropped => exact hread.elim
  | tokens tokenInfo tokenCache => exact hread.elim

/-! ## Positions

The rows of a chain are listed in the order of their identifiers, so the position of an entry is one
less than its identifier as long as none is missing. -/

/-- The page as it lists the rows of a chain. -/
def Database.page (db : Database) (chainId : Nat) : List Item := getPoolInfo (db.poolBaseInfo chainId)

/-- The entry at a position comes from the row at this position. -/
theorem mem_page {item : Item} :
    item ∈ db.page chainId ↔ ∃ j, ∃ h : j < (db.poolBases chainId).length,
      item = { key := j + 1, poolData := ((db.poolBases chainId).get ⟨j, h⟩).read } := by
  unfold Database.page getPoolInfo Database.poolBaseInfo
  rw [List.mem_mapIdx]
  constructor
  · rintro ⟨j, hj, rfl⟩
    rw [List.length_map] at hj
    exact ⟨j, hj, by simp⟩
  · rintro ⟨j, hj, rfl⟩
    exact ⟨j, by rwa [List.length_map], by simp⟩

section Positions

variable {B : Nat → BaseInfo → Prop} {D : Nat → DataInfo → Prop}

theorem mem_poolBases {row : PoolBase} :
    row ∈ db.poolBases chainId ↔ row ∈ db.poolbases ∧ row.chainId = chainId := by
  unfold Database.poolBases
  rw [mem_orderBy, List.mem_filter, decide_eq_true_eq]

/-- The identifiers of a chain increase down the list. -/
theorem poolBases_increasing (h : (db.poolbases.map PoolBase.key).Nodup) :
    ((db.poolBases chainId).map PoolBase.poolId).Pairwise (· < ·) := by
  apply orderBy_increasing
  have hkeys := List.pairwise_map.mp h
  apply List.pairwise_map.mpr
  apply (hkeys.filter _).imp_of_mem
  intro a b ha hb hne hid
  rw [List.mem_filter, decide_eq_true_eq] at ha hb
  exact hne (Prod.ext (ha.2.trans hb.2.symm) hid)

theorem Reflects.increasing (h : Reflects enc chainId B D db) :
    ((db.poolBases chainId).map PoolBase.poolId).Pairwise (· < ·) :=
  poolBases_increasing h.unique

/-- **An entry shows a later pool than the one it names.** -/
theorem Reflects.shows_later (h : Reflects enc chainId B D db) (hpos : ∀ i info, B i info → 0 < i)
    {item : Item} (hitem : item ∈ db.page chainId) :
    ∃ q info, item.pid < q ∧ B q info ∧ item.poolData.Shows enc info := by
  obtain ⟨j, hj, rfl⟩ := mem_page.mp hitem
  -- every row of the list comes from a pool that the contract has
  have hsource : ∀ row ∈ db.poolBases chainId,
      ∃ q info, B q info ∧ row.poolId = q + 1 ∧ row.Carries enc info := by
    intro row hrow
    obtain ⟨q, info, hread, hkey, hcarries⟩ := h.base row (mem_poolBases.mp hrow).1
    exact ⟨q, info, hread, congrArg Prod.snd hkey, hcarries⟩
  have hlow : ∀ n ∈ (db.poolBases chainId).map PoolBase.poolId, 2 ≤ n := by
    intro n hn
    obtain ⟨row, hrow, rfl⟩ := List.mem_map.mp hn
    obtain ⟨q, info, hread, hid, -⟩ := hsource row hrow
    rw [hid]
    exact Nat.succ_le_succ (hpos q info hread)
  have hposition := le_getElem_of_increasing h.increasing hlow (by rwa [List.length_map] : j < _)
  obtain ⟨q, info, hread, hid, hcarries⟩ := hsource _ (List.get_mem _ ⟨j, hj⟩)
  refine ⟨q, info, ?_, hread, hcarries.shows⟩
  rw [List.get_eq_getElem, List.getElem_map] at hposition
  have hle : 2 + j ≤ q + 1 := hid ▸ hposition
  show j + 1 - 1 < q
  omega

/-- Where something was read there is a first entry, and it names pool 0. -/
theorem Reflects.first_entry (h : Reflects enc chainId B D db) {i : Nat} {info : BaseInfo}
    (hread : B i info) : ∃ item ∈ db.page chainId, item.pid = 0 := by
  obtain ⟨row, hrow, hkey⟩ := List.mem_map.mp (h.complete i info hread)
  have hlist : row ∈ db.poolBases chainId := mem_poolBases.mpr ⟨hrow, congrArg Prod.fst hkey⟩
  have hlength := List.length_pos_of_mem hlist
  exact ⟨_, mem_page.mpr ⟨0, hlength, rfl⟩, rfl⟩

end Positions

/-- The entry shows base information of the pool that its calls name, and so does the data record that
is joined to it, where there is one. -/
structure Item.Right (enc : Encoding) (es : List Event) (datainfo1 : List PoolDataInfoRes)
    (item : Item) : Prop where
  base : ∃ info, ReadBase es item.pid info ∧ item.poolData.Shows enc info
  data : ∀ entry, item.datainfo datainfo1 = some entry →
    ∃ info, ReadData es item.pid info ∧ entry.poolData.Carries info

/-- **When the pool a user sees is the pool the user acts on.** After a history of passes in which reads
may fail, all entries are right exactly when no read of base information ever succeeded, so that there
is no entry. Every entry shows a pool after the one that its calls name. -/
theorem entries_right (enc : Encoding) (chainId : Nat) {es : List Event}
    (hok : ∀ e ∈ es, e.WritesSucceed) :
    ((∀ item ∈ (history enc chainId es).page chainId,
        item.Right enc es ((history enc chainId es).poolDataInfo chainId)) ↔
      ∀ i info, ¬ ReadBase es i info) ∧
    ∀ item ∈ (history enc chainId es).page chainId,
      ∃ q info, item.pid < q ∧ ReadBase es q info ∧ item.poolData.Shows enc info := by
  have hreflects := history_reflects enc chainId hok
  have hlater : ∀ item ∈ (history enc chainId es).page chainId,
      ∃ q info, item.pid < q ∧ ReadBase es q info ∧ item.poolData.Shows enc info := by
    intro item hitem
    exact hreflects.shows_later (fun _ _ => ReadBase.pos) hitem
  refine ⟨⟨?_, ?_⟩, hlater⟩
  · intro hright i info hread
    obtain ⟨item, hitem, hzero⟩ := hreflects.first_entry hread
    obtain ⟨answer, hanswer, -⟩ := (hright item hitem).base
    rw [hzero] at hanswer
    exact absurd hanswer.pos (Nat.lt_irrefl 0)
  · intro hnone item hitem
    -- an entry would come from a read
    obtain ⟨q, info, -, hread, -⟩ := hlater item hitem
    exact absurd hread (hnone q info)

/-- A single pass over `threePools`. -/
def threePoolsPass : Pass :=
  Pass.calm threePools (some threePools.store.lendFee) (some threePools.store.borrowFee) noon noon

theorem threePoolsPass_writes : ∀ e ∈ [Event.pass threePoolsPass], e.WritesSucceed := by
  intro e he
  obtain rfl := List.mem_singleton.mp he
  exact fun _ _ => rfl

/-- After the pass over three pools something was read, and some entry is wrong. -/
theorem entries_right_threePools :
    (∃ info, ReadBase [.pass threePoolsPass] 1 info) ∧
      ((∀ item ∈ (history plainEncoding 97 [.pass threePoolsPass]).page 97,
          item.Right plainEncoding [.pass threePoolsPass]
            ((history plainEncoding 97 [.pass threePoolsPass]).poolDataInfo 97)) ↔
        ∀ i info, ¬ ReadBase [.pass threePoolsPass] i info) := by
  refine ⟨?_, (entries_right plainEncoding 97 threePoolsPass_writes).1⟩
  have hsome : (threePoolsPass.poolBaseInfo 1).isSome = true := by decide +kernel
  obtain ⟨info, hinfo⟩ := Option.isSome_iff_exists.mp hsome
  exact ⟨info, .pass threePoolsPass, List.mem_singleton_self _, by decide +kernel, hinfo⟩

/-- The second entry shows the supply of pool 2, and its calls go to pool 1. -/
theorem second_entry_names_first_pool :
    ∃ item ∈ (history plainEncoding 97 [.pass threePoolsPass]).page 97,
      item.pid = 1 ∧ item.poolData.maxSupply = "2000000" ∧
        (threePools.store.pools 1).maxSupply = 1000000 ∧
        (threePools.store.pools 2).maxSupply = 2000000 ∧
        ¬ item.Right plainEncoding [.pass threePoolsPass]
          ((history plainEncoding 97 [.pass threePoolsPass]).poolDataInfo 97) := by
  have hpage : ((history plainEncoding 97 [.pass threePoolsPass]).page 97).map
      (fun item => (item.pid, item.poolData.maxSupply)) = [(0, "1000000"), (1, "2000000")] := by
    decide +kernel
  have hsecond : (1, "2000000") ∈ ((history plainEncoding 97 [.pass threePoolsPass]).page 97).map
      fun item => (item.pid, item.poolData.maxSupply) := by
    rw [hpage]
    exact List.mem_cons_of_mem _ (List.mem_singleton_self _)
  obtain ⟨item, hitem, hfields⟩ := List.mem_map.mp hsecond
  obtain ⟨hpid, hsupply⟩ := Prod.mk.inj hfields
  refine ⟨item, hitem, hpid, hsupply, by decide +kernel, by decide +kernel, ?_⟩
  intro hright
  obtain ⟨info, hread, hshows⟩ := hright.base
  rw [hpid] at hread
  obtain ⟨e, he, hanswer⟩ := hread
  obtain rfl := List.mem_singleton.mp he
  -- what pool 1 answers has another supply
  have hfirst : (threePoolsPass.poolBaseInfo 1).map (toString ·.maxSupply) = some "1000000" := by
    decide +kernel
  rw [hanswer.2, Option.map_some, ← hshows.maxSupply, hsupply] at hfirst
  exact absurd hfirst (by decide)

end Pledge.Backend
