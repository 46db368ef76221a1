import Pledge.Backend.Display
import Pledge.Backend.PoolSync
import Pledge.Backend.Records

/-!
# From the sync job to the API

`poolbases` is written through one struct and read through another, and only the column tags tie the two
together. Two tags of the reader differ from those of the writer: `AutoLiquidateThreshold` names a
column that the table does not have, and `BorrowToken` names `pool_id`. All other fields come back as
they were saved, in the order of the pools, and the token records are decoded to what was encoded
(`saves_served`).

`gorm` gives a column to the first field that names it. `shared` tells whether a second field gets it
too, as its tag says.
-/

namespace Pledge.Api

open Pledge.Contract Pledge.Store Pledge.Backend

/-! ## Columns

`gorm` goes by the tags of the struct and ignores what it cannot match. Two tags of `PoolBases` name
no column of the table, and one names the column of another field, so a row is not read as it was
written; `scan_columns` says what is read instead. -/

/-- The cell of a column. -/
inductive Cell where
  | number (n : Nat)
  | text (s : String)
  deriving Repr, DecidableEq

/-- A cell as an `int` field gets it. A column that the table does not have leaves the field alone. -/
def scanInt : Option Cell → Nat
  | some (.number n) => n
  | _ => 0

def scanString : Option Cell → String
  | some (.text s) => s
  | some (.number n) => toString n
  | none => ""

/-- The row of a record, by the tags of `type PoolBase struct`. The tag of `MaxSupply` names no column,
and its field goes by its own name. -/
def columns (row : PoolBase) : List (String × Cell) :=
  [("pool_id", .number row.poolId), ("chain_id", .text (toString row.chainId)),
    ("settle_time", .text row.settleTime), ("end_time", .text row.endTime),
    ("interest_rate", .text row.interestRate), ("max_supply", .text row.maxSupply),
    ("lend_supply", .text row.lendSupply), ("borrow_supply", .text row.borrowSupply),
    ("martgage_rate", .text row.martgageRate), ("lend_token", .text row.lendToken),
    ("lend_token_info", .text row.lendTokenInfo), ("borrow_token", .text row.borrowToken),
    ("borrow_token_info", .text row.borrowTokenInfo), ("state", .text row.state),
    ("sp_coin", .text row.spCoin), ("jp_coin", .text row.jpCoin),
    ("lend_token_symbol", .text row.lendTokenSymbol),
    ("borrow_token_symbol", .text row.borrowTokenSymbol),
    ("auto_liquidate_threshold", .text row.autoLiquidateThreshold),
    ("created_at", .text row.createdAt), ("updated_at", .text row.updatedAt)]

/-- `type PoolBases struct`. -/
structure PoolBases where
  poolID : Nat
  autoLiquidateThreshold : String
  borrowSupply : String
  borrowToken : String
  borrowTokenInfo : String
  endTime : String
  interestRate : String
  jpCoin : String
  lendSupply : String
  lendToken : String
  lendTokenInfo : String
  martgageRate : String
  maxSupply : String
  settleTime : String
  spCoin : String
  state : String
  deriving Repr, DecidableEq

/-- A row as `Find(&poolBases)` reads it, by the tags of `PoolBases`. The tag of `EndTime` names no
column, and its field goes by its own name. -/
def PoolBases.scan (shared : Bool) (row : List (String × Cell)) : PoolBases where
  poolID := scanInt (row.lookup "pool_id")
  autoLiquidateThreshold := scanString (row.lookup "auto_liquidata_threshold")
  borrowSupply := scanString (row.lookup "borrow_supply")
  borrowToken := if shared then scanString (row.lookup "pool_id") else ""
  borrowTokenInfo := scanString (row.lookup "borrow_token_info")
  endTime := scanString (row.lookup "end_time")
  interestRate := scanString (row.lookup "interest_rate")
  jpCoin := scanString (row.lookup "jp_coin")
  lendSupply := scanString (row.lookup "lend_supply")
  lendToken := scanString (row.lookup "lend_token")
  lendTokenInfo := scanString (row.lookup "lend_token_info")
  martgageRate := scanString (row.lookup "martgage_rate")
  maxSupply := scanString (row.lookup "max_supply")
  settleTime := scanString (row.lookup "settle_time")
  spCoin := scanString (row.lookup "sp_coin")
  state := scanString (row.lookup "state")

/-- **What the tags come to.** -/
theorem PoolBases.scan_columns (shared : Bool) (row : PoolBase) :
    PoolBases.scan shared (columns row) =
      { poolID := row.poolId
        autoLiquidateThreshold := ""
        borrowSupply := row.borrowSupply
        borrowToken := if shared then toString row.poolId else ""
        borrowTokenInfo := row.borrowTokenInfo
        endTime := row.endTime
        interestRate := row.interestRate
        jpCoin := row.jpCoin
        lendSupply := row.lendSupply
        lendToken := row.lendToken
        lendTokenInfo := row.lendTokenInfo
        martgageRate := row.martgageRate
        maxSupply := row.maxSupply
        settleTime := row.settleTime
        spCoin := row.spCoin
        state := row.state } := by
  simp [PoolBases.scan, columns, List.lookup_cons, scanInt, scanString]

/-! ## The answer

The list of the pools, with the records of the tokens decoded. The page of the front end reads the
same rows (`scan_read`). -/

/-- `type PoolBaseInfo struct`. -/
structure PoolBaseInfo where
  poolID : Nat
  autoLiquidateThreshold : String
  borrowSupply : String
  borrowToken : String
  borrowTokenInfo : BorrowTokenInfo
  endTime : String
  interestRate : String
  jpCoin : String
  lendSupply : String
  lendToken : String
  lendTokenInfo : LendTokenInfo
  martgageRate : String
  maxSupply : String
  settleTime : String
  spCoin : String
  state : String
  deriving Repr, DecidableEq

/-- `type PoolBaseInfoRes struct`. -/
structure PoolBaseInfoRes where
  index : Int
  poolData : PoolBaseInfo
  deriving Repr, DecidableEq

/-- The body of the loop. -/
def PoolBases.entry (v : PoolBases) : PoolBaseInfoRes where
  index := (v.poolID : Int) - 1
  poolData :=
    { poolID := v.poolID
      autoLiquidateThreshold := v.autoLiquidateThreshold
      borrowSupply := v.borrowSupply
      borrowToken := v.borrowToken
      borrowTokenInfo := BorrowTokenInfo.unmarshal v.borrowTokenInfo
      endTime := v.endTime
      interestRate := v.interestRate
      jpCoin := v.jpCoin
      lendSupply := v.lendSupply
      lendToken := v.lendToken
      lendTokenInfo := LendTokenInfo.unmarshal v.lendTokenInfo
      martgageRate := v.martgageRate
      maxSupply := v.maxSupply
      settleTime := v.settleTime
      spCoin := v.spCoin
      state := v.state }

/-- `PoolBases.PoolBaseInfo`. -/
def poolBaseInfo (shared : Bool) (chainId : Nat) (db : Database) : List PoolBaseInfoRes :=
  (db.poolBases chainId).map fun row => (PoolBases.scan shared (columns row)).entry

/-- A row as the page gets it, the token records as texts. -/
def PoolBases.texts (v : PoolBases) : Backend.PoolBaseInfo where
  poolID := v.poolID
  autoLiquidateThreshold := v.autoLiquidateThreshold
  borrowSupply := v.borrowSupply
  borrowToken := v.borrowToken
  borrowTokenInfo := v.borrowTokenInfo
  endTime := v.endTime
  interestRate := v.interestRate
  jpCoin := v.jpCoin
  lendSupply := v.lendSupply
  lendToken := v.lendToken
  lendTokenInfo := v.lendTokenInfo
  martgageRate := v.martgageRate
  maxSupply := v.maxSupply
  settleTime := v.settleTime
  spCoin := v.spCoin
  state := v.state

/-- The page reads the same rows, as `gorm` reads them. -/
theorem PoolBases.scan_read (row : PoolBase) : (PoolBases.scan false (columns row)).texts = row.read := by
  rw [PoolBases.scan_columns]
  rfl

/-! ## What is saved

A save is one pool of one pass of the sync job, and may come at any time and in any order. `Stored`
is what any sequence of them leaves, as long as no statement fails: a pool has one row, and the row
has the last record that was saved for it. -/

/-- A save of the sync job: the answer of the contract, what is known about the two tokens, and the table
of tokens at that time. -/
structure Save where
  pass : Pass
  chainId : Nat
  i : Nat
  info : BaseInfo
  lendToken : TokenInfo
  borrowToken : TokenInfo
  tokenInfo : List TokenInfo

namespace Save

/-- The record that the job makes of the answer. -/
def record (enc : Encoding) (s : Save) : PoolBase :=
  newPoolBase enc s.pass s.chainId (s.i + 1) s.info s.lendToken s.borrowToken

def key (s : Save) : Nat × Nat := (s.chainId, s.i + 1)

/-- `SavePoolBase`. -/
def run (enc : Encoding) (s : Save) (db : Database) : Database :=
  (savePoolBase (s.pass.writeFails s.i) (s.pass.baseClock s.i) s.chainId (s.i + 1) (s.record enc)
    { db with tokenInfo := s.tokenInfo }).2

def Succeeds (s : Save) : Prop := ∀ write, s.pass.writeFails s.i write = false

end Save

def runSaves (enc : Encoding) (saves : List Save) (db : Database) : Database :=
  saves.foldl (fun db s => s.run enc db) db

/-- The table after these saves: one row for each pool, which has the record that was saved last. -/
structure Stored (enc : Encoding) (saves : List Save) (db : Database) : Prop where
  unique : (db.poolbases.map PoolBase.key).Nodup
  keys : ∀ k, k ∈ db.poolbases.map PoolBase.key ↔ ∃ s ∈ saves, s.key = k
  last : ∀ pre s post, saves = pre ++ s :: post → (∀ s' ∈ post, s'.key ≠ s.key) →
    ∀ row ∈ db.poolbases, row.key = s.key → row.Has (s.record enc)

section Saves

variable {enc : Encoding} {saves : List Save} {s : Save} {db : Database}

theorem Save.run_upserts (enc : Encoding) (hok : s.Succeeds) (db : Database) :
    ∃ saved : PoolBase, saved.bare = (s.record enc).bare ∧ saved.key = s.key ∧
      (s.run enc db).poolbases = upsert PoolBase.key s.key saved.updates saved db.poolbases := by
  obtain ⟨saved, tokenInfo, hbare, hkey, -, hsave⟩ := savePoolBase_upserts hok (s.pass.baseClock s.i)
    (show (s.record enc).key = (s.chainId, s.i + 1) from rfl) { db with tokenInfo := s.tokenInfo }
  refine ⟨saved, hbare, hkey, ?_⟩
  unfold Save.run
  rw [hsave]
  rfl

/-- **One more save.** -/
theorem Stored.save (h : Stored enc saves db) (hok : s.Succeeds) :
    Stored enc (saves ++ [s]) (s.run enc db) := by
  obtain ⟨saved, hbare, hkey, hrun⟩ := s.run_upserts enc hok db
  refine ⟨?_, ?_, ?_⟩
  · rw [hrun]
    exact upsert_nodup saved.updates_key hkey h.unique
  · intro k
    rw [hrun, keys_upsert saved.updates_key hkey, h.keys]
    simp only [List.mem_append, List.mem_singleton, or_and_right, exists_or, exists_eq_left]
    rw [or_comm, eq_comm]
  · intro pre s' post hsplit hlast row hrow hthis
    rw [hrun] at hrow
    rcases List.eq_nil_or_concat post with rfl | ⟨post, s'', rfl⟩
    · -- this is the last save
      obtain ⟨-, hs⟩ := List.append_inj' hsplit rfl
      obtain rfl : s = s' := List.singleton_inj.mp hs
      have hall : (∃ row ∈ upsert PoolBase.key s.key saved.updates saved db.poolbases,
            row.key = s.key) ∧
          ∀ row ∈ upsert PoolBase.key s.key saved.updates saved db.poolbases, row.key = s.key →
            row.Has (s.record enc) :=
        upsert_all saved.updates_key hkey fun old => PoolBase.updates_has hbare old
      exact hall.2 row hrow hthis
    · rw [List.concat_eq_append, ← List.cons_append, ← List.append_assoc] at hsplit
      obtain ⟨hsaves, hs⟩ := List.append_inj' hsplit rfl
      obtain rfl : s = s'' := List.singleton_inj.mp hs
      have hother : row.key ≠ s.key := by
        rw [hthis]
        exact (hlast s (by simp)).symm
      rw [mem_upsert_other saved.updates_key hkey hother] at hrow
      exact h.last pre s' post hsaves (fun t ht => hlast t (by simp [ht])) row hrow hthis

/-- **After any saves**, from the empty table. -/
theorem runSaves_stored (enc : Encoding) {saves : List Save} (hok : ∀ s ∈ saves, s.Succeeds) :
    Stored enc saves (runSaves enc saves {}) := by
  induction saves using List.reverseRecOn with
  | nil =>
      refine ⟨List.nodup_nil, fun k => by simp [runSaves], ?_⟩
      intro pre s post hsplit
      exact absurd hsplit (by simp)
  | append_singleton saves s ih =>
      rw [List.forall_mem_append] at hok
      unfold runSaves
      rw [List.foldl_append]
      exact (ih hok.1).save (hok.2 s List.mem_cons_self)

end Saves

/-! ## What comes back

`Serves` is every field of the entry that goes through both jobs unchanged, up to its text;
`ServesAll` adds the two that do not. -/

/-- What `encoding/json` makes of the token structs of the sync job. -/
structure WritesJson (enc : Encoding) : Prop where
  lend : ∀ lendFee tokenLogo tokenName tokenPrice,
    enc.lendTokenJson lendFee tokenLogo tokenName tokenPrice = LendToken.marshal
      { lendFee := lendFee, tokenLogo := tokenLogo, tokenName := tokenName, tokenPrice := tokenPrice }
  borrow : ∀ borrowFee tokenLogo tokenName tokenPrice,
    enc.borrowTokenJson borrowFee tokenLogo tokenName tokenPrice = BorrowToken.marshal
      { borrowFee := borrowFee
        tokenLogo := tokenLogo
        tokenName := tokenName
        tokenPrice := tokenPrice }

/-- The entry has everything that was saved, but for two fields. -/
structure PoolBaseInfo.Serves (enc : Encoding) (poolData : PoolBaseInfo) (s : Save) : Prop where
  poolID : poolData.poolID = s.i + 1
  borrowSupply : poolData.borrowSupply = toString s.info.borrowSupply
  borrowTokenInfo : poolData.borrowTokenInfo =
    { borrowFee := feeText s.pass.borrowFee
      tokenLogo := s.borrowToken.logo
      tokenName := s.borrowToken.symbol
      tokenPrice := s.borrowToken.price }
  endTime : poolData.endTime = toString s.info.endTime
  interestRate : poolData.interestRate = toString s.info.interestRate
  jpCoin : poolData.jpCoin = enc.hex s.info.jpCoin
  lendSupply : poolData.lendSupply = toString s.info.lendSupply
  lendToken : poolData.lendToken = enc.hex s.info.lendToken
  lendTokenInfo : poolData.lendTokenInfo =
    { lendFee := feeText s.pass.lendFee
      tokenLogo := s.lendToken.logo
      tokenName := s.lendToken.symbol
      tokenPrice := s.lendToken.price }
  martgageRate : poolData.martgageRate = toString s.info.martgageRate
  maxSupply : poolData.maxSupply = toString s.info.maxSupply
  settleTime : poolData.settleTime = toString s.info.settleTime
  spCoin : poolData.spCoin = enc.hex s.info.spCoin
  state : poolData.state = stateText s.info.state

/-- The two fields that are left. -/
structure PoolBaseInfo.ServesAll (enc : Encoding) (poolData : PoolBaseInfo) (s : Save) : Prop
    extends poolData.Serves enc s where
  borrowToken : poolData.borrowToken = enc.hex s.info.borrowToken
  autoLiquidateThreshold :
    poolData.autoLiquidateThreshold = toString s.info.autoLiquidateThreshold

/-- No record is written as the empty text. -/
theorem write_ne (fields : List (String × String)) : Text.Json.write fields ≠ "" := by
  intro h
  have hchars := congrArg String.toList h
  simp [Text.Json.write] at hchars

/-- **A row with the record is read back as what was saved.** -/
theorem entry_serves {enc : Encoding} (hjson : WritesJson enc) (shared : Bool) {s : Save}
    {row : PoolBase} (hkey : row.key = s.key) (h : row.Has (s.record enc)) :
    (PoolBases.scan shared (columns row)).entry.poolData.Serves enc s := by
  -- the fields of the answer are in the row, and none of them is blank
  have hcarries : row.Carries enc s.info := (newPoolBase_carries ..).of_has h
  -- the two records are written as JSON, which is no blank text either
  have hlend : row.lendTokenInfo = LendToken.marshal
      { lendFee := feeText s.pass.lendFee
        tokenLogo := s.lendToken.logo
        tokenName := s.lendToken.symbol
        tokenPrice := s.lendToken.price } := by
    rw [← hjson.lend]
    exact eq_of_merge (congrArg PoolBase.lendTokenInfo h) (by rw [hjson.lend]; exact write_ne _)
  have hborrow : row.borrowTokenInfo = BorrowToken.marshal
      { borrowFee := feeText s.pass.borrowFee
        tokenLogo := s.borrowToken.logo
        tokenName := s.borrowToken.symbol
        tokenPrice := s.borrowToken.price } := by
    rw [← hjson.borrow]
    exact eq_of_merge (congrArg PoolBase.borrowTokenInfo h) (by rw [hjson.borrow]; exact write_ne _)
  rw [PoolBases.scan_columns]
  exact
    { poolID := congrArg Prod.snd hkey
      borrowSupply := hcarries.borrowSupply
      borrowTokenInfo := by
        show BorrowTokenInfo.unmarshal row.borrowTokenInfo = _
        rw [hborrow, BorrowTokenInfo.unmarshal_marshal]
      endTime := hcarries.endTime
      interestRate := hcarries.interestRate
      jpCoin := hcarries.jpCoin
      lendSupply := hcarries.lendSupply
      lendToken := hcarries.lendToken
      lendTokenInfo := by
        show LendTokenInfo.unmarshal row.lendTokenInfo = _
        rw [hlend, LendTokenInfo.unmarshal_marshal]
      martgageRate := hcarries.martgageRate
      maxSupply := hcarries.maxSupply
      settleTime := hcarries.settleTime
      spCoin := hcarries.spCoin
      state := hcarries.state }

section Answer

variable {enc : Encoding} {saves : List Save} {db : Database} {chainId : Nat}

/-- The identifiers of the answer, in its order. -/
theorem poolIDs_eq (shared : Bool) (chainId : Nat) (db : Database) :
    (poolBaseInfo shared chainId db).map (fun entry => entry.poolData.poolID) =
      (db.poolBases chainId).map PoolBase.poolId := by
  unfold poolBaseInfo
  rw [List.map_map]
  apply List.map_congr_left
  intro row _
  show (PoolBases.scan shared (columns row)).poolID = row.poolId
  rw [PoolBases.scan_columns]

/-- The rows of a chain are listed by their pools. -/
theorem Stored.increasing (h : Stored enc saves db) :
    ((db.poolBases chainId).map PoolBase.poolId).Pairwise (· < ·) :=
  poolBases_increasing h.unique

/-- The pools of the chain that were saved are those of the answer. -/
theorem Stored.mem_poolIDs (h : Stored enc saves db) {n : Nat} :
    n ∈ (db.poolBases chainId).map PoolBase.poolId ↔
      ∃ s ∈ saves, s.chainId = chainId ∧ s.i + 1 = n := by
  have hkey : n ∈ (db.poolBases chainId).map PoolBase.poolId ↔
      (chainId, n) ∈ db.poolbases.map PoolBase.key := by
    rw [List.mem_map, List.mem_map]
    constructor
    · rintro ⟨row, hrow, rfl⟩
      obtain ⟨hmem, hchain⟩ := mem_poolBases.mp hrow
      exact ⟨row, hmem, Prod.ext hchain rfl⟩
    · rintro ⟨row, hmem, hkey⟩
      exact ⟨row, mem_poolBases.mpr ⟨hmem, congrArg Prod.fst hkey⟩, congrArg Prod.snd hkey⟩
  rw [hkey, h.keys]
  simp only [Save.key, Prod.mk.injEq]

end Answer

/-- **What the sync job writes and what the API serves.** After any saves without failures, the answer
for a chain lists the pools of the chain that were saved, each once, in ascending order. The entry of a
pool has what was saved of it last, decoded, but never all of it: the threshold is always empty, and
the borrow token is empty or the identifier of the pool. -/
theorem saves_served {enc : Encoding} (hjson : WritesJson enc) (shared : Bool) (chainId : Nat)
    {saves : List Save} (hok : ∀ s ∈ saves, s.Succeeds) :
    let served := poolBaseInfo shared chainId (runSaves enc saves {})
    (served.map fun entry => entry.poolData.poolID).Pairwise (· < ·) ∧
    (∀ n, n ∈ served.map (fun entry => entry.poolData.poolID) ↔
      ∃ s ∈ saves, s.chainId = chainId ∧ s.i + 1 = n) ∧
    (∀ entry ∈ served, entry.index = entry.poolData.poolID - 1) ∧
    ∀ pre s post, saves = pre ++ s :: post → s.chainId = chainId →
      (∀ s' ∈ post, s'.key ≠ s.key) →
      ∀ entry ∈ served, entry.poolData.poolID = s.i + 1 →
        entry.poolData.Serves enc s ∧ entry.poolData.autoLiquidateThreshold = "" ∧
          entry.poolData.borrowToken = (if shared then toString (s.i + 1) else "") ∧
          ¬ entry.poolData.ServesAll enc s := by
  have hstored := runSaves_stored enc hok
  dsimp only
  refine ⟨?_, ?_, ?_, ?_⟩
  · rw [poolIDs_eq]
    exact hstored.increasing
  · intro n
    rw [poolIDs_eq]
    exact hstored.mem_poolIDs
  · intro entry hentry
    obtain ⟨row, -, rfl⟩ := List.mem_map.mp hentry
    rfl
  · intro pre s post hsplit hchain hlast entry hentry hid
    obtain ⟨row, hrow, rfl⟩ := List.mem_map.mp hentry
    obtain ⟨hmem, hthis⟩ := mem_poolBases.mp hrow
    have hpool : row.poolId = s.i + 1 := by
      rw [PoolBases.scan_columns] at hid
      exact hid
    -- the row of the entry is the row of the pool
    have hkey : row.key = s.key := Prod.ext (hthis.trans hchain.symm) hpool
    have hempty : (PoolBases.scan shared (columns row)).entry.poolData.autoLiquidateThreshold = "" := by
      rw [PoolBases.scan_columns]
      rfl
    refine ⟨entry_serves hjson shared hkey (hstored.last pre s post hsplit hlast row hmem hkey),
      hempty, ?_, ?_⟩
    · rw [PoolBases.scan_columns, ← hpool]
      rfl
    · intro hall
      exact toString_ne _ (hall.autoLiquidateThreshold.symm.trans hempty)

/-! One pool of two tokens, with a threshold of 20 percent. -/

def onePool : Save where
  pass := Pass.calm threePools (some 250000) (some 250000) noon noon
  chainId := 97
  i := 0
  info :=
    { settleTime := 1642736791, endTime := 1643600792, interestRate := 10000000, maxSupply := 1000
      lendSupply := 0, borrowSupply := 0, martgageRate := 200000000, lendToken := 1, borrowToken := 2
      state := .matching, spCoin := 3, jpCoin := 4, autoLiquidateThreshold := 20000000 }
  lendToken := { token := "0x1", chainId := 97, symbol := "BUSD", price := "99980000" }
  borrowToken := { token := "0x2", chainId := 97, symbol := "BTC", price := "4177240269365" }
  tokenInfo := []

/-- The threshold is gone, and the borrow token is the number of the pool. -/
theorem onePool_not_served :
    (poolBaseInfo true 97 (runSaves jsonEncoding [onePool] {})).map
        (fun entry => (entry.poolData.autoLiquidateThreshold, entry.poolData.borrowToken)) =
      [("", "1")] ∧
    ¬ ∃ entry ∈ poolBaseInfo true 97 (runSaves jsonEncoding [onePool] {}),
      entry.poolData.ServesAll jsonEncoding onePool := by
  have hserved : (poolBaseInfo true 97 (runSaves jsonEncoding [onePool] {})).map
      (fun entry => (entry.poolData.autoLiquidateThreshold, entry.poolData.borrowToken)) =
        [("", "1")] := by
    decide +kernel
  refine ⟨hserved, ?_⟩
  rintro ⟨entry, hentry, hall⟩
  have hfields := List.mem_map_of_mem (f := fun entry : PoolBaseInfoRes =>
    (entry.poolData.autoLiquidateThreshold, entry.poolData.borrowToken)) hentry
  rw [hserved, List.mem_singleton, Prod.mk.injEq, hall.autoLiquidateThreshold] at hfields
  exact absurd hfields.1 (by decide)

/-- The second pool is saved before the first. -/
def outOfOrder : List Save := [{ onePool with i := 1 }, onePool]

theorem saves_served_outOfOrder :
    let served := poolBaseInfo true 97 (runSaves jsonEncoding outOfOrder {})
    served.map (fun entry => entry.poolData.poolID) = [1, 2] ∧
    (served.map fun entry => entry.poolData.poolID).Pairwise (· < ·) ∧
    (∀ n, n ∈ served.map (fun entry => entry.poolData.poolID) ↔
      ∃ s ∈ outOfOrder, s.chainId = 97 ∧ s.i + 1 = n) ∧
    (∀ entry ∈ served, entry.index = entry.poolData.poolID - 1) ∧
    ∀ pre s post, outOfOrder = pre ++ s :: post → s.chainId = 97 →
      (∀ s' ∈ post, s'.key ≠ s.key) →
      ∀ entry ∈ served, entry.poolData.poolID = s.i + 1 →
        entry.poolData.Serves jsonEncoding s ∧ entry.poolData.autoLiquidateThreshold = "" ∧
          entry.poolData.borrowToken = (if true then toString (s.i + 1) else "") ∧
          ¬ entry.poolData.ServesAll jsonEncoding s := by
  have hjson : WritesJson jsonEncoding := ⟨fun _ _ _ _ => rfl, fun _ _ _ _ => rfl⟩
  have hok : ∀ s ∈ outOfOrder, s.Succeeds := by
    rw [outOfOrder, List.forall_mem_cons, List.forall_mem_singleton]
    exact ⟨fun _ => rfl, fun _ => rfl⟩
  exact ⟨by decide +kernel, saves_served hjson true 97 hok⟩

end Pledge.Api
