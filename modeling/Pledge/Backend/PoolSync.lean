import Pledge.Backend.Display

/-!
# What the job for pools leaves in the tables

A pool has two records in Redis, an MD5 each, and its rows in two tables. Where the MD5 of a base
record is cached the rows have that record (`BaseKept`): a round saves every record that is not the
cached one, and a save without failures leaves nothing of it out. Rounds for other pools change nothing
(`updatePool_same`).

The MD5 that is kept for the data information is that of the base record too, so it says nothing
about the amounts. What a round leaves in `pooldata` is in `updatePool_data`.
-/

namespace Pledge.Backend

open Pledge.Contract Pledge.Store

/-! ## What a row has of a record

A save does not overwrite a column with an empty text, and it fills in the symbols and the times
itself. So there are two readings of "the row has the record": nothing of the record is missing in
it (`PoolBase.Has`), which is what one save brings about, and the row is the record but for the
clock (`PoolBase.Equals`). For a record without empty texts the second is the first and the two
symbol columns, which are followed on their own. -/

/-- To write a text again changes nothing. -/
theorem merge_merge (old new : String) : merge (merge old new) new = merge old new := by
  unfold merge
  split
  · rfl
  · rfl

@[simp] theorem merge_self (text : String) : merge text text = text := ite_self text

/-- The record without what `SavePoolBase` fills in. -/
def PoolBase.bare (record : PoolBase) : PoolBase :=
  { record with lendTokenSymbol := "", borrowTokenSymbol := "", createdAt := "", updatedAt := "" }

/-- Nothing of the record is missing in the row. -/
def PoolBase.Has (row record : PoolBase) : Prop := record.bare.updates row = row

/-- A save of the record leaves nothing of it missing, whatever was there. -/
theorem PoolBase.updates_has {saved record : PoolBase} (h : saved.bare = record.bare)
    (old : PoolBase) : (saved.updates old).Has record := by
  unfold PoolBase.Has
  rw [← h]
  unfold PoolBase.updates PoolBase.bare
  simp only [merge_merge]
  rfl

/-- The row carries what the record carries. -/
theorem PoolBase.Carries.of_has {enc : Encoding} {row record : PoolBase} {info : BaseInfo}
    (h : record.Carries enc info) (hhas : row.Has record) : row.Carries enc info := by
  have hbare : record.bare.Carries enc info := { h with }
  rw [← hhas]
  exact hbare.updates row

/-- The row is the record but for the two times, which are the clock's. -/
def PoolBase.Equals (row record : PoolBase) : Prop :=
  { row with createdAt := "", updatedAt := "" } = { record with createdAt := "", updatedAt := "" }

/-- No text of the record is empty, but for the symbols and the times. -/
structure PoolBase.Full (record : PoolBase) : Prop where
  settleTime : record.settleTime ≠ ""
  endTime : record.endTime ≠ ""
  interestRate : record.interestRate ≠ ""
  maxSupply : record.maxSupply ≠ ""
  lendSupply : record.lendSupply ≠ ""
  borrowSupply : record.borrowSupply ≠ ""
  martgageRate : record.martgageRate ≠ ""
  lendToken : record.lendToken ≠ ""
  lendTokenInfo : record.lendTokenInfo ≠ ""
  borrowToken : record.borrowToken ≠ ""
  borrowTokenInfo : record.borrowTokenInfo ≠ ""
  state : record.state ≠ ""
  spCoin : record.spCoin ≠ ""
  jpCoin : record.jpCoin ≠ ""
  autoLiquidateThreshold : record.autoLiquidateThreshold ≠ ""

/-- A text that is not empty and leaves the column as it is was there. -/
theorem eq_of_merge {old new : String} (h : merge old new = old) (hne : new ≠ "") : old = new := by
  rw [merge_of_ne hne] at h
  exact h.symm

/-- A row of a full record is the record when nothing is missing and the symbols are its own. -/
theorem PoolBase.equals_iff {row record : PoolBase} (hfull : record.Full)
    (hkey : row.key = record.key) :
    row.Equals record ↔ row.Has record ∧ row.lendTokenSymbol = record.lendTokenSymbol ∧
      row.borrowTokenSymbol = record.borrowTokenSymbol := by
  constructor
  · intro h
    obtain ⟨⟩ := row
    obtain ⟨⟩ := record
    simp only [PoolBase.Equals, PoolBase.mk.injEq] at h
    obtain ⟨rfl, rfl, rfl, rfl, rfl, rfl, rfl, rfl, rfl, rfl, rfl, rfl, rfl, rfl, rfl, rfl, rfl, rfl, rfl,
      -, -⟩ := h
    refine ⟨?_, rfl, rfl⟩
    simp only [PoolBase.Has, PoolBase.bare, PoolBase.updates, merge_self]
    rfl
  · rintro ⟨hhas, hlend, hborrow⟩
    obtain ⟨⟩ := row
    obtain ⟨⟩ := record
    simp only [PoolBase.Has, PoolBase.bare, PoolBase.updates, PoolBase.mk.injEq] at hhas
    obtain ⟨-, -, h₁, h₂, h₃, h₄, h₅, h₆, h₇, h₈, h₉, h₁₀, h₁₁, h₁₂, h₁₃, h₁₄, -, -, h₁₅, -, -⟩ := hhas
    obtain ⟨hchain, hpool⟩ := Prod.mk.inj hkey
    unfold PoolBase.Equals
    simp only [PoolBase.mk.injEq]
    exact ⟨hpool, hchain, eq_of_merge h₁ hfull.settleTime, eq_of_merge h₂ hfull.endTime,
      eq_of_merge h₃ hfull.interestRate, eq_of_merge h₄ hfull.maxSupply, eq_of_merge h₅ hfull.lendSupply,
      eq_of_merge h₆ hfull.borrowSupply, eq_of_merge h₇ hfull.martgageRate,
      eq_of_merge h₈ hfull.lendToken, eq_of_merge h₉ hfull.lendTokenInfo,
      eq_of_merge h₁₀ hfull.borrowToken, eq_of_merge h₁₁ hfull.borrowTokenInfo,
      eq_of_merge h₁₂ hfull.state, eq_of_merge h₁₃ hfull.spCoin, eq_of_merge h₁₄ hfull.jpCoin, hlend,
      hborrow, eq_of_merge h₁₅ hfull.autoLiquidateThreshold, trivial, trivial⟩

/-- The pool has a row, and its rows have the record. -/
structure Database.HasBase (db : Database) (key : Nat × Nat) (record : PoolBase) : Prop where
  stored : ∃ row ∈ db.poolbases, row.key = key
  rows : ∀ row ∈ db.poolbases, row.key = key → row.Has record

/-- The pool has a row, and its rows are the record but for the times. -/
structure Database.HasRecord (db : Database) (key : Nat × Nat) (record : PoolBase) : Prop where
  stored : ∃ row ∈ db.poolbases, row.key = key
  rows : ∀ row ∈ db.poolbases, row.key = key → row.Equals record

/-- The rows of the pool have these symbols. -/
def Database.HasSymbols (db : Database) (key : Nat × Nat) (lendSymbol borrowSymbol : String) : Prop :=
  ∀ row ∈ db.poolbases, row.key = key →
    row.lendTokenSymbol = lendSymbol ∧ row.borrowTokenSymbol = borrowSymbol

/-- The rows are the record when they have it, with its symbols. -/
theorem Database.hasRecord_iff {db : Database} {key : Nat × Nat} {record : PoolBase}
    (hfull : record.Full) (hkey : record.key = key) : db.HasRecord key record ↔
      db.HasBase key record ∧ db.HasSymbols key record.lendTokenSymbol record.borrowTokenSymbol := by
  constructor
  · intro h
    have hrow (row : PoolBase) (hrow : row ∈ db.poolbases) (hthis : row.key = key) :=
      (PoolBase.equals_iff hfull (hthis.trans hkey.symm)).mp (h.rows row hrow hthis)
    exact ⟨⟨h.stored, fun row hmem hthis => (hrow row hmem hthis).1⟩,
      fun row hmem hthis => (hrow row hmem hthis).2⟩
  · rintro ⟨hbase, hsymbols⟩
    refine ⟨hbase.stored, fun row hmem hthis => ?_⟩
    rw [PoolBase.equals_iff hfull (hthis.trans hkey.symm)]
    exact ⟨hbase.rows row hmem hthis, hsymbols row hmem hthis⟩

/-- A save of the record leaves its symbols in the columns, into which it puts those of `token_info`. -/
def Database.SavesSymbols [TokenCollation] (db : Database) (key : Nat × Nat) (record : PoolBase) :
    Prop :=
  (∀ row ∈ db.poolbases, row.key = key →
    merge row.lendTokenSymbol (db.symbolOf record.chainId record.lendToken) = record.lendTokenSymbol ∧
      merge row.borrowTokenSymbol (db.symbolOf record.chainId record.borrowToken) =
        record.borrowTokenSymbol) ∧
  ((∀ row ∈ db.poolbases, row.key ≠ key) →
    db.symbolOf record.chainId record.lendToken = record.lendTokenSymbol ∧
      db.symbolOf record.chainId record.borrowToken = record.borrowTokenSymbol)

/-- The pool has a row with amounts, and its rows have these. -/
structure Database.HasData (db : Database) (key : Nat × String) (info : DataInfo) : Prop where
  stored : ∃ row ∈ db.pooldata, row.key = key
  rows : ∀ row ∈ db.pooldata, row.key = key → row.Carries info

/-- The cached MD5 is that of a record which the rows have. -/
def BaseKept (enc : Encoding) (chainId i : Nat) (db : Database) : Prop :=
  ∀ record, db.cache (.baseInfo chainId (i + 1)) = some (enc.md5 record) →
    db.HasBase (chainId, i + 1) record

/-! ## One pool

A round concerns one pool. That two databases agree on a pool is a relation of its own, so that the
rounds for other pools, and the lookups of a round, can be passed over. -/

/-- Nothing happened to the pool. -/
structure Database.SamePool (chainId i : Nat) (db db' : Database) : Prop where
  base : db'.cache (.baseInfo chainId (i + 1)) = db.cache (.baseInfo chainId (i + 1))
  data : db'.cache (.dataInfo chainId (i + 1)) = db.cache (.dataInfo chainId (i + 1))
  baseRows : ∀ row : PoolBase, row.key = (chainId, i + 1) →
    (row ∈ db'.poolbases ↔ row ∈ db.poolbases)
  dataRows : ∀ row : PoolData, row.key = (chainId, toString (i + 1)) →
    (row ∈ db'.pooldata ↔ row ∈ db.pooldata)

section Same

variable {enc : Encoding} {chainId i : Nat} {db db' db'' : Database} {record : PoolBase}
  {info : DataInfo}

/-- Nothing happened. -/
theorem Database.SamePool.refl (chainId i : Nat) (db : Database) : db.SamePool chainId i db :=
  ⟨rfl, rfl, fun _ _ => Iff.rfl, fun _ _ => Iff.rfl⟩

/-- Nothing happened, twice. -/
theorem Database.SamePool.trans (h : db.SamePool chainId i db') (h' : db'.SamePool chainId i db'') :
    db.SamePool chainId i db'' where
  base := h'.base.trans h.base
  data := h'.data.trans h.data
  baseRows row hkey := (h'.baseRows row hkey).trans (h.baseRows row hkey)
  dataRows row hkey := (h'.dataRows row hkey).trans (h.dataRows row hkey)

/-! What is said of a pool above can be read off either of two databases that agree on it. -/

theorem Database.hasBase_same (hsame : db.SamePool chainId i db') :
    db'.HasBase (chainId, i + 1) record ↔ db.HasBase (chainId, i + 1) record := by
  constructor
  · intro h
    obtain ⟨row, hrow, hkey⟩ := h.stored
    exact ⟨⟨row, (hsame.baseRows row hkey).mp hrow, hkey⟩,
      fun row hrow hkey => h.rows row ((hsame.baseRows row hkey).mpr hrow) hkey⟩
  · intro h
    obtain ⟨row, hrow, hkey⟩ := h.stored
    exact ⟨⟨row, (hsame.baseRows row hkey).mpr hrow, hkey⟩,
      fun row hrow hkey => h.rows row ((hsame.baseRows row hkey).mp hrow) hkey⟩

theorem Database.hasSymbols_same (hsame : db.SamePool chainId i db') {lend borrow : String} :
    db'.HasSymbols (chainId, i + 1) lend borrow ↔ db.HasSymbols (chainId, i + 1) lend borrow := by
  constructor
  · intro h row hrow hkey
    exact h row ((hsame.baseRows row hkey).mpr hrow) hkey
  · intro h row hrow hkey
    exact h row ((hsame.baseRows row hkey).mp hrow) hkey

theorem Database.savesSymbols_same (hsame : db.SamePool chainId i db')
    (hsymbols : ∀ token, db'.symbolOf record.chainId token = db.symbolOf record.chainId token) :
    db'.SavesSymbols (chainId, i + 1) record ↔ db.SavesSymbols (chainId, i + 1) record := by
  have hrows {P : PoolBase → Prop} :
      (∀ row ∈ db'.poolbases, row.key = (chainId, i + 1) → P row) ↔
        ∀ row ∈ db.poolbases, row.key = (chainId, i + 1) → P row := by
    constructor
    · intro h row hrow hkey
      exact h row ((hsame.baseRows row hkey).mpr hrow) hkey
    · intro h row hrow hkey
      exact h row ((hsame.baseRows row hkey).mp hrow) hkey
  unfold Database.SavesSymbols
  simp only [hsymbols]
  exact and_congr hrows (imp_congr hrows Iff.rfl)

theorem Database.HasBase.same (h : db.HasBase (chainId, i + 1) record)
    (hsame : db.SamePool chainId i db') : db'.HasBase (chainId, i + 1) record :=
  (Database.hasBase_same hsame).mpr h

theorem Database.hasData_same (hsame : db.SamePool chainId i db') :
    db'.HasData (chainId, toString (i + 1)) info ↔ db.HasData (chainId, toString (i + 1)) info := by
  constructor
  · intro h
    obtain ⟨row, hrow, hkey⟩ := h.stored
    exact ⟨⟨row, (hsame.dataRows row hkey).mp hrow, hkey⟩,
      fun row hrow hkey => h.rows row ((hsame.dataRows row hkey).mpr hrow) hkey⟩
  · intro h
    obtain ⟨row, hrow, hkey⟩ := h.stored
    exact ⟨⟨row, (hsame.dataRows row hkey).mpr hrow, hkey⟩,
      fun row hrow hkey => h.rows row ((hsame.dataRows row hkey).mp hrow) hkey⟩

theorem BaseKept.same (h : BaseKept enc chainId i db) (hsame : db.SamePool chainId i db') :
    BaseKept enc chainId i db' := by
  intro record hcached
  rw [hsame.base] at hcached
  exact (h record hcached).same hsame

end Same

/-! ## A round

A round looks up the two tokens, builds the record, compares its MD5 with the cached one and saves
the record when they differ; then it does the same for the amounts, under a second key but with the
same MD5. `readBase` and `openRound` cut the round at the two comparisons. -/

section Round

variable {enc : Encoding} {pass : Pass} {chainId i j : Nat} {db : Database}

/-- `GetTokenInfo` may fill the cache of its token. -/
theorem getTokenInfo_db (token : String) (chainId : Nat) (db : Database) :
    ∃ tokenCache, (getTokenInfo token chainId db).2 = { db with tokenCache := tokenCache } := by
  unfold getTokenInfo
  split
  · exact ⟨db.tokenCache, rfl⟩
  · split
    · exact ⟨db.tokenCache, rfl⟩
    · exact ⟨_, rfl⟩

theorem tokenSymbol_db (fails : Bool) (token : String) (chainId : Nat) (db : Database) :
    ∃ tokenInfo, (tokenSymbol fails token chainId db).2 = { db with tokenInfo := tokenInfo } := by
  unfold tokenSymbol
  split
  · exact ⟨db.tokenInfo, rfl⟩
  · split
    · exact ⟨db.tokenInfo, rfl⟩
    · exact ⟨_, rfl⟩

/-- `SaveTokenInfo` may create rows for tokens. -/
theorem saveTokenInfo_db (fails : Write → Bool) (base : PoolBase) (db : Database) :
    ∃ tokenInfo, (saveTokenInfo fails base db).2 = { db with tokenInfo := tokenInfo } := by
  unfold saveTokenInfo
  obtain ⟨tokenInfo, hborrow⟩ :=
    tokenSymbol_db (fails .borrowToken) base.borrowToken base.chainId db
  generalize tokenSymbol (fails .borrowToken) base.borrowToken base.chainId db = r at hborrow ⊢
  obtain ⟨borrowSymbol | borrowSymbol, db₁⟩ := r
  · exact ⟨tokenInfo, hborrow⟩
  · obtain ⟨tokenInfo', hlend⟩ := tokenSymbol_db (fails .lendToken) base.lendToken base.chainId db₁
    dsimp only at hborrow ⊢
    generalize tokenSymbol (fails .lendToken) base.lendToken base.chainId db₁ = r at hlend ⊢
    obtain ⟨lendSymbol | lendSymbol, db₂⟩ := r
    all_goals
      refine ⟨tokenInfo', ?_⟩
      rw [hborrow] at hlend
      exact hlend

/-- The record that a round builds, with the database after the tokens were looked up. -/
def Pass.readBase [TokenCollation] (enc : Encoding) (pass : Pass) (chainId : Nat) (db : Database)
    (i : Nat) : Option (PoolBase × Database) :=
  match pass.poolBaseInfo i with
  | none => none
  | some baseInfo =>
      let (borrowToken, db) := getTokenInfo (enc.hex baseInfo.borrowToken) chainId db
      let (lendToken, db) := getTokenInfo (enc.hex baseInfo.lendToken) chainId db
      some (newPoolBase enc pass chainId (i + 1) baseInfo lendToken borrowToken, db)

/-- The record and the database when the round comes to the data information. -/
def Pass.openRound [TokenCollation] (enc : Encoding) (pass : Pass) (chainId : Nat) (db : Database)
    (i : Nat) : Option (PoolBase × Database) :=
  match pass.readBase enc chainId db i with
  | none => none
  | some (poolBase, db) => some (syncBase enc pass chainId i poolBase db)

/-- The round, cut at the comparisons. -/
theorem updatePool_eq [TokenCollation] (enc : Encoding) (pass : Pass) (chainId : Nat)
    (db : Database) (i : Nat) :
    updatePool enc pass chainId db i =
      match pass.openRound enc chainId db i with
      | none => db
      | some (poolBase, db) =>
          match pass.poolDataInfo i with
          | none => db
          | some dataInfo => syncData enc pass chainId i poolBase dataInfo db := by
  unfold updatePool Pass.openRound Pass.readBase
  cases pass.poolBaseInfo i <;> rfl

/-! ### Saves, which may fail -/

/-- What a save of a base record leaves alone. -/
structure SavedBase (chainId poolId : Nat) (poolBase : PoolBase) (db : Database)
    (saved : PoolBase × Database) : Prop where
  bare : saved.1.bare = poolBase.bare
  cache : saved.2.cache = db.cache
  pooldata : saved.2.pooldata = db.pooldata
  others : ∀ row : PoolBase, row.key ≠ (chainId, poolId) →
    (row ∈ saved.2.poolbases ↔ row ∈ db.poolbases)

/-- A write for one pool leaves the rows of others. -/
theorem updateBase_others {fails : Bool} {poolId : Nat} {poolBase row : PoolBase}
    (hrow : row.key ≠ (chainId, poolId)) :
    row ∈ (updateBase fails chainId poolId poolBase db).poolbases ↔ row ∈ db.poolbases := by
  cases fails with
  | true => exact Iff.rfl
  | false => exact mem_updates_other poolBase.updates_key hrow

/-- The same for amounts. -/
theorem updateData_others {fails : Bool} {text : String} {poolData row : PoolData}
    (hrow : row.key ≠ (chainId, text)) :
    row ∈ (updateData fails chainId text poolData db).pooldata ↔ row ∈ db.pooldata := by
  cases fails with
  | true => exact Iff.rfl
  | false => exact mem_updates_other (fun _ => rfl) hrow

/-- It is a write to its table only. -/
theorem updateBase_rest {fails : Bool} {poolId : Nat} {poolBase : PoolBase} :
    (updateBase fails chainId poolId poolBase db).cache = db.cache ∧
      (updateBase fails chainId poolId poolBase db).pooldata = db.pooldata := by
  cases fails <;> exact ⟨rfl, rfl⟩

/-- The same for amounts. -/
theorem updateData_rest {fails : Bool} {text : String} {poolData : PoolData} :
    (updateData fails chainId text poolData db).cache = db.cache ∧
      (updateData fails chainId text poolData db).poolbases = db.poolbases := by
  cases fails <;> exact ⟨rfl, rfl⟩

/-- A save of a base record, with or without failures. -/
theorem savePoolBase_saved (fails : Write → Bool) (now : String) {poolId : Nat}
    {poolBase : PoolBase} (hkey : poolBase.key = (chainId, poolId)) :
    SavedBase chainId poolId poolBase db
      (savePoolBase fails now chainId poolId poolBase db) := by
  obtain ⟨tokenInfo, htokens⟩ := saveTokenInfo_db fails poolBase db
  unfold savePoolBase
  generalize saveTokenInfo fails poolBase db = r at htokens ⊢
  obtain ⟨_ | ⟨borrowSymbol, lendSymbol⟩, db₁⟩ := r
  · obtain rfl : db₁ = _ := htokens
    exact ⟨rfl, rfl, rfl, fun _ _ => Iff.rfl⟩
  · obtain rfl : db₁ = _ := htokens
    dsimp only
    split
    · exact ⟨rfl, updateBase_rest.1, updateBase_rest.2, fun _ hrow => updateBase_others hrow⟩
    · split
      · exact ⟨rfl, rfl, rfl, fun _ _ => Iff.rfl⟩
      · refine ⟨rfl, updateBase_rest.1, updateBase_rest.2, ?_⟩
        intro row hrow
        rw [updateBase_others hrow]
        exact mem_append_other hkey hrow

/-- What a save of amounts leaves alone. -/
theorem savePoolData_others (fails : Write → Bool) (now : String) (db : Database) {text : String}
    {poolData : PoolData} (hkey : poolData.key = (chainId, text)) :
    (savePoolData fails now chainId text poolData db).cache = db.cache ∧
      (savePoolData fails now chainId text poolData db).poolbases = db.poolbases ∧
      ∀ row : PoolData, row.key ≠ (chainId, text) →
        (row ∈ (savePoolData fails now chainId text poolData db).pooldata ↔ row ∈ db.pooldata) := by
  unfold savePoolData
  dsimp only
  split
  · exact ⟨updateData_rest.1, updateData_rest.2, fun _ hrow => updateData_others hrow⟩
  · split
    · exact ⟨rfl, rfl, fun _ _ => Iff.rfl⟩
    · refine ⟨updateData_rest.1, updateData_rest.2, ?_⟩
      intro row hrow
      rw [updateData_others hrow]
      exact mem_append_other hkey hrow

/-! ### Other pools -/

/-- A lookup of a token is no concern of a pool. -/
theorem getTokenInfo_same (chainId i : Nat) (token : String) (db : Database) :
    db.SamePool chainId i (getTokenInfo token chainId db).2 := by
  obtain ⟨tokenCache, hdb⟩ := getTokenInfo_db token chainId db
  rw [hdb]
  exact ⟨rfl, rfl, fun _ _ => Iff.rfl, fun _ _ => Iff.rfl⟩

/-- The comparison of the base record, for another pool. -/
theorem syncBase_same (hother : j ≠ i) {poolBase : PoolBase}
    (hkey : poolBase.key = (chainId, j + 1)) :
    db.SamePool chainId i (syncBase enc pass chainId j poolBase db).2 := by
  by_cases hhit : db.cache (.baseInfo chainId (j + 1)) = some (enc.md5 poolBase)
  · simp only [syncBase, if_pos hhit]
    exact .refl chainId i db
  · simp only [syncBase, if_neg hhit]
    have hsaved : SavedBase chainId (j + 1) poolBase db
        (savePoolBase (pass.writeFails j) (pass.baseClock j) chainId (j + 1) poolBase db) :=
      savePoolBase_saved _ _ hkey
    have hbase : CacheKey.baseInfo chainId (i + 1) ≠ .baseInfo chainId (j + 1) := by
      intro heq
      cases heq
      exact hother rfl
    refine ⟨?_, ?_, ?_, ?_⟩
    · rw [Database.setCache_cache, if_neg hbase, hsaved.cache]
    · rw [Database.setCache_cache, if_neg CacheKey.noConfusion, hsaved.cache]
    · intro row hrow
      apply hsaved.others
      rw [hrow]
      intro heq
      cases heq
      exact hother rfl
    · intro row _
      show row ∈ (savePoolBase _ _ _ _ _ _).2.pooldata ↔ _
      rw [hsaved.pooldata]

/-- The comparison of the amounts, for another pool. -/
theorem syncData_same (hother : j ≠ i) (poolBase : PoolBase) (info : DataInfo) :
    db.SamePool chainId i (syncData enc pass chainId j poolBase info db) := by
  by_cases hhit : db.cache (.dataInfo chainId (j + 1)) = some (enc.md5 poolBase)
  · simp only [syncData, if_pos hhit]
    exact .refl chainId i db
  · simp only [syncData, if_neg hhit]
    have hkey : (newPoolData chainId (toString (j + 1)) info).key = (chainId, toString (j + 1)) :=
      rfl
    obtain ⟨hcache, hbases, hothers⟩ :=
      savePoolData_others (pass.writeFails j) (pass.dataClock j) db hkey
    have hdata : CacheKey.dataInfo chainId (i + 1) ≠ .dataInfo chainId (j + 1) := by
      intro heq
      cases heq
      exact hother rfl
    refine ⟨?_, ?_, ?_, ?_⟩
    · rw [Database.setCache_cache, if_neg CacheKey.noConfusion, hcache]
    · rw [Database.setCache_cache, if_neg hdata, hcache]
    · intro row _
      show row ∈ (savePoolData _ _ _ _ _ _).poolbases ↔ _
      rw [hbases]
    · intro row hrow
      apply hothers
      rw [hrow]
      intro heq
      have htext : toString (i + 1) = toString (j + 1) := congrArg Prod.snd heq
      rw [toString_inj] at htext
      exact hother (by omega)

/-- The record is about the pool, and the pool is not touched before it is compared. -/
theorem readBase_some {record : PoolBase} {db' : Database}
    (h : pass.readBase enc chainId db j = some (record, db')) :
    record.key = (chainId, j + 1) ∧ (∃ info, pass.poolBaseInfo j = some info ∧
      record.Carries enc info) ∧ ∀ i, db.SamePool chainId i db' := by
  unfold Pass.readBase at h
  cases hinfo : pass.poolBaseInfo j with
  | none =>
      rw [hinfo] at h
      cases h
  | some info =>
      rw [hinfo] at h
      dsimp only at h
      have hborrow := fun i => getTokenInfo_same chainId i (enc.hex info.borrowToken) db
      generalize getTokenInfo (enc.hex info.borrowToken) chainId db = r at h hborrow
      obtain ⟨borrowToken, db₁⟩ := r
      have hlend := fun i => getTokenInfo_same chainId i (enc.hex info.lendToken) db₁
      dsimp only at h hborrow
      generalize getTokenInfo (enc.hex info.lendToken) chainId db₁ = r at h hlend
      obtain ⟨lendToken, db₂⟩ := r
      obtain ⟨rfl, rfl⟩ := Prod.mk.inj (Option.some.inj h)
      exact ⟨rfl, ⟨info, rfl, newPoolBase_carries ..⟩, fun i => (hborrow i).trans (hlend i)⟩

/-- The lookups leave `token_info` alone. -/
theorem readBase_tokenInfo {record : PoolBase} {db' : Database}
    (h : pass.readBase enc chainId db j = some (record, db')) : db'.tokenInfo = db.tokenInfo := by
  unfold Pass.readBase at h
  cases hinfo : pass.poolBaseInfo j with
  | none =>
      rw [hinfo] at h
      cases h
  | some info =>
      rw [hinfo] at h
      dsimp only at h
      obtain ⟨cache₁, hborrow⟩ := getTokenInfo_db (enc.hex info.borrowToken) chainId db
      generalize getTokenInfo (enc.hex info.borrowToken) chainId db = r at h hborrow
      obtain ⟨borrowToken, db₁⟩ := r
      obtain rfl : db₁ = _ := hborrow
      obtain ⟨cache₂, hlend⟩ := getTokenInfo_db (enc.hex info.lendToken) chainId
        { db with tokenCache := cache₁ }
      dsimp only at h
      generalize getTokenInfo (enc.hex info.lendToken) chainId { db with tokenCache := cache₁ } = r
        at h hlend
      obtain ⟨lendToken, db₂⟩ := r
      obtain rfl : db₂ = _ := hlend
      obtain ⟨-, rfl⟩ := Prod.mk.inj (Option.some.inj h)
      rfl

/-- **Frame**: a round leaves other pools alone. -/
theorem updatePool_same (hother : j ≠ i) :
    db.SamePool chainId i (updatePool enc pass chainId db j) := by
  rw [updatePool_eq, Pass.openRound]
  cases hread : pass.readBase enc chainId db j with
  | none => exact .refl chainId i db
  | some opened =>
      obtain ⟨record, db₁⟩ := opened
      obtain ⟨hkey, -, hsame⟩ := readBase_some hread
      have hopen : db.SamePool chainId i (syncBase enc pass chainId j record db₁).2 :=
        (hsame i).trans (syncBase_same hother hkey)
      dsimp only
      cases pass.poolDataInfo j with
      | none => exact hopen
      | some data => exact hopen.trans (syncData_same hother _ data)

/-! ### The pool of the round -/

/-- A save without failures upserts what it makes of the record. -/
theorem savePoolBase_upserts {fails : Write → Bool} (hok : ∀ write, fails write = false)
    (now : String) {poolId : Nat} {poolBase : PoolBase} (hkey : poolBase.key = (chainId, poolId))
    (db : Database) :
    ∃ saved tokenInfo, saved.bare = poolBase.bare ∧ saved.key = (chainId, poolId) ∧
      (saved.lendTokenSymbol = db.symbolOf poolBase.chainId poolBase.lendToken ∧
        saved.borrowTokenSymbol = db.symbolOf poolBase.chainId poolBase.borrowToken) ∧
      savePoolBase fails now chainId poolId poolBase db = (saved, { db with
        tokenInfo := tokenInfo
        poolbases := upsert PoolBase.key (chainId, poolId) saved.updates saved db.poolbases }) := by
  obtain ⟨created, tokenInfo, hsave⟩ :=
    savePoolBase_saves hok now chainId poolId poolBase db
  refine ⟨_, tokenInfo, ?_, ?_, ⟨?_, ?_⟩, hsave⟩
  · rfl
  · exact hkey
  · rfl
  · rfl

/-- So does a save of amounts. -/
theorem savePoolData_upserts {fails : Write → Bool} (hok : ∀ write, fails write = false)
    (now text : String) (info : DataInfo) (db : Database) :
    ∃ saved : PoolData, saved.Carries info ∧ saved.key = (chainId, text) ∧
      savePoolData fails now chainId text (newPoolData chainId text info) db = { db with
        pooldata := upsert PoolData.key (chainId, text) saved.updates saved db.pooldata } := by
  obtain ⟨created, hsave⟩ :=
    savePoolData_saves hok now chainId text (newPoolData chainId text info) db
  refine ⟨_, ?_, ?_, hsave⟩
  · exact ⟨rfl, rfl, rfl, rfl, rfl, rfl⟩
  · rfl

/-- What is left when a base record is saved without failures. -/
theorem savePoolBase_has (db : Database) (hok : ∀ write, pass.writeFails i write = false)
    {record : PoolBase} (hkey : record.key = (chainId, i + 1)) :
    (savePoolBase (pass.writeFails i) (pass.baseClock i) chainId (i + 1) record db).2.HasBase
      (chainId, i + 1) record := by
  obtain ⟨saved, tokenInfo, hbare, hsaved, -, hsave⟩ :=
    savePoolBase_upserts hok (pass.baseClock i) hkey db
  rw [hsave]
  have hall : (∃ row ∈ upsert PoolBase.key (chainId, i + 1) saved.updates saved db.poolbases,
        row.key = (chainId, i + 1)) ∧
      ∀ row ∈ upsert PoolBase.key (chainId, i + 1) saved.updates saved db.poolbases,
        row.key = (chainId, i + 1) → row.Has record :=
    upsert_all saved.updates_key hsaved fun old => PoolBase.updates_has hbare old
  exact ⟨hall.1, hall.2⟩

/-- **The base record is there after the comparison**, unless its MD5 is cached and it was not there
before. -/
theorem syncBase_has_iff (enc : Encoding) (db : Database)
    (hok : ∀ write, pass.writeFails i write = false) {record : PoolBase}
    (hkey : record.key = (chainId, i + 1)) :
    (syncBase enc pass chainId i record db).2.HasBase (chainId, i + 1) record ↔
      (db.cache (.baseInfo chainId (i + 1)) = some (enc.md5 record) →
        db.HasBase (chainId, i + 1) record) := by
  by_cases hhit : db.cache (.baseInfo chainId (i + 1)) = some (enc.md5 record)
  · rw [imp_iff_right hhit]
    simp only [syncBase, if_pos hhit]
  · rw [iff_true_right fun hthis => absurd hthis hhit]
    simp only [syncBase, if_neg hhit]
    have hhas := savePoolBase_has db hok hkey
    exact ⟨hhas.stored, hhas.rows⟩

/-- **The symbols are in the columns after the comparison** when they were there, if the MD5 of the record
is cached, and else when a save leaves them. -/
theorem syncBase_symbols_iff (enc : Encoding) (db : Database)
    (hok : ∀ write, pass.writeFails i write = false) {record : PoolBase}
    (hkey : record.key = (chainId, i + 1)) :
    (syncBase enc pass chainId i record db).2.HasSymbols (chainId, i + 1) record.lendTokenSymbol
        record.borrowTokenSymbol ↔
      if db.cache (.baseInfo chainId (i + 1)) = some (enc.md5 record) then
        db.HasSymbols (chainId, i + 1) record.lendTokenSymbol record.borrowTokenSymbol
      else db.SavesSymbols (chainId, i + 1) record := by
  by_cases hhit : db.cache (.baseInfo chainId (i + 1)) = some (enc.md5 record)
  · simp only [syncBase, if_pos hhit]
  · simp only [syncBase, if_neg hhit]
    obtain ⟨saved, tokenInfo, -, hsaved, ⟨hlend, hborrow⟩, hsave⟩ :=
      savePoolBase_upserts hok (pass.baseClock i) hkey db
    rw [hsave]
    refine (forall_upsert saved.updates_key hsaved).trans ?_
    simp only [PoolBase.updates, merge_self, hlend, hborrow]
    rfl

/-- **After the base record is compared the rows have it.** -/
theorem syncBase_has (hmd5 : Function.Injective enc.md5)
    (hok : ∀ write, pass.writeFails i write = false) (h : BaseKept enc chainId i db)
    {record : PoolBase} (hkey : record.key = (chainId, i + 1)) :
    (syncBase enc pass chainId i record db).2.HasBase (chainId, i + 1) record ∧
      BaseKept enc chainId i (syncBase enc pass chainId i record db).2 := by
  have hhas := (syncBase_has_iff enc db hok hkey).mpr (h record)
  refine ⟨hhas, ?_⟩
  by_cases hhit : db.cache (.baseInfo chainId (i + 1)) = some (enc.md5 record)
  · simp only [syncBase, if_pos hhit]
    exact h
  · intro other hcached
    simp only [syncBase, if_neg hhit, Database.setCache_cache, if_pos, Option.some.injEq] at hcached
    rw [← hmd5 hcached]
    exact hhas

/-- The comparison of the base record leaves the amounts alone. -/
theorem syncBase_data (enc : Encoding) (pass : Pass) (db : Database) {record : PoolBase}
    (hkey : record.key = (chainId, i + 1)) :
    (syncBase enc pass chainId i record db).2.cache (.dataInfo chainId (i + 1)) =
        db.cache (.dataInfo chainId (i + 1)) ∧
      (syncBase enc pass chainId i record db).2.pooldata = db.pooldata := by
  by_cases hhit : db.cache (.baseInfo chainId (i + 1)) = some (enc.md5 record)
  · simp only [syncBase, if_pos hhit]
    trivial
  · simp only [syncBase, if_neg hhit]
    have hsaved : SavedBase chainId (i + 1) record db
        (savePoolBase (pass.writeFails i) (pass.baseClock i) chainId (i + 1) record db) :=
      savePoolBase_saved _ _ hkey
    refine ⟨?_, hsaved.pooldata⟩
    rw [Database.setCache_cache, if_neg CacheKey.noConfusion, hsaved.cache]

/-- **The amounts are there after the comparison**, unless the MD5 of the base record is cached for
them and they were not there before. -/
theorem syncData_has (hok : ∀ write, pass.writeFails i write = false) (record : PoolBase)
    (info : DataInfo) :
    (syncData enc pass chainId i record info db).HasData (chainId, toString (i + 1)) info ↔
      (db.cache (.dataInfo chainId (i + 1)) = some (enc.md5 record) →
        db.HasData (chainId, toString (i + 1)) info) := by
  by_cases hhit : db.cache (.dataInfo chainId (i + 1)) = some (enc.md5 record)
  · rw [imp_iff_right hhit]
    simp only [syncData, if_pos hhit]
  · rw [iff_true_right fun hthis => absurd hthis hhit]
    simp only [syncData, if_neg hhit]
    obtain ⟨saved, hcarries, hsaved, hsave⟩ :=
      savePoolData_upserts hok (pass.dataClock i) (toString (i + 1)) info db
    rw [hsave]
    have hall : (∃ row ∈ upsert PoolData.key (chainId, toString (i + 1)) saved.updates saved
          db.pooldata, row.key = (chainId, toString (i + 1))) ∧
        ∀ row ∈ upsert PoolData.key (chainId, toString (i + 1)) saved.updates saved db.pooldata,
          row.key = (chainId, toString (i + 1)) → row.Carries info :=
      upsert_all (fun _ => rfl) hsaved hcarries.updates
    exact ⟨hall.1, hall.2⟩

/-- The comparison of the amounts leaves the base record alone. -/
theorem syncData_base (enc : Encoding) (pass : Pass) (chainId i : Nat) (record : PoolBase)
    (info : DataInfo) (db : Database) :
    (syncData enc pass chainId i record info db).cache (.baseInfo chainId (i + 1)) =
        db.cache (.baseInfo chainId (i + 1)) ∧
      (syncData enc pass chainId i record info db).poolbases = db.poolbases := by
  by_cases hhit : db.cache (.dataInfo chainId (i + 1)) = some (enc.md5 record)
  · simp only [syncData, if_pos hhit]
    trivial
  · simp only [syncData, if_neg hhit]
    have hkey : (newPoolData chainId (toString (i + 1)) info).key = (chainId, toString (i + 1)) :=
      rfl
    obtain ⟨hcache, hbases, -⟩ :=
      savePoolData_others (pass.writeFails i) (pass.dataClock i) db hkey
    refine ⟨?_, hbases⟩
    rw [Database.setCache_cache, if_neg CacheKey.noConfusion, hcache]

/-- What was kept is kept where neither the MD5 nor the rows change. -/
theorem BaseKept.of_base {db' : Database} (h : BaseKept enc chainId i db)
    (hcache : db'.cache (.baseInfo chainId (i + 1)) = db.cache (.baseInfo chainId (i + 1)))
    (hbases : db'.poolbases = db.poolbases) : BaseKept enc chainId i db' := by
  intro record hcached
  rw [hcache] at hcached
  have hhas := h record hcached
  exact ⟨by rw [hbases]; exact hhas.stored, by rw [hbases]; exact hhas.rows⟩

/-- What is in the rows after the comparison stays for the rest of the round. -/
theorem updatePool_base {record : PoolBase} {db₁ : Database}
    (hread : pass.readBase enc chainId db i = some (record, db₁)) :
    (updatePool enc pass chainId db i).cache (.baseInfo chainId (i + 1)) =
        (syncBase enc pass chainId i record db₁).2.cache (.baseInfo chainId (i + 1)) ∧
      (updatePool enc pass chainId db i).poolbases =
        (syncBase enc pass chainId i record db₁).2.poolbases := by
  rw [updatePool_eq, Pass.openRound, hread]
  dsimp only
  cases pass.poolDataInfo i with
  | none => exact ⟨rfl, rfl⟩
  | some data => exact syncData_base enc pass chainId i _ data _

/-- **The base record is there after a round**, unless the round takes it for known and it is not
there. -/
theorem updatePool_has_iff (hok : ∀ write, pass.writeFails i write = false) {record : PoolBase}
    {db₁ : Database} (hread : pass.readBase enc chainId db i = some (record, db₁)) :
    (updatePool enc pass chainId db i).HasBase (chainId, i + 1) record ↔
      (db.cache (.baseInfo chainId (i + 1)) = some (enc.md5 record) →
        db.HasBase (chainId, i + 1) record) := by
  obtain ⟨hkey, -, hsame⟩ := readBase_some hread
  obtain ⟨-, hbases⟩ := updatePool_base hread
  have hrows : (updatePool enc pass chainId db i).HasBase (chainId, i + 1) record ↔
      (syncBase enc pass chainId i record db₁).2.HasBase (chainId, i + 1) record := by
    constructor
    · intro hhas
      exact ⟨hbases ▸ hhas.stored, hbases ▸ hhas.rows⟩
    · intro hhas
      exact ⟨hbases ▸ hhas.stored, hbases ▸ hhas.rows⟩
  rw [hrows, syncBase_has_iff enc db₁ hok hkey, (hsame i).base, Database.hasBase_same (hsame i)]

/-- **The symbols are in the columns after a round** in the same cases. -/
theorem updatePool_symbols_iff (hok : ∀ write, pass.writeFails i write = false) {record : PoolBase}
    {db₁ : Database} (hread : pass.readBase enc chainId db i = some (record, db₁)) :
    (updatePool enc pass chainId db i).HasSymbols (chainId, i + 1) record.lendTokenSymbol
        record.borrowTokenSymbol ↔
      if db.cache (.baseInfo chainId (i + 1)) = some (enc.md5 record) then
        db.HasSymbols (chainId, i + 1) record.lendTokenSymbol record.borrowTokenSymbol
      else db.SavesSymbols (chainId, i + 1) record := by
  obtain ⟨hkey, -, hsame⟩ := readBase_some hread
  obtain ⟨-, hbases⟩ := updatePool_base hread
  have hrows : (updatePool enc pass chainId db i).HasSymbols (chainId, i + 1) record.lendTokenSymbol
        record.borrowTokenSymbol ↔
      (syncBase enc pass chainId i record db₁).2.HasSymbols (chainId, i + 1) record.lendTokenSymbol
        record.borrowTokenSymbol := by
    unfold Database.HasSymbols
    rw [hbases]
  have htable : db₁.tokenInfo = db.tokenInfo := readBase_tokenInfo hread
  rw [hrows, syncBase_symbols_iff enc db₁ hok hkey, (hsame i).base, Database.hasSymbols_same (hsame i),
    Database.savesSymbols_same (hsame i)]
  intro token
  unfold Database.symbolOf
  rw [htable]

/-- **After a round the rows have the record that it built.** -/
theorem updatePool_has (hmd5 : Function.Injective enc.md5)
    (hok : ∀ write, pass.writeFails i write = false) (h : BaseKept enc chainId i db)
    {record : PoolBase} {db₁ : Database}
    (hread : pass.readBase enc chainId db i = some (record, db₁)) :
    (updatePool enc pass chainId db i).HasBase (chainId, i + 1) record ∧
      BaseKept enc chainId i (updatePool enc pass chainId db i) := by
  obtain ⟨hkey, -, hsame⟩ := readBase_some hread
  obtain ⟨hcache, hbases⟩ := updatePool_base hread
  refine ⟨(updatePool_has_iff hok hread).mpr (h record), ?_⟩
  exact (syncBase_has hmd5 hok (h.same (hsame i)) hkey).2.of_base hcache hbases

/-- A round keeps the base record, its own when no write fails and that of another pool in any case.
-/
theorem updatePool_kept (hmd5 : Function.Injective enc.md5)
    (hok : j = i → ∀ write, pass.writeFails i write = false) (h : BaseKept enc chainId i db) :
    BaseKept enc chainId i (updatePool enc pass chainId db j) := by
  by_cases hthis : j = i
  · subst hthis
    cases hread : pass.readBase enc chainId db j with
    | none =>
        rw [updatePool_eq, Pass.openRound, hread]
        exact h
    | some opened => exact (updatePool_has hmd5 (hok rfl) h hread).2
  · exact h.same (updatePool_same hthis)

/-- **The amounts are there after a round**, unless it takes them for known and they are not
there. -/
theorem updatePool_data (hok : ∀ write, pass.writeFails i write = false) {record : PoolBase}
    {db₁ : Database} (hopen : pass.openRound enc chainId db i = some (record, db₁))
    {data : DataInfo} (hdata : pass.poolDataInfo i = some data) :
    (updatePool enc pass chainId db i).HasData (chainId, toString (i + 1)) data ↔
      (db.cache (.dataInfo chainId (i + 1)) = some (enc.md5 record) →
        db.HasData (chainId, toString (i + 1)) data) := by
  rw [updatePool_eq, hopen, hdata]
  dsimp only
  rw [syncData_has hok]
  -- up to the comparison nothing has happened to the amounts
  unfold Pass.openRound at hopen
  cases hread : pass.readBase enc chainId db i with
  | none =>
      rw [hread] at hopen
      cases hopen
  | some opened =>
      obtain ⟨new, db₂⟩ := opened
      rw [hread] at hopen
      obtain ⟨hkey, -, hsame⟩ := readBase_some hread
      obtain ⟨hcache, hpooldata⟩ := syncBase_data enc pass db₂ hkey
      rw [Option.some.inj hopen] at hcache hpooldata
      have hrows : db₁.HasData (chainId, toString (i + 1)) data ↔
          db₂.HasData (chainId, toString (i + 1)) data := by
        constructor
        · intro hhas
          exact ⟨hpooldata ▸ hhas.stored, hpooldata ▸ hhas.rows⟩
        · intro hhas
          exact ⟨hpooldata ▸ hhas.stored, hpooldata ▸ hhas.rows⟩
      rw [hcache, hrows, (hsame i).data, Database.hasData_same (hsame i)]

end Round

/-! ## A pass

A pass is one round after the other, so what a pool has after the pass is what its own round left,
from the database in which that round began. -/

/-- The database when round `i` begins. -/
def Pass.before [TokenCollation] (enc : Encoding) (chainId : Nat) (pass : Pass) (db : Database)
    (i : Nat) : Database :=
  (List.range i).foldl (updatePool enc pass chainId) db

section Pass

variable {enc : Encoding} {pass : Pass} {chainId i : Nat} {db : Database}

/-- Rounds for other pools leave a pool alone. -/
theorem rounds_same {js : List Nat} (hothers : ∀ j ∈ js, j ≠ i) (db : Database) :
    db.SamePool chainId i (js.foldl (updatePool enc pass chainId) db) := by
  induction js generalizing db with
  | nil => exact .refl chainId i db
  | cons j js ih =>
      rw [List.forall_mem_cons] at hothers
      exact (updatePool_same hothers.1).trans (ih hothers.2 _)

/-- So do the rounds before its own. -/
theorem before_same (i : Nat) (db : Database) :
    db.SamePool chainId i (pass.before enc chainId db i) :=
  rounds_same (fun _ hj => Nat.ne_of_lt (List.mem_range.mp hj)) db

/-- The rounds before and after the round for a pool. -/
theorem Pass.indices_split (hi : i ∈ pass.indices) :
    ∃ js, (∀ j ∈ js, j ≠ i) ∧ pass.indices = List.range i ++ i :: js := by
  obtain ⟨n, hindices⟩ : ∃ n, pass.indices = List.range n := by
    unfold Pass.indices
    cases pass.poolLength with
    | none => exact ⟨0, rfl⟩
    | some pLength => exact ⟨_, rfl⟩
  rw [hindices, List.mem_range] at hi
  obtain ⟨k, rfl⟩ := Nat.exists_eq_add_of_lt hi
  refine ⟨(List.range k).map (i + 1 + ·), ?_, ?_⟩
  · intro j hj
    obtain ⟨m, -, rfl⟩ := List.mem_map.mp hj
    omega
  · rw [hindices, Nat.add_assoc, Nat.add_comm k 1, ← Nat.add_assoc, List.range_add, List.range_succ,
      List.append_assoc, List.singleton_append]

/-- After its own round nothing happens to a pool. -/
theorem updatePoolInfo_same (hi : i ∈ pass.indices) (db : Database) :
    (updatePool enc pass chainId (pass.before enc chainId db i) i).SamePool chainId i
      (updatePoolInfo enc chainId pass db) := by
  obtain ⟨js, hothers, hindices⟩ := Pass.indices_split hi
  rw [updatePoolInfo_eq, hindices, List.foldl_append, List.foldl_cons]
  exact rounds_same hothers _

end Pass

end Pledge.Backend
