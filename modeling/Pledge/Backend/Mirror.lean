import Pledge.Backend.PoolService
import Pledge.Contract.Standard

/-!
# What the sync job leaves in the tables

`Reflects B D db` relates the database to the answers that were read: every row of `poolbases` carries
an answer about the pool whose identifier is one less than its `pool_id`, identifiers are unique, and
every pool that was read has a row. A round keeps this (`updatePool_reflects`), and so does a pass.

Since the contract has no pool 0, a `pool_id` in the table is at least 2, and the table mirrors the
contract only where there is nothing to mirror (`updatePoolInfo_mirrors`).
-/

namespace Pledge.Backend

open Pledge.Contract Pledge.Store

variable {enc : Encoding} {pass : Pass} {chainId poolId i : Nat} {db : Database}

/-! ## One save

A save looks for the row, creates or updates it, and fills in the symbols, which it asks of
`token_info`. -/

/-- The symbol that `token_info` has for the token, if any. -/
def Database.symbolOf [TokenCollation] (db : Database) (chainId : Nat) (token : String) : String :=
  match first TokenInfo.place (chainId, TokenCollation.fold token) db.tokenInfo with
  | some row => row.symbol
  | none => ""

/-- A row that is created has no symbol, so nothing changes for any token. -/
theorem tokenSymbol_saves [TokenCollation] (token : String) (chainId : Nat) (db : Database) :
    ∃ tokenInfo, tokenSymbol false token chainId db =
        (some (db.symbolOf chainId token), { db with tokenInfo := tokenInfo }) ∧
      ∀ token', Database.symbolOf { db with tokenInfo := tokenInfo } chainId token' =
        db.symbolOf chainId token' := by
  unfold tokenSymbol Database.symbolOf
  cases hfirst : first TokenInfo.place (chainId, TokenCollation.fold token) db.tokenInfo with
  | some row => exact ⟨db.tokenInfo, rfl, fun _ => rfl⟩
  | none =>
      refine ⟨_, rfl, fun token' => ?_⟩
      dsimp only
      rw [first_append]
      cases hother : first TokenInfo.place (chainId, TokenCollation.fold token') db.tokenInfo with
      | some row => rfl
      | none =>
          by_cases htoken : TokenInfo.place { token := token, chainId := chainId } =
              (chainId, TokenCollation.fold token')
          · rw [first_single, if_pos htoken]
            rfl
          · rw [first_single, if_neg htoken]
            rfl

/-- **A save without failures** upserts the record, stamped and with the symbols of `token_info`. -/
theorem savePoolBase_saves [TokenCollation] {fails : Write → Bool}
    (hok : ∀ write, fails write = false) (now : String) (chainId poolId : Nat) (poolBase : PoolBase)
    (db : Database) :
    ∃ created tokenInfo,
      let saved := { poolBase with
        lendTokenSymbol := db.symbolOf poolBase.chainId poolBase.lendToken
        borrowTokenSymbol := db.symbolOf poolBase.chainId poolBase.borrowToken
        createdAt := created
        updatedAt := now }
      savePoolBase fails now chainId poolId poolBase db =
        (saved, { db with
          tokenInfo := tokenInfo
          poolbases := upsert PoolBase.key (chainId, poolId) saved.updates saved db.poolbases }) := by
  obtain ⟨tokenInfo₁, hborrow, hsymbols⟩ :=
    tokenSymbol_saves poolBase.borrowToken poolBase.chainId db
  obtain ⟨tokenInfo₂, hlend, -⟩ :=
    tokenSymbol_saves poolBase.lendToken poolBase.chainId { db with tokenInfo := tokenInfo₁ }
  rw [hsymbols] at hlend
  have htokens : saveTokenInfo fails poolBase db =
      (some (db.symbolOf poolBase.chainId poolBase.borrowToken,
        db.symbolOf poolBase.chainId poolBase.lendToken), { db with tokenInfo := tokenInfo₂ }) := by
    simp only [saveTokenInfo, hok, hborrow, hlend]
  unfold savePoolBase
  rw [htokens]
  simp only [hok, updateBase, Bool.false_eq_true, if_false]
  cases hfirst : first PoolBase.key (chainId, poolId) db.poolbases with
  | some old =>
      refine ⟨poolBase.createdAt, tokenInfo₂, ?_⟩
      simp only [upsert, hfirst]
  | none =>
      refine ⟨now, tokenInfo₂, ?_⟩
      simp only [upsert, hfirst]

theorem savePoolData_saves {fails : Write → Bool} (hok : ∀ write, fails write = false)
    (now : String) (chainId : Nat) (text : String) (poolData : PoolData) (db : Database) :
    ∃ created,
      let saved := { poolData with createdAt := created, updatedAt := now }
      savePoolData fails now chainId text poolData db =
        { db with
          pooldata := upsert PoolData.key (chainId, text) saved.updates saved db.pooldata } := by
  unfold savePoolData
  simp only [hok, updateData, Bool.false_eq_true, if_false]
  cases hfirst : first PoolData.key (chainId, text) db.pooldata with
  | some old =>
      refine ⟨poolData.createdAt, ?_⟩
      simp only [upsert, hfirst]
  | none =>
      refine ⟨now, ?_⟩
      simp only [upsert, hfirst]

/-! ## The invariant

`B` and `D` are the answers so far. The invariant is about the tables alone, whatever is cached for
the amounts: a record that is found in the cache adds nothing, and a record that is saved adds its
answer. -/

/-- The tables hold nothing but the answers `B` about base and `D` about data information, each under
the identifier plus one, and a row for every base answer. -/
structure Reflects (enc : Encoding) (chainId : Nat) (B : Nat → BaseInfo → Prop)
    (D : Nat → DataInfo → Prop) (db : Database) : Prop where
  base : ∀ row ∈ db.poolbases, ∃ i info, B i info ∧ row.key = (chainId, i + 1) ∧ row.Carries enc info
  data : ∀ row ∈ db.pooldata, ∃ i info, D i info ∧ row.key = (chainId, toString (i + 1)) ∧
    row.Carries info
  unique : (db.poolbases.map PoolBase.key).Nodup
  complete : ∀ i info, B i info → (chainId, i + 1) ∈ db.poolbases.map PoolBase.key
  cached : ∀ poolId md5, db.cache (.baseInfo chainId poolId) = some md5 →
    (chainId, poolId) ∈ db.poolbases.map PoolBase.key

/-- Nothing was read and nothing is stored. -/
theorem Reflects.empty : Reflects enc chainId (fun _ _ => False) (fun _ _ => False) {} where
  base _ hrow := absurd hrow List.not_mem_nil
  data _ hrow := absurd hrow List.not_mem_nil
  unique := List.nodup_nil
  complete _ _ h := h.elim
  cached _ _ h := by cases h

section Reflects

variable {B B' : Nat → BaseInfo → Prop} {D D' : Nat → DataInfo → Prop}

theorem Reflects.of_iff (h : Reflects enc chainId B D db) (hB : ∀ i info, B' i info ↔ B i info)
    (hD : ∀ i info, D' i info ↔ D i info) : Reflects enc chainId B' D' db := by
  obtain rfl : B' = B := by
    funext i info
    exact propext (hB i info)
  obtain rfl : D' = D := by
    funext i info
    exact propext (hD i info)
  exact h

/-- The token tables do not matter, nor do the cached data records. -/
theorem Reflects.of_same (h : Reflects enc chainId B D db) {db' : Database}
    (hbases : db'.poolbases = db.poolbases) (hdata : db'.pooldata = db.pooldata)
    (hcache : ∀ poolId md5, db'.cache (.baseInfo chainId poolId) = some md5 →
      db.cache (.baseInfo chainId poolId) = some md5) : Reflects enc chainId B D db' where
  base := by
    rw [hbases]
    exact h.base
  data := by
    rw [hdata]
    exact h.data
  unique := by
    rw [hbases]
    exact h.unique
  complete := by
    rw [hbases]
    exact h.complete
  cached poolId md5 hmd5 := by
    rw [hbases]
    exact h.cached poolId md5 (hcache poolId md5 hmd5)

theorem getTokenInfo_reflects (token : String) (h : Reflects enc chainId B D db) :
    Reflects enc chainId B D (getTokenInfo token chainId db).2 := by
  unfold getTokenInfo
  split
  · exact h
  · split
    · exact h
    · exact h.of_same rfl rfl fun _ _ hmd5 => hmd5

/-- A base record is upserted under the identifier plus one. -/
theorem Reflects.upsertBase (h : Reflects enc chainId B D db) {saved : PoolBase} {info : BaseInfo}
    {tokenInfo : List TokenInfo} {md5 : String} (hkey : saved.key = (chainId, i + 1))
    (hcarries : saved.Carries enc info) :
    Reflects enc chainId (fun j answer => B j answer ∨ j = i ∧ answer = info) D
      ({ db with
          tokenInfo := tokenInfo
          poolbases := upsert PoolBase.key (chainId, i + 1) saved.updates saved db.poolbases }.setCache
        (.baseInfo chainId (i + 1)) md5) where
  base row hrow := by
    rcases mem_upsert hrow with ⟨hold, -⟩ | ⟨old, -, hk, rfl⟩ | ⟨-, hne⟩ | ⟨rfl, hk⟩
    · obtain ⟨j, answer, hread, hrest⟩ := h.base row hold
      exact ⟨j, answer, .inl hread, hrest⟩
    · exact ⟨i, info, .inr ⟨rfl, rfl⟩, hk, hcarries.updates old⟩
    · exact absurd hkey hne
    · exact ⟨i, info, .inr ⟨rfl, rfl⟩, hk, hcarries.updates saved⟩
  data := h.data
  unique := upsert_nodup saved.updates_key hkey h.unique
  complete j answer := by
    rintro (hread | ⟨rfl, rfl⟩)
    · exact (keys_upsert saved.updates_key hkey).mpr (.inr (h.complete j answer hread))
    · exact (keys_upsert saved.updates_key hkey).mpr (.inl rfl)
  cached poolId md5' hmd5 := by
    apply (keys_upsert saved.updates_key hkey).mpr
    -- the key that was just cached has the row that was just written
    by_cases hsame : poolId = i + 1
    · rw [hsame]
      exact .inl rfl
    · right
      apply h.cached poolId md5'
      have hne : CacheKey.baseInfo chainId poolId ≠ .baseInfo chainId (i + 1) := by
        intro heq
        cases heq
        exact hsame rfl
      rw [Database.setCache_cache, if_neg hne] at hmd5
      exact hmd5

/-- A data record is upserted under the identifier plus one. -/
theorem Reflects.upsertData (h : Reflects enc chainId B D db) {saved : PoolData} {info : DataInfo}
    {md5 : String} (hkey : saved.key = (chainId, toString (i + 1))) (hcarries : saved.Carries info) :
    Reflects enc chainId B (fun j answer => D j answer ∨ j = i ∧ answer = info)
      ({ db with
          pooldata := upsert PoolData.key (chainId, toString (i + 1)) saved.updates saved
            db.pooldata }.setCache (.dataInfo chainId (i + 1)) md5) where
  base := h.base
  data row hrow := by
    rcases mem_upsert hrow with ⟨hold, -⟩ | ⟨old, -, hk, rfl⟩ | ⟨-, hne⟩ | ⟨rfl, hk⟩
    · obtain ⟨j, answer, hread, hrest⟩ := h.data row hold
      exact ⟨j, answer, .inl hread, hrest⟩
    · exact ⟨i, info, .inr ⟨rfl, rfl⟩, hk, hcarries.updates old⟩
    · exact absurd hkey hne
    · exact ⟨i, info, .inr ⟨rfl, rfl⟩, hk, hcarries.updates saved⟩
  unique := h.unique
  complete := h.complete
  cached poolId md5' hmd5 := by
    apply h.cached poolId md5'
    have hne : CacheKey.baseInfo chainId poolId ≠ .dataInfo chainId (i + 1) := by
      intro heq
      cases heq
    rw [Database.setCache_cache, if_neg hne] at hmd5
    exact hmd5

/-- A record whose MD5 is cached has its row already. -/
theorem Reflects.readAgain (h : Reflects enc chainId B D db) {info : BaseInfo} {md5 : String}
    (hhit : db.cache (.baseInfo chainId (i + 1)) = some md5) :
    Reflects enc chainId (fun j answer => B j answer ∨ j = i ∧ answer = info) D db where
  base row hrow := by
    obtain ⟨j, answer, hread, hrest⟩ := h.base row hrow
    exact ⟨j, answer, .inl hread, hrest⟩
  data := h.data
  unique := h.unique
  complete j answer := by
    rintro (hread | ⟨rfl, rfl⟩)
    · exact h.complete j answer hread
    · exact h.cached _ _ hhit
  cached := h.cached

/-- More data answers may have been read than are stored. -/
theorem Reflects.mono_data (h : Reflects enc chainId B D db) (hD : ∀ i info, D i info → D' i info) :
    Reflects enc chainId B D' db where
  base := h.base
  data row hrow := by
    obtain ⟨j, answer, hread, hrest⟩ := h.data row hrow
    exact ⟨j, answer, hD j answer hread, hrest⟩
  unique := h.unique
  complete := h.complete
  cached := h.cached

/-! ## One round

A round reads the base record of a pool, saves it or finds it again, and then the same for the
amounts. It changes the tables by two upserts at most, so the two lemmas about upserts carry it. -/

theorem newPoolBase_carries (enc : Encoding) (pass : Pass) (chainId poolId : Nat) (info : BaseInfo)
    (lendToken borrowToken : TokenInfo) :
    (newPoolBase enc pass chainId poolId info lendToken borrowToken).Carries enc info where
  settleTime := rfl
  endTime := rfl
  interestRate := rfl
  maxSupply := rfl
  lendSupply := rfl
  borrowSupply := rfl
  martgageRate := rfl
  lendToken := rfl
  borrowToken := rfl
  state := rfl
  spCoin := rfl
  jpCoin := rfl
  autoLiquidateThreshold := rfl

theorem syncBase_reflects (hok : ∀ i write, pass.writeFails i write = false)
    (h : Reflects enc chainId B D db) {poolBase : PoolBase} {info : BaseInfo}
    (hkey : poolBase.key = (chainId, i + 1)) (hcarries : poolBase.Carries enc info) :
    Reflects enc chainId (fun j answer => B j answer ∨ j = i ∧ answer = info) D
      (syncBase enc pass chainId i poolBase db).2 := by
  by_cases hhit : db.cache (.baseInfo chainId (i + 1)) = some (enc.md5 poolBase)
  · simp only [syncBase, if_pos hhit]
    exact h.readAgain hhit
  · simp only [syncBase, if_neg hhit]
    obtain ⟨created, tokenInfo, hsave⟩ :=
      savePoolBase_saves (hok i) (pass.baseClock i) chainId (i + 1) poolBase db
    rw [hsave]
    exact h.upsertBase hkey { hcarries with }

theorem syncData_reflects (hok : ∀ i write, pass.writeFails i write = false)
    (h : Reflects enc chainId B D db) (poolBase : PoolBase) (info : DataInfo) :
    Reflects enc chainId B (fun j answer => D j answer ∨ j = i ∧ answer = info)
      (syncData enc pass chainId i poolBase info db) := by
  by_cases hhit : db.cache (.dataInfo chainId (i + 1)) = some (enc.md5 poolBase)
  · simp only [syncData, if_pos hhit]
    exact h.mono_data fun _ _ => .inl
  · simp only [syncData, if_neg hhit]
    obtain ⟨created, hsave⟩ := savePoolData_saves (hok i) (pass.dataClock i) chainId (toString (i + 1))
      (newPoolData chainId (toString (i + 1)) info) db
    rw [hsave]
    exact h.upsertData rfl ⟨rfl, rfl, rfl, rfl, rfl, rfl⟩

/-- **A round** adds what it reads, and nothing when it reads nothing. -/
theorem updatePool_reflects (hok : ∀ i write, pass.writeFails i write = false)
    (h : Reflects enc chainId B D db) (i : Nat) :
    Reflects enc chainId (fun j answer => B j answer ∨ j = i ∧ pass.poolBaseInfo i = some answer)
      (fun j answer => D j answer ∨ j = i ∧ pass.poolDataInfo i = some answer)
      (updatePool enc pass chainId db i) := by
  unfold updatePool
  cases hbase : pass.poolBaseInfo i with
  | none =>
      refine (h.mono_data fun _ _ => .inl).of_iff ?_ fun _ _ => Iff.rfl
      intro j answer
      simp
  | some info =>
      -- the two token lookups may fill their cache; then base and data are saved in turn
      have hborrow := getTokenInfo_reflects (enc.hex info.borrowToken) h
      dsimp only
      generalize getTokenInfo (enc.hex info.borrowToken) chainId db = r at hborrow ⊢
      obtain ⟨borrowToken, db₁⟩ := r
      have hlend := getTokenInfo_reflects (enc.hex info.lendToken) hborrow
      generalize getTokenInfo (enc.hex info.lendToken) chainId db₁ = r at hlend ⊢
      obtain ⟨lendToken, db₂⟩ := r
      have hcarries := newPoolBase_carries enc pass chainId (i + 1) info lendToken borrowToken
      have hread := syncBase_reflects hok hlend rfl hcarries
      have hanswer : ∀ j answer, (B j answer ∨ j = i ∧ some info = some answer) ↔
          (B j answer ∨ j = i ∧ answer = info) := by
        intro j answer
        rw [Option.some.injEq, eq_comm (a := info)]
      cases hdata : pass.poolDataInfo i with
      | none =>
          refine hread.of_iff hanswer ?_
          intro j answer
          simp
      | some data =>
          refine (syncData_reflects hok hread _ data).of_iff hanswer ?_
          intro j answer
          rw [Option.some.injEq, eq_comm (a := data)]

/-! ## A pass

The rounds of a pass follow one another, and what is read in all of them is what is read in the
first and in the others. -/

/-- What a list of rounds reads is what its first round reads and what the others read. -/
theorem read_cons {α : Type} (ask : Nat → Option α) (i j : Nat) (indices : List Nat) (answer : α) :
    j ∈ i :: indices ∧ ask j = some answer ↔
      (j = i ∧ ask i = some answer) ∨ (j ∈ indices ∧ ask j = some answer) := by
  rw [List.mem_cons, or_and_right]
  apply or_congr_left
  constructor
  · rintro ⟨rfl, hread⟩
    exact ⟨rfl, hread⟩
  · rintro ⟨rfl, hread⟩
    exact ⟨rfl, hread⟩

/-- The rounds of a pass. -/
theorem rounds_reflect (hok : ∀ i write, pass.writeFails i write = false) (indices : List Nat)
    (h : Reflects enc chainId B D db) :
    Reflects enc chainId (fun j answer => B j answer ∨ j ∈ indices ∧ pass.poolBaseInfo j = some answer)
      (fun j answer => D j answer ∨ j ∈ indices ∧ pass.poolDataInfo j = some answer)
      (indices.foldl (updatePool enc pass chainId) db) := by
  -- each round adds to what was read, so the induction is for any answers read before
  induction indices generalizing B D db with
  | nil =>
      apply h.of_iff <;> intro j answer <;> simp
  | cons i indices ih =>
      apply (ih (updatePool_reflects hok h i)).of_iff
      · intro j answer
        rw [or_assoc, read_cons]
      · intro j answer
        rw [or_assoc, read_cons]

end Reflects

/-- The indices a pass goes through. -/
def Pass.indices (pass : Pass) : List Nat :=
  match pass.poolLength with
  | none => []
  | some pLength => loopIndices pLength

/-- The pass asks for the base information of `i` and gets this answer. -/
def Pass.ReadsBase (pass : Pass) (i : Nat) (info : BaseInfo) : Prop :=
  i ∈ pass.indices ∧ pass.poolBaseInfo i = some info

/-- An answer about the data information of `i` that the pass gets if it asks. -/
def Pass.ReadsData (pass : Pass) (i : Nat) (info : DataInfo) : Prop :=
  i ∈ pass.indices ∧ pass.poolDataInfo i = some info

theorem updatePoolInfo_eq (db : Database) :
    updatePoolInfo enc chainId pass db = pass.indices.foldl (updatePool enc pass chainId) db := by
  unfold updatePoolInfo Pass.indices
  cases pass.poolLength <;> rfl

/-- **A pass** adds what it reads. -/
theorem updatePoolInfo_reflects (hok : ∀ i write, pass.writeFails i write = false)
    {B : Nat → BaseInfo → Prop} {D : Nat → DataInfo → Prop} (h : Reflects enc chainId B D db) :
    Reflects enc chainId (fun i info => B i info ∨ pass.ReadsBase i info)
      (fun i info => D i info ∨ pass.ReadsData i info) (updatePoolInfo enc chainId pass db) := by
  rw [updatePoolInfo_eq]
  exact rounds_reflect hok pass.indices h

/-- An answer comes from a pool of the contract. -/
theorem Pass.poolBaseInfo_some {info : BaseInfo} (h : pass.poolBaseInfo i = some info) :
    (pass.baseAt i).store.Exists i ∧ info = ((pass.baseAt i).store.pools i).baseInfo := by
  unfold Pass.poolBaseInfo at h
  split at h
  · cases h
  · exact answer_poolBaseInfo.mp h

/-- **There is no pool 0 to read.** -/
theorem Pass.ReadsBase.pos {info : BaseInfo} (h : pass.ReadsBase i info) : 0 < i :=
  (Pass.poolBaseInfo_some h.2).1.1

/-! ## The contract and its mirror

With the contract for the answers, everything that was read is of one state. What is left to compare
is the identifiers, and these are off by one. -/

/-- The tables hold, for the chain, exactly one row for each pool of the contract, and it carries what
the contract answers about that pool. -/
structure Mirrors (enc : Encoding) (chainId : Nat) (w : World) (db : Database) : Prop where
  base : ∀ p, w.store.Exists p → ∃ row info,
    (db.poolbases.filter fun row => decide (row.key = (chainId, p))) = [row] ∧
      w.answer (poolBaseInfo p) = some info ∧ row.Carries enc info
  baseOnly : ∀ row ∈ db.poolbases, row.chainId = chainId → w.store.Exists row.poolId
  data : ∀ p, w.store.Exists p → ∃ row info,
    (db.pooldata.filter fun row => decide (row.key = (chainId, toString p))) = [row] ∧
      w.answer (poolDataInfo p) = some info ∧ row.Carries info
  dataOnly : ∀ row ∈ db.pooldata, row.chainId = chainId →
    ∃ p, w.store.Exists p ∧ row.poolId = toString p

/-- A pass during which the contract stays as it is and no read of a pool and no write fails. The two
reads of the fees may. -/
def Pass.calm (w : World) (lendFee borrowFee : Option Nat) (baseClock dataClock : Nat → String) :
    Pass where
  lengthAt := w
  baseAt _ := w
  dataAt _ := w
  lendFee := lendFee
  borrowFee := borrowFee
  baseClock := baseClock
  dataClock := dataClock

/-- **When the tables mirror the contract.** A pass without failures from an empty database leaves a
mirror of the contract exactly when the contract has no pools. -/
theorem updatePoolInfo_mirrors (enc : Encoding) (chainId : Nat) (w : World)
    (lendFee borrowFee : Option Nat) (baseClock dataClock : Nat → String) :
    Mirrors enc chainId w
        (updatePoolInfo enc chainId (Pass.calm w lendFee borrowFee baseClock dataClock) {}) ↔
      w.store.poolCounter = 0 := by
  constructor
  · intro hmirror
    by_contra hsome
    have hone : w.store.Exists 1 := ⟨Nat.one_pos, Nat.one_le_iff_ne_zero.mpr hsome⟩
    obtain ⟨row, -, hfilter, -⟩ := hmirror.base 1 hone
    have hrow : row ∈ [row] := List.mem_singleton_self row
    rw [← hfilter, List.mem_filter, decide_eq_true_eq] at hrow
    -- the row of pool 1 would come from an answer about pool 0
    have hreflects : Reflects enc chainId _ _
        (updatePoolInfo enc chainId (Pass.calm w lendFee borrowFee baseClock dataClock) {}) :=
      updatePoolInfo_reflects (fun _ _ => rfl) Reflects.empty
    obtain ⟨i, info, hread, hkey, -⟩ := hreflects.base row hrow.1
    rw [hrow.2, Prod.mk.injEq] at hkey
    rcases hread with hnone | hread
    · exact hnone
    · exact absurd hread.pos (by omega)
  · intro hzero
    have hlength : (Pass.calm w lendFee borrowFee baseClock dataClock).poolLength = some 0 := by
      show w.answer poolLength = some 0
      rw [answer_poolLength, hzero]
    have hsame :
        updatePoolInfo enc chainId (Pass.calm w lendFee borrowFee baseClock dataClock) {} = {} := by
      rw [updatePoolInfo_eq, Pass.indices, hlength]
      rfl
    have hnone (p : Nat) : ¬ w.store.Exists p := by
      rintro ⟨hpos, hle⟩
      rw [hzero] at hle
      exact absurd hpos (Nat.not_lt.mpr hle)
    rw [hsame]
    exact {
      base := fun p hex => absurd hex (hnone p)
      baseOnly := fun row hrow => absurd hrow List.not_mem_nil
      data := fun p hex => absurd hex (hnone p)
      dataOnly := fun row hrow => absurd hrow List.not_mem_nil }

/-! Three pools that differ in `maxSupply`. -/

/-- Addresses as 40 hexadecimal digits, and the records themselves in the place of their JSON. -/
def plainEncoding : Encoding where
  hex a := "0x" ++ String.ofList (List.replicate (40 - (Nat.toDigits 16 a).length) '0' ++
    Nat.toDigits 16 a)
  lendTokenJson fee logo name price := fee ++ logo ++ name ++ price
  borrowTokenJson fee logo name price := fee ++ logo ++ name ++ price
  md5 row := toString (repr row)
  hex_ne a h := by
    have hlength := congrArg String.length h
    rw [String.length_append] at hlength
    exact absurd hlength (by show 2 + _ ≠ 0; omega)

/-- Another pool of the kind of `World.creation`. -/
def another (maxSupply spToken jpToken : Nat) : Setting × Call :=
  (World.setting 10 0 10, .createPoolInfo 100 1000 1000 maxSupply 15000 1 2 spToken jpToken 12000)

def threePools : World :=
  World.afterSetup.play [World.creation, another 2000000 5 6, another 3000000 7 8]

def noon : Nat → String := fun _ => "2025-01-01 12:00:00"

/-- The database after a pass over the three pools. -/
def threePoolsDatabase : Database :=
  updatePoolInfo plainEncoding 97
    (Pass.calm threePools (some threePools.store.lendFee) (some threePools.store.borrowFee) noon noon) {}

/-- There is no row for pool 1, and the rows for pools 2 and 3 carry the supplies of 1 and 2. -/
theorem first_pool_missing : threePools.store.poolCounter = 3 ∧
    (threePoolsDatabase.poolbases.map fun row => (row.poolId, row.maxSupply)) =
      [(2, "1000000"), (3, "2000000")] ∧
    (threePools.store.pools 2).maxSupply = 2000000 ∧
    ¬ Mirrors plainEncoding 97 threePools threePoolsDatabase := by
  have hids : threePoolsDatabase.poolbases.map PoolBase.poolId = [2, 3] := by decide +kernel
  refine ⟨by decide +kernel, by decide +kernel, by decide +kernel, ?_⟩
  intro hmirror
  obtain ⟨row, -, hfilter, -⟩ := hmirror.base 1 (by decide +kernel)
  have hrow : row ∈ [row] := List.mem_singleton_self row
  rw [← hfilter, List.mem_filter, decide_eq_true_eq] at hrow
  have hmem : row.poolId ∈ [2, 3] := hids ▸ List.mem_map_of_mem hrow.1
  have hkey : row.poolId = 1 := congrArg Prod.snd hrow.2
  rw [hkey] at hmem
  exact absurd hmem (by decide)

end Pledge.Backend
