import Pledge.Backend.Freshness
import Pledge.Backend.Overlooked
import Pledge.Backend.TokenJobs

/-!
# Writes that fail

All four jobs set Redis whether MySQL takes the write or not, and what Redis has is not written again.
So a write that fails stays lost while its source does not change. A pass without failures leaves what it
reads exactly when it overlooks nothing (`JobPass.shown_iff`), and what no failed write concerns is never
overlooked (`spared_not_overlooked`). For this a token is followed by `Settled` and a pool by `BaseKept`;
what the job for pools does to tokens is `Growth`.
-/

namespace Pledge.Backend

open Pledge.Contract Pledge.Store

/-! ## Tokens and the job for pools

The job for pools reads tokens and creates rows for those that have none. It never writes a text
into `token_info`, and a record that it puts into Redis is a row that it read. `Growth` lists these
three things, and whatever the other jobs left of a token survives them. -/

/-- What the job for pools does to the tokens: it caches rows, and creates blank rows for tokens that
have none. -/
inductive Growth : Database → Database → Prop
  | same {db db' : Database} (htable : db'.tokenInfo = db.tokenInfo)
      (hcache : db'.tokenCache = db.tokenCache) : Growth db db'
  | cache {db : Database} {key : Nat × String} {row : TokenInfo}
      (hmissing : db.tokenCache key = none)
      (hrow : first TokenInfo.key key db.tokenInfo = some row) : Growth db (db.setTokenCache key row)
  | create {db : Database} {token : String} {chainId : Nat}
      (hnone : first TokenInfo.key (chainId, token) db.tokenInfo = none) :
      Growth db
        { db with tokenInfo := db.tokenInfo ++ [{ token := token, chainId := chainId }] }
  | trans {db db' db'' : Database} : Growth db db' → Growth db' db'' → Growth db db''

/-- The rows of the token are the same. -/
def Database.Alike (key : Nat × String) (db : Database) : Prop :=
  ∀ t ∈ db.tokenInfo, ∀ t' ∈ db.tokenInfo, t.key = key → t'.key = key → t = t'

section Growth

variable {enc : Encoding} {pass : Pass} {chainId : Nat} {db db' : Database} {key : Nat × String}
  {F : TokenField → Prop} {f : TokenField} {text : String}

/-- Nothing happened. -/
theorem Growth.refl (db : Database) : Growth db db := .same rfl rfl

/-- Rows that are created are for tokens without one, so texts in rows stay. -/
theorem Growth.holds (h : Growth db db') (hholds : db.Holds key f text) : db'.Holds key f text := by
  induction h with
  | same htable hcache =>
      exact ⟨by rw [Database.Stored, htable]; exact hholds.stored, by rw [htable]; exact hholds.rows⟩
  | cache hmissing hrow => exact hholds.setTokenCache _ _
  | create hnone =>
      obtain ⟨t, ht, hkey⟩ := hholds.stored
      refine ⟨⟨t, List.mem_append_left _ ht, hkey⟩, ?_⟩
      intro row hrow hthis
      rcases List.mem_append.mp hrow with hold | hnew
      · exact hholds.rows row hold hthis
      · rw [List.mem_singleton.mp hnew] at hthis
        exact absurd (hkey.trans hthis.symm) (first_eq_none.mp hnone t ht)
  | trans _ _ ih ih' => exact ih' (ih hholds)

/-- **The job for pools keeps a token settled.** -/
theorem Growth.settled (h : Growth db db') (halike : db.Alike key) (hsettled : Settled key F db) :
    db'.Alike key ∧ Settled key F db' := by
  induction h with
  | same htable hcache =>
      refine ⟨by rw [Database.Alike, htable]; exact halike, ?_⟩
      exact hsettled.same ⟨congrFun hcache key, fun t _ => by rw [htable]⟩
  | @cache db k row hmissing hrow =>
      refine ⟨halike, ?_⟩
      by_cases hkey : key = k
      · subst hkey
        obtain ⟨hmem, hthis⟩ := of_first hrow
        have hcached : (db.setTokenCache key row).tokenCache key = some row := by
          rw [Database.setTokenCache_tokenCache, if_pos rfl]
        refine ⟨fun _ => ⟨row, hmem, hthis⟩, ?_⟩
        intro f _
        right
        rw [Database.cachedText_some hcached]
        refine ⟨⟨row, hmem, hthis⟩, ?_⟩
        intro t ht htkey
        rw [halike t ht row hmem htkey hthis]
      · apply hsettled.same
        refine ⟨?_, fun _ _ => Iff.rfl⟩
        rw [Database.setTokenCache_tokenCache, if_neg hkey]
  | @create db token chainId hnone =>
      by_cases hkey : key = (chainId, token)
      · -- the token had no row, so nothing was cached for it
        have hmissing : ¬ db.Stored key := by
          rintro ⟨t, ht, htkey⟩
          exact first_eq_none.mp hnone t ht (htkey.trans hkey)
        have hempty : db.tokenCache key = none := by
          by_contra hsome
          exact hmissing (hsettled.stored (Option.isSome_iff_ne_none.mpr hsome))
        refine ⟨?_, Settled.start hempty⟩
        have honly : ∀ t ∈ db.tokenInfo ++ [{ token := token, chainId := chainId }], t.key = key →
            t = { token := token, chainId := chainId } := by
          intro t ht htkey
          rcases List.mem_append.mp ht with hold | hnew
          · exact absurd ⟨t, hold, htkey⟩ hmissing
          · exact List.mem_singleton.mp hnew
        intro t ht t' ht' htkey htkey'
        rw [honly t ht htkey, honly t' ht' htkey']
      · have hrows : ∀ t : TokenInfo, t.key = key →
            (t ∈ db.tokenInfo ++ [{ token := token, chainId := chainId }] ↔ t ∈ db.tokenInfo) := by
          intro t htkey
          show t ∈ db.tokenInfo ++ [_] ↔ t ∈ db.tokenInfo
          apply mem_append_other (show TokenInfo.key _ = (chainId, token) from rfl)
          rw [htkey]
          exact hkey
        refine ⟨?_, hsettled.same ⟨rfl, hrows⟩⟩
        intro t ht t' ht' htkey htkey'
        exact halike t ((hrows t htkey).mp ht) t' ((hrows t' htkey').mp ht') htkey htkey'
  | trans _ _ ih ih' =>
      obtain ⟨halike', hsettled'⟩ := ih halike hsettled
      exact ih' halike' hsettled'

end Growth

/-! ## The job for pools

For each pool and each of its two records there is an exact condition under which a pass without
failures leaves in the rows what it read: the MD5 is not cached, or the rows have the record
already. The negation of this, for the round as the pass comes to it, is what the pass overlooks. -/

section Pools

variable {enc : Encoding} {pass : Pass} {chainId i : Nat} {db : Database}

/-- In its round for the pool the pass finds the MD5 of the base record cached, and the rows do not have
the record. -/
def Pass.OverlooksBase [TokenCollation] (enc : Encoding) (chainId : Nat) (pass : Pass)
    (db : Database) (i : Nat) : Prop :=
  ∃ record db₁, pass.readBase enc chainId (pass.before enc chainId db i) i = some (record, db₁) ∧
    db.cache (.baseInfo chainId (i + 1)) = some (enc.md5 record) ∧
    ¬ db.HasBase (chainId, i + 1) record

/-- **When the rows have the record** that a pass without failures built. -/
theorem updatePoolInfo_has_iff (hok : ∀ write, pass.writeFails i write = false)
    (hi : i ∈ pass.indices) {record : PoolBase} {db₁ : Database}
    (hread : pass.readBase enc chainId (pass.before enc chainId db i) i = some (record, db₁)) :
    (updatePoolInfo enc chainId pass db).HasBase (chainId, i + 1) record ↔
      ¬ pass.OverlooksBase enc chainId db i := by
  rw [Database.hasBase_same (updatePoolInfo_same hi db), updatePool_has_iff hok hread,
    (before_same i db).base, Database.hasBase_same (before_same i db)]
  constructor
  · rintro hhas ⟨record', db', hread', hcached, hnot⟩
    rw [hread] at hread'
    obtain ⟨rfl, rfl⟩ := Prod.mk.inj (Option.some.inj hread')
    exact hnot (hhas hcached)
  · intro hnot hcached
    by_contra hmissing
    exact hnot ⟨record, db₁, hread, hcached, hmissing⟩

/-- The symbols are not in the columns after its round: they were not there and the MD5 of the base record
is cached, or it is not cached and the save writes those of `token_info`. -/
def Pass.MissesSymbols [TokenCollation] (enc : Encoding) (chainId : Nat) (pass : Pass)
    (db : Database) (i : Nat) : Prop :=
  ∃ record db₁, pass.readBase enc chainId (pass.before enc chainId db i) i = some (record, db₁) ∧
    if db.cache (.baseInfo chainId (i + 1)) = some (enc.md5 record) then
      ¬ db.HasSymbols (chainId, i + 1) record.lendTokenSymbol record.borrowTokenSymbol
    else ¬ db.SavesSymbols (chainId, i + 1) record

/-- The round goes on when the record was built. -/
theorem openRound_some {record : PoolBase} {db₁ : Database}
    (hread : pass.readBase enc chainId db i = some (record, db₁)) :
    pass.openRound enc chainId db i = some (syncBase enc pass chainId i record db₁) := by
  unfold Pass.openRound
  rw [hread]

/-! ### What it does to tokens -/

/-! Function by function: each only grows the tokens. -/

theorem getTokenInfo_growth (token : String) (chainId : Nat) (db : Database) :
    Growth db (getTokenInfo token chainId db).2 := by
  unfold getTokenInfo
  split
  · exact .refl db
  · next hmissing =>
      split
      · exact .refl db
      · next row hrow => exact .cache hmissing hrow

theorem tokenSymbol_growth (fails : Bool) (token : String) (chainId : Nat) (db : Database) :
    Growth db (tokenSymbol fails token chainId db).2 := by
  unfold tokenSymbol
  split
  · exact .refl db
  · next hnone =>
      split
      · exact .refl db
      · exact .create hnone

theorem saveTokenInfo_growth (fails : Write → Bool) (base : PoolBase) (db : Database) :
    Growth db (saveTokenInfo fails base db).2 := by
  unfold saveTokenInfo
  have hborrow := tokenSymbol_growth (fails .borrowToken) base.borrowToken base.chainId db
  generalize tokenSymbol (fails .borrowToken) base.borrowToken base.chainId db = r at hborrow ⊢
  obtain ⟨borrowSymbol | borrowSymbol, db₁⟩ := r
  · exact hborrow
  · have hlend := tokenSymbol_growth (fails .lendToken) base.lendToken base.chainId db₁
    dsimp only at hborrow ⊢
    generalize tokenSymbol (fails .lendToken) base.lendToken base.chainId db₁ = r at hlend ⊢
    obtain ⟨lendSymbol | lendSymbol, db₂⟩ := r
    all_goals exact hborrow.trans hlend

/-- A write to the tables for pools, made or not, with or without a row created before it. -/
theorem updateBase_tokens (fails : Bool) (chainId poolId : Nat) (poolBase : PoolBase)
    (db : Database) :
    (updateBase fails chainId poolId poolBase db).tokenInfo = db.tokenInfo ∧
      (updateBase fails chainId poolId poolBase db).tokenCache = db.tokenCache := by
  cases fails <;> exact ⟨rfl, rfl⟩

theorem updateData_tokens (fails : Bool) (chainId : Nat) (poolId : String) (poolData : PoolData)
    (db : Database) :
    (updateData fails chainId poolId poolData db).tokenInfo = db.tokenInfo ∧
      (updateData fails chainId poolId poolData db).tokenCache = db.tokenCache := by
  cases fails <;> exact ⟨rfl, rfl⟩

theorem savePoolBase_growth (fails : Write → Bool) (now : String) (chainId poolId : Nat)
    (poolBase : PoolBase) (db : Database) :
    Growth db (savePoolBase fails now chainId poolId poolBase db).2 := by
  unfold savePoolBase
  have htokens := saveTokenInfo_growth fails poolBase db
  generalize saveTokenInfo fails poolBase db = r at htokens ⊢
  obtain ⟨_ | ⟨borrowSymbol, lendSymbol⟩, db₁⟩ := r
  · exact htokens
  · dsimp only at htokens ⊢
    split
    · exact htokens.trans (.same (updateBase_tokens ..).1 (updateBase_tokens ..).2)
    · split
      · exact htokens
      · exact htokens.trans (.same (updateBase_tokens ..).1 (updateBase_tokens ..).2)

theorem savePoolData_growth (fails : Write → Bool) (now : String) (chainId : Nat) (text : String)
    (poolData : PoolData) (db : Database) :
    Growth db (savePoolData fails now chainId text poolData db) := by
  unfold savePoolData
  dsimp only
  split
  · exact .same (updateData_tokens ..).1 (updateData_tokens ..).2
  · split
    · exact .refl db
    · exact .same (updateData_tokens ..).1 (updateData_tokens ..).2

theorem syncBase_growth (enc : Encoding) (pass : Pass) (chainId i : Nat) (record : PoolBase)
    (db : Database) : Growth db (syncBase enc pass chainId i record db).2 := by
  by_cases hhit : db.cache (.baseInfo chainId (i + 1)) = some (enc.md5 record)
  · simp only [syncBase, if_pos hhit]
    exact .refl db
  · simp only [syncBase, if_neg hhit]
    exact (savePoolBase_growth ..).trans (.same rfl rfl)

theorem syncData_growth (enc : Encoding) (pass : Pass) (chainId i : Nat) (record : PoolBase)
    (info : DataInfo) (db : Database) : Growth db (syncData enc pass chainId i record info db) := by
  by_cases hhit : db.cache (.dataInfo chainId (i + 1)) = some (enc.md5 record)
  · simp only [syncData, if_pos hhit]
    exact .refl db
  · simp only [syncData, if_neg hhit]
    exact (savePoolData_growth ..).trans (.same rfl rfl)

/-- **A round on tokens.** -/
theorem updatePool_growth (enc : Encoding) (pass : Pass) (chainId i : Nat) (db : Database) :
    Growth db (updatePool enc pass chainId db i) := by
  unfold updatePool
  cases pass.poolBaseInfo i with
  | none => exact .refl db
  | some info =>
      dsimp only
      have hborrow := getTokenInfo_growth (enc.hex info.borrowToken) chainId db
      generalize getTokenInfo (enc.hex info.borrowToken) chainId db = r at hborrow ⊢
      obtain ⟨borrowToken, db₁⟩ := r
      have hlend := getTokenInfo_growth (enc.hex info.lendToken) chainId db₁
      dsimp only at hborrow ⊢
      generalize getTokenInfo (enc.hex info.lendToken) chainId db₁ = r at hlend ⊢
      obtain ⟨lendToken, db₂⟩ := r
      dsimp only at hlend ⊢
      have hopen : Growth db (syncBase enc pass chainId i
          (newPoolBase enc pass chainId (i + 1) info lendToken borrowToken) db₂).2 :=
        (hborrow.trans hlend).trans (syncBase_growth ..)
      cases pass.poolDataInfo i with
      | none => exact hopen
      | some data => exact hopen.trans (syncData_growth ..)

/-- **The job for pools on tokens**, whatever fails. -/
theorem updatePoolInfo_growth (enc : Encoding) (chainId : Nat) (pass : Pass) (db : Database) :
    Growth db (updatePoolInfo enc chainId pass db) := by
  rw [updatePoolInfo_eq]
  induction pass.indices generalizing db with
  | nil => exact .refl db
  | cons i is ih => exact (updatePool_growth enc pass chainId i db).trans (ih _)

/-- Rows that are created have no symbol. -/
theorem Growth.symbolOf {db' : Database} (h : Growth db db') (chainId : Nat) (token : String) :
    db'.symbolOf chainId token = db.symbolOf chainId token := by
  simp only [Database.symbolOf, first_exact]
  induction h with
  | same htable _ => rw [htable]
  | cache => rfl
  | @create db blank chain hnone =>
      dsimp only
      rw [first_append]
      cases hfirst : first TokenInfo.key (chainId, token) db.tokenInfo with
      | some row => rfl
      | none =>
          by_cases hkey : TokenInfo.key { token := blank, chainId := chain } = (chainId, token)
          · rw [first_single, if_pos hkey]
            rfl
          · rw [first_single, if_neg hkey]
            rfl
  | trans _ _ ih ih' => exact ih'.trans ih

/-- Several rounds. -/
theorem rounds_growth (js : List Nat) (db : Database) :
    Growth db (js.foldl (updatePool enc pass chainId) db) := by
  induction js generalizing db with
  | nil => exact .refl db
  | cons j js ih => exact (updatePool_growth enc pass chainId j db).trans (ih _)

/-- **When the symbols are in the columns** after a pass without failures. -/
theorem updatePoolInfo_symbols_iff (hok : ∀ write, pass.writeFails i write = false)
    (hi : i ∈ pass.indices) {record : PoolBase} {db₁ : Database}
    (hread : pass.readBase enc chainId (pass.before enc chainId db i) i = some (record, db₁)) :
    (updatePoolInfo enc chainId pass db).HasSymbols (chainId, i + 1) record.lendTokenSymbol
        record.borrowTokenSymbol ↔ ¬ pass.MissesSymbols enc chainId db i := by
  have hbefore : Growth db (pass.before enc chainId db i) := rounds_growth _ _
  rw [Database.hasSymbols_same (updatePoolInfo_same hi db), updatePool_symbols_iff hok hread,
    (before_same i db).base, Database.hasSymbols_same (before_same i db),
    Database.savesSymbols_same (before_same i db) fun token => hbefore.symbolOf _ token]
  unfold Pass.MissesSymbols
  constructor
  · rintro hthere ⟨record', db', hread', hmisses⟩
    rw [hread] at hread'
    obtain ⟨rfl, rfl⟩ := Prod.mk.inj (Option.some.inj hread')
    split at hthere
    · next hcached =>
        rw [if_pos hcached] at hmisses
        exact hmisses hthere
    · next hcached =>
        rw [if_neg hcached] at hmisses
        exact hmisses hthere
  · intro hnot
    by_contra hmissing
    refine hnot ⟨record, db₁, hread, ?_⟩
    split
    · next hcached => rwa [if_pos hcached] at hmissing
    · next hcached => rwa [if_neg hcached] at hmissing

/-- The JSON texts of the token structs are not empty. -/
def Encoding.WritesTexts (enc : Encoding) : Prop :=
  ∀ fee logo name price, enc.lendTokenJson fee logo name price ≠ "" ∧
    enc.borrowTokenJson fee logo name price ≠ ""

/-- The record of a pool that was read has no empty text: the numbers are printed and the token
texts are JSON. -/
theorem readBase_full (hjson : enc.WritesTexts) {record : PoolBase} {db₁ : Database}
    (hread : pass.readBase enc chainId db i = some (record, db₁)) : record.Full := by
  unfold Pass.readBase at hread
  cases hinfo : pass.poolBaseInfo i with
  | none =>
      rw [hinfo] at hread
      cases hread
  | some info =>
      rw [hinfo] at hread
      obtain ⟨rfl, -⟩ := Prod.mk.inj (Option.some.inj hread)
      exact
        { settleTime := toString_ne _
          endTime := toString_ne _
          interestRate := toString_ne _
          maxSupply := toString_ne _
          lendSupply := toString_ne _
          borrowSupply := toString_ne _
          martgageRate := toString_ne _
          lendToken := enc.hex_ne _
          lendTokenInfo := (hjson _ _ _ _).1
          borrowToken := enc.hex_ne _
          borrowTokenInfo := (hjson _ _ _ _).2
          state := stateText_ne _
          spCoin := enc.hex_ne _
          jpCoin := enc.hex_ne _
          autoLiquidateThreshold := toString_ne _ }

/-- **When the rows are the record** that a pass without failures built. -/
theorem updatePoolInfo_record_iff (hjson : enc.WritesTexts)
    (hok : ∀ write, pass.writeFails i write = false) (hi : i ∈ pass.indices) {record : PoolBase}
    {db₁ : Database}
    (hread : pass.readBase enc chainId (pass.before enc chainId db i) i = some (record, db₁)) :
    (updatePoolInfo enc chainId pass db).HasRecord (chainId, i + 1) record ↔
      ¬ pass.OverlooksBase enc chainId db i ∧ ¬ pass.MissesSymbols enc chainId db i := by
  rw [Database.hasRecord_iff (readBase_full hjson hread) (readBase_some hread).1,
    updatePoolInfo_has_iff hok hi hread, updatePoolInfo_symbols_iff hok hi hread]

/-! ### What the jobs for tokens do to pools -/

/-- The tables for pools and what is cached of them are the same. -/
def Database.SamePools (db db' : Database) : Prop :=
  db'.poolbases = db.poolbases ∧ db'.pooldata = db.pooldata ∧ db'.cache = db.cache

/-- A round for a token. -/
theorem TokenRound.run_pools (r : TokenRound) (db : Database) : db.SamePools (r.run db) := by
  have hcheck : db.SamePools (checkTokenInfo r.createFails r.token r.chainId db) := by
    unfold checkTokenInfo
    split
    · exact ⟨rfl, rfl, rfl⟩
    · split <;> exact ⟨rfl, rfl, rfl⟩
  have hsave (db : Database) :
      db.SamePools (saveData r.update r.updateFails r.token r.chainId db) := by
    unfold saveData
    split <;> exact ⟨rfl, rfl, rfl⟩
  rcases r.run_cases db with ⟨t, -, -, hrun⟩ | ⟨t, -, -, hrun⟩ | ⟨-, hrun⟩
  · rw [hrun]
    exact ⟨rfl, rfl, rfl⟩
  · rw [hrun]
    exact hsave _
  · rw [hrun]
    obtain ⟨hbases, hdata, hcache⟩ := hsave ((checkTokenInfo r.createFails r.token r.chainId
      db).setTokenCache r.key (r.update.write { token := r.token, chainId := r.chainId }))
    exact ⟨hbases.trans hcheck.1, hdata.trans hcheck.2.1, hcache.trans hcheck.2.2⟩

/-- Several rounds. -/
theorem runRounds_pools (rs : List TokenRound) (db : Database) : db.SamePools (runRounds rs db) := by
  induction rs generalizing db with
  | nil => exact ⟨rfl, rfl, rfl⟩
  | cons r rs ih =>
      obtain ⟨hbases, hdata, hcache⟩ := ih (r.run db)
      obtain ⟨hbases', hdata', hcache'⟩ := r.run_pools db
      exact ⟨hbases.trans hbases', hdata.trans hdata', hcache.trans hcache'⟩

end Pools

/-! ## Passes of all jobs

The passes of the four jobs in one type, with what each reads, what it leaves when all goes well
(`Shown`) and what it takes for known (`Overlooks`). One pass without failures leaves what it read
exactly when it overlooks nothing (`shown_iff`), and what it left is not undone by the other jobs
(`Shown.keep`), with one proviso: the price and the logo have one job each, the symbol has two,
which must agree. -/

inductive JobName where
  | pools
  | prices
  | symbols
  | logos
  deriving Repr, DecidableEq

/-- A pass of one of the four jobs. -/
inductive JobPass where
  | pool (pass : Pass)
  | price (pass : PricePass)
  | symbol (pass : SymbolPass)
  | logo (pass : LogoPass)

/-- The remote list and `LocalTokenLogo` have the symbols that the chain answers. -/
def LogoPass.AgreesWith (logo : LogoPass) (testNet mainNet : Nat) (symbol : SymbolPass) : Prop :=
  ∀ t text, symbol.symbol testNet mainNet t = some text →
    ∀ e ∈ logo.entries, e.key = t.key → e.symbol = text

namespace JobPass

variable (enc : Encoding) (chainId testNet mainNet : Nat)

def job : JobPass → JobName
  | pool _ => .pools
  | price _ => .prices
  | symbol _ => .symbols
  | logo _ => .logos

/-- No write of the pass fails. -/
def Succeeds : JobPass → Prop
  | pool pass => ∀ i write, pass.writeFails i write = false
  | price pass => pass.Succeeds
  | symbol pass => pass.Succeeds
  | logo pass => pass.Succeeds

def after [TokenCollation] : JobPass → Database → Database
  | pool pass => updatePoolInfo enc chainId pass
  | price pass => updateContractPrice testNet pass
  | symbol pass => updateContractSymbol testNet mainNet pass
  | logo pass => updateTokenLogo pass

/-- The rows have what the pass read, which began with the first database. -/
def Shown [TokenCollation] : JobPass → Database → Database → Prop
  | pool pass, before, after => ∀ i ∈ pass.indices, ∀ record db₁,
      pass.readBase enc chainId (pass.before enc chainId before i) i = some (record, db₁) →
        after.HasRecord (chainId, i + 1) record ∧
          ∀ data, pass.poolDataInfo i = some data →
            after.HasData (chainId, toString (i + 1)) data
  | price pass, before, after => ∀ key, pass.Shown testNet key before after
  | symbol pass, before, after => ∀ key, pass.Shown testNet mainNet key before after
  | logo pass, _, after => ∀ key, pass.Shown key after

/-- The pass finds something that it reads in Redis while the rows do not have it. -/
def Overlooks [TokenCollation] : JobPass → Database → Prop
  | pool pass, db => ∃ i ∈ pass.indices,
      pass.OverlooksBase enc chainId db i ∨ pass.MissesSymbols enc chainId db i ∨
        pass.Overlooks enc chainId db i
  | price pass, db => ∃ key, pass.Overlooks testNet key db
  | symbol pass, db => ∃ key, pass.Overlooks testNet mainNet key db
  | logo pass, db => ∃ key, pass.Overlooks key db

/-- Passes one after another. -/
def run [TokenCollation] (passes : List JobPass) (db : Database) : Database :=
  passes.foldl (fun db j => j.after enc chainId testNet mainNet db) db

variable {enc chainId testNet mainNet} {db before after : Database} {j j' : JobPass}

/-- **One pass without failures** leaves what it read, unless it overlooks something. -/
theorem shown_iff (hjson : enc.WritesTexts) (hok : j.Succeeds) :
    j.Shown enc chainId testNet mainNet db (j.after enc chainId testNet mainNet db) ↔
      ¬ j.Overlooks enc chainId testNet mainNet db := by
  cases j with
  | pool pass =>
      constructor
      · rintro hshown ⟨i, hi, hoverlooks⟩
        -- each of the three says that there is a record
        obtain ⟨record, db₁, hread⟩ : ∃ record db₁,
            pass.readBase enc chainId (pass.before enc chainId db i) i = some (record, db₁) := by
          rcases hoverlooks with ⟨record, db₁, hread, -⟩ | ⟨record, db₁, hread, -⟩ | hdata
          · exact ⟨record, db₁, hread⟩
          · exact ⟨record, db₁, hread⟩
          · obtain ⟨record, db₁, data, hopen, -⟩ := hdata
            cases hread : pass.readBase enc chainId (pass.before enc chainId db i) i with
            | none =>
                rw [Pass.openRound, hread] at hopen
                cases hopen
            | some opened => exact ⟨opened.1, opened.2, rfl⟩
        obtain ⟨hrecord, hdatas⟩ := hshown i hi record db₁ hread
        obtain ⟨hbase, hsymbols⟩ := (updatePoolInfo_record_iff hjson (hok i) hi hread).mp hrecord
        rcases hoverlooks with h | h | hdata
        · exact hbase h
        · exact hsymbols h
        · have hagain := hdata
          obtain ⟨record', db', data, hopen, hdata', -, -⟩ := hdata
          exact (updatePoolInfo_data (hok i) hi hopen hdata').mp (hdatas data hdata') hagain
      · intro hnot i hi record db₁ hread
        constructor
        · exact (updatePoolInfo_record_iff hjson (hok i) hi hread).mpr
            ⟨fun h => hnot ⟨i, hi, .inl h⟩, fun h => hnot ⟨i, hi, .inr (.inl h)⟩⟩
        · intro data hdata
          exact (updatePoolInfo_data (hok i) hi (openRound_some hread) hdata).mpr
            fun h => hnot ⟨i, hi, .inr (.inr h)⟩
  | price pass =>
      refine (forall_congr' fun key => PricePass.shown_iff hok).trans ?_
      exact not_exists.symm
  | symbol pass =>
      refine (forall_congr' fun key => SymbolPass.shown_iff hok).trans ?_
      exact not_exists.symm
  | logo pass =>
      refine (forall_congr' fun key => LogoPass.shown_iff hok).trans ?_
      exact not_exists.symm

/-- **Frame**: what a pass left stays when another job makes a pass, whatever fails in it. -/
theorem Shown.keep (h : j.Shown enc chainId testNet mainNet before after) (hother : j'.job ≠ j.job)
    (hagree : ∀ s l, j = .symbol s → j' = .logo l → l.AgreesWith testNet mainNet s) :
    j.Shown enc chainId testNet mainNet before (j'.after enc chainId testNet mainNet after) := by
  cases j with
  | pool pass =>
      -- the jobs of the tokens leave the tables of the pools
      have hpools : after.SamePools (j'.after enc chainId testNet mainNet after) := by
        cases j' with
        | pool pass => exact absurd rfl hother
        | price pass =>
            rw [JobPass.after, updateContractPrice_eq]
            exact runRounds_pools _ after
        | symbol pass =>
            rw [JobPass.after, updateContractSymbol_eq]
            exact runRounds_pools _ after
        | logo pass =>
            rw [JobPass.after, updateTokenLogo_eq]
            exact runRounds_pools _ after
      obtain ⟨hbases, hdatas, -⟩ := hpools
      intro i hi record db₁ hread
      obtain ⟨hhas, hdata⟩ := h i hi record db₁ hread
      refine ⟨⟨by rw [hbases]; exact hhas.stored, by rw [hbases]; exact hhas.rows⟩, ?_⟩
      intro data hanswer
      have hhas := hdata data hanswer
      exact ⟨by rw [hdatas]; exact hhas.stored, by rw [hdatas]; exact hhas.rows⟩
  | price pass =>
      intro key t ht hkey hne price hprice
      have hholds := h key t ht hkey hne price hprice
      cases j' with
      | pool pass => exact (updatePoolInfo_growth enc chainId pass after).holds hholds
      | price pass => exact absurd rfl hother
      | symbol pass => exact hholds.symbol TokenField.noConfusion
      | logo pass =>
          apply hholds.logo TokenField.noConfusion
          intro e _ _ hfield
          cases hfield
  | symbol pass =>
      intro key t ht hkey hne text htext
      have hholds := h key t ht hkey hne text htext
      cases j' with
      | pool pass => exact (updatePoolInfo_growth enc chainId pass after).holds hholds
      | price pass => exact hholds.price TokenField.noConfusion
      | symbol pass => exact absurd rfl hother
      | logo logo =>
          apply hholds.logo TokenField.noConfusion
          intro e he hthis _
          -- both jobs write the symbol, and then the sources have to agree
          exact hagree pass logo rfl rfl t text htext e he (hthis.trans hkey.symm)
  | logo pass =>
      intro key e hgives hkey
      have hholds := h key e hgives hkey
      cases j' with
      | pool pass => exact (updatePoolInfo_growth enc chainId pass after).holds hholds
      | price pass => exact hholds.price TokenField.noConfusion
      | symbol pass => exact hholds.symbol TokenField.noConfusion
      | logo pass => exact absurd rfl hother

/-- **Frame** for any number of passes. -/
theorem Shown.run (h : j.Shown enc chainId testNet mainNet before after) {passes : List JobPass}
    (hothers : ∀ j' ∈ passes, j'.job ≠ j.job)
    (hagree : ∀ s l, j = .symbol s → .logo l ∈ passes → l.AgreesWith testNet mainNet s) :
    j.Shown enc chainId testNet mainNet before
      (JobPass.run enc chainId testNet mainNet passes after) := by
  induction passes generalizing after with
  | nil => exact h
  | cons j' passes ih =>
      rw [List.forall_mem_cons] at hothers
      have hkept : j.Shown enc chainId testNet mainNet before
          (j'.after enc chainId testNet mainNet after) := by
        apply h.keep hothers.1
        rintro s l hthis rfl
        exact hagree s l hthis List.mem_cons_self
      exact ih hkept hothers.2 fun s l hthis hl => hagree s l hthis (List.mem_cons_of_mem _ hl)

/-- Passes one after another. -/
theorem run_append (pre post : List JobPass) (db : Database) :
    run enc chainId testNet mainNet (pre ++ post) db =
      run enc chainId testNet mainNet post (run enc chainId testNet mainNet pre db) :=
  List.foldl_append

end JobPass

/-! ## What no failed write concerns

A failed write concerns one pool or one token. For the others the caches are right all the time: the
invariants are `BaseKept` for a pool and `Settled` for a token, and a pass keeps them for every item
none of whose writes fails. -/

section Spared

variable {db : Database} {key : Nat × String} {F : TokenField → Prop}

/-- Rounds create no second row and write all rows of a token alike. -/
theorem Database.Alike.run (h : db.Alike key) (r : TokenRound) : (r.run db).Alike key := by
  have hcheck : (checkTokenInfo r.createFails r.token r.chainId db).Alike key := by
    intro t ht t' ht' hkey hkey'
    rcases mem_checkTokenInfo.mp ht with hold | ⟨-, hnew, rfl⟩ <;>
      rcases mem_checkTokenInfo.mp ht' with hold' | ⟨-, hnew', rfl⟩
    · exact h t hold t' hold' hkey hkey'
    · exact absurd ⟨t, hold, hkey.trans hkey'.symm⟩ hnew'
    · exact absurd ⟨t', hold', hkey'.trans hkey.symm⟩ hnew
    · rfl
  have hsave {db : Database} (h : db.Alike key) :
      (saveData r.update r.updateFails r.token r.chainId db).Alike key := by
    cases r.updateFails with
    | true => exact h
    | false =>
        intro t ht t' ht' hkey hkey'
        rcases mem_saveData.mp ht with ⟨hold, hne⟩ | ⟨old, hold, hthis, rfl⟩ <;>
          rcases mem_saveData.mp ht' with ⟨hold', hne'⟩ | ⟨old', hold', hthis', rfl⟩
        · exact h t hold t' hold' hkey hkey'
        · rw [r.update.write_key] at hkey'
          exact absurd (hkey.trans (hkey'.symm.trans hthis')) hne
        · rw [r.update.write_key] at hkey
          exact absurd (hkey'.trans (hkey.symm.trans hthis)) hne'
        · rw [r.update.write_key] at hkey hkey'
          rw [h old hold old' hold' hkey hkey']
  rcases r.run_cases db with ⟨t, -, -, hrun⟩ | ⟨t, -, -, hrun⟩ | ⟨-, hrun⟩
  · rwa [hrun]
  · rw [hrun]
    exact hsave h
  · rw [hrun]
    exact hsave hcheck

/-- Several rounds keep the rows of a token alike. -/
theorem Database.Alike.rounds (h : db.Alike key) (rs : List TokenRound) :
    (runRounds rs db).Alike key := by
  induction rs generalizing db with
  | nil => exact h
  | cons r rs ih => exact ih (h.run r)

namespace JobPass

variable (enc : Encoding) (chainId testNet mainNet i : Nat)

/-- No write for the token fails in a pass from this database. What the job for pools writes of a token
is a blank row, which no job takes for anything else. -/
def SparesToken (key : Nat × String) : JobPass → Database → Prop
  | pool _, _ => True
  | price pass, db => ∀ r ∈ pass.rounds testNet db.tokenInfo, r.key = key → r.Succeeds
  | symbol pass, db => ∀ r ∈ pass.rounds testNet mainNet db.tokenInfo, r.key = key → r.Succeeds
  | logo pass, _ => ∀ r ∈ pass.rounds, r.key = key → r.Succeeds

/-- No write for the pool fails. -/
def SparesPool : JobPass → Prop
  | pool pass => ∀ write, pass.writeFails i write = false
  | _ => True

variable {enc chainId testNet mainNet i} {j : JobPass} {es : List JobPass}

/-- **A pass keeps a token settled** whose writes do not fail. -/
theorem settled_after (hok : j.SparesToken testNet mainNet key db) (halike : db.Alike key)
    (h : Settled key F db) :
    (j.after enc chainId testNet mainNet db).Alike key ∧
      Settled key F (j.after enc chainId testNet mainNet db) := by
  cases j with
  | pool pass => exact (updatePoolInfo_growth enc chainId pass db).settled halike h
  | price pass =>
      refine ⟨?_, h.updateContractPrice hok⟩
      rw [JobPass.after, updateContractPrice_eq]
      exact halike.rounds _
  | symbol pass =>
      refine ⟨?_, h.updateContractSymbol hok⟩
      rw [JobPass.after, updateContractSymbol_eq]
      exact halike.rounds _
  | logo pass =>
      refine ⟨?_, h.updateTokenLogo hok⟩
      rw [JobPass.after, updateTokenLogo_eq]
      exact halike.rounds _

/-- So do passes. -/
theorem settled_run (halike : db.Alike key) (h : Settled key F db)
    (hok : ∀ pre j post, es = pre ++ j :: post →
      j.SparesToken testNet mainNet key (run enc chainId testNet mainNet pre db)) :
    (run enc chainId testNet mainNet es db).Alike key ∧
      Settled key F (run enc chainId testNet mainNet es db) := by
  induction es generalizing db with
  | nil => exact ⟨halike, h⟩
  | cons j es ih =>
      have hfirst : (j.after enc chainId testNet mainNet db).Alike key ∧
          Settled key F (j.after enc chainId testNet mainNet db) :=
        settled_after (hok [] j es rfl) halike h
      exact ih hfirst.1 hfirst.2 fun pre j' post hes => hok (j :: pre) j' post (by rw [hes]; rfl)

/-- **A pass keeps a pool** whose writes do not fail. -/
theorem kept_after (hmd5 : Function.Injective enc.md5) (hok : j.SparesPool i)
    (h : BaseKept enc chainId i db) :
    BaseKept enc chainId i (j.after enc chainId testNet mainNet db) := by
  have hpools {db' : Database} (hsame : db.SamePools db') : BaseKept enc chainId i db' :=
    h.of_base (congrFun hsame.2.2 _) hsame.1
  cases j with
  | pool pass =>
      rw [JobPass.after, updatePoolInfo_eq]
      exact rounds_kept hmd5 (fun _ => hok) h
  | price pass =>
      rw [JobPass.after, updateContractPrice_eq]
      exact hpools (runRounds_pools _ db)
  | symbol pass =>
      rw [JobPass.after, updateContractSymbol_eq]
      exact hpools (runRounds_pools _ db)
  | logo pass =>
      rw [JobPass.after, updateTokenLogo_eq]
      exact hpools (runRounds_pools _ db)

/-- So do passes. -/
theorem kept_run (hmd5 : Function.Injective enc.md5) (hok : ∀ j ∈ es, j.SparesPool i)
    (h : BaseKept enc chainId i db) :
    BaseKept enc chainId i (run enc chainId testNet mainNet es db) := by
  induction es generalizing db with
  | nil => exact h
  | cons j es ih =>
      rw [List.forall_mem_cons] at hok
      exact ih hok.2 (kept_after hmd5 hok.1 h)

end JobPass

/-- **What no failed write concerns is right.** Let the four jobs make any passes one after another, from
empty caches. Where no write for a pool failed, a pass without failures does not overlook its base
record; where no write for a token failed, it overlooks neither price nor symbol nor logo. -/
theorem spared_not_overlooked {enc : Encoding} (hmd5 : Function.Injective enc.md5)
    {chainId testNet mainNet : Nat} (hflushed : ∀ key, db.cache key = none)
    (htokens : ∀ key, db.tokenCache key = none) (es : List JobPass) :
    (∀ i, (∀ j ∈ es, j.SparesPool i) → ∀ pass : Pass,
      ¬ pass.OverlooksBase enc chainId (JobPass.run enc chainId testNet mainNet es db) i) ∧
    (∀ key, db.Alike key →
      (∀ pre j post, es = pre ++ j :: post → j.SparesToken testNet mainNet key
        (JobPass.run enc chainId testNet mainNet pre db)) →
      (∀ pass : PricePass, pass.Succeeds →
        ¬ pass.Overlooks testNet key (JobPass.run enc chainId testNet mainNet es db)) ∧
      (∀ pass : SymbolPass, pass.Succeeds →
        pass.Visible testNet mainNet key (JobPass.run enc chainId testNet mainNet es db) →
        ¬ pass.Overlooks testNet mainNet key (JobPass.run enc chainId testNet mainNet es db)) ∧
      (∀ pass : LogoPass, pass.Succeeds →
        pass.Visible key (JobPass.run enc chainId testNet mainNet es db) →
        ¬ pass.Overlooks key (JobPass.run enc chainId testNet mainNet es db))) := by
  constructor
  · rintro i hok pass ⟨record, db₁, -, hcached, hnot⟩
    have hkept : BaseKept enc chainId i (JobPass.run enc chainId testNet mainNet es db) := by
      apply JobPass.kept_run hmd5 hok
      intro record hcached
      rw [hflushed] at hcached
      cases hcached
    exact hnot (hkept record hcached)
  · intro key halike hok
    have hsettled : Settled key (fun _ => True) (JobPass.run enc chainId testNet mainNet es db) :=
      (JobPass.settled_run halike (Settled.start (htokens key)) hok).2
    refine ⟨?_, ?_, ?_⟩
    · intro pass hpass
      exact (PricePass.shown_iff hpass).mp (hsettled.price trivial hpass)
    · intro pass hpass hvisible
      exact (SymbolPass.shown_iff hpass).mp (hsettled.symbol trivial hpass hvisible)
    · intro pass hpass hvisible
      exact (LogoPass.shown_iff hpass).mp (hsettled.logo trivial hpass hvisible)

end Spared

end Pledge.Backend
