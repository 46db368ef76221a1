import Pledge.Backend.LastPasses

/-!
# A restart

When the scheduler starts it empties Redis and lets the jobs make one pass each before any of them is
scheduled (`task`). What failed writes have left in the tables does not matter then:

* after these passes the rows have what each of them read, whatever they held before
  (`restart_heals`);
* the texts of the tokens in the rows of the pools were built before the token jobs came by; the next
  pass for pools builds them from the prices, symbols and logos of the restart (`restart_converges`).
-/

namespace Pledge.Backend

open Pledge.Contract Pledge.Store

/-- `RedisFlushDB`. -/
def Database.flush (db : Database) : Database :=
  { db with cache := fun _ => none, tokenCache := fun _ => none }

/-- The first passes. -/
structure Restart where
  pool : Pass
  price : PricePass
  symbol : SymbolPass
  logo : LogoPass

def Restart.passes (r : Restart) : List JobPass :=
  [.pool r.pool, .price r.price, .symbol r.symbol, .logo r.logo]

/-- What `Task` does before the scheduler starts. -/
def task [TokenCollation] (enc : Encoding) (chainId testNet mainNet : Nat) (r : Restart)
    (db : Database) : Database :=
  JobPass.run enc chainId testNet mainNet r.passes db.flush

/-- No write of these passes fails, and the texts that they read are not empty. -/
structure Restart.Calm (r : Restart) (testNet mainNet : Nat) : Prop where
  succeeds : ∀ j ∈ r.passes, j.Succeeds
  symbols : ∀ t text, r.symbol.symbol testNet mainNet t = some text → text ≠ ""
  logos : ∀ e ∈ r.logo.entries, e.logo ≠ ""
  agree : r.logo.AgreesWith testNet mainNet r.symbol

/-- The rows of a pool have no symbol for a token without one in `token_info`, since an empty text does
not overwrite a column. -/
def Pass.KnowsSymbols [TokenCollation] (enc : Encoding) (chainId : Nat) (pass : Pass)
    (db : Database) : Prop :=
  ∀ i info, pass.poolBaseInfo i = some info → ∀ row ∈ db.poolbases, row.key = (chainId, i + 1) →
    (db.symbolOf chainId (enc.hex info.lendToken) = "" → row.lendTokenSymbol = "") ∧
      (db.symbolOf chainId (enc.hex info.borrowToken) = "" → row.borrowTokenSymbol = "")

/-! ## Symbols in Redis and in the table

The record of a pool takes its symbols from Redis, while the save takes those for the columns from
`token_info`. After a flush the two are the same: a symbol comes to Redis from a row, and the job
for pools, which is the first to run, creates rows without symbols only. -/

/-- The symbols in Redis are those of `token_info`. -/
def Database.CachedSymbols (db : Database) : Prop :=
  ∀ chainId token t, db.tokenCache (chainId, token) = some t → t.symbol = db.symbolOf chainId token

section Symbols

variable {enc : Encoding} {pass : Pass} {chainId i : Nat} {db db' : Database}

/-- The job for pools caches the rows that it finds, and creates rows without symbols. -/
theorem Growth.cachedSymbols (h : Growth db db') (hcached : db.CachedSymbols) :
    db'.CachedSymbols := by
  induction h with
  | same htable hcache =>
      intro chainId token t ht
      rw [hcache] at ht
      rw [hcached chainId token t ht, (Growth.same htable hcache).symbolOf]
  | @cache db key row hmissing hrow =>
      intro chainId token t ht
      rw [Database.setTokenCache_tokenCache] at ht
      split at ht
      · next hkey =>
          obtain rfl := Option.some.inj ht
          show row.symbol = db.symbolOf chainId token
          rw [Database.symbolOf, first_exact, hkey, hrow]
      · exact hcached chainId token t ht
  | create hnone =>
      intro chainId token t ht
      rw [hcached chainId token t ht, (Growth.create hnone).symbolOf]
  | trans _ _ ih ih' => exact ih' (ih hcached)

/-- A lookup answers the symbol of the table. -/
theorem getTokenInfo_symbol (hcached : db.CachedSymbols) (token : String) (chainId : Nat) :
    (getTokenInfo token chainId db).1.symbol = db.symbolOf chainId token := by
  unfold getTokenInfo
  split
  · next t ht => exact hcached chainId token t ht
  · rw [Database.symbolOf]
    split
    · next hnone => rw [hnone]
    · next row hrow => rw [hrow]

/-- The record has the symbols of `token_info`. -/
theorem readBase_symbols (hcached : db.CachedSymbols) {record : PoolBase} {db₁ : Database}
    (hread : pass.readBase enc chainId db i = some (record, db₁)) :
    ∃ info, pass.poolBaseInfo i = some info ∧ record.lendToken = enc.hex info.lendToken ∧
      record.borrowToken = enc.hex info.borrowToken ∧
      record.lendTokenSymbol = db.symbolOf chainId (enc.hex info.lendToken) ∧
      record.borrowTokenSymbol = db.symbolOf chainId (enc.hex info.borrowToken) := by
  unfold Pass.readBase at hread
  cases hinfo : pass.poolBaseInfo i with
  | none =>
      rw [hinfo] at hread
      cases hread
  | some info =>
      rw [hinfo] at hread
      dsimp only at hread
      have hborrow := getTokenInfo_symbol hcached (enc.hex info.borrowToken) chainId
      have hgrowth := getTokenInfo_growth (enc.hex info.borrowToken) chainId db
      generalize getTokenInfo (enc.hex info.borrowToken) chainId db = r at hread hborrow hgrowth
      obtain ⟨borrowToken, db₂⟩ := r
      have hlend := getTokenInfo_symbol (hgrowth.cachedSymbols hcached) (enc.hex info.lendToken) chainId
      rw [hgrowth.symbolOf] at hlend
      obtain ⟨rfl, -⟩ := Prod.mk.inj (Option.some.inj hread)
      exact ⟨info, rfl, rfl, rfl, hlend, hborrow⟩

/-- The merged text is the new one, unless an empty text meets another. -/
theorem merge_eq_new {old new : String} (h : new = "" → old = "") : merge old new = new := by
  by_cases hempty : new = ""
  · rw [h hempty, hempty, merge_self]
  · exact merge_of_ne hempty

/-- With the symbols of Redis in the table, a save leaves the symbols that the pass found. -/
theorem saves_cachedSymbols (hcached : db.CachedSymbols) (hknown : pass.KnowsSymbols enc chainId db)
    {record : PoolBase} {db₁ : Database}
    (hread : pass.readBase enc chainId (pass.before enc chainId db i) i = some (record, db₁)) :
    db.SavesSymbols (chainId, i + 1) record := by
  have hbefore : Growth db (pass.before enc chainId db i) := rounds_growth _ _
  obtain ⟨info, hinfo, hlendToken, hborrowToken, hlend, hborrow⟩ :=
    readBase_symbols (hbefore.cachedSymbols hcached) hread
  obtain ⟨hkey, -, -⟩ := readBase_some hread
  have hchain : record.chainId = chainId := congrArg Prod.fst hkey
  rw [hbefore.symbolOf] at hlend hborrow
  unfold Database.SavesSymbols
  rw [hchain, hlendToken, hborrowToken, hlend, hborrow]
  constructor
  · intro row hrow hthis
    obtain ⟨hlendRow, hborrowRow⟩ := hknown i info hinfo row hrow hthis
    exact ⟨merge_eq_new hlendRow, merge_eq_new hborrowRow⟩
  · intro _
    exact ⟨rfl, rfl⟩

end Symbols

/-! ## After the flush

With Redis empty no pass can take anything for known but what an earlier pass of the restart put
there, and since no write fails, that is in the rows. For tokens this is the invariant `Settled`
from an empty cache; for pools there is only one pass, which finds no MD5. -/

section Heals

variable {enc : Encoding} {chainId testNet mainNet : Nat} {r : Restart} {db : Database}
  {key : Nat × String}

/-- A pass without failures spares every token. -/
theorem JobPass.Succeeds.spares {j : JobPass} (hok : j.Succeeds) (key : Nat × String)
    (db : Database) : j.SparesToken testNet mainNet key db := by
  cases j with
  | pool pass => trivial
  | price pass => exact fun r hr _ => PricePass.rounds_succeed hok r hr
  | symbol pass => exact fun r hr _ => SymbolPass.rounds_succeed hok r hr
  | logo pass => exact fun r hr _ => LogoPass.rounds_succeed hok r hr

/-- Passes without failures after a flush leave Redis and the rows of a token in agreement. -/
theorem flush_settled (halike : db.Alike key) {es : List JobPass} (hok : ∀ j ∈ es, j.Succeeds) :
    Settled key (fun _ => True) (JobPass.run enc chainId testNet mainNet es db.flush) := by
  have hflushed : db.flush.Alike key := halike
  refine (JobPass.settled_run hflushed (Settled.start rfl) ?_).2
  rintro pre j post rfl
  exact (hok j (by simp)).spares key _

/-- **A flush leaves nothing to overlook** in the first passes. -/
theorem flush_overlooks_nothing (halike : ∀ key, db.Alike key) (hcalm : r.Calm testNet mainNet)
    (hknown : r.pool.KnowsSymbols enc chainId db) {pre post : List JobPass} {j : JobPass}
    (hpasses : r.passes = pre ++ j :: post) :
    ¬ j.Overlooks enc chainId testNet mainNet
      (JobPass.run enc chainId testNet mainNet pre db.flush) := by
  have hok := hcalm.succeeds
  have hmem : j ∈ r.passes := by
    rw [hpasses]
    simp
  -- before this pass only passes of the restart were made, from an empty cache
  have hsettled (key : Nat × String) : Settled key (fun _ => True)
      (JobPass.run enc chainId testNet mainNet pre db.flush) := by
    apply flush_settled (halike key)
    intro j' hj'
    apply hok
    rw [hpasses]
    exact List.mem_append_left _ hj'
  cases j with
  | pool pass =>
      -- the job for pools comes first
      obtain rfl : pre = [] := by
        cases pre with
        | nil => rfl
        | cons first pre =>
            have hlater : JobPass.pool pass ∈
                [JobPass.price r.price, .symbol r.symbol, .logo r.logo] := by
              rw [(List.cons.inj hpasses).2]
              simp
            simp at hlater
      obtain rfl : pass = r.pool := by simpa [Restart.passes] using hmem
      rintro ⟨i, -, ⟨record, db₁, -, hcached, -⟩ | ⟨record, db₁, hread, hmisses⟩ |
          ⟨record, db₁, data, -, -, hcached, -⟩⟩
      · cases hcached
      · -- nothing is cached, so the record is saved
        rw [if_neg nofun] at hmisses
        have hempty : db.flush.CachedSymbols := by
          intro chainId token t ht
          cases ht
        exact hmisses (saves_cachedSymbols hempty hknown hread)
      · cases hcached
  | price pass =>
      rintro ⟨key, hoverlooks⟩
      -- what a settled token is shown cannot have been overlooked
      have hpass : pass.Succeeds := hok _ hmem
      exact (PricePass.shown_iff hpass).mp ((hsettled key).price trivial hpass) hoverlooks
  | symbol pass =>
      obtain rfl : pass = r.symbol := by simpa [Restart.passes] using hmem
      rintro ⟨key, hoverlooks⟩
      have hpass : r.symbol.Succeeds := hok _ hmem
      -- no symbol that was read looks like one that no job has set
      have hvisible : r.symbol.Visible testNet mainNet key
          (JobPass.run enc chainId testNet mainNet pre db.flush) :=
        fun t _ _ _ text htext => .inl (hcalm.symbols t text htext)
      exact (SymbolPass.shown_iff hpass).mp ((hsettled key).symbol trivial hpass hvisible) hoverlooks
  | logo pass =>
      obtain rfl : pass = r.logo := by simpa [Restart.passes] using hmem
      rintro ⟨key, hoverlooks⟩
      have hpass : r.logo.Succeeds := hok _ hmem
      have hvisible : r.logo.Visible key (JobPass.run enc chainId testNet mainNet pre db.flush) := by
        rintro e ⟨before, after, hentries, -⟩ -
        left
        apply hcalm.logos e
        rw [hentries]
        simp
      exact (LogoPass.shown_iff hpass).mp ((hsettled key).logo trivial hpass hvisible) hoverlooks

/-- What each pass read is in the rows, and still there after the last one. -/
theorem Restart.heals (hjson : enc.WritesTexts) (halike : ∀ key, db.Alike key)
    (hcalm : r.Calm testNet mainNet) (hknown : r.pool.KnowsSymbols enc chainId db)
    {pre post : List JobPass} {j : JobPass} (hpasses : r.passes = pre ++ j :: post) :
    j.Shown enc chainId testNet mainNet (JobPass.run enc chainId testNet mainNet pre db.flush)
      (task enc chainId testNet mainNet r db) := by
  have hok := hcalm.succeeds j (by rw [hpasses]; simp)
  have hshown : j.Shown enc chainId testNet mainNet
      (JobPass.run enc chainId testNet mainNet pre db.flush)
      (j.after enc chainId testNet mainNet (JobPass.run enc chainId testNet mainNet pre db.flush)) :=
    (JobPass.shown_iff hjson hok).mpr (flush_overlooks_nothing halike hcalm hknown hpasses)
  unfold task
  rw [hpasses, JobPass.run_append]
  apply hshown.run
  · -- each job makes one pass
    have honce : (r.passes.map JobPass.job).Nodup := by
      unfold Restart.passes
      simp [JobPass.job]
    rw [hpasses, List.map_append, List.map_cons, List.nodup_append] at honce
    intro j' hj' hjob
    exact (List.nodup_cons.mp honce.2.1).1 (List.mem_map.mpr ⟨j', hj', hjob⟩)
  · rintro s l rfl hl
    have hsymbol : JobPass.symbol s ∈ r.passes := by
      rw [hpasses]
      simp
    have hlogo : JobPass.logo l ∈ r.passes := by
      rw [hpasses]
      simp [hl]
    obtain rfl : s = r.symbol := by simpa [Restart.passes] using hsymbol
    obtain rfl : l = r.logo := by simpa [Restart.passes] using hlogo
    exact hcalm.agree

/-! The collation of `token_info` does not matter where it tells the tokens apart. -/

theorem task_spelled [TokenCollation] {S : Set String} (hsep : Set.InjOn TokenCollation.fold S)
    (chainId testNet mainNet : Nat) (hdb : db.Spelled S) (hr : ∀ j ∈ r.passes, j.Spelled enc S) :
    task enc chainId testNet mainNet r db = @task .exact enc chainId testNet mainNet r db ∧
      (task enc chainId testNet mainNet r db).Spelled S := by
  have hflushed : db.flush.Spelled S := hdb
  exact JobPass.run_spelled hsep chainId testNet mainNet hr hflushed

theorem knowsSymbols_spelled [TokenCollation] {S : Set String}
    (hsep : Set.InjOn TokenCollation.fold S) (hdb : db.Spelled S) {pass : Pass}
    (hpass : pass.Spelled enc S) :
    pass.KnowsSymbols enc chainId db ↔ @Pass.KnowsSymbols .exact enc chainId pass db := by
  unfold Pass.KnowsSymbols
  apply forall_congr'
  intro i
  apply forall_congr'
  intro info
  apply forall_congr'
  intro hinfo
  obtain ⟨hlend, hborrow⟩ := hpass i info hinfo
  rw [symbolOf_spelled hsep chainId hdb hlend, symbolOf_spelled hsep chainId hdb hborrow]

/-- **A restart heals.** Let the rows be whatever failed writes have left of them, as long as no two
rows of one token differ, no token is spelled in two ways, and no row of a pool has a symbol that
`token_info` has lost. When the scheduler starts again and no write fails, every pass leaves what it read
in the rows, and after the last one all of it is there. -/
theorem restart_heals [TokenCollation] {S : Set String} (hsep : Set.InjOn TokenCollation.fold S)
    (hjson : enc.WritesTexts) (hdb : db.Spelled S) (hr : ∀ j ∈ r.passes, j.Spelled enc S)
    (halike : ∀ key, db.Alike key) (hcalm : r.Calm testNet mainNet)
    (hknown : r.pool.KnowsSymbols enc chainId db) {pre post : List JobPass} {j : JobPass}
    (hpasses : r.passes = pre ++ j :: post) :
    j.Shown enc chainId testNet mainNet (JobPass.run enc chainId testNet mainNet pre db.flush)
      (task enc chainId testNet mainNet r db) := by
  have hflushed : db.flush.Spelled S := hdb
  have hj : j.Spelled enc S := hr j (by simp [hpasses])
  have hpre : ∀ j ∈ pre, j.Spelled enc S := fun j' hj' => hr j' (by simp [hpasses, hj'])
  have hpool : r.pool.Spelled enc S := hr (.pool r.pool) List.mem_cons_self
  obtain ⟨hstart, hspelled⟩ := JobPass.run_spelled hsep chainId testNet mainNet hpre hflushed
  rw [knowsSymbols_spelled hsep hdb hpool] at hknown
  rw [JobPass.shown_spelled hsep chainId testNet mainNet hj hspelled, hstart,
    (task_spelled hsep chainId testNet mainNet hdb hr).1]
  exact Restart.heals hjson halike hcalm hknown hpasses

end Heals

/-! The price that was lost comes back. -/

/-- What a write of the price 1 that failed has left. -/
def lostDatabase : Database := JobPass.run jsonEncoding 97 97 56 lostPrice oneToken

/-- Two pools, and the prices, symbols and logos of the last passes. -/
def lateRestart : Restart where
  pool := amountPass 500
  price := { getPrice := fun _ => some 1 }
  symbol := busdSymbols
  logo := newLogo

theorem lostDatabase_alike (key : Nat × String) : lostDatabase.Alike key := by
  have hone : oneToken.Alike key := by
    intro t ht t' ht' _ _
    rw [List.mem_singleton.mp ht, List.mem_singleton.mp ht']
  unfold lostDatabase lostPrice JobPass.run
  rw [List.foldl_cons, List.foldl_nil, JobPass.after, updateContractPrice_eq]
  exact hone.rounds _

theorem lateRestart_calm : lateRestart.Calm 97 56 where
  succeeds := by
    unfold Restart.passes
    simp only [List.forall_mem_cons, List.not_mem_nil, false_implies, implies_true, and_true]
    exact ⟨fun _ _ => rfl, fun _ => ⟨rfl, rfl⟩, fun _ => ⟨rfl, rfl⟩, fun _ => ⟨rfl, rfl⟩⟩
  symbols t text h := by
    simp only [lateRestart, SymbolPass.symbol, busdSymbols] at h
    split at h
    · obtain rfl := Option.some.inj h
      decide
    · split at h <;> cases h
  logos e he := by
    obtain rfl := List.mem_singleton.mp he
    decide
  agree := lastPasses_agree busdSymbols newLogo (by simp [lastPasses]) (by simp [lastPasses])

/-- The tokens of the tables and of the passes are these two, in this spelling. -/
def lostTokens : Set String := {"0x01", jsonEncoding.hex 0}

theorem lostTokens_caseless : Set.InjOn caseless.fold lostTokens := by
  have hne : "0x01".toLower ≠ (jsonEncoding.hex 0).toLower := by decide +kernel
  rintro _ (rfl | rfl) _ (rfl | rfl) heq
  · rfl
  · exact absurd heq hne
  · exact absurd heq.symm hne
  · rfl

theorem amountPass_spelled (amount : Nat) : (amountPass amount).Spelled jsonEncoding lostTokens := by
  intro i info hinfo
  obtain ⟨-, rfl⟩ := Pass.poolBaseInfo_some hinfo
  exact ⟨.inr rfl, .inr rfl⟩

theorem lateRestart_spelled : ∀ j ∈ lateRestart.passes, j.Spelled jsonEncoding lostTokens := by
  unfold Restart.passes
  simp only [List.forall_mem_cons, List.not_mem_nil, false_implies, implies_true, and_true]
  refine ⟨amountPass_spelled 500, trivial, trivial, ?_⟩
  intro e he
  rw [List.mem_singleton.mp he]
  exact .inl rfl

theorem lostDatabase_spelled : lostDatabase.Spelled lostTokens := by
  have hone : oneToken.Spelled lostTokens := by
    intro t ht
    rw [List.mem_singleton.mp ht]
    exact .inl rfl
  have hlost : ∀ j ∈ lostPrice, j.Spelled jsonEncoding lostTokens := by
    intro j hj
    rw [List.mem_singleton.mp hj]
    trivial
  exact (JobPass.run_spelled (Set.injOn_id _) 97 97 56 hlost hone).2

/-- The failed write was about a token; there is no row of a pool. -/
theorem lostDatabase_knows [TokenCollation] :
    lateRestart.pool.KnowsSymbols jsonEncoding 97 lostDatabase := by
  intro i info _ row hrow
  cases hrow

theorem restart_heals_lost :
    letI : TokenCollation := caseless
    (JobPass.price { getPrice := fun _ => some 1 }).Shown jsonEncoding 97 97 56
      (JobPass.run jsonEncoding 97 97 56 [.pool (amountPass 500)] lostDatabase.flush)
      (task jsonEncoding 97 97 56 lateRestart lostDatabase) := by
  have hpasses : lateRestart.passes = [.pool (amountPass 500)] ++
      .price { getPrice := fun _ => some 1 } :: [.symbol busdSymbols, .logo newLogo] := rfl
  let _ : TokenCollation := caseless
  exact restart_heals lostTokens_caseless jsonEncoding_writesTexts lostDatabase_spelled
    lateRestart_spelled lostDatabase_alike lateRestart_calm lostDatabase_knows hpasses

/-! ## The records in Redis

For the second pass it matters what the first passes have left in Redis, since the token texts of a
pool are built from there. A text in Redis is that of the last round which wrote to its field. -/

section Records

variable {db db' : Database} {key : Nat × String} {f : TokenField} {text : String}
  {rs : List TokenRound} {r : TokenRound}

/-- **Frame**: a text in Redis stays, unless the round writes something else there. -/
theorem cachedText_run (hwrites : r.key = key → ∀ new, r.update.value f = some new → new = text)
    (h : db.cachedText key f = text) : (r.run db).cachedText key f = text := by
  by_cases hkey : r.key = key
  · subst hkey
    have hwritten (old : String) (hold : old = text) : (r.update.value f).getD old = text := by
      cases hvalue : r.update.value f with
      | none => exact hold
      | some new => exact hwrites rfl new hvalue
    rcases r.run_cases db with ⟨t, -, -, hrun⟩ | ⟨t, hcached, -, hrun⟩ | ⟨hmissing, hrun⟩
    · rwa [hrun]
    · rw [Database.cachedText_some hcached] at h
      rw [hrun, Database.cachedText_some (t := r.update.write t), TokenUpdate.get_write]
      · exact hwritten _ h
      · rw [saveData_tokenCache, Database.setTokenCache_tokenCache, if_pos rfl]
    · rw [Database.cachedText_none hmissing] at h
      rw [hrun, Database.cachedText_some
        (t := r.update.write { token := r.token, chainId := r.chainId }), TokenUpdate.get_write,
        TokenField.get_blank]
      · exact hwritten _ h
      · rw [saveData_tokenCache, Database.setTokenCache_tokenCache, if_pos rfl]
  · rw [Database.cachedText_congr (TokenRound.run_same hkey).cached]
    exact h

/-- It stays through several rounds. -/
theorem cachedText_rounds
    (hwrites : ∀ r ∈ rs, r.key = key → ∀ new, r.update.value f = some new → new = text)
    (h : db.cachedText key f = text) : (runRounds rs db).cachedText key f = text := by
  induction rs generalizing db with
  | nil => exact h
  | cons r rs ih =>
      rw [List.forall_mem_cons] at hwrites
      exact ih hwrites.2 (cachedText_run hwrites.1 h)

/-- **The last word in Redis**: the text of a round after which nothing else is written to its
field. -/
theorem rounds_record {pre post : List TokenRound}
    (hlast : ∀ r' ∈ post, r'.key = r.key →
      ∀ new, r'.update.value r.update.field = some new → new = r.update.text) :
    (runRounds (pre ++ r :: post) db).cachedText r.key r.update.field = r.update.text := by
  rw [runRounds_append]
  apply cachedText_rounds hlast
  obtain ⟨t, hcached, hknown⟩ := r.run_cached (runRounds pre db)
  rw [Database.cachedText_some hcached]
  exact (r.update.known_iff t).mp hknown

/-- Rounds of one job that agree about a token. -/
theorem rounds_agree_record (hr : ∃ r ∈ rs, r.key = key)
    (hall : ∀ r ∈ rs, r.key = key → r.update.field = f ∧ r.update.text = text) :
    (runRounds rs db).cachedText key f = text := by
  obtain ⟨r, hmem, rfl⟩ := hr
  obtain ⟨rfl, rfl⟩ := hall r hmem rfl
  obtain ⟨pre, post, rfl⟩ := List.append_of_mem hmem
  apply rounds_record
  intro r' hr' hkey new hnew
  obtain ⟨hfield, htext⟩ := hall r' (by simp [hr']) hkey
  rw [← hfield, r'.update.value_field, Option.some.injEq] at hnew
  rw [← hnew, htext]

/-- The job for pools leaves the records alone that are there. -/
theorem Growth.cached (h : Growth db db') {t : TokenInfo} (hcached : db.tokenCache key = some t) :
    db'.tokenCache key = some t := by
  induction h with
  | same _ hcache => rwa [hcache]
  | @cache db k row hmissing _ =>
      rw [Database.setTokenCache_tokenCache]
      split
      · next hkey =>
          rw [hkey, hmissing] at hcached
          cases hcached
      · exact hcached
  | create => exact hcached
  | trans _ _ ih ih' => exact ih' (ih hcached)

/-- It drops no row of a token. -/
theorem Growth.stored (h : Growth db db') (hstored : db.Stored key) : db'.Stored key := by
  induction h with
  | same htable _ => rwa [Database.Stored, htable]
  | cache => exact hstored
  | create =>
      obtain ⟨t, ht, hkey⟩ := hstored
      exact ⟨t, List.mem_append_left _ ht, hkey⟩
  | trans _ _ ih ih' => exact ih' (ih hstored)

end Records

/-! ## What the passes of a restart leave in Redis

The job for prices is the one that creates records, for every token with a row and a price. The
others then write their fields into these, so that in the end a record has all three texts. -/

/-- The record has what the passes read about the token. -/
structure Restart.Read (r : Restart) (testNet mainNet : Nat) (key : Nat × String) (t : TokenInfo) :
    Prop where
  price : ∀ price, r.price.price testNet { token := key.2, chainId := key.1 } = some price →
    t.price = toString price
  symbol : ∀ text, r.symbol.symbol testNet mainNet { token := key.2, chainId := key.1 } = some text →
    t.symbol = text
  logo : ∀ e, r.logo.Gives e → e.key = key → t.logo = e.logo

section Passes

variable {testNet mainNet : Nat} {db : Database} {key : Nat × String} {f : TokenField} {text : String}

/-- The price job sets the price it read, for a token that has a row. -/
theorem price_record {pass : PricePass} (hstored : db.Stored key) (hne : key.2 ≠ "") {price : Int}
    (hprice : pass.price testNet { token := key.2, chainId := key.1 } = some price) :
    (updateContractPrice testNet pass db).cachedText key .price = toString price := by
  obtain ⟨t, ht, rfl⟩ := hstored
  have hread : pass.price testNet t = some price := hprice
  rw [updateContractPrice_eq]
  apply rounds_agree_record
  · obtain ⟨r, hr, hkey, -⟩ := PricePass.round_mem ht hne hread
    exact ⟨r, hr, hkey⟩
  · intro r hr hkey
    obtain ⟨t', -, price', i, -, hkey', hread', hupdate, -⟩ := PricePass.mem_rounds hr
    rw [PricePass.price_congr (hkey'.symm.trans hkey), hread, Option.some.injEq] at hread'
    rw [hupdate, hread']
    exact ⟨rfl, rfl⟩

/-- The symbol job sets the symbol it read. -/
theorem symbol_record {pass : SymbolPass} (hstored : db.Stored key) (hne : key.2 ≠ "")
    (hsymbol : pass.symbol testNet mainNet { token := key.2, chainId := key.1 } = some text) :
    (updateContractSymbol testNet mainNet pass db).cachedText key .symbol = text := by
  obtain ⟨t, ht, rfl⟩ := hstored
  have hread : pass.symbol testNet mainNet t = some text := hsymbol
  rw [updateContractSymbol_eq]
  apply rounds_agree_record
  · obtain ⟨r, hr, hkey, -⟩ := SymbolPass.round_mem ht hne hread
    exact ⟨r, hr, hkey⟩
  · intro r hr hkey
    obtain ⟨t', -, text', i, -, hkey', hread', hupdate, -⟩ := SymbolPass.mem_rounds hr
    rw [SymbolPass.symbol_congr (hkey'.symm.trans hkey), hread, Option.some.injEq] at hread'
    rw [hupdate, hread']
    exact ⟨rfl, rfl⟩

/-- The logo job sets the logo it has. -/
theorem logo_record {pass : LogoPass} {e : TokenLogo} (hgives : pass.Gives e) :
    (updateTokenLogo pass db).cachedText e.key .logo = e.logo := by
  obtain ⟨pre, post, hentries, hlast⟩ := hgives
  rw [updateTokenLogo_eq, LogoPass.rounds_split hentries]
  apply rounds_record (r := pass.round e pre.length)
  intro r hr hkey
  obtain ⟨⟨e', i⟩, hmem, rfl⟩ := List.mem_map.mp hr
  exact absurd hkey (hlast e' (List.fst_mem_of_mem_zipIdx hmem))

/-- The jobs for symbols and for logos leave prices alone. -/
theorem symbol_keeps_price {pass : SymbolPass} (h : db.cachedText key .price = text) :
    (updateContractSymbol testNet mainNet pass db).cachedText key .price = text := by
  rw [updateContractSymbol_eq]
  apply cachedText_rounds _ h
  intro r hr _ new hnew
  obtain ⟨t, -, symbol, i, -, -, -, hupdate, -⟩ := SymbolPass.mem_rounds hr
  rw [hupdate] at hnew
  cases hnew

theorem logo_keeps {pass : LogoPass} (hf : f ≠ .logo)
    (hagree : ∀ e ∈ pass.entries, e.key = key → f = .symbol → e.symbol = text)
    (h : db.cachedText key f = text) : (updateTokenLogo pass db).cachedText key f = text := by
  rw [updateTokenLogo_eq]
  apply cachedText_rounds _ h
  intro r hr hkey new hnew
  obtain ⟨e, he, i, rfl⟩ := LogoPass.mem_rounds hr
  cases f with
  | price => cases hnew
  | symbol =>
      rw [← hagree e he hkey rfl]
      exact (Option.some.inj hnew).symm
  | logo => exact absurd rfl hf

/-- A job for tokens drops no row. -/
theorem runRounds_stored {rs : List TokenRound} (h : db.Stored key) :
    (runRounds rs db).Stored key := by
  induction rs generalizing db with
  | nil => exact h
  | cons r rs ih =>
      apply ih
      show (r.run db).Stored key
      rcases r.run_cases db with ⟨t, -, -, hrun⟩ | ⟨t, -, -, hrun⟩ | ⟨-, hrun⟩
      · rwa [hrun]
      · rw [hrun, saveData_stored]
        exact h
      · rw [hrun, saveData_stored]
        exact h.checkTokenInfo

/-- **The record of a token** after a restart, when the token had a row before the job for prices. -/
theorem task_record {enc : Encoding} {chainId : Nat} {r : Restart} (hcalm : r.Calm testNet mainNet)
    (hstored : (updatePoolInfo enc chainId r.pool db.flush).Stored key) (hne : key.2 ≠ "") {price : Int}
    (hprice : r.price.price testNet { token := key.2, chainId := key.1 } = some price) :
    ∃ t, (task enc chainId testNet mainNet r db).tokenCache key = some t ∧
      r.Read testNet mainNet key t := by
  -- the jobs in their order; the first one matters by the rows it leaves only
  have htask : task enc chainId testNet mainNet r db =
      updateTokenLogo r.logo (updateContractSymbol testNet mainNet r.symbol
        (updateContractPrice testNet r.price (updatePoolInfo enc chainId r.pool db.flush))) := rfl
  generalize updatePoolInfo enc chainId r.pool db.flush = pools at hstored htask
  have hpriced : (updateContractPrice testNet r.price pools).Stored key := by
    rw [updateContractPrice_eq]
    exact runRounds_stored hstored
  have hnoSymbol : ∀ e ∈ r.logo.entries, e.key = key → TokenField.price = .symbol →
      e.symbol = toString price := fun _ _ _ h => TokenField.noConfusion h
  have hfinal : (task enc chainId testNet mainNet r db).cachedText key .price = toString price := by
    rw [htask]
    exact logo_keeps TokenField.noConfusion hnoSymbol
      (symbol_keeps_price (price_record hstored hne hprice))
  cases hcached : (task enc chainId testNet mainNet r db).tokenCache key with
  | none =>
      rw [Database.cachedText_none hcached] at hfinal
      exact absurd hfinal.symm (toString_int_ne price)
  | some t =>
      refine ⟨t, rfl, ?_⟩
      constructor
      · intro price' hprice'
        rw [hprice, Option.some.injEq] at hprice'
        rw [← hprice', ← hfinal, Database.cachedText_some hcached]
        rfl
      · intro text hsymbol
        have hread : (task enc chainId testNet mainNet r db).cachedText key .symbol = text := by
          rw [htask]
          refine logo_keeps TokenField.noConfusion ?_ (symbol_record hpriced hne hsymbol)
          intro e he hkey _
          exact hcalm.agree _ text hsymbol e he hkey
        rw [← hread, Database.cachedText_some hcached]
        rfl
      · rintro e hgives rfl
        have hread : (task enc chainId testNet mainNet r db).cachedText e.key .logo = e.logo := by
          rw [htask]
          exact logo_record hgives
        rw [← hread, Database.cachedText_some hcached]
        rfl

end Passes

/-! ## The tokens of a pool

What is left is that both tokens of a pool have rows in time. The first pass for pools saves the
base record, which it does not find cached, and a save leaves rows for both tokens
(`pool_tokens_stored`). So the job for prices meets them, and the second pass for pools finds full
records and reads no table. -/

section Pools

variable {enc : Encoding} {pass : Pass} {chainId i : Nat} {db : Database}

/-- Without a failure `TokenSymbol` leaves a row. -/
theorem tokenSymbol_stores (token : String) (chainId : Nat) (db : Database) :
    (tokenSymbol false token chainId db).2.Stored (chainId, token) := by
  unfold tokenSymbol
  split
  · next row hrow =>
      obtain ⟨hmem, hkey⟩ := of_first hrow
      exact ⟨row, hmem, hkey⟩
  · exact ⟨_, List.mem_append_right _ (List.mem_singleton.mpr rfl), rfl⟩

/-- Without failures `SaveTokenInfo` leaves a row for both tokens. -/
theorem saveTokenInfo_stores {fails : Write → Bool} (hok : ∀ write, fails write = false)
    (base : PoolBase) (db : Database) :
    (saveTokenInfo fails base db).2.Stored (base.chainId, base.borrowToken) ∧
      (saveTokenInfo fails base db).2.Stored (base.chainId, base.lendToken) := by
  unfold saveTokenInfo
  rw [hok, hok]
  have hborrow := tokenSymbol_stores base.borrowToken base.chainId db
  obtain ⟨tokenInfo, hsaved, -⟩ := tokenSymbol_saves base.borrowToken base.chainId db
  rw [hsaved] at hborrow ⊢
  have hlend := tokenSymbol_stores base.lendToken base.chainId { db with tokenInfo := tokenInfo }
  have hgrowth := tokenSymbol_growth false base.lendToken base.chainId
    { db with tokenInfo := tokenInfo }
  obtain ⟨tokenInfo', hsaved', -⟩ :=
    tokenSymbol_saves base.lendToken base.chainId { db with tokenInfo := tokenInfo }
  dsimp only
  rw [hsaved'] at hlend hgrowth ⊢
  exact ⟨hgrowth.stored hborrow, hlend⟩

/-- The save itself is to another table. -/
theorem savePoolBase_tokens (fails : Write → Bool) (now : String) (poolId : Nat) (base : PoolBase)
    (db : Database) : (savePoolBase fails now chainId poolId base db).2.tokenInfo =
      (saveTokenInfo fails base db).2.tokenInfo := by
  unfold savePoolBase
  generalize saveTokenInfo fails base db = r
  obtain ⟨_ | ⟨borrowSymbol, lendSymbol⟩, db₁⟩ := r
  · rfl
  · dsimp only
    split
    · exact (updateBase_tokens ..).1
    · split
      · rfl
      · exact (updateBase_tokens ..).1

/-- The rows of tokens that are there after a round are there after the pass. -/
theorem stored_after_round {key : Nat × String} (hi : i ∈ pass.indices)
    (h : (updatePool enc pass chainId (pass.before enc chainId db i) i).Stored key) :
    (updatePoolInfo enc chainId pass db).Stored key := by
  obtain ⟨js, -, hindices⟩ := Pass.indices_split hi
  rw [updatePoolInfo_eq, hindices, List.foldl_append, List.foldl_cons]
  exact (rounds_growth js _).stored h

/-- A record that is not cached is saved, and its tokens get rows. -/
theorem round_tokens_stored (hok : ∀ write, pass.writeFails i write = false) {record : PoolBase}
    {db₁ : Database} (hread : pass.readBase enc chainId db i = some (record, db₁))
    (hmissing : db.cache (.baseInfo chainId (i + 1)) = none) :
    (updatePool enc pass chainId db i).Stored (chainId, record.lendToken) ∧
      (updatePool enc pass chainId db i).Stored (chainId, record.borrowToken) := by
  obtain ⟨hkey, -, hsame⟩ := readBase_some hread
  obtain rfl : record.chainId = chainId := congrArg Prod.fst hkey
  have hopen : (syncBase enc pass record.chainId i record db₁).2.tokenInfo =
      (saveTokenInfo (pass.writeFails i) record db₁).2.tokenInfo := by
    have hmiss : ¬ db₁.cache (.baseInfo record.chainId (i + 1)) = some (enc.md5 record) := by
      rw [(hsame i).base, hmissing]
      exact nofun
    simp only [syncBase, if_neg hmiss]
    exact savePoolBase_tokens ..
  have hclose : Growth (syncBase enc pass record.chainId i record db₁).2
      (updatePool enc pass record.chainId db i) := by
    rw [updatePool_eq, openRound_some hread]
    dsimp only
    cases pass.poolDataInfo i with
    | none => exact .refl _
    | some data => exact syncData_growth ..
  obtain ⟨hborrow, hlend⟩ := saveTokenInfo_stores hok record db₁
  constructor
  · apply hclose.stored
    rwa [Database.Stored, hopen]
  · apply hclose.stored
    rwa [Database.Stored, hopen]

/-- The tokens of a pool whose base record is not cached have rows after the pass. -/
theorem pool_tokens_stored (hok : ∀ write, pass.writeFails i write = false) {info : BaseInfo}
    (hread : pass.ReadsBase i info) (hmissing : db.cache (.baseInfo chainId (i + 1)) = none) :
    (updatePoolInfo enc chainId pass db).Stored (chainId, enc.hex info.lendToken) ∧
      (updatePoolInfo enc chainId pass db).Stored (chainId, enc.hex info.borrowToken) := by
  obtain ⟨hi, hinfo⟩ := hread
  obtain ⟨record, db₁, hrecord, hcarries⟩ :=
    readBase_isSome enc chainId hinfo (pass.before enc chainId db i)
  have hbefore : (pass.before enc chainId db i).cache (.baseInfo chainId (i + 1)) = none :=
    (before_same i db).base.trans hmissing
  obtain ⟨hlend, hborrow⟩ := round_tokens_stored hok hrecord hbefore
  rw [hcarries.lendToken] at hlend
  rw [hcarries.borrowToken] at hborrow
  exact ⟨stored_after_round hi hlend, stored_after_round hi hborrow⟩

/-- A token with a record in Redis is not looked up in its table. -/
theorem getTokenInfo_cached {token : String} {t : TokenInfo}
    (hcached : db.tokenCache (chainId, token) = some t) :
    getTokenInfo token chainId db = ({ t with token := token, chainId := chainId }, db) := by
  unfold getTokenInfo
  rw [hcached]

/-- The texts of the tokens in a record are built from what is in Redis. -/
theorem readBase_tokens {info : BaseInfo} (hinfo : pass.poolBaseInfo i = some info)
    {lend borrow : TokenInfo} (hlend : db.tokenCache (chainId, enc.hex info.lendToken) = some lend)
    (hborrow : db.tokenCache (chainId, enc.hex info.borrowToken) = some borrow) :
    ∃ record, pass.readBase enc chainId db i = some (record, db) ∧
      record.lendTokenInfo =
        enc.lendTokenJson (feeText pass.lendFee) lend.logo lend.symbol lend.price ∧
      record.borrowTokenInfo =
        enc.borrowTokenJson (feeText pass.borrowFee) borrow.logo borrow.symbol borrow.price := by
  refine ⟨newPoolBase enc pass chainId (i + 1) info
    { lend with token := enc.hex info.lendToken, chainId := chainId }
    { borrow with token := enc.hex info.borrowToken, chainId := chainId }, ?_, rfl, rfl⟩
  unfold Pass.readBase
  rw [hinfo]
  simp only [getTokenInfo_cached hborrow, getTokenInfo_cached hlend]

/-- Rows that have a record have its texts of the tokens. -/
theorem PoolBase.Has.tokens {row record : PoolBase} (h : row.Has record) :
    (record.lendTokenInfo ≠ "" → row.lendTokenInfo = record.lendTokenInfo) ∧
      (record.borrowTokenInfo ≠ "" → row.borrowTokenInfo = record.borrowTokenInfo) := by
  constructor
  · intro hne
    have hlend : merge row.lendTokenInfo record.lendTokenInfo = row.lendTokenInfo :=
      congrArg PoolBase.lendTokenInfo h
    rw [← hlend, merge_of_ne hne]
  · intro hne
    have hborrow : merge row.borrowTokenInfo record.borrowTokenInfo = row.borrowTokenInfo :=
      congrArg PoolBase.borrowTokenInfo h
    rw [← hborrow, merge_of_ne hne]

end Pools

/-- The next pass for pools reads a record with the texts that the restart read, and leaves it in the
rows. -/
theorem Restart.converges {enc : Encoding} (hmd5 : Function.Injective enc.md5)
    {chainId testNet mainNet : Nat} {r : Restart} (hcalm : r.Calm testNet mainNet) (db : Database)
    {again : Pass} (hagain : ∀ i write, again.writeFails i write = false) {i : Nat}
    {info info' : BaseInfo} (hread : r.pool.ReadsBase i info) (hread' : again.ReadsBase i info')
    (hlend : info'.lendToken = info.lendToken) (hborrow : info'.borrowToken = info.borrowToken)
    (hprices : ∀ token ∈ [info.lendToken, info.borrowToken], ∃ price,
      r.price.price testNet { token := enc.hex token, chainId := chainId } = some price) :
    ∃ (lend borrow : TokenInfo) (record : PoolBase),
      r.Read testNet mainNet (chainId, enc.hex info.lendToken) lend ∧
      r.Read testNet mainNet (chainId, enc.hex info.borrowToken) borrow ∧
      (updatePoolInfo enc chainId again (task enc chainId testNet mainNet r db)).HasBase
        (chainId, i + 1) record ∧
      record.Carries enc info' ∧
      record.lendTokenInfo =
        enc.lendTokenJson (feeText again.lendFee) lend.logo lend.symbol lend.price ∧
      record.borrowTokenInfo =
        enc.borrowTokenJson (feeText again.borrowFee) borrow.logo borrow.symbol borrow.price := by
  have hpool : ∀ i write, r.pool.writeFails i write = false :=
    hcalm.succeeds (.pool r.pool) List.mem_cons_self
  have hmissing : db.flush.cache (.baseInfo chainId (i + 1)) = none := rfl
  -- both tokens have rows after the first pass for pools, and full records after the jobs for
  -- tokens
  obtain ⟨hlendRow, hborrowRow⟩ := pool_tokens_stored (hpool i) hread hmissing
  obtain ⟨lendPrice, hlendPrice⟩ := hprices info.lendToken (by simp)
  obtain ⟨borrowPrice, hborrowPrice⟩ := hprices info.borrowToken (by simp)
  obtain ⟨lend, hlendCached, hlendRead⟩ :=
    task_record hcalm hlendRow (enc.hex_ne info.lendToken) hlendPrice
  obtain ⟨borrow, hborrowCached, hborrowRead⟩ :=
    task_record hcalm hborrowRow (enc.hex_ne info.borrowToken) hborrowPrice
  -- the records of the restart are still there when the round for the pool begins
  have hbefore : Growth (task enc chainId testNet mainNet r db)
      (again.before enc chainId (task enc chainId testNet mainNet r db) i) := rounds_growth _ _
  rw [← hlend] at hlendCached
  rw [← hborrow] at hborrowCached
  obtain ⟨record, hrecord, hlendText, hborrowText⟩ := readBase_tokens hread'.2
    (hbefore.cached hlendCached) (hbefore.cached hborrowCached)
  obtain ⟨-, ⟨info'', hinfo'', hcarries⟩, -⟩ := readBase_some hrecord
  rw [hread'.2, Option.some.injEq] at hinfo''
  subst hinfo''
  -- no write has failed since the flush, so a cached MD5 is of a record that the rows have
  have hkept : BaseKept enc chainId i (task enc chainId testNet mainNet r db) := by
    apply JobPass.kept_run hmd5
    · intro j hj
      have hok := hcalm.succeeds j hj
      cases j with
      | pool pass => exact hok i
      | _ => trivial
    · intro record hcached
      cases hcached
  -- the second pass saves the record, or its rows have it already
  have hhas := updatePoolInfo_has hmd5 (hagain i) hread'.1 hkept hrecord
  exact ⟨lend, borrow, record, hlendRead, hborrowRead, hhas, hcarries, hlendText, hborrowText⟩

/-- **A restart converges.** After a restart without failures the next pass for pools leaves, in the
rows of every pool that both passes for pools read, what it read of the pool, and the texts of its
two tokens as they follow from what the restart read about them. It needs a price of both tokens, and
tokens that the collation tells apart. -/
theorem restart_converges [TokenCollation] {S : Set String} (hsep : Set.InjOn TokenCollation.fold S)
    {enc : Encoding} (hmd5 : Function.Injective enc.md5) (hjson : enc.WritesTexts)
    {chainId testNet mainNet : Nat} {r : Restart} (hcalm : r.Calm testNet mainNet) {db : Database}
    (hdb : db.Spelled S) (hr : ∀ j ∈ r.passes, j.Spelled enc S)
    {again : Pass} (hthis : again.Spelled enc S)
    (hagain : ∀ i write, again.writeFails i write = false) {i : Nat}
    {info info' : BaseInfo} (hread : r.pool.ReadsBase i info) (hread' : again.ReadsBase i info')
    (hlend : info'.lendToken = info.lendToken) (hborrow : info'.borrowToken = info.borrowToken)
    (hprices : ∀ token ∈ [info.lendToken, info.borrowToken], ∃ price,
      r.price.price testNet { token := enc.hex token, chainId := chainId } = some price) :
    ∃ lend borrow : TokenInfo,
      r.Read testNet mainNet (chainId, enc.hex info.lendToken) lend ∧
      r.Read testNet mainNet (chainId, enc.hex info.borrowToken) borrow ∧
      (∃ row ∈ (updatePoolInfo enc chainId again
        (task enc chainId testNet mainNet r db)).poolbases, row.key = (chainId, i + 1)) ∧
      ∀ row ∈ (updatePoolInfo enc chainId again
          (task enc chainId testNet mainNet r db)).poolbases, row.key = (chainId, i + 1) →
        row.Carries enc info' ∧
          row.lendTokenInfo =
            enc.lendTokenJson (feeText again.lendFee) lend.logo lend.symbol lend.price ∧
          row.borrowTokenInfo =
            enc.borrowTokenJson (feeText again.borrowFee) borrow.logo borrow.symbol borrow.price := by
  obtain ⟨htask, hspelled⟩ := task_spelled hsep chainId testNet mainNet hdb hr
  have hpass : updatePoolInfo enc chainId again (task enc chainId testNet mainNet r db) =
      @updatePoolInfo .exact enc chainId again (@task .exact enc chainId testNet mainNet r db) := by
    rw [← htask]
    exact (JobPass.after_spelled hsep chainId testNet mainNet (j := .pool again) hthis hspelled).1
  rw [hpass]
  obtain ⟨lend, borrow, record, hlendRead, hborrowRead, hhas, hcarries, hlendText, hborrowText⟩ :=
    Restart.converges hmd5 hcalm db hagain hread hread' hlend hborrow hprices
  refine ⟨lend, borrow, hlendRead, hborrowRead, hhas.stored, ?_⟩
  intro row hrow hkey
  have hthis := hhas.rows row hrow hkey
  refine ⟨hcarries.of_has hthis, ?_, ?_⟩
  · rw [← hlendText]
    apply hthis.tokens.1
    rw [hlendText]
    exact (hjson ..).1
  · rw [← hborrowText]
    apply hthis.tokens.2
    rw [hborrowText]
    exact (hjson ..).2

/-- What the two passes for pools read of the second pool. -/
theorem amountPass_reads (amount : Nat) :
    ∃ info, (amountPass amount).ReadsBase 1 info ∧ info.lendToken = 0 ∧ info.borrowToken = 0 := by
  have hindex : 1 ∈ (amountPass amount).indices := by
    have hlength : (amountPass amount).poolLength = some 2 := rfl
    rw [Pass.indices, hlength]
    decide +kernel
  exact ⟨_, ⟨hindex, rfl⟩, rfl, rfl⟩

theorem restart_converges_lost :
    letI : TokenCollation := caseless
    ∃ info, (amountPass 700).ReadsBase 1 info ∧
    ∃ lend borrow : TokenInfo,
      lateRestart.Read 97 56 (97, jsonEncoding.hex 0) lend ∧
      lateRestart.Read 97 56 (97, jsonEncoding.hex 0) borrow ∧
      (∃ row ∈ (updatePoolInfo jsonEncoding 97 (amountPass 700)
        (task jsonEncoding 97 97 56 lateRestart lostDatabase)).poolbases, row.key = (97, 1 + 1)) ∧
      ∀ row ∈ (updatePoolInfo jsonEncoding 97 (amountPass 700)
          (task jsonEncoding 97 97 56 lateRestart lostDatabase)).poolbases, row.key = (97, 1 + 1) →
        row.Carries jsonEncoding info ∧
          row.lendTokenInfo =
            jsonEncoding.lendTokenJson (feeText (some 0)) lend.logo lend.symbol lend.price ∧
          row.borrowTokenInfo =
            jsonEncoding.borrowTokenJson (feeText (some 0)) borrow.logo borrow.symbol borrow.price := by
  obtain ⟨first, hfirst, hlend, hborrow⟩ := amountPass_reads 500
  obtain ⟨info, hread, hlend', hborrow'⟩ := amountPass_reads 700
  refine ⟨info, hread, ?_⟩
  have hprices : ∀ token ∈ [first.lendToken, first.borrowToken], ∃ price,
      lateRestart.price.price 97 { token := jsonEncoding.hex token, chainId := 97 } = some price :=
    fun token _ => ⟨1, rfl⟩
  have hwrites : ∀ i write, (amountPass 700).writeFails i write = false := fun _ _ => rfl
  let _ : TokenCollation := caseless
  have hconverges := restart_converges lostTokens_caseless jsonEncoding_injective
    jsonEncoding_writesTexts lateRestart_calm lostDatabase_spelled lateRestart_spelled
    (amountPass_spelled 700) hwrites hfirst hread (hlend'.trans hlend.symm)
    (hborrow'.trans hborrow.symm) hprices
  rw [hlend, hborrow] at hconverges
  exact hconverges

end Pledge.Backend
