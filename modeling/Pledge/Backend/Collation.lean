import Pledge.Backend.Failures

/-!
# Tokens in MySQL and in Redis

`token_info` is searched with `token=?`, and MySQL takes two texts of a column for the same when its
collation does, which ignores the case of letters. Redis takes its keys as they are. The two agree as
long as no token is spelled in two ways: where all tokens that the passes meet are in a set `S` on which
the collation tells texts apart, each job does what it does with texts compared as they are
(`JobPass.run_spelled`), and what it leaves or overlooks is the same (`JobPass.shown_spelled`,
`JobPass.overlooks_spelled`).
-/

namespace Pledge.Backend

open Pledge.Contract Pledge.Store

/-- The tokens of the rows are in the set. -/
def Database.Spelled (S : Set String) (db : Database) : Prop :=
  ∀ t ∈ db.tokenInfo, t.token ∈ S

/-- The tokens of the pools that the pass reads are in the set. -/
def Pass.Spelled (enc : Encoding) (S : Set String) (pass : Pass) : Prop :=
  ∀ i info, pass.poolBaseInfo i = some info → enc.hex info.lendToken ∈ S ∧ enc.hex info.borrowToken ∈ S

/-- What the pass brings in is in the set; the jobs for prices and symbols bring in nothing. -/
def JobPass.Spelled (enc : Encoding) (S : Set String) : JobPass → Prop
  | pool pass => pass.Spelled enc S
  | logo pass => ∀ e ∈ pass.entries, e.token ∈ S
  | _ => True

/-- A new row has a token of the set. -/
theorem Database.Spelled.create {S : Set String} {db : Database} {row : TokenInfo}
    (h : db.Spelled S) (hrow : row.token ∈ S) :
    Database.Spelled S { db with tokenInfo := db.tokenInfo ++ [row] } := by
  intro t ht
  rcases List.mem_append.mp ht with hold | hnew
  · exact h t hold
  · rw [List.mem_singleton.mp hnew]
    exact hrow

/-- The save of the amounts leaves the tokens alone. -/
theorem syncData_tokens (enc : Encoding) (pass : Pass) (chainId i : Nat) (base : PoolBase)
    (info : DataInfo) (db : Database) :
    (syncData enc pass chainId i base info db).tokenInfo = db.tokenInfo := by
  unfold syncData savePoolData
  dsimp only
  split
  · rfl
  · split
    · exact (updateData_tokens ..).1
    · split
      · rfl
      · exact (updateData_tokens ..).1

section Collation

variable [TokenCollation] {S : Set String} (hsep : Set.InjOn TokenCollation.fold S)
  {db : Database} {token : String} (chainId : Nat)

include hsep

/-! ## One token

Every function of the services that looks at `token_info` does so under a token that it has from a
row, from a pool or from the list of logos. If all of these are spelled as in `S`, on which the
collation is injective, then the search with the collation finds what an exact search finds, so the
function does what it would do with exact comparison, and the tokens of the rows stay in `S`. Each
lemma states both halves, since the second is the hypothesis of the next call. -/

/-- On the set the collation compares tokens as Redis does. -/
theorem place_spelled {rows : List TokenInfo} (hrows : ∀ t ∈ rows, t.token ∈ S) (htoken : token ∈ S) :
    ∀ t ∈ rows, t.place = (chainId, TokenCollation.fold token) ↔ t.key = (chainId, token) := by
  intro t ht
  unfold TokenInfo.place TokenInfo.key
  rw [Prod.mk.injEq, Prod.mk.injEq, hsep.eq_iff (hrows t ht) htoken]

/-- A lookup finds the same row. -/
theorem first_spelled (hdb : db.Spelled S) (htoken : token ∈ S) :
    first TokenInfo.place (chainId, TokenCollation.fold token) db.tokenInfo =
      first TokenInfo.key (chainId, token) db.tokenInfo :=
  first_congr (place_spelled hsep chainId hdb htoken)

/-- A row is missing for the one when it is missing for the other, and a new row has the token that
was asked for. -/
theorem checkTokenInfo_spelled (fails : Bool) (hdb : db.Spelled S) (htoken : token ∈ S) :
    checkTokenInfo fails token chainId db = @checkTokenInfo .exact fails token chainId db ∧
      (checkTokenInfo fails token chainId db).Spelled S := by
  have hsame : checkTokenInfo fails token chainId db =
      @checkTokenInfo .exact fails token chainId db := by
    unfold checkTokenInfo
    rw [first_spelled hsep chainId hdb htoken]
    rfl
  refine ⟨hsame, ?_⟩
  unfold checkTokenInfo
  split
  · exact hdb
  · split
    · exact hdb
    · exact hdb.create htoken

/-- An update writes to the same rows. -/
theorem saveData_spelled (u : TokenUpdate) (fails : Bool) (hdb : db.Spelled S) (htoken : token ∈ S) :
    saveData u fails token chainId db = @saveData .exact u fails token chainId db ∧
      (saveData u fails token chainId db).Spelled S := by
  constructor
  · unfold saveData
    rw [updates_congr (place_spelled hsep chainId hdb htoken)]
    rfl
  · unfold saveData
    split
    · exact hdb
    · intro t ht
      rcases mem_updates.mp ht with ⟨hold, -⟩ | ⟨old, hold, -, rfl⟩
      · exact hdb t hold
      · have hkey : (u.write old).token = old.token := congrArg Prod.snd (u.write_key old)
        rw [hkey]
        exact hdb old hold

/-! ## Rounds and passes for tokens

A round has the token of the row or of the entry it is about. -/

/-- One round. -/
theorem TokenRound.run_spelled {r : TokenRound} (hdb : db.Spelled S) (htoken : r.token ∈ S) :
    r.run db = @TokenRound.run .exact r db ∧ (r.run db).Spelled S := by
  obtain ⟨hcheck, hchecked⟩ :=
    checkTokenInfo_spelled hsep r.chainId r.createFails hdb htoken
  have hsave (db : Database) (hdb : db.Spelled S) :=
    saveData_spelled hsep r.chainId r.update r.updateFails hdb htoken
  unfold TokenRound.run checkData
  cases db.tokenCache (r.chainId, r.token) with
  | none =>
      dsimp only
      rw [if_pos rfl, if_pos rfl, ← hcheck]
      exact hsave _ hchecked
  | some t =>
      by_cases hknown : r.update.Known t
      · dsimp only
        rw [if_pos hknown]
        exact ⟨rfl, hdb⟩
      · dsimp only
        rw [if_neg hknown]
        exact hsave _ hdb

/-- Several rounds. -/
theorem runRounds_spelled {rs : List TokenRound} (hdb : db.Spelled S) (hrs : ∀ r ∈ rs, r.token ∈ S) :
    runRounds rs db = @runRounds .exact rs db ∧ (runRounds rs db).Spelled S := by
  induction rs generalizing db with
  | nil => exact ⟨rfl, hdb⟩
  | cons r rs ih =>
      rw [List.forall_mem_cons] at hrs
      obtain ⟨hrun, hspelled⟩ := r.run_spelled hsep hdb hrs.1
      obtain ⟨hruns, hspelled'⟩ := ih hspelled hrs.2
      refine ⟨?_, hspelled'⟩
      show runRounds rs (r.run db) = @runRounds .exact rs (@TokenRound.run .exact r db)
      rw [hruns, hrun]

/-! ## One pool

The functions of the job for pools, from the lookup of a token to the whole round. The record that a
round builds has the addresses of the pool as its tokens, so these are in `S` whenever the pass is.
-/

/-- A lookup reads Redis first, where keys are exact, and then the table. -/
theorem getTokenInfo_spelled (hdb : db.Spelled S) (htoken : token ∈ S) :
    getTokenInfo token chainId db = @getTokenInfo .exact token chainId db ∧
      (getTokenInfo token chainId db).2.Spelled S := by
  constructor
  · unfold getTokenInfo
    rw [first_spelled hsep chainId hdb htoken]
    rfl
  · unfold getTokenInfo
    split
    · exact hdb
    · split
      · exact hdb
      · exact hdb

/-- The symbol of a token. -/
theorem symbolOf_spelled (hdb : db.Spelled S) (htoken : token ∈ S) :
    db.symbolOf chainId token = @Database.symbolOf .exact db chainId token := by
  unfold Database.symbolOf
  rw [first_spelled hsep chainId hdb htoken]
  rfl

/-- A row may be created under the token that was asked for. -/
theorem tokenSymbol_spelled (fails : Bool) (hdb : db.Spelled S) (htoken : token ∈ S) :
    tokenSymbol fails token chainId db = @tokenSymbol .exact fails token chainId db ∧
      (tokenSymbol fails token chainId db).2.Spelled S := by
  constructor
  · unfold tokenSymbol
    rw [first_spelled hsep chainId hdb htoken]
    rfl
  · unfold tokenSymbol
    split
    · exact hdb
    · split
      · exact hdb
      · exact hdb.create htoken

/-- Both tokens of a record. -/
theorem saveTokenInfo_spelled (fails : Write → Bool) {base : PoolBase} (hdb : db.Spelled S)
    (hlend : base.lendToken ∈ S) (hborrow : base.borrowToken ∈ S) :
    saveTokenInfo fails base db = @saveTokenInfo .exact fails base db ∧
      (saveTokenInfo fails base db).2.Spelled S := by
  obtain ⟨hfirst, hspelled⟩ :=
    tokenSymbol_spelled hsep base.chainId (fails .borrowToken) hdb hborrow
  unfold saveTokenInfo
  rw [← hfirst]
  generalize tokenSymbol (fails .borrowToken) base.borrowToken base.chainId db = r at hspelled ⊢
  obtain ⟨_ | borrowSymbol, db₁⟩ := r
  · exact ⟨rfl, hspelled⟩
  · obtain ⟨hsecond, hspelled'⟩ :=
      tokenSymbol_spelled hsep base.chainId (fails .lendToken) hspelled hlend
    dsimp only
    rw [← hsecond]
    generalize tokenSymbol (fails .lendToken) base.lendToken base.chainId db₁ = r at hspelled' ⊢
    obtain ⟨_ | lendSymbol, db₂⟩ := r
    · exact ⟨rfl, hspelled'⟩
    · exact ⟨rfl, hspelled'⟩

/-- The save of a base record. -/
theorem savePoolBase_spelled (fails : Write → Bool) (now : String) (poolId : Nat) {base : PoolBase}
    (hdb : db.Spelled S) (hlend : base.lendToken ∈ S) (hborrow : base.borrowToken ∈ S) :
    savePoolBase fails now chainId poolId base db =
        @savePoolBase .exact fails now chainId poolId base db ∧
      (savePoolBase fails now chainId poolId base db).2.Spelled S := by
  obtain ⟨htokens, hspelled⟩ := saveTokenInfo_spelled hsep fails hdb hlend hborrow
  unfold savePoolBase
  rw [← htokens]
  refine ⟨rfl, ?_⟩
  generalize saveTokenInfo fails base db = r at hspelled ⊢
  obtain ⟨_ | ⟨borrowSymbol, lendSymbol⟩, db₁⟩ := r
  · exact hspelled
  · dsimp only at hspelled ⊢
    split
    · rw [Database.Spelled, (updateBase_tokens ..).1]
      exact hspelled
    · split
      · exact hspelled
      · rw [Database.Spelled, (updateBase_tokens ..).1]
        exact hspelled

/-- The comparison of the base record and its save. -/
theorem syncBase_spelled (enc : Encoding) (pass : Pass) (i : Nat) {base : PoolBase}
    (hdb : db.Spelled S) (hlend : base.lendToken ∈ S) (hborrow : base.borrowToken ∈ S) :
    syncBase enc pass chainId i base db = @syncBase .exact enc pass chainId i base db ∧
      (syncBase enc pass chainId i base db).2.Spelled S := by
  obtain ⟨hsave, hspelled⟩ := savePoolBase_spelled hsep chainId (pass.writeFails i)
    (pass.baseClock i) (i + 1) hdb hlend hborrow
  unfold syncBase
  dsimp only
  rw [← hsave]
  refine ⟨rfl, ?_⟩
  split
  · exact hdb
  · exact hspelled

section Round

variable {enc : Encoding} {pass : Pass} (i : Nat)

/-- The lookups, and the record they build. -/
theorem readBase_spelled (hpass : pass.Spelled enc S) (hdb : db.Spelled S) :
    pass.readBase enc chainId db i = @Pass.readBase .exact enc pass chainId db i ∧
      ∀ record db₁, pass.readBase enc chainId db i = some (record, db₁) →
        db₁.Spelled S ∧ record.lendToken ∈ S ∧ record.borrowToken ∈ S := by
  unfold Pass.readBase
  cases hinfo : pass.poolBaseInfo i with
  | none => exact ⟨rfl, nofun⟩
  | some info =>
      obtain ⟨hlend, hborrow⟩ := hpass i info hinfo
      obtain ⟨hfirst, hspelled⟩ := getTokenInfo_spelled hsep chainId hdb hborrow
      dsimp only
      rw [← hfirst]
      generalize getTokenInfo (enc.hex info.borrowToken) chainId db = r at hspelled ⊢
      obtain ⟨borrowToken, db₁⟩ := r
      obtain ⟨hsecond, hspelled'⟩ := getTokenInfo_spelled hsep chainId hspelled hlend
      dsimp only
      rw [← hsecond]
      refine ⟨rfl, ?_⟩
      intro record db₂ hread
      obtain ⟨rfl, rfl⟩ := Prod.mk.inj (Option.some.inj hread)
      exact ⟨hspelled', hlend, hborrow⟩

/-- The first half of a round. -/
theorem openRound_spelled (hpass : pass.Spelled enc S) (hdb : db.Spelled S) :
    pass.openRound enc chainId db i = @Pass.openRound .exact enc pass chainId db i ∧
      ∀ record db₁, pass.openRound enc chainId db i = some (record, db₁) → db₁.Spelled S := by
  obtain ⟨hread, hspelled⟩ := readBase_spelled hsep chainId i hpass hdb
  unfold Pass.openRound
  rw [← hread]
  cases hrecord : pass.readBase enc chainId db i with
  | none => exact ⟨rfl, nofun⟩
  | some opened =>
      obtain ⟨record, db₁⟩ := opened
      obtain ⟨hdb₁, hlend, hborrow⟩ := hspelled record db₁ hrecord
      obtain ⟨hsync, hspelled'⟩ :=
        syncBase_spelled hsep chainId enc pass i hdb₁ hlend hborrow
      refine ⟨congrArg some hsync, ?_⟩
      intro record' db₂ hopen
      have hdb₂ : (syncBase enc pass chainId i record db₁).2 = db₂ :=
        congrArg Prod.snd (Option.some.inj hopen)
      rw [← hdb₂]
      exact hspelled'

/-- **A round.** -/
theorem updatePool_spelled (hpass : pass.Spelled enc S) (hdb : db.Spelled S) :
    updatePool enc pass chainId db i = @updatePool .exact enc pass chainId db i ∧
      (updatePool enc pass chainId db i).Spelled S := by
  obtain ⟨hopen, hspelled⟩ := openRound_spelled hsep chainId i hpass hdb
  rw [updatePool_eq, @updatePool_eq .exact, ← hopen]
  refine ⟨rfl, ?_⟩
  cases hround : pass.openRound enc chainId db i with
  | none => exact hdb
  | some opened =>
      obtain ⟨record, db₁⟩ := opened
      dsimp only
      cases pass.poolDataInfo i with
      | none => exact hspelled record db₁ hround
      | some info =>
          dsimp only
          rw [Database.Spelled, syncData_tokens]
          exact hspelled record db₁ hround

/-- Rounds for pools, one after the other. -/
theorem rounds_spelled (hpass : pass.Spelled enc S) (hdb : db.Spelled S) (is : List Nat) :
    is.foldl (updatePool enc pass chainId) db =
        is.foldl (@updatePool .exact enc pass chainId) db ∧
      (is.foldl (updatePool enc pass chainId) db).Spelled S := by
  induction is generalizing db with
  | nil => exact ⟨rfl, hdb⟩
  | cons i is ih =>
      obtain ⟨hround, hspelled⟩ := updatePool_spelled hsep chainId i hpass hdb
      obtain ⟨hrounds, hspelled'⟩ := ih hspelled
      refine ⟨?_, hspelled'⟩
      rw [List.foldl_cons, List.foldl_cons, hrounds, hround]

/-- The rounds before one. -/
theorem before_spelled (hpass : pass.Spelled enc S) (hdb : db.Spelled S) :
    pass.before enc chainId db i = @Pass.before .exact enc chainId pass db i ∧
      (pass.before enc chainId db i).Spelled S :=
  rounds_spelled hsep chainId hpass hdb (List.range i)

/-- What a pass reads in the round for a pool. -/
theorem reads_spelled (hpass : pass.Spelled enc S) (hdb : db.Spelled S) :
    pass.readBase enc chainId (pass.before enc chainId db i) i =
      @Pass.readBase .exact enc pass chainId (@Pass.before .exact enc chainId pass db i) i := by
  obtain ⟨hbefore, hspelled⟩ := before_spelled hsep chainId i hpass hdb
  rw [(readBase_spelled hsep chainId i hpass hspelled).1, hbefore]

end Round

/-! ## Passes of all jobs

From rounds to passes and to runs of passes. `Shown` and `Overlooks` ask for rows by token as well,
so they are the same under both comparisons too. -/

section Passes

variable {enc : Encoding} (testNet mainNet : Nat) {j : JobPass}

/-- **A pass of any job.** -/
theorem JobPass.after_spelled (hj : j.Spelled enc S) (hdb : db.Spelled S) :
    j.after enc chainId testNet mainNet db = @JobPass.after enc chainId testNet mainNet .exact j db ∧
      (j.after enc chainId testNet mainNet db).Spelled S := by
  cases j with
  | pool pass =>
      have hrounds (is : List Nat) := rounds_spelled hsep chainId hj hdb is
      simp only [JobPass.after, updatePoolInfo]
      cases pass.poolLength with
      | none => exact ⟨rfl, hdb⟩
      | some pLength => exact hrounds _
  | price pass =>
      simp only [JobPass.after, updateContractPrice_eq]
      apply runRounds_spelled hsep hdb
      intro r hr
      obtain ⟨t, ht, price, i, -, hkey, -⟩ := PricePass.mem_rounds hr
      rw [show r.token = t.token from congrArg Prod.snd hkey]
      exact hdb t ht
  | symbol pass =>
      simp only [JobPass.after, updateContractSymbol_eq]
      apply runRounds_spelled hsep hdb
      intro r hr
      obtain ⟨t, ht, symbol, i, -, hkey, -⟩ := SymbolPass.mem_rounds hr
      rw [show r.token = t.token from congrArg Prod.snd hkey]
      exact hdb t ht
  | logo pass =>
      simp only [JobPass.after, updateTokenLogo_eq]
      apply runRounds_spelled hsep hdb
      intro r hr
      obtain ⟨e, he, i, rfl⟩ := LogoPass.mem_rounds hr
      exact hj e he

/-- **Passes one after another.** -/
theorem JobPass.run_spelled {es : List JobPass} (hes : ∀ j ∈ es, j.Spelled enc S)
    (hdb : db.Spelled S) :
    JobPass.run enc chainId testNet mainNet es db =
        @JobPass.run enc chainId testNet mainNet .exact es db ∧
      (JobPass.run enc chainId testNet mainNet es db).Spelled S := by
  induction es generalizing db with
  | nil => exact ⟨rfl, hdb⟩
  | cons j es ih =>
      rw [List.forall_mem_cons] at hes
      obtain ⟨hafter, hspelled⟩ :=
        j.after_spelled hsep chainId testNet mainNet hes.1 hdb
      obtain ⟨hrun, hspelled'⟩ := ih hes.2 hspelled
      refine ⟨?_, hspelled'⟩
      show JobPass.run enc chainId testNet mainNet es (j.after enc chainId testNet mainNet db) =
        @JobPass.run enc chainId testNet mainNet .exact es
          (@JobPass.after enc chainId testNet mainNet .exact j db)
      rw [hrun, hafter]

/-- What a pass has shown. -/
theorem JobPass.shown_spelled (hj : j.Spelled enc S) {before after : Database}
    (hbefore : before.Spelled S) :
    j.Shown enc chainId testNet mainNet before after ↔
      @JobPass.Shown enc chainId testNet mainNet .exact j before after := by
  cases j with
  | pool pass => simp only [JobPass.Shown, reads_spelled hsep chainId _ hj hbefore]
  | price pass => exact Iff.rfl
  | symbol pass => exact Iff.rfl
  | logo pass => exact Iff.rfl

/-- What a save leaves in the symbol columns. -/
theorem savesSymbols_spelled (hdb : db.Spelled S) {record : PoolBase} (hlend : record.lendToken ∈ S)
    (hborrow : record.borrowToken ∈ S) (key : Nat × Nat) :
    db.SavesSymbols key record ↔ @Database.SavesSymbols .exact db key record := by
  unfold Database.SavesSymbols
  rw [symbolOf_spelled hsep _ hdb hlend, symbolOf_spelled hsep _ hdb hborrow]

/-- What it misses there. -/
theorem missesSymbols_spelled {pass : Pass} (hpass : pass.Spelled enc S) (hdb : db.Spelled S)
    (i : Nat) : pass.MissesSymbols enc chainId db i ↔
      @Pass.MissesSymbols .exact enc chainId pass db i := by
  obtain ⟨-, hspelled⟩ := before_spelled hsep chainId i hpass hdb
  obtain ⟨-, hrecord⟩ := readBase_spelled hsep chainId i hpass hspelled
  unfold Pass.MissesSymbols
  apply exists_congr
  intro record
  apply exists_congr
  intro db₁
  rw [← reads_spelled hsep chainId i hpass hdb]
  apply and_congr_right
  intro hread
  obtain ⟨-, hlend, hborrow⟩ := hrecord record db₁ hread
  rw [savesSymbols_spelled hsep hdb hlend hborrow]

/-- What a pass overlooks. -/
theorem JobPass.overlooks_spelled (hj : j.Spelled enc S) (hdb : db.Spelled S) :
    j.Overlooks enc chainId testNet mainNet db ↔
      @JobPass.Overlooks enc chainId testNet mainNet .exact j db := by
  cases j with
  | pool pass =>
      have hopen (i : Nat) : pass.openRound enc chainId (pass.before enc chainId db i) i =
          @Pass.openRound .exact enc pass chainId (@Pass.before .exact enc chainId pass db i) i := by
        obtain ⟨hbefore, hspelled⟩ := before_spelled hsep chainId i hj hdb
        rw [(openRound_spelled hsep chainId i hj hspelled).1, hbefore]
      simp only [JobPass.Overlooks, Pass.OverlooksBase, Pass.Overlooks,
        reads_spelled hsep chainId _ hj hdb, hopen, missesSymbols_spelled hsep chainId hj hdb]
  | price pass => exact Iff.rfl
  | symbol pass => exact Iff.rfl
  | logo pass => exact Iff.rfl

end Passes

end Collation

end Pledge.Backend
