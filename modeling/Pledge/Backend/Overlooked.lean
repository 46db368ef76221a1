import Pledge.Backend.TokenSync

/-!
# What a pass overlooks

A job takes a value for known when Redis has it, whatever the rows have. So a pass without failures
overlooks a token when there is a record of it in Redis and either no row, or rows that lack the recorded
text while the pass reads nothing else (`Overlooks`). In all other cases the rows have afterwards what
the pass read for the token last (`rounds_hold_iff`). Nothing is assumed about how Redis and the rows
came to differ.
-/

namespace Pledge.Backend

open Pledge.Store

/-! ## Rounds

A round takes a token for known when its record is in the cache with this value. It overlooks the
token when the table says otherwise. -/

/-- What is recorded in Redis for the field is in the rows. -/
def Database.Agrees (db : Database) (key : Nat × String) (f : TokenField) : Prop :=
  ∃ t, db.tokenCache key = some t ∧ db.Holds key f (f.get t)

/-- Rounds of a job overlook a token: it has a record in Redis, and either no row, or a row that does not
have the recorded text while all rounds for the token find theirs in the record. -/
def Overlooks (f : TokenField) (rs : List TokenRound) (key : Nat × String) (db : Database) : Prop :=
  ∃ t, db.tokenCache key = some t ∧
    (db.Stored key → (∀ r ∈ rs, r.key = key → r.update.Known t) ∧ ¬ db.Holds key f (f.get t))

section Overlooks

variable {db db' : Database} {r : TokenRound} {rs : List TokenRound} {key : Nat × String}
  {f : TokenField}

/-- What agrees is not overlooked. -/
theorem Database.Agrees.not_overlooks (h : db.Agrees key f) : ¬ Overlooks f rs key db := by
  rintro ⟨t, hcached, hlost⟩
  obtain ⟨t', hcached', hholds⟩ := h
  rw [hcached, Option.some.injEq] at hcached'
  subst hcached'
  exact (hlost hholds.stored).2 hholds

theorem Database.Same.symm (h : db.Same key db') : db'.Same key db :=
  ⟨h.cached.symm, fun t hkey => (h.rows t hkey).symm⟩

theorem overlooks_same (hsame : db.Same key db') (h : Overlooks f rs key db) :
    Overlooks f rs key db' := by
  obtain ⟨t, hcached, hlost⟩ := h
  refine ⟨t, hsame.cached.trans hcached, fun hstored => ?_⟩
  obtain ⟨hknown, hnot⟩ := hlost (hstored.same hsame.symm)
  exact ⟨hknown, fun hholds => hnot (hholds.same hsame.symm)⟩

/-- After a round its text is in the record. -/
theorem TokenRound.run_cached (r : TokenRound) (db : Database) :
    ∃ t, (r.run db).tokenCache r.key = some t ∧ r.update.Known t := by
  rcases r.run_cases db with ⟨t, hcached, hknown, hrun⟩ | ⟨t, -, -, hrun⟩ | ⟨-, hrun⟩
  · exact ⟨t, by rw [hrun]; exact hcached, hknown⟩
  all_goals
    rw [hrun, saveData_tokenCache, Database.setTokenCache_tokenCache, if_pos rfl]
    refine ⟨_, rfl, ?_⟩
    rw [TokenUpdate.known_iff, TokenUpdate.get_write, TokenUpdate.value_field]
    rfl

/-- **One round**: what the pass overlooks after it was overlooked before. -/
theorem overlooks_run (hok : r.key = key → r.Succeeds ∧ r.update.field = f) :
    Overlooks f rs key (r.run db) ↔ Overlooks f (r :: rs) key db := by
  by_cases hkey : r.key = key
  · obtain ⟨⟨hcreate, hupdate⟩, rfl⟩ := hok hkey
    subst hkey
    rcases r.run_cases db with ⟨t, hcached, hknown, hrun⟩ | ⟨t, hcached, hnew, hrun⟩ | ⟨hmissing, hrun⟩
    · -- the text is known, and the round does nothing
      rw [hrun]
      unfold Overlooks
      simp [hcached, hknown]
    · -- the text is new, and saved where there is a row
      have hstill : (r.run db).tokenCache r.key = some (r.update.write t) := by
        rw [hrun, saveData_tokenCache, Database.setTokenCache_tokenCache, if_pos rfl]
      by_cases hstored : db.Stored r.key
      · apply iff_of_false
        · apply Database.Agrees.not_overlooks
          refine ⟨_, hstill, ?_⟩
          rw [r.update.get_write, r.update.value_field, hrun, hupdate]
          exact saveData_writes hstored r.update.value_field
        · rintro ⟨t', hcached', hlost⟩
          rw [hcached, Option.some.injEq] at hcached'
          subst hcached'
          exact hnew ((hlost hstored).1 r List.mem_cons_self rfl)
      · apply iff_of_true
        · refine ⟨_, hstill, fun hstored' => absurd ?_ hstored⟩
          rw [hrun, saveData_stored] at hstored'
          exact hstored'
        · exact ⟨t, hcached, fun hstored' => absurd hstored' hstored⟩
    · -- there is no record, and row and record are made
      apply iff_of_false
      · apply Database.Agrees.not_overlooks
        refine ⟨_, by rw [hrun, saveData_tokenCache, Database.setTokenCache_tokenCache, if_pos rfl], ?_⟩
        rw [r.update.get_write, r.update.value_field, hrun, hcreate, hupdate]
        exact saveData_writes (checkTokenInfo_stores r.token r.chainId db) r.update.value_field
      · rintro ⟨t, hcached, -⟩
        rw [hmissing] at hcached
        cases hcached
  · have hsame : db.Same key (r.run db) := TokenRound.run_same hkey
    have hrounds : Overlooks f (r :: rs) key db ↔ Overlooks f rs key db := by
      unfold Overlooks
      simp [hkey]
    rw [hrounds]
    exact ⟨overlooks_same hsame.symm, overlooks_same hsame⟩

/-- **A pass**: the rows have the recorded text afterwards, unless the token is overlooked. -/
theorem rounds_agree_iff (hok : ∀ r ∈ rs, r.key = key → r.Succeeds ∧ r.update.field = f)
    (hread : (∃ t, db.tokenCache key = some t) ∨ ∃ r ∈ rs, r.key = key) :
    (runRounds rs db).Agrees key f ↔ ¬ Overlooks f rs key db := by
  induction rs generalizing db with
  | nil =>
      obtain ⟨t, hcached⟩ : ∃ t, db.tokenCache key = some t := by simpa using hread
      refine ⟨Database.Agrees.not_overlooks, fun hnot => ?_⟩
      by_contra hlost
      apply hnot
      refine ⟨t, hcached, fun _ => ⟨fun r hr => absurd hr List.not_mem_nil, fun hholds => ?_⟩⟩
      exact hlost ⟨t, hcached, hholds⟩
  | cons r rs ih =>
      rw [List.forall_mem_cons] at hok
      have hrun : (runRounds rs (r.run db)).Agrees key f ↔ ¬ Overlooks f rs key (r.run db) := by
        apply ih hok.2
        by_cases hkey : r.key = key
        · left
          obtain ⟨t, hcached, -⟩ := r.run_cached db
          exact ⟨t, hkey ▸ hcached⟩
        · rw [(TokenRound.run_same hkey).cached]
          simpa [hkey] using hread
      rw [overlooks_run hok.1] at hrun
      exact hrun

theorem rounds_same_token {rs : List TokenRound} (hothers : ∀ r ∈ rs, r.key ≠ key) (db : Database) :
    db.Same key (runRounds rs db) := by
  induction rs generalizing db with
  | nil => exact .refl key db
  | cons r rs ih =>
      rw [List.forall_mem_cons] at hothers
      exact (TokenRound.run_same hothers.1).trans (ih hothers.2 _)

/-- **What the rows have after a pass**: the text of its last round for the token, unless the token is
overlooked. -/
theorem rounds_hold_iff {pre post : List TokenRound}
    (hok : ∀ r' ∈ pre ++ r :: post, r'.key = r.key → r'.Succeeds ∧ r'.update.field = r.update.field)
    (hlast : ∀ r' ∈ post, r'.key ≠ r.key) :
    (runRounds (pre ++ r :: post) db).Holds r.key r.update.field r.update.text ↔
      ¬ Overlooks r.update.field (pre ++ r :: post) r.key db := by
  rw [← rounds_agree_iff hok (.inr ⟨r, by simp, rfl⟩)]
  obtain ⟨t, hcached, hknown⟩ := r.run_cached (runRounds pre db)
  have hrecord : (runRounds (pre ++ r :: post) db).tokenCache r.key = some t := by
    rw [runRounds_append]
    exact (rounds_same_token hlast _).cached.trans hcached
  rw [TokenUpdate.known_iff] at hknown
  constructor
  · intro hholds
    exact ⟨t, hrecord, hknown ▸ hholds⟩
  · rintro ⟨t', hrecord', hholds⟩
    rw [hrecord, Option.some.injEq] at hrecord'
    subst hrecord'
    rwa [hknown] at hholds

end Overlooks
/-! ## The jobs for tokens

A pass goes through its list, and only the rounds about a token matter to it. -/

section Passes

variable {testNet mainNet : Nat} {db : Database} {key : Nat × String} {f : TokenField}
  {rs : List TokenRound} {text : String}

/-- A pass in which all rounds for the token have the same text. -/
theorem rounds_hold_one (hread : ∃ r ∈ rs, r.key = key)
    (hok : ∀ r ∈ rs, r.key = key → r.Succeeds ∧ r.update.field = f ∧ r.update.text = text) :
    (runRounds rs db).Holds key f text ↔ ¬ Overlooks f rs key db := by
  obtain ⟨pre, r, post, rfl, rfl, hlast⟩ := exists_last hread
  obtain ⟨-, rfl, rfl⟩ := hok r (by simp) rfl
  apply rounds_hold_iff _ hlast
  intro r' hr' hkey
  obtain ⟨hsucceeds, hfield, -⟩ := hok r' hr' hkey
  exact ⟨hsucceeds, hfield⟩

/-- The price pass overlooks a token that it reads. -/
def PricePass.Overlooks (pass : PricePass) (testNet : Nat) (key : Nat × String) (db : Database) :
    Prop :=
  (∃ r ∈ pass.rounds testNet db.tokenInfo, r.key = key) ∧
    Backend.Overlooks .price (pass.rounds testNet db.tokenInfo) key db

def SymbolPass.Overlooks (pass : SymbolPass) (testNet mainNet : Nat) (key : Nat × String)
    (db : Database) : Prop :=
  (∃ r ∈ pass.rounds testNet mainNet db.tokenInfo, r.key = key) ∧
    Backend.Overlooks .symbol (pass.rounds testNet mainNet db.tokenInfo) key db

def LogoPass.Overlooks (pass : LogoPass) (key : Nat × String) (db : Database) : Prop :=
  (∃ r ∈ pass.rounds, r.key = key) ∧ Backend.Overlooks .logo pass.rounds key db

/-- **When the rows have the price** that a pass without failures read. -/
theorem PricePass.shown_iff {pass : PricePass} (hok : pass.Succeeds) :
    pass.Shown testNet key db (updateContractPrice testNet pass db) ↔
      ¬ pass.Overlooks testNet key db := by
  have hsame : ∀ t : TokenInfo, t.key = key → ∀ price, pass.price testNet t = some price →
      ∀ r ∈ pass.rounds testNet db.tokenInfo, r.key = key →
        r.Succeeds ∧ r.update.field = .price ∧ r.update.text = toString price := by
    intro t hthis price hprice r hr hkey
    obtain ⟨t', -, price', i, -, hkey', hprice', hupdate, -⟩ := PricePass.mem_rounds hr
    rw [PricePass.price_congr ((hkey'.symm.trans hkey).trans hthis.symm), hprice,
      Option.some.injEq] at hprice'
    rw [hupdate, hprice']
    exact ⟨PricePass.rounds_succeed hok r hr, rfl, rfl⟩
  rw [updateContractPrice_eq]
  constructor
  · rintro hshown ⟨⟨r, hr, hkey⟩, hoverlooks⟩
    obtain ⟨t, ht, price, i, hne, hthis, hprice, -⟩ := PricePass.mem_rounds hr
    have htoken : t.key = key := hthis.symm.trans hkey
    exact (rounds_hold_one ⟨r, hr, hkey⟩ (hsame t htoken price hprice)).mp
      (hshown t ht htoken hne price hprice) hoverlooks
  · intro hnot t ht hthis hne price hprice
    obtain ⟨r, hr, hkey, -⟩ := PricePass.round_mem ht hne hprice
    have hread : ∃ r ∈ pass.rounds testNet db.tokenInfo, r.key = key := ⟨r, hr, hkey.trans hthis⟩
    exact (rounds_hold_one hread (hsame t hthis price hprice)).mpr fun h => hnot ⟨hread, h⟩

/-- **When the rows have the symbol.** -/
theorem SymbolPass.shown_iff {pass : SymbolPass} (hok : pass.Succeeds) :
    pass.Shown testNet mainNet key db (updateContractSymbol testNet mainNet pass db) ↔
      ¬ pass.Overlooks testNet mainNet key db := by
  have hsame : ∀ t : TokenInfo, t.key = key → ∀ symbol,
      pass.symbol testNet mainNet t = some symbol →
      ∀ r ∈ pass.rounds testNet mainNet db.tokenInfo, r.key = key →
        r.Succeeds ∧ r.update.field = .symbol ∧ r.update.text = symbol := by
    intro t hthis symbol hsymbol r hr hkey
    obtain ⟨t', -, symbol', i, -, hkey', hsymbol', hupdate, -⟩ := SymbolPass.mem_rounds hr
    rw [SymbolPass.symbol_congr ((hkey'.symm.trans hkey).trans hthis.symm), hsymbol,
      Option.some.injEq] at hsymbol'
    rw [hupdate, hsymbol']
    exact ⟨SymbolPass.rounds_succeed hok r hr, rfl, rfl⟩
  rw [updateContractSymbol_eq]
  constructor
  · rintro hshown ⟨⟨r, hr, hkey⟩, hoverlooks⟩
    obtain ⟨t, ht, symbol, i, hne, hthis, hsymbol, -⟩ := SymbolPass.mem_rounds hr
    have htoken : t.key = key := hthis.symm.trans hkey
    exact (rounds_hold_one ⟨r, hr, hkey⟩ (hsame t htoken symbol hsymbol)).mp
      (hshown t ht htoken hne symbol hsymbol) hoverlooks
  · intro hnot t ht hthis hne symbol hsymbol
    obtain ⟨r, hr, hkey, -⟩ := SymbolPass.round_mem ht hne hsymbol
    have hread : ∃ r ∈ pass.rounds testNet mainNet db.tokenInfo, r.key = key :=
      ⟨r, hr, hkey.trans hthis⟩
    exact (rounds_hold_one hread (hsame t hthis symbol hsymbol)).mpr fun h => hnot ⟨hread, h⟩

/-- The last entry for a token is the last round for it. -/
theorem LogoPass.rounds_split {pass : LogoPass} {pre post : List TokenLogo} {e : TokenLogo}
    (hentries : pass.entries = pre ++ e :: post) :
    pass.rounds = pre.zipIdx.map (fun entry => pass.round entry.1 entry.2) ++
      pass.round e pre.length ::
        (post.zipIdx (pre.length + 1)).map fun entry => pass.round entry.1 entry.2 := by
  unfold LogoPass.rounds
  rw [hentries, List.zipIdx_append, List.map_append, Nat.zero_add, List.zipIdx_cons, List.map_cons]

/-- A token with an entry has a last one. -/
theorem LogoPass.gives_some {pass : LogoPass} (h : ∃ e ∈ pass.entries, e.key = key) :
    ∃ e, pass.Gives e ∧ e.key = key := by
  obtain ⟨pre, e, post, hentries, rfl, hlast⟩ := exists_last h
  exact ⟨e, ⟨pre, post, hentries, hlast⟩, rfl⟩

/-- **When the rows have the logo.** -/
theorem LogoPass.shown_iff {pass : LogoPass} (hok : pass.Succeeds) :
    pass.Shown key (updateTokenLogo pass db) ↔ ¬ pass.Overlooks key db := by
  -- what the rows have for the last entry of the token
  have hholds : ∀ e, pass.Gives e → ((runRounds pass.rounds db).Holds e.key .logo e.logo ↔
      ¬ Backend.Overlooks .logo pass.rounds e.key db) := by
    rintro e ⟨pre, post, hentries, hlast⟩
    have hsucceed : ∀ r ∈ pass.rounds, r.key = e.key → r.Succeeds ∧ r.update.field = .logo := by
      intro r hr _
      obtain ⟨e', -, i, rfl⟩ := LogoPass.mem_rounds hr
      exact ⟨hok i, rfl⟩
    rw [LogoPass.rounds_split hentries] at hsucceed ⊢
    apply rounds_hold_iff (r := pass.round e pre.length) hsucceed
    intro r hr hkey
    obtain ⟨⟨e', i⟩, hmem, rfl⟩ := List.mem_map.mp hr
    exact absurd hkey (hlast e' (List.fst_mem_of_mem_zipIdx hmem))
  rw [updateTokenLogo_eq]
  constructor
  · rintro hshown ⟨⟨r, hr, hkey⟩, hoverlooks⟩
    obtain ⟨e, he, i, rfl⟩ := LogoPass.mem_rounds hr
    obtain ⟨e', hgives, rfl⟩ := LogoPass.gives_some ⟨e, he, hkey⟩
    exact (hholds e' hgives).mp (hshown e' hgives rfl) hoverlooks
  · intro hnot e hgives hkey
    subst hkey
    apply (hholds e hgives).mpr
    intro hoverlooks
    obtain ⟨pre, post, hentries, -⟩ := hgives
    refine hnot ⟨⟨pass.round e pre.length, ?_, rfl⟩, hoverlooks⟩
    rw [LogoPass.rounds_split hentries]
    simp

end Passes

end Pledge.Backend
