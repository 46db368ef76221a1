import Pledge.Backend.TokenService

/-!
# What the jobs for tokens leave in the table

A cached field is compared in the place of the column, so a job is right as long as the two agree. A
token is `Settled` when every cached text is the text of its rows, where an empty text, which a record
has in the fields of the jobs that have not come by yet, says nothing. A round that succeeds keeps this
(`Settled.run`), and if its text is not empty the rows have it afterwards (`Settled.holds`). A round for
another token changes nothing, whether it succeeds or not.
-/

namespace Pledge.Backend

open Pledge.Store

/-! ## Fields

The three jobs do the same with different columns, so a column is data here: the job for prices and
the job for symbols write one column each, the job for logos writes two and compares one. -/

/-- The columns of `token_info` that the jobs write. -/
inductive TokenField where
  | price
  | symbol
  | logo
  deriving Repr, DecidableEq

def TokenField.get : TokenField → TokenInfo → String
  | .price, t => t.price
  | .symbol, t => t.symbol
  | .logo, t => t.logo

namespace TokenUpdate

/-- The field that the job compares. -/
def field : TokenUpdate → TokenField
  | .price _ => .price
  | .symbol _ => .symbol
  | .logo .. => .logo

/-- What it is compared with. -/
def text : TokenUpdate → String
  | .price text => text
  | .symbol text => text
  | .logo url _ => url

/-- What is written to a field, if it is written. -/
def value : TokenUpdate → TokenField → Option String
  | .price text, .price => some text
  | .symbol text, .symbol => some text
  | .logo url _, .logo => some url
  | .logo _ text, .symbol => some text
  | _, _ => none

variable (u : TokenUpdate) (f : TokenField) (t : TokenInfo)

theorem known_iff : u.Known t ↔ u.field.get t = u.text := by
  cases u <;> rfl

theorem value_field : u.value u.field = some u.text := by
  cases u <;> rfl

theorem get_write : f.get (u.write t) = (u.value f).getD (f.get t) := by
  cases u <;> cases f <;> rfl

end TokenUpdate

theorem TokenField.get_blank (f : TokenField) (token : String) (chainId : Nat) :
    f.get { token := token, chainId := chainId } = "" := by
  cases f <;> rfl

/-- The text of a field in Redis, empty when there is no record. -/
def Database.cachedText (db : Database) (key : Nat × String) (f : TokenField) : String :=
  match db.tokenCache key with
  | none => ""
  | some t => f.get t

/-- The token has a row. -/
def Database.Stored (db : Database) (key : Nat × String) : Prop := ∃ t ∈ db.tokenInfo, t.key = key

/-- The token has a row, and its rows have this text. -/
structure Database.Holds (db : Database) (key : Nat × String) (f : TokenField) (text : String) :
    Prop where
  stored : db.Stored key
  rows : ∀ t ∈ db.tokenInfo, t.key = key → f.get t = text

/-- The rows have what is cached for the field, also when it is empty. -/
def Database.Current (db : Database) (key : Nat × String) (f : TokenField) : Prop :=
  ∀ t, db.tokenCache key = some t → db.Holds key f (f.get t)

/-! How the text in Redis reads. -/

theorem Database.cachedText_some {db : Database} {key : Nat × String} {t : TokenInfo} {f : TokenField}
    (h : db.tokenCache key = some t) : db.cachedText key f = f.get t := by
  unfold Database.cachedText
  rw [h]

theorem Database.cachedText_none {db : Database} {key : Nat × String} {f : TokenField}
    (h : db.tokenCache key = none) : db.cachedText key f = "" := by
  unfold Database.cachedText
  rw [h]

theorem Database.cachedText_congr {db db' : Database} {key : Nat × String} {f : TokenField}
    (h : db'.tokenCache key = db.tokenCache key) : db'.cachedText key f = db.cachedText key f := by
  unfold Database.cachedText
  rw [h]

/-! ## The steps of a round

`CheckTokenInfo` creates a row for a token without one, and the save of a round is an update of all
rows of the token. What a row holds is therefore changed by rounds for its own token only, and there
only in the columns that the job writes. -/

section Steps

variable {db : Database} {u : TokenUpdate} {token text : String} {chainId : Nat} {fails : Bool}
  {key : Nat × String} {f : TokenField}

/-- The rows after `CheckTokenInfo`. -/
theorem mem_checkTokenInfo {t : TokenInfo} :
    t ∈ (checkTokenInfo fails token chainId db).tokenInfo ↔
      t ∈ db.tokenInfo ∨ (fails = false ∧ ¬ db.Stored (chainId, token) ∧
        t = { token := token, chainId := chainId }) := by
  by_cases hstored : db.Stored (chainId, token)
  · rw [checkTokenInfo_stored hstored]
    simp [hstored]
  · have hnone : first TokenInfo.key (chainId, token) db.tokenInfo = none := by
      rw [first_eq_none]
      intro t ht hkey
      exact hstored ⟨t, ht, hkey⟩
    unfold checkTokenInfo
    rw [first_exact, hnone]
    cases fails <;> simp [hstored]

/-- After `CheckTokenInfo` the token has a row. -/
theorem checkTokenInfo_stores (token : String) (chainId : Nat) (db : Database) :
    (checkTokenInfo false token chainId db).Stored (chainId, token) := by
  by_cases hstored : db.Stored (chainId, token)
  · rw [checkTokenInfo_stored hstored]
    exact hstored
  · exact ⟨_, mem_checkTokenInfo.mpr (.inr ⟨rfl, hstored, rfl⟩), rfl⟩

/-- A row that is there stays. -/
theorem Database.Stored.checkTokenInfo (h : db.Stored key) :
    (checkTokenInfo fails token chainId db).Stored key := by
  obtain ⟨t, ht, hkey⟩ := h
  exact ⟨t, mem_checkTokenInfo.mpr (.inl ht), hkey⟩

/-- `CheckTokenInfo` creates no second row. -/
theorem Database.Holds.checkTokenInfo (h : db.Holds key f text) :
    (checkTokenInfo fails token chainId db).Holds key f text := by
  refine ⟨h.stored.checkTokenInfo, ?_⟩
  intro t ht hkey
  rcases mem_checkTokenInfo.mp ht with hold | ⟨-, hnew, rfl⟩
  · exact h.rows t hold hkey
  · have hthis : key = (chainId, token) := hkey.symm
    exact absurd (hthis ▸ h.stored) hnew

/-- The rows after an update. -/
theorem mem_saveData {t : TokenInfo} :
    t ∈ (saveData u false token chainId db).tokenInfo ↔
      (t ∈ db.tokenInfo ∧ t.key ≠ (chainId, token)) ∨
        ∃ old ∈ db.tokenInfo, old.key = (chainId, token) ∧ t = u.write old :=
  mem_updates

/-- An update creates and drops none. -/
theorem saveData_stored : (saveData u fails token chainId db).Stored key ↔ db.Stored key := by
  cases fails with
  | true => exact Iff.rfl
  | false =>
      have hkeys : (saveData u false token chainId db).tokenInfo.map TokenInfo.key =
          db.tokenInfo.map TokenInfo.key := keys_updates fun t => u.write_key t
      have hmem : key ∈ (saveData u false token chainId db).tokenInfo.map TokenInfo.key ↔
          key ∈ db.tokenInfo.map TokenInfo.key := by rw [hkeys]
      rw [List.mem_map, List.mem_map] at hmem
      exact hmem

/-- An update writes its value. -/
theorem saveData_writes (hstored : db.Stored (chainId, token)) (hvalue : u.value f = some text) :
    (saveData u false token chainId db).Holds (chainId, token) f text := by
  refine ⟨saveData_stored.mpr hstored, ?_⟩
  intro t ht hkey
  rcases mem_saveData.mp ht with ⟨-, hne⟩ | ⟨old, -, -, rfl⟩
  · exact absurd hkey hne
  · rw [u.get_write, hvalue]
    rfl

/-- It leaves other tokens and other fields, and writes again what is there. -/
theorem Database.Holds.saveData (h : db.Holds key f text)
    (hsame : (chainId, token) = key → ∀ new, u.value f = some new → new = text) :
    (saveData u fails token chainId db).Holds key f text := by
  cases fails with
  | true => exact h
  | false =>
      refine ⟨saveData_stored.mpr h.stored, ?_⟩
      intro t ht hkey
      rcases mem_saveData.mp ht with ⟨hold, -⟩ | ⟨old, hold, hthis, rfl⟩
      · exact h.rows t hold hkey
      · rw [u.write_key] at hkey
        rw [u.get_write]
        cases hvalue : u.value f with
        | none => exact h.rows old hold hkey
        | some new => exact hsame (hthis.symm.trans hkey) new hvalue

/-- Redis is not the table. -/
theorem Database.Holds.setTokenCache (h : db.Holds key f text) (k : Nat × String) (t : TokenInfo) :
    (db.setTokenCache k t).Holds key f text := ⟨h.stored, h.rows⟩

end Steps

/-! ## One token

The invariant of a token (`Settled`): where Redis has a record, the token has a row, and a text in
the record that is not empty is the text of the rows. An empty text in a record may be one that no
job has set yet, and says nothing. -/

/-- Nothing happened to the token. -/
structure Database.Same (key : Nat × String) (db db' : Database) : Prop where
  cached : db'.tokenCache key = db.tokenCache key
  rows : ∀ t, t.key = key → (t ∈ db'.tokenInfo ↔ t ∈ db.tokenInfo)

section Same

variable {db db' db'' : Database} {key : Nat × String} {f : TokenField} {text : String}

/-- Nothing happened. -/
theorem Database.Same.refl (key : Nat × String) (db : Database) : db.Same key db :=
  ⟨rfl, fun _ _ => Iff.rfl⟩

/-- Nothing happened, twice. -/
theorem Database.Same.trans (h : db.Same key db') (h' : db'.Same key db'') : db.Same key db'' :=
  ⟨h'.cached.trans h.cached, fun t hkey => (h'.rows t hkey).trans (h.rows t hkey)⟩

theorem Database.Stored.same (h : db.Stored key) (hsame : db.Same key db') : db'.Stored key := by
  obtain ⟨t, ht, hkey⟩ := h
  exact ⟨t, (hsame.rows t hkey).mpr ht, hkey⟩

theorem Database.Holds.same (h : db.Holds key f text) (hsame : db.Same key db') :
    db'.Holds key f text := by
  refine ⟨h.stored.same hsame, ?_⟩
  intro t ht hkey
  exact h.rows t ((hsame.rows t hkey).mp ht) hkey

end Same

/-- Redis and the rows of a token agree on these fields. -/
structure Settled (key : Nat × String) (F : TokenField → Prop) (db : Database) : Prop where
  stored : (db.tokenCache key).isSome = true → db.Stored key
  agree : ∀ f, F f → db.cachedText key f = "" ∨ db.Holds key f (db.cachedText key f)

/-- No write of the round fails. -/
def TokenRound.Succeeds (r : TokenRound) : Prop := r.createFails = false ∧ r.updateFails = false

section Round

variable {F : TokenField → Prop} {db db' : Database} {r : TokenRound} {key : Nat × String}
  {f : TokenField} {text : String}

/-- Nothing is cached, as after `RedisFlushDB`. -/
theorem Settled.start (hempty : db.tokenCache key = none) : Settled key F db where
  stored hsome := by
    rw [hempty] at hsome
    cases hsome
  agree f _ := .inl (Database.cachedText_none hempty)

/-- What nothing happened to stays settled. -/
theorem Settled.same (h : Settled key F db) (hsame : db.Same key db') : Settled key F db' where
  stored hsome := by
    rw [hsame.cached] at hsome
    exact (h.stored hsome).same hsame
  agree f hf := by
    rw [Database.cachedText_congr hsame.cached]
    rcases h.agree f hf with hblank | hholds
    · exact .inl hblank
    · exact .inr (hholds.same hsame)

/-- What a round does: nothing, or it sets the record and writes the rows, which it creates first when
there was no record. -/
theorem TokenRound.run_cases (r : TokenRound) (db : Database) :
    (∃ t, db.tokenCache r.key = some t ∧ r.update.Known t ∧ r.run db = db) ∨
    (∃ t, db.tokenCache r.key = some t ∧ ¬ r.update.Known t ∧
      r.run db = saveData r.update r.updateFails r.token r.chainId
        (db.setTokenCache r.key (r.update.write t))) ∨
    (db.tokenCache r.key = none ∧
      r.run db = saveData r.update r.updateFails r.token r.chainId
        ((checkTokenInfo r.createFails r.token r.chainId db).setTokenCache r.key
          (r.update.write { token := r.token, chainId := r.chainId }))) := by
  cases hcached : db.tokenCache r.key with
  | none => exact .inr (.inr ⟨rfl, r.run_missing hcached⟩)
  | some t =>
      by_cases hknown : r.update.Known t
      · exact .inl ⟨t, rfl, hknown, r.run_known hcached hknown⟩
      · exact .inr (.inl ⟨t, rfl, hknown, r.run_new hcached hknown⟩)

/-- **Frame**: a round leaves other tokens alone. -/
theorem TokenRound.run_same (hother : r.key ≠ key) : db.Same key (r.run db) := by
  -- each of the three things that a round does is about its own key
  have hset (db : Database) (t : TokenInfo) : db.Same key (db.setTokenCache r.key t) := by
    refine ⟨?_, fun _ _ => Iff.rfl⟩
    rw [Database.setTokenCache_tokenCache, if_neg hother.symm]
  have hcheck : db.Same key (checkTokenInfo r.createFails r.token r.chainId db) := by
    refine ⟨by rw [checkTokenInfo_tokenCache], ?_⟩
    intro t hkey
    rw [mem_checkTokenInfo]
    constructor
    · rintro (hold | ⟨-, -, rfl⟩)
      · exact hold
      · exact absurd hkey hother
    · exact .inl
  have hsave (db : Database) :
      db.Same key (saveData r.update r.updateFails r.token r.chainId db) := by
    refine ⟨by rw [saveData_tokenCache], ?_⟩
    intro t hkey
    cases r.updateFails with
    | true => exact Iff.rfl
    | false =>
        rw [mem_saveData]
        constructor
        · rintro (⟨hold, -⟩ | ⟨old, -, hthis, rfl⟩)
          · exact hold
          · rw [r.update.write_key] at hkey
            exact absurd (hthis.symm.trans hkey) hother
        · intro hold
          exact .inl ⟨hold, fun hthis => hother (hthis.symm.trans hkey)⟩
  rcases r.run_cases db with ⟨t, -, -, hrun⟩ | ⟨t, -, -, hrun⟩ | ⟨-, hrun⟩
  · rw [hrun]
    exact .refl key db
  · rw [hrun]
    exact (hset db _).trans (hsave _)
  · rw [hrun]
    exact (hcheck.trans (hset _ _)).trans (hsave _)

/-- **Frame**: what the rows of a token hold stays, unless the round writes something else there. -/
theorem Database.Holds.run (h : db.Holds key f text)
    (hsame : r.key = key → ∀ new, r.update.value f = some new → new = text) :
    (r.run db).Holds key f text := by
  rcases r.run_cases db with ⟨t, -, -, hrun⟩ | ⟨t, -, -, hrun⟩ | ⟨-, hrun⟩
  · rwa [hrun]
  · rw [hrun]
    exact (h.setTokenCache _ _).saveData hsame
  · rw [hrun]
    exact (h.checkTokenInfo.setTokenCache _ _).saveData hsame

/-- Setting a record whose fields are written or the old ones, and writing the rows. -/
theorem Settled.setSave (h : Settled r.key F db) (hstored : db.Stored r.key) {t : TokenInfo}
    (hold : ∀ f, F f → r.update.value f = none → f.get t = db.cachedText r.key f) :
    Settled r.key F (saveData r.update false r.token r.chainId
      (db.setTokenCache r.key (r.update.write t))) where
  stored _ := saveData_stored.mpr hstored
  agree f hf := by
    have hcached : (saveData r.update false r.token r.chainId
        (db.setTokenCache r.key (r.update.write t))).tokenCache r.key = some (r.update.write t) := by
      rw [saveData_tokenCache, Database.setTokenCache_tokenCache, if_pos rfl]
    rw [Database.cachedText_some hcached, r.update.get_write]
    cases hvalue : r.update.value f with
    | some new => exact .inr (saveData_writes hstored hvalue)
    | none =>
        rw [Option.getD_none, hold f hf hvalue]
        rcases h.agree f hf with hblank | hholds
        · exact .inl hblank
        · refine .inr ((hholds.setTokenCache _ _).saveData ?_)
          intro _ new hnew
          rw [hvalue] at hnew
          cases hnew

/-- A text that is cached has its rows, so `CheckTokenInfo` creates none for it. -/
theorem Settled.checkTokenInfo (h : Settled key F db) :
    Settled key F (checkTokenInfo false r.token r.chainId db) where
  stored hsome := by
    rw [checkTokenInfo_tokenCache] at hsome
    exact (h.stored hsome).checkTokenInfo
  agree f hf := by
    have hcached : (Backend.checkTokenInfo false r.token r.chainId db).tokenCache key =
        db.tokenCache key := by rw [checkTokenInfo_tokenCache]
    rw [Database.cachedText_congr hcached]
    rcases h.agree f hf with hblank | hholds
    · exact .inl hblank
    · exact .inr hholds.checkTokenInfo

/-- **A round keeps Redis and the rows in agreement**, if it is for another token or succeeds. -/
theorem Settled.run (h : Settled key F db) (hok : r.key = key → r.Succeeds) :
    Settled key F (r.run db) := by
  by_cases hkey : r.key = key
  · obtain ⟨hcreate, hupdate⟩ := hok hkey
    subst hkey
    rcases r.run_cases db with ⟨t, -, -, hrun⟩ | ⟨t, hcached, -, hrun⟩ | ⟨hmissing, hrun⟩
    · rwa [hrun]
    · rw [hrun, hupdate]
      apply h.setSave (h.stored (by rw [hcached]; rfl))
      intro f _ _
      rw [Database.cachedText_some hcached]
    · rw [hrun, hcreate, hupdate]
      apply h.checkTokenInfo.setSave (checkTokenInfo_stores ..)
      intro f _ _
      have hstill : (Backend.checkTokenInfo false r.token r.chainId db).tokenCache r.key = none := by
        rw [checkTokenInfo_tokenCache, hmissing]
      rw [Database.cachedText_none hstill]
      exact f.get_blank ..
  · exact h.same (TokenRound.run_same hkey)

/-- **After a round the rows have its text**, if it is not empty or they had the cached one before. -/
theorem Settled.holds (h : Settled r.key F db) (hok : r.Succeeds) (hf : F r.update.field)
    (htext : r.update.text ≠ "" ∨ db.Current r.key r.update.field) :
    (r.run db).Holds r.key r.update.field r.update.text := by
  obtain ⟨hcreate, hupdate⟩ := hok
  rcases r.run_cases db with ⟨t, hcached, hknown, hrun⟩ | ⟨t, hcached, -, hrun⟩ | ⟨-, hrun⟩
  · -- the value was known, so the rows have it
    have hsame : r.update.field.get t = r.update.text := (r.update.known_iff t).mp hknown
    rw [hrun]
    rcases htext with hne | hcurrent
    · rcases h.agree r.update.field hf with hblank | hholds
      · rw [Database.cachedText_some hcached, hsame] at hblank
        exact absurd hblank hne
      · rwa [Database.cachedText_some hcached, hsame] at hholds
    · rw [← hsame]
      exact hcurrent t hcached
  · rw [hrun, hupdate]
    exact saveData_writes (h.stored (by rw [hcached]; rfl)) r.update.value_field
  · rw [hrun, hcreate, hupdate]
    exact saveData_writes (checkTokenInfo_stores r.token r.chainId db) r.update.value_field

/-- A round of the job that compares the field keeps the rows current. -/
theorem Database.Current.run (h : db.Current key f) (hstored : (db.tokenCache key).isSome = true →
    db.Stored key) (hok : r.key = key → r.Succeeds ∧ r.update.field = f) :
    (r.run db).Current key f := by
  by_cases hkey : r.key = key
  · obtain ⟨⟨hcreate, hupdate⟩, rfl⟩ := hok hkey
    subst hkey
    rcases r.run_cases db with ⟨t, -, -, hrun⟩ | ⟨t, hcached, -, hrun⟩ | ⟨-, hrun⟩
    · rwa [hrun]
    all_goals
      intro new hnew
      rw [hrun, saveData_tokenCache, Database.setTokenCache_tokenCache, if_pos rfl,
        Option.some.injEq] at hnew
      subst hnew
      rw [r.update.get_write, r.update.value_field, hrun, hupdate]
    · exact saveData_writes (hstored (by rw [hcached]; rfl)) r.update.value_field
    · rw [hcreate]
      exact saveData_writes (checkTokenInfo_stores r.token r.chainId db) r.update.value_field
  · have hsame : db.Same key (r.run db) := TokenRound.run_same hkey
    intro t ht
    rw [hsame.cached] at ht
    exact (h t ht).same hsame

end Round

/-! ## Rounds

The rounds of a pass are folded over the database. What they keep is kept by induction on the list;
what they leave in a column is the text of the last round that wrote to it. -/

section Rounds

variable {F : TokenField → Prop} {db : Database} {rs : List TokenRound} {key : Nat × String}
  {f : TokenField} {text : String}

/-- First these rounds, then those. -/
theorem runRounds_append (pre post : List TokenRound) (db : Database) :
    runRounds (pre ++ post) db = runRounds post (runRounds pre db) := List.foldl_append

/-- **Rounds keep a token settled** when those for the token succeed. -/
theorem Settled.rounds (h : Settled key F db) (hok : ∀ r ∈ rs, r.key = key → r.Succeeds) :
    Settled key F (runRounds rs db) := by
  induction rs generalizing db with
  | nil => exact h
  | cons r rs ih =>
      rw [List.forall_mem_cons] at hok
      exact ih (h.run hok.1) hok.2

/-- A text stays when no round writes another one in its place. -/
theorem Database.Holds.rounds (h : db.Holds key f text)
    (hsame : ∀ r ∈ rs, r.key = key → ∀ new, r.update.value f = some new → new = text) :
    (runRounds rs db).Holds key f text := by
  induction rs generalizing db with
  | nil => exact h
  | cons r rs ih =>
      rw [List.forall_mem_cons] at hsame
      exact ih (h.run hsame.1) hsame.2

/-- The rows stay current. -/
theorem Database.Current.rounds (h : db.Current key f) (hsettled : Settled key F db)
    (hok : ∀ r ∈ rs, r.key = key → r.Succeeds ∧ r.update.field = f) :
    (runRounds rs db).Current key f := by
  induction rs generalizing db with
  | nil => exact h
  | cons r rs ih =>
      rw [List.forall_mem_cons] at hok
      exact ih (h.run hsettled.stored hok.1) (hsettled.run fun hkey => (hok.1 hkey).1) hok.2

/-- **The last word**: rows have the text of a round of their job after which nothing else is written to
them. -/
theorem Settled.rounds_hold {pre post : List TokenRound} {r : TokenRound} (h : Settled r.key F db)
    (hok : ∀ r' ∈ pre ++ r :: post, r'.key = r.key →
      r'.Succeeds ∧ r'.update.field = r.update.field) (hf : F r.update.field)
    (htext : r.update.text ≠ "" ∨ db.Current r.key r.update.field)
    (hlast : ∀ r' ∈ post, r'.key = r.key → ∀ new, r'.update.value r.update.field = some new →
      new = r.update.text) :
    (runRounds (pre ++ r :: post) db).Holds r.key r.update.field r.update.text := by
  rw [List.forall_mem_append, List.forall_mem_cons] at hok
  have hbefore : r.update.text ≠ "" ∨ (runRounds pre db).Current r.key r.update.field := by
    rcases htext with hne | hcurrent
    · exact .inl hne
    · exact .inr (hcurrent.rounds h hok.1)
  rw [runRounds_append]
  apply Database.Holds.rounds _ hlast
  exact (h.rounds fun r' hr' hkey => (hok.1 r' hr' hkey).1).holds (hok.2.1 rfl).1 hf hbefore

end Rounds

/-! ## Passes

A pass is the list of its rounds: one for each row with an address whose source answers, or for each
entry of the two lists of logos. Rows of one token have the same key, and a source answers by key,
so all rounds for a token have one text in the jobs for prices and symbols; in the job for logos the
last entry counts. -/

/-- No write of the pass fails. -/
def PricePass.Succeeds (pass : PricePass) : Prop :=
  ∀ i, pass.createFails i = false ∧ pass.updateFails i = false

def SymbolPass.Succeeds (pass : SymbolPass) : Prop :=
  ∀ i, pass.createFails i = false ∧ pass.updateFails i = false

def LogoPass.Succeeds (pass : LogoPass) : Prop :=
  ∀ i, pass.createFails i = false ∧ pass.updateFails i = false

/-- The token of an entry. -/
def TokenLogo.key (t : TokenLogo) : Nat × String := (t.chainId, t.token)

/-- The logo that a pass has for a token is that of its last entry, since local entries come last. -/
def LogoPass.Gives (pass : LogoPass) (e : TokenLogo) : Prop :=
  ∃ pre post, pass.entries = pre ++ e :: post ∧ ∀ e' ∈ post, e'.key ≠ e.key

/-- The rows have the prices that the pass read. -/
def PricePass.Shown (pass : PricePass) (testNet : Nat) (key : Nat × String)
    (before after : Database) : Prop :=
  ∀ t ∈ before.tokenInfo, t.key = key → t.token ≠ "" → ∀ price, pass.price testNet t = some price →
    after.Holds key .price (toString price)

/-- They have the symbols that it read. -/
def SymbolPass.Shown (pass : SymbolPass) (testNet mainNet : Nat) (key : Nat × String)
    (before after : Database) : Prop :=
  ∀ t ∈ before.tokenInfo, t.key = key → t.token ≠ "" → ∀ symbol,
    pass.symbol testNet mainNet t = some symbol → after.Holds key .symbol symbol

/-- They have the logos that it has. -/
def LogoPass.Shown (pass : LogoPass) (key : Nat × String) (after : Database) : Prop :=
  ∀ e, pass.Gives e → e.key = key → after.Holds key .logo e.logo

/-- A symbol that was read is not empty, or the rows have what is cached. An empty one looks like one
that no job has set. -/
def SymbolPass.Visible (pass : SymbolPass) (testNet mainNet : Nat) (key : Nat × String)
    (before : Database) : Prop :=
  ∀ t ∈ before.tokenInfo, t.key = key → t.token ≠ "" → ∀ symbol,
    pass.symbol testNet mainNet t = some symbol → symbol ≠ "" ∨ before.Current key .symbol

/-- The same for logos. -/
def LogoPass.Visible (pass : LogoPass) (key : Nat × String) (before : Database) : Prop :=
  ∀ e, pass.Gives e → e.key = key → e.logo ≠ "" ∨ before.Current key .logo

theorem toString_int_ne (z : Int) : toString z ≠ "" := by
  rw [Int.toString_eq_repr, Int.repr_eq_if]
  split
  · exact toString_ne _
  · simp

section Passes

variable {testNet mainNet : Nat} {tokens : List TokenInfo} {r : TokenRound} {db : Database}
  {key : Nat × String} {F : TokenField → Prop} {f : TokenField} {text : String}

/-! The rounds of each job, both ways: what a round is, and which rounds there are. -/

theorem PricePass.mem_rounds {pass : PricePass} (h : r ∈ pass.rounds testNet tokens) :
    ∃ t ∈ tokens, ∃ price i, t.token ≠ "" ∧ r.key = t.key ∧ pass.price testNet t = some price ∧
      r.update = .price (toString price) ∧ r.createFails = pass.createFails i ∧
      r.updateFails = pass.updateFails i := by
  obtain ⟨⟨t, i⟩, hmem, hr⟩ := List.mem_filterMap.mp h
  simp only [PricePass.round] at hr
  split at hr
  · cases hr
  · next hne =>
      obtain ⟨price, hprice, rfl⟩ := Option.map_eq_some_iff.mp hr
      exact ⟨t, List.fst_mem_of_mem_zipIdx hmem, price, i, hne, rfl, hprice, rfl, rfl, rfl⟩

theorem PricePass.round_mem {pass : PricePass} {t : TokenInfo} {price : Int} (ht : t ∈ tokens)
    (hne : t.token ≠ "") (hprice : pass.price testNet t = some price) :
    ∃ r ∈ pass.rounds testNet tokens, r.key = t.key ∧ r.update = .price (toString price) := by
  obtain ⟨i, hi, rfl⟩ := List.getElem_of_mem ht
  have hround : pass.round testNet tokens[i] i =
      some { token := tokens[i].token
             chainId := tokens[i].chainId
             update := .price (toString price)
             createFails := pass.createFails i
             updateFails := pass.updateFails i } := by
    unfold PricePass.round
    rw [if_neg hne, hprice]
    rfl
  have hentry : (tokens[i], i) ∈ tokens.zipIdx :=
    List.mk_mem_zipIdx_iff_getElem?.mpr (List.getElem?_eq_getElem hi)
  exact ⟨_, List.mem_filterMap.mpr ⟨_, hentry, hround⟩, rfl, rfl⟩

theorem PricePass.rounds_succeed {pass : PricePass} (hok : pass.Succeeds) :
    ∀ r ∈ pass.rounds testNet tokens, r.Succeeds := by
  intro r hr
  obtain ⟨t, -, price, i, -, -, -, -, hcreate, hupdate⟩ := PricePass.mem_rounds hr
  exact ⟨hcreate.trans (hok i).1, hupdate.trans (hok i).2⟩

theorem SymbolPass.mem_rounds {pass : SymbolPass} (h : r ∈ pass.rounds testNet mainNet tokens) :
    ∃ t ∈ tokens, ∃ symbol i, t.token ≠ "" ∧ r.key = t.key ∧
      pass.symbol testNet mainNet t = some symbol ∧ r.update = .symbol symbol ∧
      r.createFails = pass.createFails i ∧ r.updateFails = pass.updateFails i := by
  obtain ⟨⟨t, i⟩, hmem, hr⟩ := List.mem_filterMap.mp h
  simp only [SymbolPass.round] at hr
  split at hr
  · cases hr
  · next hne =>
      obtain ⟨symbol, hsymbol, rfl⟩ := Option.map_eq_some_iff.mp hr
      exact ⟨t, List.fst_mem_of_mem_zipIdx hmem, symbol, i, hne, rfl, hsymbol, rfl, rfl, rfl⟩

theorem SymbolPass.round_mem {pass : SymbolPass} {t : TokenInfo} {symbol : String} (ht : t ∈ tokens)
    (hne : t.token ≠ "") (hsymbol : pass.symbol testNet mainNet t = some symbol) :
    ∃ r ∈ pass.rounds testNet mainNet tokens, r.key = t.key ∧ r.update = .symbol symbol := by
  obtain ⟨i, hi, rfl⟩ := List.getElem_of_mem ht
  have hround : pass.round testNet mainNet tokens[i] i =
      some { token := tokens[i].token
             chainId := tokens[i].chainId
             update := .symbol symbol
             createFails := pass.createFails i
             updateFails := pass.updateFails i } := by
    unfold SymbolPass.round
    rw [if_neg hne, hsymbol]
    rfl
  have hentry : (tokens[i], i) ∈ tokens.zipIdx :=
    List.mk_mem_zipIdx_iff_getElem?.mpr (List.getElem?_eq_getElem hi)
  exact ⟨_, List.mem_filterMap.mpr ⟨_, hentry, hround⟩, rfl, rfl⟩

theorem SymbolPass.rounds_succeed {pass : SymbolPass} (hok : pass.Succeeds) :
    ∀ r ∈ pass.rounds testNet mainNet tokens, r.Succeeds := by
  intro r hr
  obtain ⟨t, -, symbol, i, -, -, -, -, hcreate, hupdate⟩ := SymbolPass.mem_rounds hr
  exact ⟨hcreate.trans (hok i).1, hupdate.trans (hok i).2⟩

theorem LogoPass.mem_rounds {pass : LogoPass} (h : r ∈ pass.rounds) :
    ∃ t ∈ pass.entries, ∃ i, r = pass.round t i := by
  obtain ⟨⟨t, i⟩, hmem, rfl⟩ := List.mem_map.mp h
  exact ⟨t, List.fst_mem_of_mem_zipIdx hmem, i, rfl⟩

theorem LogoPass.rounds_succeed {pass : LogoPass} (hok : pass.Succeeds) :
    ∀ r ∈ pass.rounds, r.Succeeds := by
  intro r hr
  obtain ⟨t, -, i, rfl⟩ := LogoPass.mem_rounds hr
  exact hok i

/-- The price of a token depends on its chain and its address only, and so does its symbol. -/
theorem PricePass.price_congr {pass : PricePass} {t t' : TokenInfo} (h : t.key = t'.key) :
    pass.price testNet t = pass.price testNet t' := by
  obtain ⟨hchain, htoken⟩ := Prod.mk.inj h
  unfold PricePass.price
  rw [hchain, htoken]

theorem SymbolPass.symbol_congr {pass : SymbolPass} {t t' : TokenInfo} (h : t.key = t'.key) :
    pass.symbol testNet mainNet t = pass.symbol testNet mainNet t' := by
  obtain ⟨hchain, htoken⟩ := Prod.mk.inj h
  unfold SymbolPass.symbol
  rw [hchain, htoken]

/-- A pass of one job in which all rounds for a token have the same text. -/
theorem Settled.rounds_agree {rs : List TokenRound} (h : Settled key F db) (hF : F f)
    (hr : ∃ r ∈ rs, r.key = key)
    (hok : ∀ r ∈ rs, r.key = key → r.Succeeds ∧ r.update.field = f ∧ r.update.text = text)
    (htext : text ≠ "" ∨ db.Current key f) : (runRounds rs db).Holds key f text := by
  obtain ⟨r, hmem, rfl⟩ := hr
  obtain ⟨pre, post, rfl⟩ := List.append_of_mem hmem
  obtain ⟨-, rfl, rfl⟩ := hok r hmem rfl
  apply h.rounds_hold _ hF htext
  · intro r' hr' hkey new hnew
    obtain ⟨-, hfield, htext'⟩ := hok r' (by simp [hr']) hkey
    rw [← hfield, r'.update.value_field, Option.some.injEq] at hnew
    exact hnew.symm.trans htext'
  · intro r' hr' hkey
    obtain ⟨hsucceeds, hfield, -⟩ := hok r' hr' hkey
    exact ⟨hsucceeds, hfield⟩

/-- **After a pass of the price job** the rows of every token it read have the price it read. -/
theorem Settled.price {pass : PricePass} (h : Settled key F db) (hF : F .price)
    (hok : pass.Succeeds) : pass.Shown testNet key db (updateContractPrice testNet pass db) := by
  intro t ht hthis hne price hprice
  subst hthis
  rw [updateContractPrice_eq]
  refine h.rounds_agree hF ?_ ?_ (.inl (toString_int_ne price))
  · obtain ⟨r, hr, hkey, -⟩ := PricePass.round_mem ht hne hprice
    exact ⟨r, hr, hkey⟩
  · intro r hr hkey
    obtain ⟨t', -, price', i, -, hkey', hprice', hupdate, -⟩ := PricePass.mem_rounds hr
    rw [PricePass.price_congr (hkey'.symm.trans hkey), hprice, Option.some.injEq] at hprice'
    rw [hupdate, hprice']
    exact ⟨PricePass.rounds_succeed hok r hr, rfl, rfl⟩

/-- **After a pass of the symbol job** the rows have the symbol it read. -/
theorem Settled.symbol {pass : SymbolPass} (h : Settled key F db) (hF : F .symbol)
    (hok : pass.Succeeds) (hvisible : pass.Visible testNet mainNet key db) :
    pass.Shown testNet mainNet key db (updateContractSymbol testNet mainNet pass db) := by
  intro t ht hthis hne symbol hsymbol
  have htext := hvisible t ht hthis hne symbol hsymbol
  subst hthis
  rw [updateContractSymbol_eq]
  refine h.rounds_agree hF ?_ ?_ htext
  · obtain ⟨r, hr, hkey, -⟩ := SymbolPass.round_mem ht hne hsymbol
    exact ⟨r, hr, hkey⟩
  · intro r hr hkey
    obtain ⟨t', -, symbol', i, -, hkey', hsymbol', hupdate, -⟩ := SymbolPass.mem_rounds hr
    rw [SymbolPass.symbol_congr (hkey'.symm.trans hkey), hsymbol, Option.some.injEq] at hsymbol'
    rw [hupdate, hsymbol']
    exact ⟨SymbolPass.rounds_succeed hok r hr, rfl, rfl⟩

/-- **After a pass of the logo job** the rows have the logo it has for the token. -/
theorem Settled.logo {pass : LogoPass} (h : Settled key F db) (hF : F .logo) (hok : pass.Succeeds)
    (hvisible : pass.Visible key db) : pass.Shown key (updateTokenLogo pass db) := by
  intro e hgives hthis
  have htext := hvisible e hgives hthis
  subst hthis
  obtain ⟨pre, post, hentries, hlast⟩ := hgives
  have hrounds : pass.rounds = pre.zipIdx.map (fun entry => pass.round entry.1 entry.2) ++
      pass.round e pre.length ::
        (post.zipIdx (pre.length + 1)).map fun entry => pass.round entry.1 entry.2 := by
    unfold LogoPass.rounds
    rw [hentries, List.zipIdx_append, List.map_append, Nat.zero_add, List.zipIdx_cons, List.map_cons]
  have hsucceed : ∀ r ∈ pass.rounds, r.key = e.key → r.Succeeds ∧ r.update.field = .logo := by
    intro r hr _
    obtain ⟨e', -, i, rfl⟩ := LogoPass.mem_rounds hr
    exact ⟨hok i, rfl⟩
  rw [updateTokenLogo_eq, hrounds]
  rw [hrounds] at hsucceed
  apply Settled.rounds_hold (r := pass.round e pre.length) h hsucceed hF htext
  intro r hr hkey
  obtain ⟨⟨e', i⟩, hmem, rfl⟩ := List.mem_map.mp hr
  exact absurd hkey (hlast e' (List.fst_mem_of_mem_zipIdx hmem))

/-! ## What a pass leaves alone

Each job against the columns of the others. -/

/-- The job for prices writes prices. -/
theorem Database.Holds.price {pass : PricePass} (h : db.Holds key f text) (hf : f ≠ .price) :
    (updateContractPrice testNet pass db).Holds key f text := by
  rw [updateContractPrice_eq]
  apply h.rounds
  intro r hr _ new hnew
  obtain ⟨t, -, price, i, -, -, -, hupdate, -⟩ := PricePass.mem_rounds hr
  rw [hupdate] at hnew
  cases f with
  | price => exact absurd rfl hf
  | symbol => cases hnew
  | logo => cases hnew

/-- The job for symbols writes symbols. -/
theorem Database.Holds.symbol {pass : SymbolPass} (h : db.Holds key f text) (hf : f ≠ .symbol) :
    (updateContractSymbol testNet mainNet pass db).Holds key f text := by
  rw [updateContractSymbol_eq]
  apply h.rounds
  intro r hr _ new hnew
  obtain ⟨t, -, symbol, i, -, -, -, hupdate, -⟩ := SymbolPass.mem_rounds hr
  rw [hupdate] at hnew
  cases f with
  | price => cases hnew
  | symbol => exact absurd rfl hf
  | logo => cases hnew

/-- The logo job leaves prices alone, and symbols where its entries have the same. -/
theorem Database.Holds.logo {pass : LogoPass} (h : db.Holds key f text) (hf : f ≠ .logo)
    (hagree : ∀ e ∈ pass.entries, e.key = key → f = .symbol → e.symbol = text) :
    (updateTokenLogo pass db).Holds key f text := by
  rw [updateTokenLogo_eq]
  apply h.rounds
  intro r hr hkey new hnew
  obtain ⟨e, he, i, rfl⟩ := LogoPass.mem_rounds hr
  cases f with
  | price => cases hnew
  | symbol =>
      rw [← hagree e he hkey rfl]
      exact (Option.some.inj hnew).symm
  | logo => exact absurd rfl hf

/-! A pass keeps a token settled when its rounds for the token succeed. -/

theorem Settled.updateContractPrice {pass : PricePass} (h : Settled key F db)
    (hok : ∀ r ∈ pass.rounds testNet db.tokenInfo, r.key = key → r.Succeeds) :
    Settled key F (updateContractPrice testNet pass db) := by
  rw [updateContractPrice_eq]
  exact h.rounds hok

theorem Settled.updateContractSymbol {pass : SymbolPass} (h : Settled key F db)
    (hok : ∀ r ∈ pass.rounds testNet mainNet db.tokenInfo, r.key = key → r.Succeeds) :
    Settled key F (updateContractSymbol testNet mainNet pass db) := by
  rw [updateContractSymbol_eq]
  exact h.rounds hok

theorem Settled.updateTokenLogo {pass : LogoPass} (h : Settled key F db)
    (hok : ∀ r ∈ pass.rounds, r.key = key → r.Succeeds) :
    Settled key F (updateTokenLogo pass db) := by
  rw [updateTokenLogo_eq]
  exact h.rounds hok

end Passes

end Pledge.Backend
