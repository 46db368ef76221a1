import Pledge.Backend.TokenSync
import Pledge.Evm.Run

/-!
# Token jobs at the same time

The scheduler starts every pass in a goroutine of its own, and nothing keeps the rounds of one from
falling between the steps of another. A round gets the record from Redis, sets the whole record with the
field of its job changed, and then saves that field. So a job may set fields that another job has
changed meanwhile back to what they were, and one that is late may save what is not cached any more.

The jobs are `InOrder` for a token while neither happens to its price and its logo. Then what is cached
is in the rows, or somebody is still to save it (`Synced`), and with no job running the token is
`Settled`.
-/

namespace Pledge.Backend

open Pledge.Evm Pledge.Store

/-! ## Steps

A round has five points at which another goroutine may come in between: after it got the record from
Redis, after `CheckTokenInfo` looked for a row, after a row was created, after the record was set,
after the row was saved. A goroutine remembers what it got (`Phase`), and each step reads and writes
the shared database at that moment only. -/

/-- The record that a round starts with when there is none, and the row that it creates. -/
def TokenRound.blank (r : TokenRound) : TokenInfo := { token := r.token, chainId := r.chainId }

/-- Where a goroutine is in a round. -/
inductive Phase where
  /-- `CheckTokenInfo` comes next. -/
  | missing (r : TokenRound)
  /-- It has found no row. -/
  | creating (r : TokenRound)
  | setting (r : TokenRound) (redisTokenInfo : TokenInfo)
  | saving (r : TokenRound)
  deriving Repr, DecidableEq

/-- The database and the goroutines, by a number. -/
structure Jobs where
  db : Database
  phases : Nat → Option Phase := fun _ => none

/-- The single steps. A round may be about any token and have any value. -/
inductive JobEvent where
  | get (pid : Nat) (r : TokenRound)
  | look (pid : Nat)
  | create (pid : Nat)
  | set (pid : Nat)
  | save (pid : Nat)
  deriving Repr, DecidableEq

namespace Jobs

variable (s : Jobs)

/-- The goroutine goes to another point of its round, with what it does to the database. -/
def go (pid : Nat) (phase : Option Phase) (db : Database) : Jobs where
  db := db
  phases := Function.update s.phases pid phase

/-- One step, when the goroutine is there. No step fails. -/
def next : JobEvent → Option Jobs
  | .get pid r =>
      match s.phases pid with
      | some _ => none
      | none =>
          match s.db.tokenCache r.key with
          | none => some (s.go pid (some (.missing r)) s.db)
          | some redisTokenInfo =>
              if r.update.Known redisTokenInfo then some s
              else some (s.go pid (some (.setting r redisTokenInfo)) s.db)
  | .look pid =>
      match s.phases pid with
      | some (.missing r) =>
          match first TokenInfo.key r.key s.db.tokenInfo with
          | some _ => some (s.go pid (some (.setting r r.blank)) s.db)
          | none => some (s.go pid (some (.creating r)) s.db)
      | _ => none
  | .create pid =>
      match s.phases pid with
      | some (.creating r) =>
          some (s.go pid (some (.setting r r.blank))
            { s.db with tokenInfo := s.db.tokenInfo ++ [r.blank] })
      | _ => none
  | .set pid =>
      match s.phases pid with
      | some (.setting r redisTokenInfo) =>
          some (s.go pid (some (.saving r))
            (s.db.setTokenCache r.key (r.update.write redisTokenInfo)))
      | _ => none
  | .save pid =>
      match s.phases pid with
      | some (.saving r) =>
          some (s.go pid none (saveData r.update false r.token r.chainId s.db))
      | _ => none

/-- No job is running. -/
def Idle : Prop := ∀ pid, s.phases pid = none

end Jobs

def JobStep (s : Jobs) (e : JobEvent) (s' : Jobs) : Prop := s.next e = some s'

theorem JobStep.of_next {s s' : Jobs} {e : JobEvent} (h : s.next e = some s') : JobStep s e s' := h

section Step

variable {s s' : Jobs} {pid p : Nat} {r : TokenRound}

@[simp] theorem Jobs.go_db (s : Jobs) (pid : Nat) (phase : Option Phase) (db : Database) :
    (s.go pid phase db).db = db := rfl

@[simp] theorem Jobs.go_phases (s : Jobs) (pid p : Nat) (phase : Option Phase) (db : Database) :
    (s.go pid phase db).phases p = if p = pid then phase else s.phases p :=
  Function.update_apply ..

/-! One lemma for each step: where the goroutine was, and what the step does. -/

theorem JobStep.get (h : JobStep s (.get pid r) s') :
    s.phases pid = none ∧ (s' = s ∨ s' = s.go pid (some (.missing r)) s.db ∨
      ∃ t, s.db.tokenCache r.key = some t ∧ s' = s.go pid (some (.setting r t)) s.db) := by
  simp only [JobStep, Jobs.next] at h
  split at h
  · cases h
  · next hidle =>
      refine ⟨hidle, ?_⟩
      split at h
      · exact .inr (.inl (Option.some.inj h).symm)
      · next t hsome =>
          split at h
          · exact .inl (Option.some.inj h).symm
          · exact .inr (.inr ⟨t, hsome, (Option.some.inj h).symm⟩)

theorem JobStep.look (h : JobStep s (.look pid) s') :
    ∃ r, s.phases pid = some (.missing r) ∧
      ((s.db.Stored r.key ∧ s' = s.go pid (some (.setting r r.blank)) s.db) ∨
        s' = s.go pid (some (.creating r)) s.db) := by
  simp only [JobStep, Jobs.next] at h
  split at h
  · next r hphase =>
      refine ⟨r, hphase, ?_⟩
      split at h
      · next t hfirst =>
          have hstored : s.db.Stored r.key := by
            apply first_isSome.mp
            rw [hfirst]
            rfl
          exact .inl ⟨hstored, (Option.some.inj h).symm⟩
      · exact .inr (Option.some.inj h).symm
  · cases h

theorem JobStep.create (h : JobStep s (.create pid) s') :
    ∃ r, s.phases pid = some (.creating r) ∧ s' = s.go pid (some (.setting r r.blank))
      { s.db with tokenInfo := s.db.tokenInfo ++ [r.blank] } := by
  simp only [JobStep, Jobs.next] at h
  split at h
  · next r hphase => exact ⟨r, hphase, (Option.some.inj h).symm⟩
  · cases h

theorem JobStep.set (h : JobStep s (.set pid) s') :
    ∃ r t, s.phases pid = some (.setting r t) ∧
      s' = s.go pid (some (.saving r)) (s.db.setTokenCache r.key (r.update.write t)) := by
  simp only [JobStep, Jobs.next] at h
  split at h
  · next r t hphase => exact ⟨r, t, hphase, (Option.some.inj h).symm⟩
  · cases h

theorem JobStep.save (h : JobStep s (.save pid) s') :
    ∃ r, s.phases pid = some (.saving r) ∧
      s' = s.go pid none (saveData r.update false r.token r.chainId s.db) := by
  simp only [JobStep, Jobs.next] at h
  split at h
  · next r hphase => exact ⟨r, hphase, (Option.some.inj h).symm⟩
  · cases h

end Step

/-! ## A pass alone

With nothing in between the steps are the pass of the sequential model, so the two models agree
where both speak. -/

section Alone

variable {s : Jobs} {r : TokenRound}

/-- The last two steps, from where the record to set is known. -/
theorem Jobs.set_save {t : TokenInfo} (hphase : s.phases 0 = some (.setting r t)) :
    Run JobStep s [.set 0, .save 0]
      (s.go 0 none (saveData r.update false r.token r.chainId
        (s.db.setTokenCache r.key (r.update.write t)))) := by
  apply Run.of_replay JobStep.of_next
  simp [replay, Jobs.next, hphase, Jobs.go]

/-- The one or two steps of `CheckTokenInfo`. -/
theorem Jobs.look_create (hphase : s.phases 0 = some (.missing r)) :
    ∃ es, Run JobStep s es
      (s.go 0 (some (.setting r r.blank)) (checkTokenInfo false r.token r.chainId s.db)) := by
  cases hfirst : first TokenInfo.key r.key s.db.tokenInfo with
  | some t =>
      have hstored : ∃ t ∈ s.db.tokenInfo, t.key = (r.chainId, r.token) := by
        apply first_isSome.mp
        show (first TokenInfo.key r.key s.db.tokenInfo).isSome = true
        rw [hfirst]
        rfl
      refine ⟨[.look 0], Run.of_replay JobStep.of_next ?_⟩
      rw [checkTokenInfo_stored hstored]
      simp [replay, Jobs.next, hphase, hfirst]
  | none =>
      have hcheck : checkTokenInfo false r.token r.chainId s.db =
          { s.db with tokenInfo := s.db.tokenInfo ++ [r.blank] } := by
        unfold checkTokenInfo
        rw [first_exact, show first TokenInfo.key (r.chainId, r.token) s.db.tokenInfo = none from hfirst]
        rfl
      refine ⟨[.look 0, .create 0], Run.of_replay JobStep.of_next ?_⟩
      rw [hcheck]
      simp [replay, Jobs.next, hphase, hfirst, Jobs.go]

/-- **The steps of one round, with nothing between them, are the round.** -/
theorem Jobs.round_alone (hidle : s.phases 0 = none) (hok : r.Succeeds) :
    ∃ es, Run JobStep s es { s with db := r.run s.db } := by
  obtain ⟨hcreate, hupdate⟩ := hok
  have hback (phase : Option Phase) (db db' : Database) :
      (s.go 0 phase db').go 0 none db = { s with db := db } := by
    unfold Jobs.go
    rw [Function.update_idem, ← hidle, Function.update_eq_self]
  rcases r.run_cases s.db with ⟨t, hcached, hknown, hrun⟩ | ⟨t, hcached, hnew, hrun⟩ |
      ⟨hmissing, hrun⟩
  · refine ⟨[.get 0 r], Run.start.step ?_⟩
    rw [hrun]
    simp [JobStep, Jobs.next, hidle, hcached, hknown]
  · have hget : JobStep s (.get 0 r) (s.go 0 (some (.setting r t)) s.db) := by
      simp [JobStep, Jobs.next, hidle, hcached, hnew]
    have hrest := Jobs.set_save (s := s.go 0 (some (.setting r t)) s.db) (r := r) (t := t) (by simp)
    rw [hback] at hrest
    rw [hrun, hupdate]
    exact ⟨_, (Run.start.step hget).append hrest⟩
  · have hget : JobStep s (.get 0 r) (s.go 0 (some (.missing r)) s.db) := by
      simp [JobStep, Jobs.next, hidle, hmissing]
    obtain ⟨es, hlook⟩ :=
      Jobs.look_create (s := s.go 0 (some (.missing r)) s.db) (r := r) (by simp)
    have hrest := Jobs.set_save (r := r) (t := r.blank)
      (s := (s.go 0 (some (.missing r)) s.db).go 0 (some (.setting r r.blank))
        (checkTokenInfo false r.token r.chainId s.db)) (by simp)
    have hend (db : Database) : ((s.go 0 (some (.missing r)) s.db).go 0 (some (.setting r r.blank))
        (checkTokenInfo false r.token r.chainId s.db)).go 0 none db = { s with db := db } := by
      unfold Jobs.go
      rw [Function.update_idem, Function.update_idem, ← hidle, Function.update_eq_self]
    rw [hend] at hrest
    rw [hrun, hcreate, hupdate]
    exact ⟨_, ((Run.start.step hget).append hlook).append hrest⟩

/-- **A pass alone** is a run of the steps. -/
theorem Jobs.rounds_alone (hidle : s.phases 0 = none) {rs : List TokenRound}
    (hok : ∀ r ∈ rs, r.Succeeds) : ∃ es, Run JobStep s es { s with db := runRounds rs s.db } := by
  induction rs generalizing s with
  | nil => exact ⟨[], .start⟩
  | cons r rs ih =>
      rw [List.forall_mem_cons] at hok
      obtain ⟨es, hfirst⟩ := Jobs.round_alone hidle hok.1
      obtain ⟨es', hrest⟩ := ih (s := { s with db := r.run s.db }) hidle hok.2
      exact ⟨_, hfirst.append hrest⟩

end Alone

/-! ## In order

What goes wrong when jobs overlap is always of one kind: a record that was read early is set late,
and takes the column of another job back to what it was. `InOrder` says of a step that it does not
do this for the price and the logo of the token. The invariant then allows for work under way: what
is cached is in the rows, or a goroutine is still to save it, or to set the record anew (`Synced`).
-/

/-- One job alone writes the column; symbols come from two. -/
def TokenField.Own (f : TokenField) : Prop := f ≠ .symbol

namespace Jobs

/-- The goroutine is about to save this text. -/
def Saves (s : Jobs) (key : Nat × String) (f : TokenField) (text : String) (pid : Nat) : Prop :=
  ∃ r, s.phases pid = some (.saving r) ∧ r.key = key ∧ r.update.value f = some text

/-- The goroutine is about to set a record that has nothing but its own field. -/
def Resets (s : Jobs) (key : Nat × String) (pid : Nat) : Prop :=
  ∃ r, s.phases pid = some (.setting r r.blank) ∧ r.key = key

/-- A job that saves the cached text, or makes it empty, is still to come. -/
def Due (s : Jobs) (key : Nat × String) (f : TokenField) (pid : Nat) : Prop :=
  s.Saves key f (s.db.cachedText key f) pid ∨ s.Resets key pid

/-- The step brings no older price or logo of the token back. A record is set with the texts that are
cached, or with empty ones, and a text is saved while it is cached, or before one that is. -/
def InOrder (key : Nat × String) (s : Jobs) : JobEvent → Prop
  | .set pid => ∀ r t, s.phases pid = some (.setting r t) → r.key = key → ∀ f, f.Own →
      r.update.value f = none → f.get t = "" ∨ f.get t = s.db.cachedText key f
  | .save pid => ∀ r, s.phases pid = some (.saving r) → r.key = key → ∀ f, f.Own →
      ∀ text, r.update.value f = some text → text = s.db.cachedText key f ∨
        s.db.cachedText key f = "" ∨ ∃ pid', pid' ≠ pid ∧ s.Due key f pid'
  | .get .. => True
  | .look _ => True
  | .create _ => True

end Jobs

/-- The round has passed `CheckTokenInfo` for the token. -/
def Phase.Works (key : Nat × String) : Phase → Prop
  | .missing _ => False
  | .creating _ => False
  | .setting r _ => r.key = key
  | .saving r => r.key = key

/-- What is cached for the token is in its rows, or a job that brings the two together is still to
come. -/
structure Synced (key : Nat × String) (s : Jobs) : Prop where
  stored : (s.db.tokenCache key).isSome = true → s.db.Stored key
  working : ∀ pid phase, s.phases pid = some phase → phase.Works key → s.db.Stored key
  agree : ∀ f, f.Own → s.db.Holds key f (s.db.cachedText key f) ∨ s.db.cachedText key f = "" ∨
    ∃ pid, s.Due key f pid

section Synced

variable {key : Nat × String} {s s' : Jobs} {pid : Nat} {f : TokenField} {text : String}

/-- A goroutine that is due works on the token. -/
theorem Jobs.Due.works (h : s.Due key f pid) :
    ∃ phase, s.phases pid = some phase ∧ phase.Works key := by
  rcases h with ⟨r, hphase, hkey, -⟩ | ⟨r, hphase, hkey⟩
  · exact ⟨_, hphase, hkey⟩
  · exact ⟨_, hphase, hkey⟩

/-- Whether it is due depends on its phase and on the cached text. -/
theorem Jobs.Due.same (h : s.Due key f pid) (hphase : s'.phases pid = s.phases pid)
    (htext : s'.db.cachedText key f = s.db.cachedText key f) : s'.Due key f pid := by
  rcases h with ⟨r, hsaving, hrest⟩ | ⟨r, hsetting, hrest⟩
  · left
    exact ⟨r, hphase.trans hsaving, by rw [htext]; exact hrest⟩
  · right
    exact ⟨r, hphase.trans hsetting, hrest⟩

/-- No job is running and nothing differs. -/
theorem Synced.start (hidle : s.Idle) (h : Settled key TokenField.Own s.db) : Synced key s where
  stored := h.stored
  working pid phase hphase := by
    rw [hidle pid] at hphase
    cases hphase
  agree f hf := (h.agree f hf).symm.imp_right .inl

/-- With no job running the token is settled. -/
theorem Synced.settled (h : Synced key s) (hidle : s.Idle) : Settled key TokenField.Own s.db where
  stored := h.stored
  agree f hf := by
    rcases h.agree f hf with hholds | hblank | ⟨pid, hdue⟩
    · exact .inr hholds
    · exact .inl hblank
    · obtain ⟨phase, hphase, -⟩ := hdue.works
      rw [hidle pid] at hphase
      cases hphase

/-- A step that leaves the record and what the rows hold, of a goroutine that had no part in the token. -/
theorem Synced.keep (h : Synced key s) {phase : Option Phase} {db : Database}
    (hcached : db.tokenCache key = s.db.tokenCache key) (hstored : s.db.Stored key → db.Stored key)
    (hholds : ∀ f text, s.db.Holds key f text → db.Holds key f text)
    (hbefore : ∀ old, s.phases pid = some old → ¬ old.Works key)
    (hafter : ∀ new, phase = some new → new.Works key → db.Stored key) :
    Synced key (s.go pid phase db) where
  stored hsome := by
    rw [Jobs.go_db, hcached] at hsome
    exact hstored (h.stored hsome)
  working p new hnew hworks := by
    rw [Jobs.go_phases] at hnew
    split at hnew
    · exact hafter new hnew hworks
    · exact hstored (h.working p new hnew hworks)
  agree f hf := by
    have htext : (s.go pid phase db).db.cachedText key f = s.db.cachedText key f :=
      Database.cachedText_congr hcached
    rw [htext]
    rcases h.agree f hf with hrows | hblank | ⟨p, hdue⟩
    · exact .inl (hholds f _ hrows)
    · exact .inr (.inl hblank)
    · have hp : p ≠ pid := by
        rintro rfl
        obtain ⟨old, hold, hworks⟩ := hdue.works
        exact hbefore old hold hworks
      exact .inr (.inr ⟨p, hdue.same (by rw [Jobs.go_phases, if_neg hp]) htext⟩)

/-- A goroutine that only goes on. -/
theorem Synced.go (h : Synced key s) {phase : Phase}
    (hbefore : ∀ old, s.phases pid = some old → ¬ old.Works key)
    (hafter : phase.Works key → s.db.Stored key) : Synced key (s.go pid (some phase) s.db) := by
  refine h.keep rfl id (fun _ _ => id) hbefore ?_
  intro new hnew hworks
  rw [← Option.some.inj hnew] at hworks
  exact hafter hworks

/-- A new row is blank, but so is the record that comes next. -/
theorem Synced.create {r : TokenRound} (h : Synced key s)
    (hphase : s.phases pid = some (.creating r)) :
    Synced key (s.go pid (some (.setting r r.blank))
      { s.db with tokenInfo := s.db.tokenInfo ++ [r.blank] }) := by
  have hstored : s.db.Stored key →
      Database.Stored { s.db with tokenInfo := s.db.tokenInfo ++ [r.blank] } key := by
    rintro ⟨t, ht, hkey⟩
    exact ⟨t, List.mem_append_left _ ht, hkey⟩
  by_cases hkey : r.key = key
  · have hnew : Database.Stored { s.db with tokenInfo := s.db.tokenInfo ++ [r.blank] } key :=
      ⟨r.blank, List.mem_append_right _ (List.mem_singleton_self _), hkey⟩
    refine ⟨fun _ => hnew, fun _ _ _ _ => hnew, ?_⟩
    intro f _
    exact .inr (.inr ⟨pid, .inr ⟨r, by simp, hkey⟩⟩)
  · refine h.keep ?_ hstored ?_ ?_ ?_
    · rfl
    · intro f text hholds
      refine ⟨hstored hholds.stored, ?_⟩
      intro t ht hthis
      rcases List.mem_append.mp ht with hold | hblank
      · exact hholds.rows t hold hthis
      · rw [List.mem_singleton.mp hblank] at hthis
        exact absurd hthis hkey
    · intro old hold
      rw [hphase] at hold
      obtain rfl := Option.some.inj hold
      exact id
    · intro new hnew hworks
      obtain rfl := Option.some.inj hnew
      exact absurd hworks hkey

/-- The cached texts are the new one, empty ones, and those that were cached. -/
theorem Synced.set {r : TokenRound} {t : TokenInfo} (h : Synced key s)
    (hphase : s.phases pid = some (.setting r t)) (horder : s.InOrder key (.set pid)) :
    Synced key (s.go pid (some (.saving r))
      (s.db.setTokenCache r.key (r.update.write t))) := by
  by_cases hkey : r.key = key
  · subst hkey
    have hstored : s.db.Stored r.key := h.working pid _ hphase rfl
    refine ⟨fun _ => hstored, fun _ _ _ _ => hstored, ?_⟩
    intro f hf
    have hcached : (s.db.setTokenCache r.key (r.update.write t)).tokenCache r.key =
        some (r.update.write t) := by
      rw [Database.setTokenCache_tokenCache, if_pos rfl]
    have htext : (s.go pid (some (.saving r))
        (s.db.setTokenCache r.key (r.update.write t))).db.cachedText r.key f =
          (r.update.value f).getD (f.get t) := by
      rw [Jobs.go_db, Database.cachedText_some hcached, r.update.get_write]
    cases hvalue : r.update.value f with
    | some text =>
        -- the job is to save it next
        rw [hvalue, Option.getD_some] at htext
        refine .inr (.inr ⟨pid, .inl ⟨r, by simp, rfl, ?_⟩⟩)
        rw [htext, hvalue]
    | none =>
        rw [hvalue, Option.getD_none] at htext
        rcases horder r t hphase rfl f hf hvalue with hblank | hsame
        · exact .inr (.inl (htext.trans hblank))
        · rw [hsame] at htext
          rw [htext]
          rcases h.agree f hf with hholds | hblank | ⟨p, hdue⟩
          · exact .inl (hholds.setTokenCache _ _)
          · exact .inr (.inl hblank)
          · by_cases hp : p = pid
            · -- it had an empty record itself
              subst hp
              right
              left
              rcases hdue with ⟨r', hsaving, -⟩ | ⟨r', hreset, -⟩
              · rw [hphase] at hsaving
                cases hsaving
              · rw [hphase] at hreset
                cases hreset
                exact hsame.symm.trans (f.get_blank ..)
            · exact .inr (.inr ⟨p, hdue.same (by rw [Jobs.go_phases, if_neg hp]) htext⟩)
  · have hcached : (s.db.setTokenCache r.key (r.update.write t)).tokenCache key =
        s.db.tokenCache key := by
      rw [Database.setTokenCache_tokenCache, if_neg (Ne.symm hkey)]
    apply h.keep hcached id (fun f text hholds => hholds.setTokenCache _ _)
    · intro old hold
      rw [hphase] at hold
      obtain rfl := Option.some.inj hold
      exact hkey
    · intro new hnew hworks
      obtain rfl := Option.some.inj hnew
      exact absurd hworks hkey

/-- What is saved is cached, or what is cached is saved later. -/
theorem Synced.save {r : TokenRound} (h : Synced key s) (hphase : s.phases pid = some (.saving r))
    (horder : s.InOrder key (.save pid)) :
    Synced key (s.go pid none (saveData r.update false r.token r.chainId s.db)) := by
  by_cases hkey : r.key = key
  · subst hkey
    have hstored : s.db.Stored r.key := h.working pid _ hphase rfl
    have hafter : (saveData r.update false r.token r.chainId s.db).Stored r.key :=
      saveData_stored.mpr hstored
    refine ⟨fun _ => hafter, fun _ _ _ _ => hafter, ?_⟩
    intro f hf
    have htext : (s.go pid none (saveData r.update false r.token r.chainId s.db)).db.cachedText
        r.key f = s.db.cachedText r.key f :=
      Database.cachedText_congr (by rw [Jobs.go_db, saveData_tokenCache])
    have hdue {p : Nat} (hp : p ≠ pid) (hdue : s.Due r.key f p) :
        (s.go pid none (saveData r.update false r.token r.chainId s.db)).Due r.key f p :=
      hdue.same (by rw [Jobs.go_phases, if_neg hp]) htext
    rw [htext]
    cases hvalue : r.update.value f with
    | some text =>
        -- the column is saved now, or it is blank, or another goroutine is about to save it
        rcases horder r hphase rfl f hf text hvalue with rfl | hblank | ⟨p, hp, hp'⟩
        · exact .inl (saveData_writes hstored hvalue)
        · exact .inr (.inl hblank)
        · exact .inr (.inr ⟨p, hdue hp hp'⟩)
    | none =>
        rcases h.agree f hf with hholds | hblank | ⟨p, hp'⟩
        · left
          rw [Jobs.go_db]
          apply hholds.saveData
          intro _ new hnew
          rw [hvalue] at hnew
          cases hnew
        · exact .inr (.inl hblank)
        -- this goroutine does not save the column, so it was not the one that had to
        · have hp : p ≠ pid := by
            rintro rfl
            rcases hp' with ⟨r', hsaving, -, hnew⟩ | ⟨r', hreset, -⟩
            · rw [hphase] at hsaving
              cases hsaving
              rw [hvalue] at hnew
              cases hnew
            · rw [hphase] at hreset
              cases hreset
          exact .inr (.inr ⟨p, hdue hp hp'⟩)
  · apply h.keep (by rw [saveData_tokenCache]) saveData_stored.mpr
    · intro f text hholds
      exact hholds.saveData fun hthis => absurd hthis hkey
    · intro old hold
      rw [hphase] at hold
      obtain rfl := Option.some.inj hold
      exact hkey
    · intro new hnew
      cases hnew

/-- **A step in order keeps the token synced.** -/
theorem Synced.step {e : JobEvent} (h : Synced key s) (hstep : JobStep s e s')
    (horder : s.InOrder key e) : Synced key s' := by
  cases e with
  | get pid r =>
      obtain ⟨hidle, rfl | rfl | ⟨t, hcached, rfl⟩⟩ := hstep.get
      · exact h
      all_goals
        apply h.go
        · intro old hold
          rw [hidle] at hold
          cases hold
      · exact False.elim
      · rintro rfl
        exact h.stored (by rw [hcached]; rfl)
  | look pid =>
      obtain ⟨r, hphase, ⟨hstored, rfl⟩ | rfl⟩ := hstep.look
      all_goals
        apply h.go
        · intro old hold
          rw [hphase] at hold
          obtain rfl := Option.some.inj hold
          exact id
      · rintro rfl
        exact hstored
      · exact False.elim
  | create pid =>
      obtain ⟨r, hphase, rfl⟩ := hstep.create
      exact h.create hphase
  | set pid =>
      obtain ⟨r, t, hphase, rfl⟩ := hstep.set
      exact h.set hphase horder
  | save pid =>
      obtain ⟨r, hphase, rfl⟩ := hstep.save
      exact h.save hphase horder

/-- Where steps in order lead. -/
theorem Synced.run {es : List JobEvent} (h : Synced key s)
    (hrun : Run (Restrict JobStep fun s e _ => s.InOrder key e) s es s') : Synced key s' :=
  hrun.invariant (I := fun _ s => Synced key s) h fun hsynced hs => hsynced.step hs.1 hs.2

end Synced

/-! ## One more pass of two jobs

When no job is running the invariant says that Redis and the rows agree, and from there a pass alone
leaves what it reads. -/

/-- **Jobs in order lose no update.** Let goroutines take steps of any number of passes, with any values,
from a state in which Redis and the rows of the token agree. If the steps are in order for the token and
no job is running any more, then a pass of the price job and a pass of the logo job, in either order,
leave the price and the logo that they read in its rows. -/
theorem jobs_in_order_lose_nothing {key : Nat × String} {s₀ s : Jobs} {es : List JobEvent}
    (testNet : Nat) {price : PricePass} {logo : LogoPass} (hidle₀ : s₀.Idle)
    (hstart : Settled key TokenField.Own s₀.db)
    (hrun : Run (Restrict JobStep fun s e _ => s.InOrder key e) s₀ es s) (hidle : s.Idle)
    (hprice : price.Succeeds) (hlogo : logo.Succeeds) :
    (logo.Visible key (updateContractPrice testNet price s.db) →
      price.Shown testNet key s.db
          (updateTokenLogo logo (updateContractPrice testNet price s.db)) ∧
        logo.Shown key (updateTokenLogo logo (updateContractPrice testNet price s.db))) ∧
    (logo.Visible key s.db →
      logo.Shown key (updateContractPrice testNet price (updateTokenLogo logo s.db)) ∧
        price.Shown testNet key (updateTokenLogo logo s.db)
          (updateContractPrice testNet price (updateTokenLogo logo s.db))) := by
  have hsettled : Settled key TokenField.Own s.db :=
    ((Synced.start hidle₀ hstart).run hrun).settled hidle
  have hprices : ∀ r ∈ price.rounds testNet s.db.tokenInfo, r.key = key → r.Succeeds :=
    fun r hr _ => PricePass.rounds_succeed hprice r hr
  have hlogos : ∀ r ∈ logo.rounds, r.key = key → r.Succeeds :=
    fun r hr _ => LogoPass.rounds_succeed hlogo r hr
  have hprice_own : TokenField.Own .price := TokenField.noConfusion
  have hlogo_own : TokenField.Own .logo := TokenField.noConfusion
  constructor
  · intro hvisible
    refine ⟨?_, (hsettled.updateContractPrice hprices).logo hlogo_own hlogo hvisible⟩
    intro t ht hkey hne p hp
    apply (hsettled.price hprice_own hprice t ht hkey hne p hp).logo (by decide)
    intro e _ _ hsymbol
    cases hsymbol
  · intro hvisible
    refine ⟨?_, (hsettled.updateTokenLogo hlogos).price hprice_own hprice⟩
    intro e hgives hkey
    exact (hsettled.logo hlogo_own hlogo hvisible e hgives hkey).price (by decide)

/-! One token, whose price and symbol are asked for at the same time. -/

def oneToken : Database where
  tokenInfo := [{ token := "0x01", chainId := 97 }]

def priceRound (text : String) : TokenRound where
  token := "0x01"
  chainId := 97
  update := .price text

def symbolRound (text : String) : TokenRound where
  token := "0x01"
  chainId := 97
  update := .symbol text

def logoRound (url text : String) : TokenRound where
  token := "0x01"
  chainId := 97
  update := .logo url text

/-- The symbol job reads the record before the price changes to 2, and sets it afterwards. -/
def overtaken : List JobEvent :=
  [.get 0 (priceRound "1"), .look 0, .set 0, .save 0, .get 1 (symbolRound "BUSD"),
    .get 0 (priceRound "2"), .set 0, .save 0, .set 1, .save 1]

/-- When the price is 1 again the price job finds it cached, and the row keeps the 2. -/
theorem price_two_stays : ∃ s, Run JobStep { db := oneToken } overtaken s ∧ s.Idle ∧
    (updateTokenLogo { remote := .tokens [], localTokenLogo := [] }
      (updateContractPrice 97 { getPrice := fun _ => some 1 } s.db)).tokenInfo =
        [{ token := "0x01", chainId := 97, symbol := "BUSD", price := "2" }] ∧
    ¬ PricePass.Shown { getPrice := fun _ => some 1 } 97 (97, "0x01") s.db
      (updateTokenLogo { remote := .tokens [], localTokenLogo := [] }
        (updateContractPrice 97 { getPrice := fun _ => some 1 } s.db)) := by
  refine ⟨_, Run.of_replay JobStep.of_next rfl, ?_, ?_, ?_⟩
  · intro pid
    by_cases hfirst : pid = 0
    · subst hfirst
      rfl
    · by_cases hsecond : pid = 1
      · subst hsecond
        rfl
      · simp [hfirst, hsecond]
  · decide +kernel
  · intro hshown
    have hholds := hshown { token := "0x01", chainId := 97, symbol := "BUSD", price := "2" }
      (by decide +kernel) rfl (by decide) 1 (by decide +kernel)
    have hprice := hholds.rows { token := "0x01", chainId := 97, symbol := "BUSD", price := "2" }
      (by decide +kernel) rfl
    exact absurd hprice (by decide)

/-- Here the logo job reads the record after the price job has set it. -/
def inTurn : List JobEvent :=
  [.get 0 (priceRound "1"), .look 0, .set 0, .get 1 (logoRound "busd.svg" "BUSD"), .set 1, .save 1,
    .save 0]

def newLogo : LogoPass where
  remote := .unreachable
  localTokenLogo := [{ token := "0x01", chainId := 97, symbol := "BUSD", logo := "new.svg" }]

theorem inTurn_inOrder : ∃ s,
    Run (Restrict JobStep fun s e _ => s.InOrder (97, "0x01") e) { db := oneToken } inTurn s ∧
      s.Idle := by
  have hget : Run (Restrict JobStep fun s e _ => s.InOrder (97, "0x01") e) { db := oneToken }
      ([] ++ [JobEvent.get 0 (priceRound "1")]) _ := .step .start ⟨rfl, trivial⟩
  have hlook := hget.step (e := JobEvent.look 0) ⟨rfl, trivial⟩
  have hprice := hlook.step (e := JobEvent.set 0) ⟨rfl, by
    intro r t hphase _ f _ _
    have hthis : some (Phase.setting (priceRound "1") (priceRound "1").blank) =
        some (.setting r t) := hphase
    cases hthis
    exact .inl (f.get_blank ..)⟩
  have hread := hprice.step (e := JobEvent.get 1 (logoRound "busd.svg" "BUSD")) ⟨rfl, trivial⟩
  have hlogo := hread.step (e := JobEvent.set 1) ⟨rfl, by
    intro r t hphase _ f _ _
    have hthis : some (Phase.setting (logoRound "busd.svg" "BUSD")
        { token := "0x01", chainId := 97, price := "1" }) = some (.setting r t) := hphase
    cases hthis
    right
    cases f <;> rfl⟩
  have hsaved := hlogo.step (e := JobEvent.save 1) ⟨rfl, by
    intro r hphase _ f hf text hvalue
    have hthis : some (Phase.saving (logoRound "busd.svg" "BUSD")) = some (.saving r) := hphase
    cases hthis
    left
    cases f with
    | price => cases hvalue
    | symbol => exact absurd rfl hf
    | logo => exact (Option.some.inj hvalue).symm⟩
  have hend := hsaved.step (e := JobEvent.save 0) ⟨rfl, by
    intro r hphase _ f _ text hvalue
    have hthis : some (Phase.saving (priceRound "1")) = some (.saving r) := hphase
    cases hthis
    left
    cases f with
    | price => exact (Option.some.inj hvalue).symm
    | symbol => cases hvalue
    | logo => cases hvalue⟩
  refine ⟨_, hend, ?_⟩
  intro pid
  by_cases hfirst : pid = 0
  · subst hfirst
    rfl
  · by_cases hsecond : pid = 1
    · subst hsecond
      rfl
    · simp [hfirst, hsecond]

theorem jobs_in_order_lose_nothing_inTurn : ∃ s,
    Run (Restrict JobStep fun s e _ => s.InOrder (97, "0x01") e) { db := oneToken } inTurn s ∧
    PricePass.Shown { getPrice := fun _ => some 3 } 97 (97, "0x01") s.db
      (updateTokenLogo newLogo (updateContractPrice 97 { getPrice := fun _ => some 3 } s.db)) ∧
    newLogo.Shown (97, "0x01")
      (updateTokenLogo newLogo (updateContractPrice 97 { getPrice := fun _ => some 3 } s.db)) := by
  obtain ⟨s, hrun, hidle⟩ := inTurn_inOrder
  have hvisible : newLogo.Visible (97, "0x01")
      (updateContractPrice 97 { getPrice := fun _ => some 3 } s.db) := by
    rintro e ⟨pre, post, hentries, -⟩ -
    have he : e ∈ newLogo.entries := by
      rw [hentries]
      simp
    obtain rfl := List.mem_singleton.mp he
    exact .inl (by decide)
  exact ⟨s, hrun, (jobs_in_order_lose_nothing 97 (fun _ => rfl) (Settled.start rfl) hrun hidle
    (fun _ => ⟨rfl, rfl⟩) (fun _ => ⟨rfl, rfl⟩)).1 hvisible⟩

end Pledge.Backend
