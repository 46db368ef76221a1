import Pledge.Api.MultiSign

/-!
# Logins

A login is answered with a signed token of thirty days and leaves a mark in Redis, under the name of the
user and with the same text every time. `CheckToken` lets a request through when its token is good and
the mark is there, and `POST /user/logout` deletes the mark. The steps of requests fall between each
other.

The mark does not tell which login it is from. So a token that a logout has ended is let through again
from the next login on, until it expires (`logout_final_iff`).
-/

namespace Pledge.Api

open Pledge.Evm Pledge.Text

/-! ## Tokens

The signature of a token is the business of `jwt-go`, which is not modelled further than this: what
is signed is read back until it expires. Nothing is said about texts that were never signed. -/

/-- `TokenErr`. -/
def tokenErr : Nat := 1102

/-- `NameOrPasswordErr`. -/
def nameOrPasswordErr : Nat := 1303

/-- The package `jwt-go`: `SignedString` of the claims `username` and `exp` with `HS256`, and the claim
`username` after `Parse`. The claim may be no text. -/
structure Jwt where
  signedString : String → Int → String → Option String
  parse : String → String → Int → Option (Option String)

/-- A signed token is read back while it has not expired. -/
def Jwt.ReadsBack (jwt : Jwt) (secretKey : String) : Prop :=
  ∀ username exp token, jwt.signedString username exp secretKey = some token →
    ∀ now, jwt.parse token secretKey now = if now ≤ exp then some (some username) else none

/-- What is read of `config.Config`. -/
structure Config where
  secretKey : String
  expireTime : Int
  defaultAdmin : String
  deriving Repr, DecidableEq

/-- `time.Hour * 24 * 30`, in seconds. -/
def thirtyDays : Int := 24 * 30 * 3600

/-! ## Redis

The mark of a login is the text `login_ok`, written as JSON under the name of the user. It does not
name the token it belongs to. -/

/-- A value, and whether it has a time to live. -/
structure Entry where
  value : String
  expires : Bool
  deriving Repr, DecidableEq

/-- Where a request is between two steps. -/
inductive SessionPhase where
  /-- The token of a login is signed, and its mark comes next. -/
  | storing (name token : String) (issued : Int)
  /-- `CheckToken` has let a logout through. -/
  | deleting (username : String)
  deriving Repr, DecidableEq

/-- What Redis has, and the requests by a number. -/
structure Sessions where
  redis : String → Option Entry
  phases : Nat → Option SessionPhase := fun _ => none

namespace Sessions

variable (s : Sessions)

def go (pid : Nat) (phase : Option SessionPhase) : Sessions :=
  { s with phases := Function.update s.phases pid phase }

/-- `RedisSet` of a text, when Redis takes it. -/
def redisSet (key data : String) (aliveSeconds : Int) (stored : Bool) : Sessions :=
  if stored = true then
    { s with
      redis := Function.update s.redis key
        (some ⟨String.ofList (Json.writeString data), decide (0 < aliveSeconds)⟩) }
  else s

/-- The bytes that `RedisGet` gives, as a text. There are none without an answer of Redis. -/
def redisGet (key : String) (read : Bool) : String :=
  match s.redis key with
  | some entry => if read = true then entry.value else ""
  | none => ""

/-- `RedisDelete`, when Redis does it. -/
def redisDelete (key : String) (deleted : Bool) : Sessions :=
  if deleted = true then { s with redis := Function.update s.redis key none } else s

end Sessions

/-! ## Requests

A login signs its token and then sets the mark, a logout passes `CheckToken` and then deletes it,
and other requests may have their turn between the two. Redis may fail at each point: a mark that is
not set, or not deleted, is no error to the service. -/

/-- The routes behind `CheckToken`. -/
inductive Route where
  | debtTokenList
  | search
  | setMultiSign
  | getMultiSign
  | logout
  deriving Repr, DecidableEq

/-- What comes of a login, before its mark. -/
inductive Login where
  | code (code : Nat)
  | token (tokenId : String)
  deriving Repr, DecidableEq

/-- What comes of `CheckToken`. -/
inductive Check where
  | abort (code : Nat)
  | next (username : String)
  | panics
  deriving Repr, DecidableEq

/-- The steps of the requests, each with the time that it reads, whether Redis does what it is asked to,
and what comes of it. -/
inductive SessionEvent where
  /-- `validate.Login` and `CreateToken`. -/
  | login (pid : Nat) (now : Int) (name password : String) (result : Login)
  /-- The mark of a login. The token, which was issued at this time, is the answer. -/
  | store (pid : Nat) (token : String) (issued : Int) (stored : Bool)
  /-- `CheckToken`, before the handler of a route. -/
  | check (pid : Nat) (now : Int) (authCode : String) (route : Route) (read : Bool) (result : Check)
  /-- `Logout`, which is answered with success. -/
  | delete (pid : Nat) (deleted : Bool)
  /-- The end of a time to live. -/
  | expire (key : String)
  deriving Repr, DecidableEq

namespace Sessions

variable (jwt : Jwt) (config : Config) (s : Sessions)

/-- `Login`, up to the mark. -/
def login (now : Int) (name password : String) : Login :=
  if name = "" ∨ password = "" then .code pNameEmpty
  else if name = "admin" ∧ password = "password" then
    match jwt.signedString name (now + thirtyDays) config.secretKey with
    | none => .code commonErrServerErr
    | some token => .token token
  else .code nameOrPasswordErr

/-- `CheckToken`. -/
def checkToken (now : Int) (authCode : String) (read : Bool) : Check :=
  match jwt.parse authCode config.secretKey now with
  | none => .abort tokenErr
  | some none => .panics
  | some (some username) =>
      if username ≠ config.defaultAdmin then .abort tokenErr
      -- Judge whether the user logout
      else if s.redisGet username read ≠ "\"login_ok\"" then .abort tokenErr
      else .next username

/-- One step, when the request is there. -/
def next : SessionEvent → Option Sessions
  | .login pid now name password result =>
      if s.phases pid = none ∧ login jwt config now name password = result then
        match result with
        | .token token => some (s.go pid (some (.storing name token now)))
        | .code _ => some s
      else none
  | .store pid token issued stored =>
      match s.phases pid with
      | some (.storing name token' issued') =>
          -- a mark that Redis does not take is no error
          if token' = token ∧ issued' = issued then
            some ((s.redisSet name "login_ok" config.expireTime stored).go pid none)
          else none
      | _ => none
  | .check pid now authCode route read result =>
      if s.phases pid = none ∧ s.checkToken jwt config now authCode read = result then
        match result with
        | .next username =>
            if route = .logout then some (s.go pid (some (.deleting username))) else some s
        | _ => some s
      else none
  | .delete pid deleted =>
      match s.phases pid with
      | some (.deleting username) => some ((s.redisDelete username deleted).go pid none)
      | _ => none
  | .expire key =>
      match s.redis key with
      | some entry => if entry.expires = true then some (s.redisDelete key true) else none
      | none => none

end Sessions

/-- A step that is possible. -/
def SessionStep (jwt : Jwt) (config : Config) (s : Sessions) (e : SessionEvent) (s' : Sessions) :
    Prop :=
  s.next jwt config e = some s'

section Step

variable {jwt : Jwt} {config : Config} {s s' : Sessions} {pid : Nat} {now issued : Int}
  {authCode name password token username : String} {route : Route} {read stored deleted : Bool}
  {outcome : Check} {result : Login}

/-- Who gets a token. -/
theorem Sessions.login_eq_token : login jwt config now name password = .token token ↔
    name = "admin" ∧ password = "password" ∧
      jwt.signedString "admin" (now + thirtyDays) config.secretKey = some token := by
  unfold login
  constructor
  · intro h
    split at h
    · cases h
    · split at h
      · next hadmin =>
          obtain ⟨rfl, rfl⟩ := hadmin
          split at h
          · cases h
          · next token' hsigned =>
              obtain rfl := Login.token.inj h
              exact ⟨rfl, rfl, hsigned⟩
      · cases h
  · rintro ⟨rfl, rfl, hsigned⟩
    rw [if_neg (by decide), if_pos ⟨rfl, rfl⟩, hsigned]

/-- What `CheckToken` lets through. -/
theorem Sessions.checkToken_eq_next : s.checkToken jwt config now authCode read = .next username ↔
    jwt.parse authCode config.secretKey now = some (some username) ∧
      username = config.defaultAdmin ∧ s.redisGet username read = "\"login_ok\"" := by
  unfold checkToken
  cases jwt.parse authCode config.secretKey now with
  | none => simp
  | some claim =>
      cases claim with
      | none => simp
      | some name =>
          show (if name ≠ config.defaultAdmin then _ else _) = _ ↔ _
          constructor
          · intro h
            split at h
            · cases h
            · next hadmin =>
                split at h
                · cases h
                · next hmark =>
                    obtain rfl := Check.next.inj h
                    exact ⟨rfl, not_not.mp hadmin, not_not.mp hmark⟩
          · rintro ⟨hname, hadmin, hmark⟩
            obtain rfl := Option.some.inj (Option.some.inj hname)
            rw [if_neg (not_not.mpr hadmin), if_neg (not_not.mpr hmark)]

namespace SessionStep

theorem login (h : SessionStep jwt config s (.login pid now name password result) s') :
    s' = s ∨ ∃ token, jwt.signedString "admin" (now + thirtyDays) config.secretKey = some token ∧
      s' = s.go pid (some (.storing "admin" token now)) := by
  simp only [SessionStep, Sessions.next] at h
  split at h
  · next hguard =>
      split at h
      · next token =>
          obtain ⟨rfl, -, hsigned⟩ := Sessions.login_eq_token.mp hguard.2
          exact .inr ⟨token, hsigned, (Option.some.inj h).symm⟩
      · exact .inl (Option.some.inj h).symm
  · cases h

theorem store (h : SessionStep jwt config s (.store pid token issued stored) s') :
    ∃ name, s.phases pid = some (.storing name token issued) ∧
      s' = (s.redisSet name "login_ok" config.expireTime stored).go pid none := by
  simp only [SessionStep, Sessions.next] at h
  split at h
  · next name token' issued' hphase =>
      split at h
      · next hguard =>
          obtain ⟨rfl, rfl⟩ := hguard
          exact ⟨name, hphase, (Option.some.inj h).symm⟩
      · cases h
  · cases h

theorem check (h : SessionStep jwt config s (.check pid now authCode route read outcome) s') :
    s.checkToken jwt config now authCode read = outcome ∧
      (s' = s ∨ ∃ username, outcome = .next username ∧
        s' = s.go pid (some (.deleting username))) := by
  simp only [SessionStep, Sessions.next] at h
  split at h
  · next hguard =>
      refine ⟨hguard.2, ?_⟩
      split at h
      · next username =>
          split at h
          · exact .inr ⟨username, rfl, (Option.some.inj h).symm⟩
          · exact .inl (Option.some.inj h).symm
      · exact .inl (Option.some.inj h).symm
  · cases h

theorem delete (h : SessionStep jwt config s (.delete pid deleted) s') :
    ∃ username, s.phases pid = some (.deleting username) ∧
      s' = (s.redisDelete username deleted).go pid none := by
  simp only [SessionStep, Sessions.next] at h
  split at h
  · next username hphase => exact ⟨username, hphase, (Option.some.inj h).symm⟩
  · cases h

theorem expire {key : String} (h : SessionStep jwt config s (.expire key) s') :
    s' = s.redisDelete key true := by
  simp only [SessionStep, Sessions.next] at h
  split at h
  · split at h
    · exact (Option.some.inj h).symm
    · cases h
  · cases h

end SessionStep

end Step

/-! ## Requests on their way

Only one name gets tokens, `admin`, since the login compares with these texts. What is between two
steps was therefore signed for it, or was let through as the default admin. -/

/-- What a request has behind it. -/
def SessionPhase.Earned (jwt : Jwt) (config : Config) : SessionPhase → Prop
  | .storing name token issued => name = "admin" ∧
      jwt.signedString "admin" (issued + thirtyDays) config.secretKey = some token
  | .deleting username => username = config.defaultAdmin

section Earned

variable {jwt : Jwt} {config : Config} {s s' : Sessions} {es : List SessionEvent}

@[simp] theorem Sessions.go_phases (pid p : Nat) (phase : Option SessionPhase) :
    (s.go pid phase).phases p = if p = pid then phase else s.phases p :=
  Function.update_apply ..

@[simp] theorem Sessions.redisSet_phases (key data : String) (aliveSeconds : Int) (stored : Bool) :
    (s.redisSet key data aliveSeconds stored).phases = s.phases := by
  unfold redisSet
  split <;> rfl

@[simp] theorem Sessions.redisDelete_phases (key : String) (deleted : Bool) :
    (s.redisDelete key deleted).phases = s.phases := by
  unfold redisDelete
  split <;> rfl

/-- A step earns what it leaves on its way. -/
theorem earned_step {e : SessionEvent}
    (h : ∀ pid phase, s.phases pid = some phase → phase.Earned jwt config)
    (hstep : SessionStep jwt config s e s') :
    ∀ pid phase, s'.phases pid = some phase → phase.Earned jwt config := by
  -- only the request of the step has another phase
  have hgo : ∀ (s₁ : Sessions) (pid : Nat) (new : Option SessionPhase), s₁.phases = s.phases →
      (∀ phase, new = some phase → phase.Earned jwt config) →
        ∀ p phase, (s₁.go pid new).phases p = some phase → phase.Earned jwt config := by
    intro s₁ pid new hsame hnew p phase hphase
    rw [Sessions.go_phases, hsame] at hphase
    split at hphase
    · exact hnew phase hphase
    · exact h p phase hphase
  cases e with
  | login pid now name password result =>
      rcases hstep.login with rfl | ⟨token, hsigned, rfl⟩
      · exact h
      · apply hgo s pid _ rfl
        intro phase hphase
        obtain rfl := Option.some.inj hphase
        exact ⟨rfl, hsigned⟩
  | store pid token issued stored =>
      obtain ⟨name, -, rfl⟩ := hstep.store
      exact hgo _ pid none (Sessions.redisSet_phases ..) nofun
  | check pid now authCode route read outcome =>
      obtain ⟨hcheck, rfl | ⟨username, rfl, rfl⟩⟩ := hstep.check
      · exact h
      · apply hgo s pid _ rfl
        intro phase hphase
        obtain rfl := Option.some.inj hphase
        exact (Sessions.checkToken_eq_next.mp hcheck).2.1
  | delete pid deleted =>
      obtain ⟨username, -, rfl⟩ := hstep.delete
      exact hgo _ pid none (Sessions.redisDelete_phases ..) nofun
  | expire key =>
      obtain rfl := hstep.expire
      rw [Sessions.redisDelete_phases]
      exact h

/-- In every run. -/
theorem earned {redis : String → Option Entry}
    (hrun : Run (SessionStep jwt config) { redis := redis } es s) :
    ∀ pid phase, s.phases pid = some phase → phase.Earned jwt config := by
  induction hrun with
  | start => exact nofun
  | step _ hs ih => exact earned_step ih hs

end Earned

/-! ## Histories

Whether the mark is there can be told from the history: the last of the logins, logouts and ends of
a time to live decides (`marked_of_run`). A token that was ended is then let through exactly when it
has not expired, a login has set the mark again, and Redis is there to say so. -/

/-- The token was issued at this time, before a logout. -/
def Ended (token : String) (issued : Int) (es : List SessionEvent) : Prop :=
  ∃ before pid stored after, es = before ++ .store pid token issued stored :: after ∧
    ∃ pid' deleted, .delete pid' deleted ∈ after

/-- A token that a logout has ended is not accepted. -/
def LogoutFinal (es : List SessionEvent) : Prop :=
  ∀ before pid now authCode route read outcome after,
    es = before ++ .check pid now authCode route read outcome :: after →
      ∀ issued, Ended authCode issued before → ∀ username, outcome ≠ .next username

/-- What a step does to the mark of a login. -/
def markStep (marked : Bool) : SessionEvent → Bool
  | .store _ _ _ stored => marked || stored
  | .delete _ deleted => marked && !deleted
  | .expire key => marked && decide (key ≠ "admin")
  | .login .. => marked
  | .check .. => marked

/-- A login has left its mark, and since then no logout has deleted it and it has not expired. -/
def markedAfter (marked : Bool) (es : List SessionEvent) : Bool := es.foldl markStep marked

@[simp] theorem markedAfter_snoc (marked : Bool) (es : List SessionEvent) (e : SessionEvent) :
    markedAfter marked (es ++ [e]) = markStep (markedAfter marked es) e := by
  simp [markedAfter, List.foldl_append]

/-- The mark of a login is there. -/
def Sessions.marked (s : Sessions) : Bool := decide (s.redisGet "admin" true = "\"login_ok\"")

/-- Each check of a token that a logout has ended comes too late, or with no mark there. -/
def NotRevived (config : Config) (marked : Bool) (es : List SessionEvent) : Prop :=
  ∀ before pid now authCode route read outcome after,
    es = before ++ .check pid now authCode route read outcome :: after →
      ∀ issued, Ended authCode issued before →
        issued + thirtyDays < now ∨ config.defaultAdmin ≠ "admin" ∨ read = false ∨
          markedAfter marked before = false

section Histories

variable {jwt : Jwt} {config : Config} {redis : String → Option Entry} {s s' : Sessions}
  {es : List SessionEvent}

@[simp] theorem Sessions.go_marked (pid : Nat) (phase : Option SessionPhase) :
    (s.go pid phase).marked = s.marked := rfl

theorem Sessions.redisGet_false (key : String) : s.redisGet key false = "" := by
  unfold redisGet
  split <;> rfl

/-- The mark of a login comes. -/
theorem Sessions.marked_set (aliveSeconds : Int) (stored : Bool) :
    (s.redisSet "admin" "login_ok" aliveSeconds stored).marked = (s.marked || stored) := by
  cases stored with
  | false => simp [redisSet]
  | true =>
      have hmark : String.ofList (Json.writeString "login_ok") = "\"login_ok\"" := by decide
      simp [marked, redisSet, redisGet, hmark]

/-- A key goes. -/
theorem Sessions.marked_delete (key : String) (deleted : Bool) :
    (s.redisDelete key deleted).marked = (s.marked && !(deleted && decide (key = "admin"))) := by
  cases deleted with
  | false => simp [redisDelete]
  | true =>
      by_cases hkey : key = "admin"
      · simp [marked, redisDelete, redisGet, hkey]
      · simp [marked, redisDelete, redisGet, hkey, Ne.symm hkey]

/-- **What a step does to the mark.** -/
theorem SessionStep.marked {e : SessionEvent} (hadmin : config.defaultAdmin = "admin")
    (hearned : ∀ pid phase, s.phases pid = some phase → phase.Earned jwt config)
    (hstep : SessionStep jwt config s e s') : s'.marked = markStep s.marked e := by
  cases e with
  | login pid now name password result =>
      rcases hstep.login with rfl | ⟨token, -, rfl⟩
      · rfl
      · rfl
  | store pid token issued stored =>
      obtain ⟨name, hphase, rfl⟩ := hstep.store
      obtain ⟨rfl, -⟩ := hearned pid _ hphase
      rw [Sessions.go_marked, Sessions.marked_set]
      rfl
  | check pid now authCode route read outcome =>
      obtain ⟨-, rfl | ⟨username, -, rfl⟩⟩ := hstep.check
      · rfl
      · rfl
  | delete pid deleted =>
      obtain ⟨username, hphase, rfl⟩ := hstep.delete
      have hname : username = "admin" := (hearned pid _ hphase).trans hadmin
      rw [Sessions.go_marked, Sessions.marked_delete, hname]
      simp [markStep]
  | expire key =>
      obtain rfl := hstep.expire
      rw [Sessions.marked_delete]
      simp [markStep]

/-- The mark is there when the history says so. -/
theorem marked_of_run (hadmin : config.defaultAdmin = "admin")
    (hrun : Run (SessionStep jwt config) { redis := redis } es s) :
    s.marked = markedAfter (Sessions.marked { redis := redis }) es := by
  induction hrun with
  | start => rfl
  | step hrun hs ih => rw [markedAfter_snoc, ← ih, hs.marked hadmin (earned hrun)]

/-- A token that was issued is signed for thirty days. -/
theorem Ended.signed {token : String} {issued : Int} (h : Ended token issued es)
    (hrun : Run (SessionStep jwt config) { redis := redis } es s) :
    jwt.signedString "admin" (issued + thirtyDays) config.secretKey = some token := by
  obtain ⟨before, pid, stored, after, rfl, -⟩ := h
  obtain ⟨s₁, hbefore, hrest⟩ := hrun.split
  obtain ⟨s₂, hstep, -⟩ := hrest.uncons
  obtain ⟨name, hphase, -⟩ := hstep.store
  exact (earned hbefore pid _ hphase).2

/-- **Whether an old token is accepted.** -/
theorem Ended.next_iff {pid : Nat} {now issued : Int} {authCode : String} {route : Route}
    {read : Bool} {outcome : Check} (hjwt : jwt.ReadsBack config.secretKey)
    (h : Ended authCode issued es) (hrun : Run (SessionStep jwt config) { redis := redis } es s)
    (hcheck : SessionStep jwt config s (.check pid now authCode route read outcome) s') :
    (∃ username, outcome = .next username) ↔
      ¬ (issued + thirtyDays < now ∨ config.defaultAdmin ≠ "admin" ∨ read = false ∨
        markedAfter (Sessions.marked { redis := redis }) es = false) := by
  have hparse := hjwt _ _ _ (h.signed hrun) now
  obtain ⟨rfl, -⟩ := hcheck.check
  simp only [Sessions.checkToken_eq_next, hparse]
  constructor
  · rintro ⟨username, hread, hadmin, hmark⟩
    split at hread
    · next htime =>
        obtain rfl := Option.some.inj (Option.some.inj hread)
        cases read with
        | false =>
            rw [Sessions.redisGet_false] at hmark
            exact absurd hmark (by decide)
        | true =>
            -- it was let through by the mark, so the history has left one
            have hmarked : s.marked = true := decide_eq_true hmark
            rw [marked_of_run hadmin.symm hrun] at hmarked
            rintro (hlate | hne | hno | hunmarked)
            · omega
            · exact hne hadmin.symm
            · cases hno
            · rw [hmarked] at hunmarked
              cases hunmarked
    · cases hread
  · intro hnot
    simp only [not_or, not_not] at hnot
    obtain ⟨htime, hadmin, hread, hmarked⟩ := hnot
    refine ⟨"admin", ?_, hadmin.symm, ?_⟩
    · rw [if_pos (by omega)]
    · rw [← marked_of_run hadmin hrun] at hmarked
      have hread' : read = true := by simpa using hread
      rw [hread']
      have hmark : s.marked = true := by simpa using hmarked
      exact of_decide_eq_true hmark

end Histories

/-- **When a logout is final**, for every history. -/
theorem logout_final_iff {jwt : Jwt} {config : Config} (hjwt : jwt.ReadsBack config.secretKey)
    {redis : String → Option Entry} {s : Sessions} {es : List SessionEvent}
    (hrun : Run (SessionStep jwt config) { redis := redis } es s) :
    LogoutFinal es ↔ NotRevived config (Sessions.marked { redis := redis }) es := by
  constructor
  · rintro hfinal before pid now authCode route read outcome after rfl issued hended
    obtain ⟨s₁, hbefore, hrest⟩ := hrun.split
    obtain ⟨s₂, hcheck, -⟩ := hrest.uncons
    by_contra hnot
    obtain ⟨username, hnext⟩ := (hended.next_iff hjwt hbefore hcheck).mpr hnot
    exact hfinal before pid now authCode route read outcome after rfl issued hended username hnext
  · rintro hrevived before pid now authCode route read outcome after rfl issued hended username hnext
    obtain ⟨s₁, hbefore, hrest⟩ := hrun.split
    obtain ⟨s₂, hcheck, -⟩ := hrest.uncons
    exact (hended.next_iff hjwt hbefore hcheck).mp ⟨username, hnext⟩
      (hrevived before pid now authCode route read outcome after rfl issued hended)

/-- Tokens that are the digits of the time when they expire. -/
def Jwt.digits : Jwt where
  signedString username exp _ :=
    if username = "admin" ∧ 0 ≤ exp then some (toString exp.toNat) else none
  parse token _ now :=
    match parseInt token with
    | some exp => if now ≤ exp then some (some "admin") else none
    | none => none

theorem Jwt.digits_readsBack (secretKey : String) : Jwt.digits.ReadsBack secretKey := by
  intro username exp token hsigned now
  have hguard : username = "admin" ∧ 0 ≤ exp ∧ toString exp.toNat = token := by
    simpa [digits, and_assoc] using hsigned
  obtain ⟨rfl, hexp, rfl⟩ := hguard
  show (match parseInt (toString exp.toNat) with | some exp => _ | none => _) = _
  rw [parseInt_toString, Int.toNat_of_nonneg hexp]

theorem Jwt.digits_signed (secretKey : String) (exp : Nat) :
    Jwt.digits.signedString "admin" exp secretKey = some (toString exp) := by
  have hguard : "admin" = "admin" ∧ (0 : Int) ≤ exp := ⟨rfl, Int.natCast_nonneg exp⟩
  show (if "admin" = "admin" ∧ (0 : Int) ≤ exp then some (toString (exp : Int).toNat) else none) = _
  rw [if_pos hguard, Int.toNat_natCast]

/-- A login with such a token. -/
theorem Sessions.digits_login (config : Config) (s : Sessions) {now : Int} {exp : Nat}
    (hidle : s.phases 0 = none) (hexp : now + thirtyDays = exp) :
    Run (SessionStep .digits config) s
      [.login 0 now "admin" "password" (.token (toString exp)), .store 0 (toString exp) now true]
      ((s.redisSet "admin" "login_ok" config.expireTime true).go 0 none) := by
  have hsigned := Jwt.digits_signed config.secretKey exp
  rw [← hexp] at hsigned
  have htoken := login_eq_token.mpr ⟨rfl, rfl, hsigned⟩
  have hlogin : SessionStep .digits config s (.login 0 now "admin" "password" (.token (toString exp)))
      (s.go 0 (some (.storing "admin" (toString exp) now))) := by
    simp [SessionStep, next, hidle, htoken]
  have hstore : SessionStep .digits config (s.go 0 (some (.storing "admin" (toString exp) now)))
      (.store 0 (toString exp) now true)
      ((s.redisSet "admin" "login_ok" config.expireTime true).go 0 none) := by
    simp [SessionStep, next, go, redisSet]
  exact (Run.start.step hlogin).step hstore

/-- A default admin by this name. -/
def adminConfig : Config := ⟨"secret", 2592000, "admin"⟩

/-- A token is accepted while it has not expired and the mark is there. -/
theorem Sessions.digits_next {s : Sessions} (hmark : s.marked = true) {now : Int} {exp : Nat}
    (hnow : now ≤ exp) : s.checkToken .digits adminConfig now (toString exp) true = .next "admin" := by
  have hparse := Jwt.digits_readsBack "secret" _ _ _ (Jwt.digits_signed "secret" exp) now
  rw [if_pos hnow] at hparse
  exact Sessions.checkToken_eq_next.mpr ⟨hparse, rfl, of_decide_eq_true hmark⟩

/-- Then it can log out. -/
theorem Sessions.digits_logout {s : Sessions} (hidle : s.phases 0 = none) (hmark : s.marked = true)
    {now : Int} {exp : Nat} (hnow : now ≤ exp) :
    Run (SessionStep .digits adminConfig) s
      [.check 0 now (toString exp) .logout true (.next "admin"), .delete 0 true]
      ((s.redisDelete "admin" true).go 0 none) := by
  have hcheck : SessionStep .digits adminConfig s
      (.check 0 now (toString exp) .logout true (.next "admin"))
      (s.go 0 (some (.deleting "admin"))) := by
    simp only [SessionStep, Sessions.next]
    rw [if_pos ⟨hidle, Sessions.digits_next hmark hnow⟩, if_pos trivial]
  have hdelete : SessionStep .digits adminConfig (s.go 0 (some (.deleting "admin"))) (.delete 0 true)
      ((s.redisDelete "admin" true).go 0 none) := by
    simp [SessionStep, Sessions.next, Sessions.go, Sessions.redisDelete]
  exact (Run.start.step hcheck).step hdelete

/-- The mark of a login at the time 0, and what is left of it after a logout. -/
def Sessions.opened : Sessions :=
  (Sessions.redisSet { redis := fun _ => none } "admin" "login_ok" 2592000 true).go 0 none

def Sessions.loggedOut : Sessions := (Sessions.opened.redisDelete "admin" true).go 0 none

/-- A login and a logout. -/
def loginLogout : List SessionEvent :=
  [.login 0 0 "admin" "password" (.token (toString 2592000)), .store 0 (toString 2592000) 0 true] ++
    [.check 0 1 (toString 2592000) .logout true (.next "admin"), .delete 0 true]

theorem loginLogout_run : Run (SessionStep .digits adminConfig) { redis := fun _ => none } loginLogout
    Sessions.loggedOut := by
  have hlogin := Sessions.digits_login adminConfig { redis := fun _ => none } rfl
    (show (0 : Int) + thirtyDays = (2592000 : Nat) from rfl)
  exact hlogin.append (Sessions.digits_logout (s := .opened) rfl (by decide) (by decide))

/-- The token is refused after its logout. -/
theorem logout_final_refused :
    ∃ s, Run (SessionStep .digits adminConfig) { redis := fun _ => none }
        (loginLogout ++ [.check 0 2 (toString 2592000) .search true (.abort tokenErr)]) s ∧
      LogoutFinal
        (loginLogout ++ [.check 0 2 (toString 2592000) .search true (.abort tokenErr)]) := by
  have hrefused : SessionStep .digits adminConfig Sessions.loggedOut
      (.check 0 2 (toString 2592000) .search true (.abort tokenErr)) Sessions.loggedOut := by
    have hparse := Jwt.digits_readsBack adminConfig.secretKey _ _ _ (Jwt.digits_signed _ 2592000) 2
    rw [if_pos (by decide)] at hparse
    have hcheck : Sessions.loggedOut.checkToken .digits adminConfig 2 (toString 2592000) true =
        .abort tokenErr := by
      unfold Sessions.checkToken
      rw [hparse]
      rfl
    simp only [SessionStep, Sessions.next]
    rw [if_pos ⟨rfl, hcheck⟩]
  have hrun := loginLogout_run.step hrefused
  refine ⟨_, hrun, (logout_final_iff (Jwt.digits_readsBack "secret") hrun).mpr ?_⟩
  intro before pid now authCode route read outcome after hsplit issued hended
  right; right; right
  -- one of the two checks
  rcases before with _ | ⟨e₁, _ | ⟨e₂, _ | ⟨e₃, _ | ⟨e₄, _ | ⟨e₅, before⟩⟩⟩⟩⟩ <;>
    simp [loginLogout] at hsplit
  · -- before the first there was no logout
    obtain ⟨rfl, rfl, -⟩ := hsplit
    obtain ⟨before, pid', stored, after', heq, pid'', deleted, hmem⟩ := hended
    have hdelete : SessionEvent.delete pid'' deleted ∈ before ++ .store pid' authCode issued stored ::
        after' := List.mem_append_right _ (List.mem_cons_of_mem _ hmem)
    rw [← heq] at hdelete
    simp at hdelete
  · -- the mark is gone at the second
    obtain ⟨rfl, rfl, rfl, rfl, -⟩ := hsplit
    rfl

/-- The next login lets a token through that has been logged out. -/
theorem logout_revived : ¬ ∀ (jwt : Jwt) (config : Config), jwt.ReadsBack config.secretKey →
    ∀ (redis : String → Option Entry) (es : List SessionEvent) (s : Sessions),
      Run (SessionStep jwt config) { redis := redis } es s → LogoutFinal es := by
  intro hall
  let reopened : Sessions := (Sessions.loggedOut.redisSet "admin" "login_ok" 2592000 true).go 0 none
  have hagain := Sessions.digits_login adminConfig Sessions.loggedOut rfl
    (show (2 : Int) + thirtyDays = (2592002 : Nat) from rfl)
  have haccepted : SessionStep .digits adminConfig reopened
      (.check 0 3 (toString 2592000) .search true (.next "admin")) reopened := by
    simp only [SessionStep, Sessions.next]
    rw [if_pos ⟨rfl, Sessions.digits_next (s := reopened) (by decide) (by decide)⟩,
      if_neg (by decide)]
  have hrun := (loginLogout_run.append hagain).step haccepted
  have hended : Ended (toString 2592000) 0
      (loginLogout ++ [.login 0 2 "admin" "password" (.token (toString 2592002)),
        .store 0 (toString 2592002) 2 true]) :=
    ⟨[_], 0, true, _, rfl, 0, true, by simp⟩
  exact hall .digits adminConfig (Jwt.digits_readsBack "secret") _ _ _ hrun _ _ _ _ _ _ _ [] rfl 0 hended
    "admin" rfl

end Pledge.Api
