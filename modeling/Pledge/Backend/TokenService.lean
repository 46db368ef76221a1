import Pledge.Backend.Database

/-!
# The jobs for tokens

`UpdateContractPrice`, `UpdateContractSymbol` and `UpdateTokenLogo` keep the price, the symbol and the
logo of every token. The three work in the same way: a value is compared with the record that Redis
holds under the token, and when it is new, it is set there first and in `token_info` second. They share
one record, but each compares only the field of its own.

A pass is a sequence of such rounds. Redis does not fail here; a write to MySQL may.
-/

namespace Pledge.Backend

open Pledge.Store

/-! ## One value

The three jobs do the same for one column each. They get the record from Redis, create the row if
there is none, and write the value to both. -/

/-- What a job writes about a token. -/
inductive TokenUpdate where
  | price (price : String)
  | symbol (symbol : String)
  | logo (logoUrl symbol : String)
  deriving Repr, DecidableEq

namespace TokenUpdate

/-- The fields that the job assigns. -/
def write : TokenUpdate → TokenInfo → TokenInfo
  | .price text, t => { t with price := text }
  | .symbol text, t => { t with symbol := text }
  | .logo url text, t => { t with logo := url, symbol := text }

/-- The comparison with the cached record. -/
def Known : TokenUpdate → TokenInfo → Prop
  | .price text, redisTokenInfo => redisTokenInfo.price = text
  | .symbol text, redisTokenInfo => redisTokenInfo.symbol = text
  | .logo url _, redisTokenInfo => redisTokenInfo.logo = url

instance : (u : TokenUpdate) → (t : TokenInfo) → Decidable (u.Known t)
  | .price text, t => inferInstanceAs (Decidable (t.price = text))
  | .symbol text, t => inferInstanceAs (Decidable (t.symbol = text))
  | .logo url _, t => inferInstanceAs (Decidable (t.logo = url))

@[simp] theorem write_key (u : TokenUpdate) (t : TokenInfo) : (u.write t).key = t.key := by
  cases u <;> rfl

end TokenUpdate

/-- `RedisSet` of a token record. -/
def Database.setTokenCache (db : Database) (key : Nat × String) (redisTokenInfo : TokenInfo) :
    Database :=
  { db with tokenCache := Function.update db.tokenCache key (some redisTokenInfo) }

theorem Database.setTokenCache_tokenCache (db : Database) (key k : Nat × String) (t : TokenInfo) :
    (db.setTokenCache key t).tokenCache k = if k = key then some t else db.tokenCache k :=
  Function.update_apply ..

/-- `CheckTokenInfo`. Its error is only logged. -/
def checkTokenInfo [TokenCollation] (fails : Bool) (token : String) (chainId : Nat)
    (db : Database) : Database :=
  match first TokenInfo.place (chainId, TokenCollation.fold token) db.tokenInfo with
  | some _ => db
  | none =>
      if fails then db
      else { db with tokenInfo := db.tokenInfo ++ [{ token := token, chainId := chainId }] }

/-- The body that `CheckPriceData`, `CheckSymbolData` and `CheckLogoData` share. -/
def checkData [TokenCollation] (u : TokenUpdate) (createFails : Bool) (token : String) (chainId : Nat)
    (db : Database) : Bool × Database :=
  match db.tokenCache (chainId, token) with
  | none =>
      let db := checkTokenInfo createFails token chainId db
      (true, db.setTokenCache (chainId, token) (u.write { token := token, chainId := chainId }))
  | some redisTokenInfo =>
      if u.Known redisTokenInfo then (false, db)
      else (true, db.setTokenCache (chainId, token) (u.write redisTokenInfo))

/-- The body that `SavePriceData`, `SaveSymbolData` and `SaveLogoData` share: `Updates` with a map, which
writes empty texts too. -/
def saveData [TokenCollation] (u : TokenUpdate) (fails : Bool) (token : String) (chainId : Nat)
    (db : Database) : Database :=
  if fails then db
  else
    { db with
      tokenInfo := updates TokenInfo.place (chainId, TokenCollation.fold token) u.write db.tokenInfo }

def checkPriceData [TokenCollation] (createFails : Bool) (token : String) (chainId : Nat)
    (price : String) : Database → Bool × Database :=
  checkData (.price price) createFails token chainId

def savePriceData [TokenCollation] (fails : Bool) (token : String) (chainId : Nat) (price : String) :
    Database → Database :=
  saveData (.price price) fails token chainId

def checkSymbolData [TokenCollation] (createFails : Bool) (token : String) (chainId : Nat)
    (symbol : String) : Database → Bool × Database :=
  checkData (.symbol symbol) createFails token chainId

def saveSymbolData [TokenCollation] (fails : Bool) (token : String) (chainId : Nat)
    (symbol : String) : Database → Database :=
  saveData (.symbol symbol) fails token chainId

def checkLogoData [TokenCollation] (createFails : Bool) (token : String) (chainId : Nat)
    (logoUrl symbol : String) : Database → Bool × Database :=
  checkData (.logo logoUrl symbol) createFails token chainId

def saveLogoData [TokenCollation] (fails : Bool) (token : String) (chainId : Nat)
    (logoUrl symbol : String) : Database → Database :=
  saveData (.logo logoUrl symbol) fails token chainId

/-- One round of a job: check, and save what is new. -/
structure TokenRound where
  token : String
  chainId : Nat
  update : TokenUpdate
  createFails : Bool := false
  updateFails : Bool := false
  deriving Repr, DecidableEq

/-- The Redis key of the round. -/
def TokenRound.key (r : TokenRound) : Nat × String := (r.chainId, r.token)

def TokenRound.run [TokenCollation] (r : TokenRound) (db : Database) : Database :=
  let (hasNewData, db) := checkData r.update r.createFails r.token r.chainId db
  if hasNewData then saveData r.update r.updateFails r.token r.chainId db else db

/-- The rounds of a pass, one after the other. -/
def runRounds [TokenCollation] (rs : List TokenRound) (db : Database) : Database :=
  rs.foldl (fun db r => r.run db) db

section Round

variable {db : Database} {r : TokenRound} {t : TokenInfo}

/-- A value that is known is not written. -/
theorem TokenRound.run_known (hcached : db.tokenCache r.key = some t) (hknown : r.update.Known t) :
    r.run db = db := by
  have hcheck : checkData r.update r.createFails r.token r.chainId db = (false, db) := by
    unfold checkData
    rw [show db.tokenCache (r.chainId, r.token) = some t from hcached]
    exact if_pos hknown
  show (if (checkData _ _ _ _ db).1 then _ else (checkData _ _ _ _ db).2) = db
  rw [hcheck]
  rfl

/-- A new value goes into the cached record, and then into the table. -/
theorem TokenRound.run_new (hcached : db.tokenCache r.key = some t) (hnew : ¬ r.update.Known t) :
    r.run db = saveData r.update r.updateFails r.token r.chainId
      (db.setTokenCache r.key (r.update.write t)) := by
  have hcheck : checkData r.update r.createFails r.token r.chainId db =
      (true, db.setTokenCache r.key (r.update.write t)) := by
    unfold checkData
    rw [show db.tokenCache (r.chainId, r.token) = some t from hcached]
    exact if_neg hnew
  show (if (checkData _ _ _ _ db).1 then saveData _ _ _ _ (checkData _ _ _ _ db).2 else _) = _
  rw [hcheck]
  rfl

/-- Without a cached record the token gets a row, a record with this value alone, and the value. -/
theorem TokenRound.run_missing (hmissing : db.tokenCache r.key = none) :
    r.run db = saveData r.update r.updateFails r.token r.chainId
      ((checkTokenInfo r.createFails r.token r.chainId db).setTokenCache r.key
        (r.update.write { token := r.token, chainId := r.chainId })) := by
  have hcheck : checkData r.update r.createFails r.token r.chainId db =
      (true, (checkTokenInfo r.createFails r.token r.chainId db).setTokenCache r.key
        (r.update.write { token := r.token, chainId := r.chainId })) := by
    unfold checkData
    rw [show db.tokenCache (r.chainId, r.token) = none from hmissing]
    rfl
  show (if (checkData _ _ _ _ db).1 then saveData _ _ _ _ (checkData _ _ _ _ db).2 else _) = _
  rw [hcheck]
  rfl

theorem checkTokenInfo_stored {fails : Bool} {token : String} {chainId : Nat}
    (h : ∃ t ∈ db.tokenInfo, t.key = (chainId, token)) :
    checkTokenInfo fails token chainId db = db := by
  obtain ⟨old, hold⟩ := Option.isSome_iff_exists.mp (first_isSome.mpr h)
  unfold checkTokenInfo
  rw [first_exact, hold]

@[simp] theorem checkTokenInfo_tokenCache (fails : Bool) (token : String) (chainId : Nat)
    (db : Database) : (checkTokenInfo fails token chainId db).tokenCache = db.tokenCache := by
  unfold checkTokenInfo
  split
  · rfl
  · split <;> rfl

@[simp] theorem saveData_tokenCache (u : TokenUpdate) (fails : Bool) (token : String) (chainId : Nat)
    (db : Database) : (saveData u fails token chainId db).tokenCache = db.tokenCache := by
  unfold saveData
  split <;> rfl

end Round

/-! ## Prices

The answer of the oracle is truncated to an `int64` before it becomes a text. -/

/-- What a pass of the price job meets: the price that the oracle of the test net returns for a token,
where a failed call has none, and the writes that fail, by the position of the token in the list. -/
structure PricePass where
  getPrice : String → Option Nat
  createFails : Nat → Bool := fun _ => false
  updateFails : Nat → Bool := fun _ => false

/-- `GetTestNetTokenPrice`, which returns `price.Int64()`. -/
def PricePass.getTestNetTokenPrice (pass : PricePass) (token : String) : Option Int :=
  (pass.getPrice token).map fun price => (Int64.ofNat price).toInt

/-- The price of a round; for another chain than the test net it stays 0. -/
def PricePass.price (pass : PricePass) (testNet : Nat) (t : TokenInfo) : Option Int :=
  if t.chainId = testNet then pass.getTestNetTokenPrice t.token else some 0

/-- `UpdateContractPrice`. -/
def updateContractPrice [TokenCollation] (testNet : Nat) (pass : PricePass) (db : Database) :
    Database :=
  db.tokenInfo.zipIdx.foldl
    (fun db entry =>
      let (t, i) := entry
      if t.token = "" then db
      else
        match pass.price testNet t with
        | none => db
        | some price =>
            let (hasNewData, db) :=
              checkPriceData (pass.createFails i) t.token t.chainId (toString price) db
            if hasNewData then
              savePriceData (pass.updateFails i) t.token t.chainId (toString price) db
            else db)
    db

/-- The round for a token of the list, if there is one. -/
def PricePass.round (pass : PricePass) (testNet : Nat) (t : TokenInfo) (i : Nat) :
    Option TokenRound :=
  if t.token = "" then none
  else
    (pass.price testNet t).map fun price =>
      { token := t.token
        chainId := t.chainId
        update := .price (toString price)
        createFails := pass.createFails i
        updateFails := pass.updateFails i }

/-! ## Symbols

The symbol is asked of the token itself, on either net. -/

/-- What a pass of the symbol job meets. On the main net the ABI of a token is downloaded once; a
download that fails, or the write that remembers it, leaves the symbol unread. -/
structure SymbolPass where
  testNetSymbol : String → Option String
  mainNetSymbol : String → Option String
  createFails : Nat → Bool := fun _ => false
  updateFails : Nat → Bool := fun _ => false

/-- The symbol of a round; a token of another chain has none. -/
def SymbolPass.symbol (pass : SymbolPass) (testNet mainNet : Nat) (t : TokenInfo) : Option String :=
  if t.chainId = testNet then pass.testNetSymbol t.token
  else if t.chainId = mainNet then pass.mainNetSymbol t.token
  else none

/-- `UpdateContractSymbol`. -/
def updateContractSymbol [TokenCollation] (testNet mainNet : Nat) (pass : SymbolPass)
    (db : Database) : Database :=
  db.tokenInfo.zipIdx.foldl
    (fun db entry =>
      let (t, i) := entry
      if t.token = "" then db
      else
        match pass.symbol testNet mainNet t with
        | none => db
        | some symbol =>
            let (hasNewData, db) := checkSymbolData (pass.createFails i) t.token t.chainId symbol db
            if hasNewData then saveSymbolData (pass.updateFails i) t.token t.chainId symbol db
            else db)
    db

def SymbolPass.round (pass : SymbolPass) (testNet mainNet : Nat) (t : TokenInfo) (i : Nat) :
    Option TokenRound :=
  if t.token = "" then none
  else
    (pass.symbol testNet mainNet t).map fun symbol =>
      { token := t.token
        chainId := t.chainId
        update := .symbol symbol
        createFails := pass.createFails i
        updateFails := pass.updateFails i }

/-! ## Logos

A list that cannot be parsed stops the job. When the list was read, or could not be reached, the
local logos follow. -/

/-- An entry of the remote list or of `LocalTokenLogo`. -/
structure TokenLogo where
  token : String
  chainId : Nat
  symbol : String
  logo : String
  deriving Repr, DecidableEq

/-- The answer to the request for the remote list. -/
inductive RemoteLogos where
  | unreachable
  | malformed
  | tokens (entries : List TokenLogo)

/-- What a pass of the logo job meets. `localTokenLogo` is in the order in which the map is visited. -/
structure LogoPass where
  remote : RemoteLogos
  localTokenLogo : List TokenLogo
  createFails : Nat → Bool := fun _ => false
  updateFails : Nat → Bool := fun _ => false

/-- The entries that the pass goes through. -/
def LogoPass.entries (pass : LogoPass) : List TokenLogo :=
  let localEntries := pass.localTokenLogo.filter fun t => decide (t.token ≠ "")
  match pass.remote with
  | .unreachable => localEntries
  | .malformed => []
  | .tokens remoteEntries => remoteEntries ++ localEntries

/-- `UpdateTokenLogo`. -/
def updateTokenLogo [TokenCollation] (pass : LogoPass) (db : Database) : Database :=
  pass.entries.zipIdx.foldl
    (fun db entry =>
      let (t, i) := entry
      let (hasNewData, db) := checkLogoData (pass.createFails i) t.token t.chainId t.logo t.symbol db
      if hasNewData then saveLogoData (pass.updateFails i) t.token t.chainId t.logo t.symbol db
      else db)
    db

def LogoPass.round (pass : LogoPass) (t : TokenLogo) (i : Nat) : TokenRound where
  token := t.token
  chainId := t.chainId
  update := .logo t.logo t.symbol
  createFails := pass.createFails i
  updateFails := pass.updateFails i

/-! ## Passes are rounds

Each pass is the list of its rounds, so that what is proved for lists of rounds holds of all three.
-/

/-- The rounds of a pass, in their order. -/
def PricePass.rounds (pass : PricePass) (testNet : Nat) (tokens : List TokenInfo) : List TokenRound :=
  tokens.zipIdx.filterMap fun entry => pass.round testNet entry.1 entry.2

def SymbolPass.rounds (pass : SymbolPass) (testNet mainNet : Nat) (tokens : List TokenInfo) :
    List TokenRound :=
  tokens.zipIdx.filterMap fun entry => pass.round testNet mainNet entry.1 entry.2

def LogoPass.rounds (pass : LogoPass) : List TokenRound :=
  pass.entries.zipIdx.map fun entry => pass.round entry.1 entry.2

/-- A loop whose body is a round or nothing. -/
theorem foldl_rounds [TokenCollation] {α : Type} {body : Database → α → Database}
    {round : α → Option TokenRound} (hbody : ∀ db a, body db a = match round a with
      | none => db
      | some r => r.run db) (as : List α) (db : Database) :
    as.foldl body db = runRounds (as.filterMap round) db := by
  induction as generalizing db with
  | nil => rfl
  | cons a as ih =>
      rw [List.foldl_cons, hbody, List.filterMap_cons]
      cases round a with
      | none => exact ih db
      | some r => exact ih _

theorem updateContractPrice_eq [TokenCollation] (testNet : Nat) (pass : PricePass) (db : Database) :
    updateContractPrice testNet pass db =
      runRounds (pass.rounds testNet db.tokenInfo) db := by
  apply foldl_rounds
  intro db entry
  obtain ⟨t, i⟩ := entry
  by_cases hempty : t.token = ""
  · simp [PricePass.round, hempty]
  · cases hprice : pass.price testNet t with
    | none => simp [PricePass.round, hempty, hprice]
    | some price =>
        simp only [PricePass.round, hempty, hprice, if_false, Option.map_some]
        rfl

theorem updateContractSymbol_eq [TokenCollation] (testNet mainNet : Nat) (pass : SymbolPass)
    (db : Database) : updateContractSymbol testNet mainNet pass db =
      runRounds (pass.rounds testNet mainNet db.tokenInfo) db := by
  apply foldl_rounds
  intro db entry
  obtain ⟨t, i⟩ := entry
  by_cases hempty : t.token = ""
  · simp [SymbolPass.round, hempty]
  · cases hsymbol : pass.symbol testNet mainNet t with
    | none => simp [SymbolPass.round, hempty, hsymbol]
    | some symbol =>
        simp only [SymbolPass.round, hempty, hsymbol, if_false, Option.map_some]
        rfl

theorem updateTokenLogo_eq [TokenCollation] (pass : LogoPass) (db : Database) :
    updateTokenLogo pass db = runRounds pass.rounds db := by
  unfold LogoPass.rounds
  rw [← List.filterMap_eq_map]
  apply foldl_rounds
  intro db entry
  rfl

end Pledge.Backend
