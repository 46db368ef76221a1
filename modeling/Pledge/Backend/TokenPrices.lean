import Pledge.Backend.TokenService

/-!
# The prices that are stored

The oracle answers a `uint256`, and `price.Int64()` keeps its lowest 64 bits with a sign. A token of
another chain than the test net is not asked for at all, and its price is stored as 0. So a pass stores
what the oracle says where the price is below `2 ^ 63` and the chain is the test net
(`updateContractPrice_exact`).
-/

namespace Pledge.Backend

open Pledge.Store

/-! ## Rounds from an empty cache

With an empty cache every token is written in its first round and found in the others, so the table
after a list of rounds is known (`Written`). -/

theorem TokenUpdate.known_write (u : TokenUpdate) (t : TokenInfo) : u.Known (u.write t) := by
  cases u <;> rfl

/-- Rounds that write one update for each key, all of which have a row. -/
structure Uniform (u : Nat × String → TokenUpdate) (tokens : List TokenInfo) (rs : List TokenRound) :
    Prop where
  update : ∀ r ∈ rs, r.update = u r.key
  stored : ∀ r ∈ rs, ∃ t ∈ tokens, t.key = r.key
  saved : ∀ r ∈ rs, r.updateFails = false

/-- The rows of the given keys with their update. -/
def written (u : Nat × String → TokenUpdate) (keys : List (Nat × String)) (t : TokenInfo) :
    TokenInfo :=
  if t.key ∈ keys then (u t.key).write t else t

section Rounds

variable {u : Nat × String → TokenUpdate} {keys : List (Nat × String)} {tokens : List TokenInfo}

theorem written_key (t : TokenInfo) : (written u keys t).key = t.key := by
  unfold written
  split
  · exact TokenUpdate.write_key _ t
  · rfl

theorem written_nil (t : TokenInfo) : written u [] t = t := if_neg List.not_mem_nil

/-- An update of one more key. -/
theorem updates_written {key : Nat × String} (hnew : key ∉ keys) :
    updates TokenInfo.key key (u key).write (tokens.map (written u keys)) =
      tokens.map (written u (keys ++ [key])) := by
  unfold updates
  rw [List.map_map]
  apply List.map_congr_left
  intro t _
  show (if (written u keys t).key = key then (u key).write (written u keys t)
    else written u keys t) = written u (keys ++ [key]) t
  rw [written_key]
  by_cases hkey : t.key = key
  · have hout : t.key ∉ keys := hkey ▸ hnew
    have hin : t.key ∈ keys ++ [key] := List.mem_append_right _ (List.mem_singleton.mpr hkey)
    rw [if_pos hkey, written, if_neg hout, written, if_pos hin, hkey]
  · rw [if_neg hkey, written, written]
    simp [hkey]

/-- A key that is there already changes nothing. -/
theorem written_again {key : Nat × String} (hold : key ∈ keys) :
    written u (keys ++ [key]) = written u keys := by
  funext t
  have hsame : t.key ∈ keys ++ [key] ↔ t.key ∈ keys := by
    rw [List.mem_append, List.mem_singleton]
    constructor
    · rintro (hmem | rfl)
      · exact hmem
      · exact hold
    · exact .inl
  simp only [written, hsame]

/-- The table after rounds for these keys, and what is cached for them. -/
structure Written (u : Nat × String → TokenUpdate) (tokens : List TokenInfo)
    (keys : List (Nat × String)) (db : Database) : Prop where
  table : db.tokenInfo = tokens.map (written u keys)
  cached : ∀ key, (db.tokenCache key).isSome = true ↔ key ∈ keys
  known : ∀ key t, db.tokenCache key = some t → (u key).Known t

/-- **One more round** writes when its key is new, and finds it known when it is not. -/
theorem Written.run {db : Database} {r : TokenRound} (h : Written u tokens keys db)
    (hupdate : r.update = u r.key) (hstored : ∃ t ∈ tokens, t.key = r.key)
    (hsaved : r.updateFails = false) : Written u tokens (keys ++ [r.key]) (r.run db) := by
  cases hcached : db.tokenCache r.key with
  | some t =>
      have hold : r.key ∈ keys := by
        rw [← h.cached, hcached]
        rfl
      have hknown : r.update.Known t := hupdate ▸ h.known r.key t hcached
      -- the token came before, with the same price, so nothing is written
      rw [r.run_known hcached hknown]
      refine ⟨by rw [written_again hold]; exact h.table, ?_, h.known⟩
      intro key
      rw [h.cached, List.mem_append, List.mem_singleton]
      constructor
      · exact .inl
      · rintro (hmem | rfl)
        · exact hmem
        · exact hold
  | none =>
      have hnew : r.key ∉ keys := by
        rw [← h.cached, hcached]
        exact Bool.false_ne_true
      have hrow : ∃ t ∈ db.tokenInfo, t.key = (r.chainId, r.token) := by
        obtain ⟨t, ht, hkey⟩ := hstored
        rw [h.table]
        exact ⟨written u keys t, List.mem_map_of_mem ht, (written_key t).trans hkey⟩
      -- it comes for the first time: a row is there, and it is written with the cache
      rw [r.run_missing hcached, checkTokenInfo_stored hrow, hsaved]
      refine ⟨?_, ?_, ?_⟩
      · show updates TokenInfo.key r.key r.update.write db.tokenInfo = _
        rw [hupdate, h.table]
        exact updates_written hnew
      · intro key
        rw [saveData_tokenCache, Database.setTokenCache_tokenCache, List.mem_append,
          List.mem_singleton]
        by_cases hkey : key = r.key
        · simp [hkey]
        · simp [hkey, h.cached]
      · intro key t hget
        rw [saveData_tokenCache, Database.setTokenCache_tokenCache] at hget
        by_cases hkey : key = r.key
        · rw [if_pos hkey, Option.some.injEq] at hget
          rw [hkey, ← hget, ← hupdate]
          exact TokenUpdate.known_write _ _
        · rw [if_neg hkey] at hget
          exact h.known key t hget

/-- **Rounds from an empty cache.** -/
theorem Written.rounds {db : Database} (hempty : ∀ key, db.tokenCache key = none)
    {rs : List TokenRound} (h : Uniform u db.tokenInfo rs) :
    Written u db.tokenInfo (rs.map TokenRound.key) (runRounds rs db) := by
  induction rs using List.reverseRecOn with
  | nil =>
      refine ⟨?_, ?_, ?_⟩
      · show db.tokenInfo = db.tokenInfo.map (written u [])
        rw [show written u [] = id from funext written_nil, List.map_id]
      · intro key
        show (db.tokenCache key).isSome = true ↔ key ∈ []
        rw [hempty]
        simp
      · intro key t hget
        rw [show (runRounds [] db).tokenCache key = none from hempty key] at hget
        cases hget
  | append_singleton rs r ih =>
      have hlast : r ∈ rs ++ [r] := List.mem_append_right _ (List.mem_singleton_self r)
      have hbefore := ih ⟨fun r' hr' => h.update r' (List.mem_append_left _ hr'),
        fun r' hr' => h.stored r' (List.mem_append_left _ hr'),
        fun r' hr' => h.saved r' (List.mem_append_left _ hr')⟩
      rw [List.map_append, List.map_singleton,
        show runRounds (rs ++ [r]) db = r.run (runRounds rs db) by simp [runRounds]]
      exact hbefore.run (h.update r hlast) (h.stored r hlast) (h.saved r hlast)

end Rounds

/-! ## A pass

The rounds of a pass are those of the tokens whose price was answered. -/

/-- `utils.Int64ToString(price)` for a token of the list, when no call fails. -/
def priceText (testNet : Nat) (getPrice : String → Nat) (chainId : Nat) (token : String) : String :=
  if chainId = testNet then toString (Int64.ofNat (getPrice token)).toInt else "0"

section Pass

variable {testNet : Nat} {getPrice : String → Nat} {db : Database}

/-- The rounds of a pass without failures. -/
theorem mem_price_rounds {tokens : List TokenInfo} {r : TokenRound} :
    r ∈ PricePass.rounds { getPrice := fun token => some (getPrice token) } testNet tokens ↔
      ∃ t ∈ tokens, t.token ≠ "" ∧ r =
        { token := t.token
          chainId := t.chainId
          update := .price (priceText testNet getPrice t.chainId t.token) } := by
  have hround (t : TokenInfo) (i : Nat) (hne : t.token ≠ "") :
      PricePass.round { getPrice := fun token => some (getPrice token) } testNet t i =
        some { token := t.token
               chainId := t.chainId
               update := .price (priceText testNet getPrice t.chainId t.token) } := by
    unfold PricePass.round PricePass.price PricePass.getTestNetTokenPrice priceText
    rw [if_neg hne]
    split <;> rfl
  unfold PricePass.rounds
  rw [List.mem_filterMap]
  constructor
  · rintro ⟨⟨t, i⟩, hmem, hr⟩
    by_cases hne : t.token = ""
    · rw [PricePass.round, if_pos hne] at hr
      cases hr
    · rw [hround t i hne, Option.some.injEq] at hr
      exact ⟨t, List.fst_mem_of_mem_zipIdx hmem, hne, hr.symm⟩
  · rintro ⟨t, ht, hne, rfl⟩
    obtain ⟨i, hi, rfl⟩ := List.getElem_of_mem ht
    exact ⟨(tokens.get ⟨i, hi⟩, i), List.mk_mem_zipIdx_iff_getElem?.mpr (List.getElem?_eq_getElem hi),
      hround _ i hne⟩

/-- The row of a token after the pass. -/
def priced (testNet : Nat) (getPrice : String → Nat) (t : TokenInfo) : TokenInfo :=
  if t.token = "" then t else { t with price := priceText testNet getPrice t.chainId t.token }

/-- **What a pass without failures leaves**, when nothing is cached at its start. -/
theorem updateContractPrice_table (hempty : ∀ key, db.tokenCache key = none) :
    (updateContractPrice testNet { getPrice := fun token => some (getPrice token) } db).tokenInfo =
      db.tokenInfo.map (priced testNet getPrice) := by
  rw [updateContractPrice_eq]
  have huniform : Uniform (fun key => .price (priceText testNet getPrice key.1 key.2)) db.tokenInfo
      (PricePass.rounds { getPrice := fun token => some (getPrice token) } testNet db.tokenInfo) := by
    refine ⟨?_, ?_, ?_⟩
    all_goals
      intro r hr
      obtain ⟨t, ht, -, rfl⟩ := mem_price_rounds.mp hr
    · rfl
    · exact ⟨t, ht, rfl⟩
    · rfl
  rw [(Written.rounds hempty huniform).table]
  apply List.map_congr_left
  intro t ht
  have hkeys : t.key ∈ List.map TokenRound.key
      (PricePass.rounds { getPrice := fun token => some (getPrice token) } testNet db.tokenInfo) ↔
        t.token ≠ "" := by
    rw [List.mem_map]
    constructor
    · rintro ⟨r, hr, hkey⟩
      obtain ⟨t', -, hne, rfl⟩ := mem_price_rounds.mp hr
      rwa [← show t'.token = t.token from congrArg Prod.snd hkey]
    · intro hne
      exact ⟨_, mem_price_rounds.mpr ⟨t, ht, hne, rfl⟩, rfl⟩
  unfold written priced
  by_cases hne : t.token = ""
  · rw [if_neg (by rw [hkeys]; exact not_not_intro hne), if_pos hne]
  · rw [if_pos (hkeys.mpr hne), if_neg hne]
    rfl

end Pass

/-! ## The oracle's price

The price goes through an `int64` on its way to the text. It is kept when it is below `2 ^ 63`. -/

/-- A negative number has no text of digits only. -/
theorem toString_int_inj {z : Int} {n : Nat} : toString z = toString n ↔ z = n := by
  rw [Int.toString_eq_repr, Int.repr_eq_if]
  split
  · next hpos =>
      rw [show z.toNat.repr = toString z.toNat from rfl, toString_inj]
      omega
  · next hneg =>
      constructor
      · intro h
        have hminus : '-' ∈ Nat.toDigits 10 n := by
          rw [← Nat.toList_repr, ← show "-" ++ (-z).toNat.repr = n.repr from h]
          simp
        exact absurd (Nat.isDigit_of_mem_toDigits (by omega) (by omega) hminus) (by decide)
      · intro h
        omega

/-- **`price.Int64()` is exact below `2 ^ 63`** and nowhere else. -/
theorem int64_exact_iff (price : Nat) : (Int64.ofNat price).toInt = price ↔ price < 2 ^ 63 := by
  constructor
  · intro h
    have hlt : (Int64.ofNat price).toInt < 2 ^ 63 := Int64.toInt_lt _
    rw [h] at hlt
    exact_mod_cast hlt
  · exact Int64.toInt_ofNat_of_lt

/-- The stored price is the exact text of the oracle's price on the token's chain, or it is the old
price and no oracle was asked. -/
def StoredPrice (testNet : Nat) (oracle : Nat → String → Nat) (before after : TokenInfo) : Prop :=
  after.price = toString (oracle before.chainId before.token) ∨
    ((before.token = "" ∨ before.chainId ≠ testNet) ∧ after.price = before.price)

/-- The price fits `int64` when the chain is the test net; for another chain, which is not asked, it is 0
or 0 is stored already. -/
def PriceKept (testNet : Nat) (oracle : Nat → String → Nat) (t : TokenInfo) : Prop :=
  t.token = "" ∨
    if t.chainId = testNet then oracle t.chainId t.token < 2 ^ 63
    else oracle t.chainId t.token = 0 ∨ t.price = "0"

/-- **When the stored prices are the oracle's.** For every table and all prices: after a pass without
failures that starts with an empty cache, the rows are the old ones in their order, and each has a right
price exactly when its price is kept. -/
theorem updateContractPrice_exact (testNet : Nat) (oracle : Nat → String → Nat) (db : Database)
    (hempty : ∀ key, db.tokenCache key = none) :
    List.Forall₂
        (fun before after => after.key = before.key ∧ StoredPrice testNet oracle before after)
        db.tokenInfo
        (updateContractPrice testNet { getPrice := fun token => some (oracle testNet token) }
          db).tokenInfo ↔
      ∀ t ∈ db.tokenInfo, PriceKept testNet oracle t := by
  rw [updateContractPrice_table hempty, List.forall₂_map_right_iff, List.forall₂_same]
  apply forall₂_congr
  intro t _
  have hkey : (priced testNet (oracle testNet) t).key = t.key := by
    unfold priced
    split <;> rfl
  rw [and_iff_right hkey, StoredPrice, PriceKept, priced]
  by_cases hne : t.token = ""
  · simp [hne]
  · by_cases hnet : t.chainId = testNet
    · -- the oracle was asked
      have htext : priceText testNet (oracle testNet) testNet t.token =
          toString (Int64.ofNat (oracle testNet t.token)).toInt := if_pos rfl
      simp only [hne, hnet, if_false, if_true, htext, ne_eq, not_true_eq_false, or_self, false_and,
        or_false, false_or]
      rw [toString_int_inj, int64_exact_iff]
    · have htext : priceText testNet (oracle testNet) t.chainId t.token = toString (0 : Nat) := by
        rw [priceText, if_neg hnet]
        rfl
      simp only [hne, hnet, if_false, htext, ne_eq, not_false_eq_true, or_true, true_and, false_or]
      rw [toString_inj, eq_comm, eq_comm (b := t.price)]
      rfl

/-! A token of the test net at ten dollars, with 18 digits, and a token of the main net. -/

def twoTokens : Database where
  tokenInfo :=
    [{ token := "0x01", chainId := 97, price := "1" }, { token := "0x02", chainId := 56, price := "5" }]

/-- The first price comes out negative, and the second is gone although no oracle was asked. -/
theorem ten_dollars_truncated :
    (updateContractPrice 97 { getPrice := fun _ => some (10 ^ 19) } twoTokens).tokenInfo.map
        (·.price) = ["-8446744073709551616", "0"] ∧
      ¬ List.Forall₂
        (fun before after => after.key = before.key ∧
          StoredPrice 97 (fun _ _ => 10 ^ 19) before after)
        twoTokens.tokenInfo
        (updateContractPrice 97 { getPrice := fun _ => some (10 ^ 19) } twoTokens).tokenInfo := by
  refine ⟨by decide +kernel, ?_⟩
  intro hall
  cases hall with
  | cons hfirst _ =>
      rcases hfirst.2 with hexact | ⟨hnone | hnet, -⟩
      · exact absurd hexact (by decide +kernel)
      · exact absurd hnone (by decide)
      · exact absurd rfl hnet

theorem updateContractPrice_exact_twoTokens :
    List.Forall₂
        (fun before after => after.key = before.key ∧
          StoredPrice 97 (fun _ _ => 99996069) before after)
        twoTokens.tokenInfo
        (updateContractPrice 97 { getPrice := fun _ => some 99996069 } twoTokens).tokenInfo ↔
      ∀ t ∈ twoTokens.tokenInfo, PriceKept 97 (fun _ _ => 99996069) t :=
  updateContractPrice_exact 97 (fun _ _ => 99996069) twoTokens fun _ => rfl

end Pledge.Backend
