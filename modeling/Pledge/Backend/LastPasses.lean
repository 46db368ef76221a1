import Pledge.Backend.Collation

/-!
# One more pass of each job

The four jobs make passes in which any writes fail, and then one more pass each without failures. A job
skips what it finds in Redis, so the rows get what the last passes read unless one of them finds in Redis
something that the rows do not have (`final_passes_shown`). A price whose write failed once is such a thing
(`lost_price_stays_lost`).
-/

namespace Pledge.Backend

open Pledge.Contract Pledge.Store

/-! ## The last pass of a job

What is shown at the end is what the last pass of each job was told, since a pass of another job
keeps it (`Shown.keep`). -/

section Last

variable {enc : Encoding} {chainId testNet mainNet : Nat}

/-- What the last pass of a job leaves is still there in the end, since the passes after it are of other
jobs. -/
theorem JobPass.last_shown (hjson : enc.WritesTexts) (db : Database) {finals pre post : List JobPass}
    {j : JobPass} (hfinals : finals = pre ++ j :: post) (honce : (finals.map JobPass.job).Nodup)
    (hok : ∀ j ∈ finals, j.Succeeds)
    (hagree : ∀ s l, .symbol s ∈ finals → .logo l ∈ finals → l.AgreesWith testNet mainNet s) :
    (j.Shown enc chainId testNet mainNet (JobPass.run enc chainId testNet mainNet pre db)
          (JobPass.run enc chainId testNet mainNet (pre ++ [j]) db) ∧
        j.Shown enc chainId testNet mainNet (JobPass.run enc chainId testNet mainNet pre db)
          (JobPass.run enc chainId testNet mainNet finals db)) ↔
      ¬ j.Overlooks enc chainId testNet mainNet (JobPass.run enc chainId testNet mainNet pre db) := by
  subst hfinals
  have hthis : j.Succeeds := hok j (by simp)
  rw [JobPass.run_append, JobPass.run_append, ← JobPass.shown_iff hjson hthis]
  constructor
  · exact And.left
  · intro hshown
    refine ⟨hshown, ?_⟩
    show j.Shown enc chainId testNet mainNet _ (JobPass.run enc chainId testNet mainNet post
      (j.after enc chainId testNet mainNet (JobPass.run enc chainId testNet mainNet pre db)))
    apply hshown.run
    · -- the job is not among the later ones
      intro j' hj' hjob
      rw [List.map_append, List.map_cons, List.nodup_append] at honce
      have hnotin := (List.nodup_cons.mp honce.2.1).1
      exact hnotin (List.mem_map.mpr ⟨j', hj', hjob⟩)
    · rintro s l rfl hl
      exact hagree s l (by simp) (by simp [hl])

end Last

/-- **When failed writes leave no trace.** Let the four jobs make any passes `es` one after another, with
any writes failing, from any state, and then at most one pass each without failures, in any order. Each
of these leaves what it read in the rows, right after it and still in the end, exactly when none of them
finds in Redis something that it reads while the rows do not have it. The collation of `token_info` may
be any that tells the tokens apart that are met. -/
theorem final_passes_shown [TokenCollation] {S : Set String} (hsep : Set.InjOn TokenCollation.fold S)
    {enc : Encoding} (hjson : enc.WritesTexts) (chainId testNet mainNet : Nat) {db : Database}
    (hdb : db.Spelled S) {es finals : List JobPass} (hes : ∀ j ∈ es, j.Spelled enc S)
    (hfinals : ∀ j ∈ finals, j.Spelled enc S) (honce : (finals.map JobPass.job).Nodup)
    (hok : ∀ j ∈ finals, j.Succeeds)
    (hagree : ∀ s l, .symbol s ∈ finals → .logo l ∈ finals → l.AgreesWith testNet mainNet s) :
    (∀ pre j post, finals = pre ++ j :: post →
        j.Shown enc chainId testNet mainNet (JobPass.run enc chainId testNet mainNet (es ++ pre) db)
            (JobPass.run enc chainId testNet mainNet (es ++ (pre ++ [j])) db) ∧
          j.Shown enc chainId testNet mainNet
            (JobPass.run enc chainId testNet mainNet (es ++ pre) db)
            (JobPass.run enc chainId testNet mainNet (es ++ finals) db)) ↔
      ∀ pre j post, finals = pre ++ j :: post →
        ¬ j.Overlooks enc chainId testNet mainNet
          (JobPass.run enc chainId testNet mainNet (es ++ pre) db) := by
  apply forall_congr'
  intro pre
  apply forall_congr'
  intro j
  apply forall_congr'
  intro post
  apply forall_congr'
  intro hsplit
  have hj : j.Spelled enc S := hfinals j (by simp [hsplit])
  have hpre : ∀ j ∈ pre, j.Spelled enc S := fun j' hj' => hfinals j' (by simp [hsplit, hj'])
  have hthis : ∀ j' ∈ pre ++ [j], j'.Spelled enc S := by
    rw [List.forall_mem_append, List.forall_mem_singleton]
    exact ⟨hpre, hj⟩
  -- with the tokens of `S` the collation does not matter
  have hrun (js : List JobPass) (hjs : ∀ j ∈ js, j.Spelled enc S) :=
    JobPass.run_spelled hsep chainId testNet mainNet (List.forall_mem_append.mpr ⟨hes, hjs⟩) hdb
  obtain ⟨hstart, hspelled⟩ := hrun pre hpre
  rw [JobPass.shown_spelled hsep chainId testNet mainNet hj hspelled,
    JobPass.shown_spelled hsep chainId testNet mainNet hj hspelled,
    JobPass.overlooks_spelled hsep chainId testNet mainNet hj hspelled, hstart, (hrun _ hthis).1,
    (hrun _ hfinals).1, JobPass.run_append es pre, JobPass.run_append es (pre ++ [j]),
    JobPass.run_append es finals]
  exact JobPass.last_shown hjson _ hsplit honce hok hagree

/-! A price that is lost. -/

/-- A contract without pools. -/
def noPools : World where
  store := { poolCounter := 0, pools := fun _ => {} }
  ledger := { balance := fun _ _ => 0, allowance := fun _ _ _ => 0 }
  transfers := []

/-- The price 1 is read and set in Redis, and the write to MySQL fails. -/
def lostPrice : List JobPass :=
  [.price { getPrice := fun _ => some 1, updateFails := fun _ => true }]

def busdSymbols : SymbolPass where
  testNetSymbol _ := some "BUSD"
  mainNetSymbol _ := none

/-- One more pass of each job. -/
def lastPasses : List JobPass :=
  [.pool (Pass.calm noPools (some 0) (some 0) noon noon), .price { getPrice := fun _ => some 1 },
    .symbol busdSymbols, .logo newLogo]

theorem lastPasses_succeed : ∀ j ∈ lastPasses, j.Succeeds := by
  unfold lastPasses
  simp only [List.forall_mem_cons, List.not_mem_nil, false_implies, implies_true, and_true]
  exact ⟨fun _ _ => rfl, fun _ => ⟨rfl, rfl⟩, fun _ => ⟨rfl, rfl⟩, fun _ => ⟨rfl, rfl⟩⟩

theorem lastPasses_agree : ∀ s l, .symbol s ∈ lastPasses → .logo l ∈ lastPasses →
    l.AgreesWith 97 56 s := by
  intro s l hs hl t text htext e he _
  obtain rfl : s = busdSymbols := by simpa [lastPasses] using hs
  obtain rfl : l = newLogo := by simpa [lastPasses] using hl
  obtain rfl := List.mem_singleton.mp he
  simp only [SymbolPass.symbol, busdSymbols] at htext
  split at htext
  · exact Option.some.inj htext
  · split at htext <;> cases htext

/-- The next pass finds the 1 in Redis, and the row never gets a price. -/
theorem lost_price_stays_lost :
    (JobPass.run jsonEncoding 97 97 56 (lostPrice ++ lastPasses) oneToken).tokenInfo =
      [{ token := "0x01", chainId := 97, logo := "new.svg", symbol := "BUSD", price := "" }] ∧
    ¬ ∀ pre j post, lastPasses = pre ++ j :: post →
      j.Shown jsonEncoding 97 97 56 (JobPass.run jsonEncoding 97 97 56 (lostPrice ++ pre) oneToken)
        (JobPass.run jsonEncoding 97 97 56 (lostPrice ++ lastPasses) oneToken) := by
  have htable : (JobPass.run jsonEncoding 97 97 56 (lostPrice ++ lastPasses) oneToken).tokenInfo =
      [{ token := "0x01", chainId := 97, logo := "new.svg", symbol := "BUSD", price := "" }] := by
    decide +kernel
  refine ⟨htable, ?_⟩
  intro hshown
  have hprice := hshown [_] _ _ rfl (97, "0x01")
  have hholds := hprice { token := "0x01", chainId := 97 } (by decide +kernel) rfl (by decide) 1
    (by decide +kernel)
  have hrow := hholds.rows { token := "0x01", chainId := 97, logo := "new.svg", symbol := "BUSD" }
    (by rw [htable]; exact List.mem_singleton.mpr rfl) rfl
  exact absurd hrow (by decide)

theorem jsonEncoding_writesTexts : jsonEncoding.WritesTexts := by
  intro fee logo name price
  constructor
  · intro h
    exact absurd (congrArg String.toList h) (by simp [jsonEncoding, LendToken.marshal, Text.Json.write])
  · intro h
    exact absurd (congrArg String.toList h)
      (by simp [jsonEncoding, BorrowToken.marshal, Text.Json.write])

/-- The case of letters is ignored. -/
@[reducible]
def caseless : TokenCollation := ⟨String.toLower⟩

/-- There is one token in the tables and in the passes. -/
theorem one_token_spelled : oneToken.Spelled {"0x01"} ∧
    (∀ j ∈ lostPrice, j.Spelled jsonEncoding {"0x01"}) ∧
    ∀ j ∈ lastPasses, j.Spelled jsonEncoding {"0x01"} := by
  refine ⟨?_, ?_, ?_⟩
  · intro t ht
    rw [List.mem_singleton.mp ht]
    rfl
  · intro j hj
    rw [List.mem_singleton.mp hj]
    trivial
  · unfold lastPasses
    simp only [List.forall_mem_cons, List.not_mem_nil, false_implies, implies_true, and_true]
    refine ⟨?_, trivial, trivial, ?_⟩
    · intro i info hinfo
      have hpools : 0 < i ∧ i ≤ 0 := (Pass.poolBaseInfo_some hinfo).1
      omega
    · intro e he
      rw [List.mem_singleton.mp he]
      rfl

theorem final_passes_shown_lastPasses :
    letI : TokenCollation := caseless
    (∀ pre j post, lastPasses = pre ++ j :: post →
        j.Shown jsonEncoding 97 97 56
            (JobPass.run jsonEncoding 97 97 56 (lostPrice ++ pre) oneToken)
            (JobPass.run jsonEncoding 97 97 56 (lostPrice ++ (pre ++ [j])) oneToken) ∧
          j.Shown jsonEncoding 97 97 56
            (JobPass.run jsonEncoding 97 97 56 (lostPrice ++ pre) oneToken)
            (JobPass.run jsonEncoding 97 97 56 (lostPrice ++ lastPasses) oneToken)) ↔
      ∀ pre j post, lastPasses = pre ++ j :: post →
        ¬ j.Overlooks jsonEncoding 97 97 56
          (JobPass.run jsonEncoding 97 97 56 (lostPrice ++ pre) oneToken) := by
  let _ : TokenCollation := caseless
  obtain ⟨hdb, hes, hfinals⟩ := one_token_spelled
  exact final_passes_shown (Set.injOn_singleton _ _) jsonEncoding_writesTexts 97 97 56 hdb hes hfinals
    (by decide) lastPasses_succeed lastPasses_agree

end Pledge.Backend
