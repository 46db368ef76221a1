import Pledge.Contract.Oracle

/-!
# What the oracle answers after any history

The administrators write prices and aggregators asset by asset, and prices also by the array, where
an asset may come twice. `Step.wrote` says what a transaction leaves; after a run an asset is quoted
by the aggregator that was last written for it, or, when there is none or it was taken away, at the
price that was last written for it (`price_history`).
-/

namespace Pledge.Contract.Oracle

open Pledge.Evm

/-! ## What a call writes

A call by the array writes its entries in order, so of an asset that comes twice the last price
stays. Every function of the oracle is then described by three things: the prices it leaves, the
aggregator it leaves, and the divisor. -/

/-- The prices that a call writes, in order. -/
def Call.prices : Call → List (Nat × Nat)
  | .setPrices assets prices => assets.zip prices
  | .setPrice asset price => [(asset, price)]
  | .setUnderlyingPrice underlying price => [(underlying, price)]
  | _ => []

/-- The price of the asset in an entry. -/
def priceIn (asset : Nat) (entry : Nat × Nat) : Option Nat :=
  if entry.1 = asset then some entry.2 else none

/-- The price that a call leaves for the asset. -/
def Call.writes (asset : Nat) (c : Call) : Option Nat := latest (priceIn asset) c.prices

/-- The aggregator that a call leaves for the asset, and the digits of the asset. -/
def Call.aggregates (asset : Nat) : Call → Option (Address × Nat)
  | .setAssetsAggregator underlying aggregator decimals
  | .setUnderlyingAggregator underlying aggregator decimals =>
      if underlying = asset then some (aggregator, decimals) else none
  | _ => none

/-- The divisor that a call leaves. -/
def Call.divides : Call → Option Nat
  | .setDecimals newDecimals => some newDecimals
  | _ => none

/-- The oracle after the writes of a call. -/
def Call.written (o : OracleStorage) (c : Call) : OracleStorage where
  multiSignature := o.multiSignature
  assetsMap asset := ((c.aggregates asset).map Prod.fst).getD (o.assetsMap asset)
  decimalsMap asset := ((c.aggregates asset).map Prod.snd).getD (o.decimalsMap asset)
  priceMap asset := (c.writes asset).getD (o.priceMap asset)
  decimals := c.divides.getD o.decimals

/-- The wallet approves the calls of the sender. -/
def Approved (env : OracleEnv) (o : OracleStorage) : Prop :=
  ∃ newIndex, env.getValidSignature o.multiSignature (env.keccak env.sender env.this) 0 = .ok newIndex ∧
    0 < newIndex

section Writes

variable {env : OracleEnv} {o o' : OracleStorage} {c : Call} {u : Unit}

/-- The modifier passes the approved and changes nothing. -/
theorem validCall_ok : (validCall env).run o = .ok (u, o') ↔ Approved env o ∧ o' = o := by
  simp only [validCall, Tx.rules, and_assoc, exists_and_left, exists_eq_left]
  constructor
  · rintro ⟨newIndex, hindex, hpos, rfl⟩
    exact ⟨⟨newIndex, hindex, hpos⟩, rfl⟩
  · rintro ⟨⟨newIndex, hindex, hpos⟩, rfl⟩
    exact ⟨newIndex, hindex, hpos, rfl⟩

/-- A list of entries leaves the last one of each asset. -/
theorem writePrices_ok {entries : List (Nat × Nat)} :
    (Tx.fold (fun _ entry => writePrice entry.1 entry.2) () entries).run o = .ok (u, o') ↔
      o' = { o with
        priceMap := fun asset => (latest (priceIn asset) entries).getD (o.priceMap asset) } := by
  induction entries generalizing o with
  | nil =>
      rw [Tx.fold_nil_ok]
      simp [latest]
  | cons entry entries ih =>
      have hprices (asset : Nat) :
          (latest (priceIn asset) (entry :: entries)).getD (o.priceMap asset) =
            (latest (priceIn asset) entries).getD
              (Function.update o.priceMap entry.1 entry.2 asset) := by
        rw [latest_cons]
        cases latest (priceIn asset) entries with
        | some price => rfl
        | none =>
            by_cases hasset : entry.1 = asset
            · subst hasset
              simp [priceIn]
            · simp [priceIn, hasset, Function.update_of_ne (Ne.symm hasset)]
      simp only [Tx.fold_cons_ok, writePrice, Tx.modifies_ok, hprices]
      constructor
      · rintro ⟨_, _, rfl, hrest⟩
        exact ih.mp hrest
      · rintro rfl
        exact ⟨(), _, rfl, ih.mpr rfl⟩

/-- One entry. -/
theorem writePrice_ok {underlying price : Nat} :
    (writePrice underlying price).run o = .ok (u, o') ↔
      o' = { o with
        priceMap := fun asset =>
          (latest (priceIn asset) [(underlying, price)]).getD (o.priceMap asset) } := by
  rw [← writePrices_ok (u := u), Tx.fold_cons_ok]
  simp only [Tx.fold_nil_ok]
  constructor
  · intro h
    exact ⟨u, o', h, trivial, rfl⟩
  · rintro ⟨_, _, h, -, rfl⟩
    exact h

/-- One aggregator. -/
theorem writeAggregator_ok {underlying decimals : Nat} {aggregator : Address} :
    (writeAggregator underlying aggregator decimals).run o = .ok (u, o') ↔
      o' = (Call.setUnderlyingAggregator underlying aggregator decimals).written o := by
  have hupdate {α : Type} (f : Nat → α) (a : α) (g : Address × Nat → α)
      (hg : g (aggregator, decimals) = a) : Function.update f underlying a = fun asset =>
        (((Call.setUnderlyingAggregator underlying aggregator decimals).aggregates asset).map g).getD
          (f asset) := by
    funext asset
    by_cases hasset : underlying = asset
    · subst hasset
      simp [Call.aggregates, hg]
    · simp [Call.aggregates, hasset, Function.update_of_ne (Ne.symm hasset)]
  rw [writeAggregator, Tx.modifies_ok, hupdate _ aggregator Prod.fst rfl,
    hupdate _ decimals Prod.snd rfl]
  rfl

/-- **What a transaction leaves.** -/
theorem Step.wrote (h : Step o (env, c) o') : Approved env o ∧ o' = c.written o := by
  simp only [Step, Call.transaction, Tx.bind_ok, Tx.require_ok] at h
  obtain ⟨_, _, ⟨-, rfl⟩, h⟩ := h
  cases c with
  | setDecimals newDecimals =>
      simp only [Call.body, setDecimals, Tx.bind_ok, validCall_ok, Tx.modifies_ok] at h
      obtain ⟨_, _, ⟨happroved, rfl⟩, rfl⟩ := h
      exact ⟨happroved, rfl⟩
  | setPrices assets prices =>
      simp only [Call.body, setPrices, Tx.bind_ok, validCall_ok, Tx.require_ok] at h
      obtain ⟨_, _, ⟨happroved, rfl⟩, _, _, ⟨-, rfl⟩, h⟩ := h
      exact ⟨happroved, writePrices_ok.mp h⟩
  | setPrice asset price =>
      simp only [Call.body, setPrice, Tx.bind_ok, validCall_ok] at h
      obtain ⟨_, _, ⟨happroved, rfl⟩, h⟩ := h
      exact ⟨happroved, writePrice_ok.mp h⟩
  | setUnderlyingPrice underlying price =>
      simp only [Call.body, setUnderlyingPrice, Tx.bind_ok, validCall_ok, Tx.require_ok] at h
      obtain ⟨_, _, ⟨happroved, rfl⟩, _, _, ⟨-, rfl⟩, h⟩ := h
      exact ⟨happroved, writePrice_ok.mp h⟩
  | setAssetsAggregator asset aggregator decimals =>
      simp only [Call.body, setAssetsAggregator, Tx.bind_ok, validCall_ok] at h
      obtain ⟨_, _, ⟨happroved, rfl⟩, h⟩ := h
      exact ⟨happroved, writeAggregator_ok.mp h⟩
  | setUnderlyingAggregator underlying aggregator decimals =>
      simp only [Call.body, setUnderlyingAggregator, Tx.bind_ok, validCall_ok, Tx.require_ok] at h
      obtain ⟨_, _, ⟨happroved, rfl⟩, _, _, ⟨-, rfl⟩, h⟩ := h
      exact ⟨happroved, writeAggregator_ok.mp h⟩

end Writes

/-! ## Quotations

An asset with an aggregator is quoted by the feed, and any other at the last price that was written.
What was written last is found by going through the history backwards (`latest`). -/

/-- A feed's answer with `feedDigits` digits becomes this price for an asset with `digits` digits. -/
structure Converts (answer feedDigits divisor digits price : Nat) : Prop where
  feed : feedDigits ≤ 18
  divides : divisor ≠ 0
  product : answer * 10 ^ (18 - feedDigits) < Tx.uint256
  fits : answer * 10 ^ (18 - feedDigits) / divisor * 10 ^ (18 - digits) < Tx.uint256
  power : 10 ^ (digits - 18) < Tx.uint256
  result : price =
    answer * 10 ^ (18 - feedDigits) / divisor * 10 ^ (18 - digits) / 10 ^ (digits - 18)

/-- What an asset is quoted at after these calls, when the feeds answer as in `env`. -/
inductive Quoted (cs : List Call) (env : OracleEnv) (asset : Nat) : Nat → Prop
  | feed {aggregator : Address} {digits : Nat} {answer : BitVec 256} {feedDigits price : Nat}
      (hset : latest (Call.aggregates asset) cs = some (aggregator, digits))
      (hne : aggregator ≠ 0) (hanswer : env.latestRoundData aggregator = .ok answer)
      (hdigits : env.decimals aggregator = .ok feedDigits)
      (hprice : Converts answer.toNat feedDigits ((latest Call.divides cs).getD 1) digits price) :
      Quoted cs env asset price
  | written (hunset : ((latest (Call.aggregates asset) cs).getD (0, 0)).1 = 0) :
      Quoted cs env asset ((latest (Call.writes asset) cs).getD 0)

/-- What was written last is there. -/
structure Holds (cs : List Call) (o : OracleStorage) : Prop where
  price (asset : Nat) : o.priceMap asset = (latest (Call.writes asset) cs).getD 0
  aggregator (asset : Nat) : (o.assetsMap asset, o.decimalsMap asset) =
    (latest (Call.aggregates asset) cs).getD (0, 0)
  divisor : o.decimals = (latest Call.divides cs).getD 1

section History

variable {env : OracleEnv} {o o' : OracleStorage} {c : Call} {cs : List Call}
  {es : List (OracleEnv × Call)} {multiSigWallet : Address}

/-- The constructor writes none of it. -/
theorem deployed_holds : Holds [] (deployed multiSigWallet) := ⟨fun _ => rfl, fun _ => rfl, rfl⟩

/-- One more call. -/
theorem Holds.written (h : Holds cs o) (c : Call) : Holds (cs ++ [c]) (c.written o) where
  price asset := by
    rw [latest_snoc]
    show (c.writes asset).getD (o.priceMap asset) = _
    rw [h.price]
    cases c.writes asset <;> rfl
  aggregator asset := by
    rw [latest_snoc]
    show (((c.aggregates asset).map Prod.fst).getD (o.assetsMap asset),
      ((c.aggregates asset).map Prod.snd).getD (o.decimalsMap asset)) = _
    cases c.aggregates asset with
    | none => exact h.aggregator asset
    | some => rfl
  divisor := by
    rw [latest_snoc]
    show c.divides.getD o.decimals = _
    rw [h.divisor]
    cases c.divides <;> rfl

/-- A quotation of an asset with an aggregator asked the feed. -/
theorem price_feeds {asset price : Nat} (hset : o.assetsMap asset ≠ 0)
    (h : o.price env asset = .ok price) : ∃ answer digits, o.Feeds env asset answer digits := by
  obtain ⟨o', hrun⟩ := price_ok.mp h
  simp only [getUnderlyingPrice, Tx.rules, and_assoc, exists_and_left, exists_eq_left] at hrun
  rcases hrun with ⟨-, answer, hanswer, digits, hdigits, -⟩ | ⟨hunset, -⟩
  · exact ⟨answer, digits, hset, hanswer, hdigits⟩
  · exact absurd hset hunset

/-- Without an aggregator it is the price in the map. -/
theorem price_written {asset price : Nat} (hunset : o.assetsMap asset = 0) :
    o.price env asset = .ok price ↔ price = o.priceMap asset := by
  simp only [price_ok, getUnderlyingPrice_written hunset, exists_and_left, exists_eq, and_true]

/-- A quotation depends on what was written last. -/
theorem Holds.price_ok (h : Holds cs o) {asset price : Nat} :
    o.price env asset = .ok price ↔ Quoted cs env asset price := by
  have hpair := h.aggregator asset
  constructor
  · intro hquoted
    by_cases hset : o.assetsMap asset = 0
    · obtain rfl := (price_written hset).mp hquoted
      rw [h.price]
      exact .written (by rw [← hpair]; exact hset)
    · obtain ⟨answer, digits, hfeed⟩ := price_feeds hset hquoted
      obtain ⟨hfeedDigits, hne, hproduct, hfits, hpower, hresult⟩ := (price_feed hfeed).mp hquoted
      -- there is an aggregator, so a call has named it
      have hlatest : latest (Call.aggregates asset) cs =
          some (o.assetsMap asset, o.decimalsMap asset) := by
        cases hnamed : latest (Call.aggregates asset) cs with
        | none =>
            rw [hnamed] at hpair
            exact absurd (congrArg Prod.fst hpair) hset
        | some named =>
            rw [hnamed] at hpair
            rw [hpair]
            rfl
      refine .feed hlatest hset hfeed.answer hfeed.digits ?_
      rw [← h.divisor]
      exact ⟨hfeedDigits, hne, hproduct, hfits, hpower, hresult⟩
  · intro hquoted
    cases hquoted with
    | feed hlatest hne hanswer hdigits hconverts =>
        rw [hlatest] at hpair
        obtain ⟨rfl, rfl⟩ := Prod.ext_iff.mp hpair
        rw [← h.divisor] at hconverts
        exact (price_feed ⟨hne, hanswer, hdigits⟩).mpr ⟨hconverts.feed, hconverts.divides,
          hconverts.product, hconverts.fits, hconverts.power, hconverts.result⟩
    | written hunset =>
        rw [← hpair] at hunset
        rw [price_written hunset, h.price]

/-- **What the oracle answers.** After every run of the oracle from its constructor, `getPrice`
answers for an asset exactly what it is quoted at: by the last transaction that named an aggregator
for it, or, when there is none or it named the zero address, at the last price that a transaction
left for it. Each of these transactions was approved by the wallet. -/
theorem price_history (hrun : Run Step (deployed multiSigWallet) es o) {asset price : Nat} :
    (o.price env asset = .ok price ↔ Quoted (es.map Prod.snd) env asset price) ∧
      ∀ e ∈ es, ∃ newIndex, 0 < newIndex ∧
        e.1.getValidSignature multiSigWallet (e.1.keccak e.1.sender e.1.this) 0 = .ok newIndex := by
  have hinvariant {es : List (OracleEnv × Call)} {o : OracleStorage}
      (hrun : Run Step (deployed multiSigWallet) es o) :
      o.multiSignature = multiSigWallet ∧ Holds (es.map Prod.snd) o := by
    refine hrun.invariant (I := fun es o => o.multiSignature = multiSigWallet ∧
      Holds (es.map Prod.snd) o) ⟨rfl, deployed_holds⟩ ?_
    intro es o e o' ⟨hwallet, hholds⟩ hs
    rw [hs.wrote.2, List.map_append]
    exact ⟨hwallet, hholds.written e.2⟩
  constructor
  · exact (hinvariant hrun).2.price_ok
  · intro e he
    obtain ⟨before, after, rfl⟩ := List.append_of_mem he
    obtain ⟨o₁, hbefore, hrest⟩ := hrun.split
    obtain ⟨o₂, hstep, -⟩ := hrest.uncons
    obtain ⟨newIndex, hindex, hpos⟩ := hstep.wrote.1
    rw [(hinvariant hbefore).1] at hindex
    exact ⟨newIndex, hpos, hindex⟩

end History

/-- An array that names an asset twice. -/
def repricing : OracleEnv × Call := (feedEnv 0 8, .setPrices [2, 2] [5, 7])

theorem repricing_run : Run Step (deployed 50) (setup ++ [repricing])
    { configured with priceMap := Function.update (Function.update configured.priceMap 2 5) 2 7 } :=
  configured_run.step rfl

theorem price_history_repricing :
    (OracleStorage.price
        { configured with priceMap := Function.update (Function.update configured.priceMap 2 5) 2 7 }
        (feedEnv 100000000 8) 2 = .ok 7 ↔
      Quoted ((setup ++ [repricing]).map Prod.snd) (feedEnv 100000000 8) 2 7) ∧
    ∀ e ∈ setup ++ [repricing], ∃ newIndex, 0 < newIndex ∧
      e.1.getValidSignature 50 (e.1.keccak e.1.sender e.1.this) 0 = .ok newIndex :=
  price_history repricing_run

end Pledge.Contract.Oracle
