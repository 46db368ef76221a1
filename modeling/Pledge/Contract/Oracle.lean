import Pledge.Arith.Rounding
import Pledge.Evm.Ledger
import Pledge.Evm.Run
import Pledge.Evm.Tx

/-!
# The price oracle

`Oracle.sol` answers for an asset with a Chainlink aggregator what the feed reports, and for any other
asset what its administrators wrote down. A feed reports a signed number with its own number of digits.
The oracle brings it to 18 digits, divides it by one divisor for all assets, and then quotes it for the
smallest unit of the asset, which has digits of its own.

A quotation costs at most one unit (`getUnderlyingPrice_scale`), so the digits of a token do not change
what an amount of it is worth.
-/

namespace Pledge.Contract

open Pledge.Evm Pledge.Arith

/-- The state of `Oracle`. An index of the maps is a `uint256`; an asset is found under its address. -/
structure OracleStorage where
  multiSignature : Address
  assetsMap : Nat → Address := fun _ => 0
  decimalsMap : Nat → Nat := fun _ => 0
  priceMap : Nat → Nat := fun _ => 0
  decimals : Nat := 1

/-- Who calls the oracle, and how the contracts it calls answer. -/
structure OracleEnv where
  /-- `address(this)` -/
  this : Address
  /-- `msg.sender` -/
  sender : Address
  /-- `keccak256(abi.encodePacked(a, b))` -/
  keccak : Address → Address → Nat
  /-- `IMultiSignature(wallet).getValidSignature(msghash, lastIndex)` -/
  getValidSignature : Address → Nat → Nat → Except Revert Nat
  /-- the `int256 answer` of `AggregatorV3Interface(aggregator).latestRoundData()` -/
  latestRoundData : Address → Except Revert (BitVec 256)
  /-- the `uint8` that `AggregatorV3Interface(aggregator).decimals()` returns -/
  decimals : Address → Except Revert Nat

namespace Oracle

/-- `checkMultiSignature` of `MultiSigClient`, the body of the modifier `validCall`. -/
def validCall (env : OracleEnv) : Tx OracleStorage Unit := do
  let multiSign ← Tx.reads (·.multiSignature)
  let newIndex ← Tx.view fun _ =>
    env.getValidSignature multiSign (env.keccak env.sender env.this) 0
  Tx.require (0 < newIndex) "MultiSigClient: Transaction not approved by multi-signature"

/-! ## Administration -/

def setDecimals (env : OracleEnv) (newDecimals : Nat) : Tx OracleStorage Unit := do
  validCall env
  Tx.modifies fun o => { o with decimals := newDecimals }

/-- `priceMap[underlying] = price`. -/
def writePrice (underlying price : Nat) : Tx OracleStorage Unit :=
  Tx.modifies fun o => { o with priceMap := Function.update o.priceMap underlying price }

def setPrices (env : OracleEnv) (assets prices : List Nat) : Tx OracleStorage Unit := do
  validCall env
  Tx.require (assets.length = prices.length) "Oracle: arrays length mismatch"
  Tx.fold (fun _ entry => writePrice entry.1 entry.2) () (assets.zip prices)

def setPrice (env : OracleEnv) (asset : Address) (price : Nat) : Tx OracleStorage Unit := do
  validCall env
  writePrice asset price

def setUnderlyingPrice (env : OracleEnv) (underlying price : Nat) : Tx OracleStorage Unit := do
  validCall env
  Tx.require (0 < underlying) "Oracle: underlying cannot be zero"
  writePrice underlying price

/-- `assetsMap[underlying] = aggregator` and `decimalsMap[underlying] = decimals`. -/
def writeAggregator (underlying : Nat) (aggregator : Address) (decimals : Nat) :
    Tx OracleStorage Unit :=
  Tx.modifies fun o =>
    { o with
      assetsMap := Function.update o.assetsMap underlying aggregator
      decimalsMap := Function.update o.decimalsMap underlying decimals }

def setAssetsAggregator (env : OracleEnv) (asset aggregator : Address) (decimals : Nat) :
    Tx OracleStorage Unit := do
  validCall env
  writeAggregator asset aggregator decimals

def setUnderlyingAggregator (env : OracleEnv) (underlying : Nat) (aggregator : Address)
    (decimals : Nat) : Tx OracleStorage Unit := do
  validCall env
  Tx.require (0 < underlying) "Oracle: underlying cannot be zero"
  writeAggregator underlying aggregator decimals

/-! ## Prices -/

/-- `getUnderlyingPrice`. `uint256(price)` keeps the bits of the signed answer, and a power of ten is
a `uint256`. -/
def getUnderlyingPrice (env : OracleEnv) (underlying : Nat) : Tx OracleStorage Nat := do
  let assetsPrice ← Tx.reads (·.assetsMap underlying)
  if assetsPrice ≠ 0 then do
    let price ← Tx.view fun _ => env.latestRoundData assetsPrice
    let aggregatorDecimals ← Tx.view fun _ => env.decimals assetsPrice
    let tokenDecimals ← Tx.reads (·.decimalsMap underlying)
    let divisor ← Tx.reads (·.decimals)
    let digits ← Tx.usub 18 aggregatorDecimals
    let factor ← Tx.upow 10 digits
    let product ← Tx.umul price.toNat factor
    let price18 ← Tx.udiv product divisor
    if tokenDecimals < 18 then do
      let digits ← Tx.usub 18 tokenDecimals
      let factor ← Tx.upow 10 digits
      Tx.umul price18 factor
    else if 18 < tokenDecimals then do
      let digits ← Tx.usub tokenDecimals 18
      let factor ← Tx.upow 10 digits
      Tx.udiv price18 factor
    else
      pure price18
  else
    Tx.reads (·.priceMap underlying)

def getPrice (env : OracleEnv) (asset : Address) : Tx OracleStorage Nat :=
  getUnderlyingPrice env asset

/-- `getPrices`. -/
def getPrices (env : OracleEnv) (assets : List Nat) : Tx OracleStorage (List Nat) :=
  Tx.fold (fun prices underlying => do
    let price ← getUnderlyingPrice env underlying
    pure (prices ++ [price])) [] assets

/-! ## Runs -/

/-- The state-changing functions of `Oracle`, with their arguments. -/
inductive Call where
  | setDecimals (newDecimals : Nat)
  | setPrices (assets prices : List Nat)
  | setPrice (asset : Address) (price : Nat)
  | setUnderlyingPrice (underlying price : Nat)
  | setAssetsAggregator (asset aggregator : Address) (decimals : Nat)
  | setUnderlyingAggregator (underlying : Nat) (aggregator : Address) (decimals : Nat)
  deriving Repr, DecidableEq

/-- The `uint256` arguments of a call. -/
def Call.words : Call → List Nat
  | .setDecimals newDecimals => [newDecimals]
  | .setPrices assets prices => assets ++ prices
  | .setPrice _ price => [price]
  | .setUnderlyingPrice underlying price => [underlying, price]
  | .setAssetsAggregator _ _ decimals => [decimals]
  | .setUnderlyingAggregator underlying _ decimals => [underlying, decimals]

/-- The function a call runs. -/
def Call.body (env : OracleEnv) : Call → Tx OracleStorage Unit
  | .setDecimals newDecimals => Oracle.setDecimals env newDecimals
  | .setPrices assets prices => Oracle.setPrices env assets prices
  | .setPrice asset price => Oracle.setPrice env asset price
  | .setUnderlyingPrice underlying price => Oracle.setUnderlyingPrice env underlying price
  | .setAssetsAggregator asset aggregator decimals =>
      Oracle.setAssetsAggregator env asset aggregator decimals
  | .setUnderlyingAggregator underlying aggregator decimals =>
      Oracle.setUnderlyingAggregator env underlying aggregator decimals

/-- The transaction a call is. -/
def Call.transaction (env : OracleEnv) (c : Call) : Tx OracleStorage Unit := do
  Tx.require (∀ n ∈ c.words, n < Tx.uint256) "ABI decoding"
  c.body env

/-- A transaction that succeeds. -/
def Step (o : OracleStorage) (e : OracleEnv × Call) (o' : OracleStorage) : Prop :=
  (e.2.transaction e.1).run o = .ok ((), o')

/-- The oracle as its constructor leaves it. -/
def deployed (multiSigWallet : Address) : OracleStorage where
  multiSignature := multiSigWallet

end Oracle

/-- What a call of `getPrice` answers. -/
def OracleStorage.price (o : OracleStorage) (env : OracleEnv) (asset : Address) :
    Except Revert Nat :=
  ((Oracle.getPrice env asset).run o).map Prod.fst

/-- The asset has an aggregator, whose feed reports `answer` with `digits` digits. -/
structure OracleStorage.Feeds (o : OracleStorage) (env : OracleEnv) (asset : Address)
    (answer : BitVec 256) (digits : Nat) : Prop where
  set : o.assetsMap asset ≠ 0
  answer : env.latestRoundData (o.assetsMap asset) = .ok answer
  digits : env.decimals (o.assetsMap asset) = .ok digits

/-- The answer with 18 digits over the divisor, for an answer read as an unsigned number. -/
def OracleStorage.price18 (o : OracleStorage) (answer digits : Nat) : Nat :=
  answer * 10 ^ (18 - digits) / o.decimals

namespace Oracle

section Spec

variable {env : OracleEnv} {o o' : OracleStorage} {asset : Address} {answer : BitVec 256}
  {digits price : Nat}

/-- **What a feed's answer becomes**: every digit the token has less than 18 is a factor ten, every
digit it has more a divisor ten, and the call reverts when a number on the way is out of range. -/
theorem getUnderlyingPrice_ok (hfeed : o.Feeds env asset answer digits) :
    (getUnderlyingPrice env asset).run o = .ok (price, o') ↔
      digits ≤ 18 ∧ o.decimals ≠ 0 ∧ answer.toNat * 10 ^ (18 - digits) < Tx.uint256 ∧
      o.price18 answer.toNat digits * 10 ^ (18 - o.decimalsMap asset) < Tx.uint256 ∧
      10 ^ (o.decimalsMap asset - 18) < Tx.uint256 ∧
      price = o.price18 answer.toNat digits * 10 ^ (18 - o.decimalsMap asset) /
        10 ^ (o.decimalsMap asset - 18) ∧ o' = o := by
  have hfactor : ∀ k, (10 : Nat) ^ (18 - k) < Tx.uint256 := by
    intro k
    calc (10 : Nat) ^ (18 - k) ≤ 10 ^ 18 := Nat.pow_le_pow_right (by omega) (Nat.sub_le _ _)
      _ < Tx.uint256 := by decide
  have hone : 1 < Tx.uint256 := by decide
  have hpos : ∀ k, (10 : Nat) ^ k ≠ 0 := fun k => (Nat.pow_pos (by omega)).ne'
  have hrange (h : answer.toNat * 10 ^ (18 - digits) < Tx.uint256) :
      o.price18 answer.toNat digits < Tx.uint256 := (Nat.div_le_self _ _).trans_lt h
  simp only [getUnderlyingPrice, Tx.rules, Tx.upow_ok, and_assoc, exists_and_left, exists_eq_left,
    hfeed.set, hfeed.answer, hfeed.digits, ne_eq, not_true_eq_false, not_false_eq_true,
    true_and, false_and, or_false, Except.ok.injEq, exists_eq_left', hfactor, hpos]
  show _ ∧ _ ∧ _ ∧ (_ ∧ _ ∧ o.price18 answer.toNat digits * _ < _ ∧ _ ∧ _ ∨ _) ↔ _
  rcases Nat.lt_trichotomy (o.decimalsMap asset) 18 with hlt | heq | hgt
  · -- fewer digits than 18: one more multiplication
    rw [Nat.sub_eq_zero_of_le hlt.le, Nat.pow_zero]
    simp only [hlt, hlt.le, Nat.div_one, hone, not_true_eq_false, false_and, or_false, true_and]
    constructor
    · rintro ⟨hdigits, hproduct, hdivisor, hfits, hprice⟩
      exact ⟨hdigits, hdivisor, hproduct, hfits, hprice⟩
    · rintro ⟨hdigits, hdivisor, hproduct, hfits, hprice⟩
      exact ⟨hdigits, hproduct, hdivisor, hfits, hprice⟩
  · -- 18 digits: the price stays
    rw [heq, Nat.sub_self, Nat.pow_zero, Nat.mul_one]
    simp only [lt_self_iff_false, Nat.div_one, false_and, false_or, not_false_eq_true, true_and, hone]
    constructor
    · rintro ⟨hdigits, hproduct, hdivisor, hprice⟩
      exact ⟨hdigits, hdivisor, hproduct, hrange hproduct, hprice⟩
    · rintro ⟨hdigits, hdivisor, hproduct, -, hprice⟩
      exact ⟨hdigits, hproduct, hdivisor, hprice⟩
  · -- more digits than 18: a division, which rounds down
    rw [Nat.sub_eq_zero_of_le hgt.le, Nat.pow_zero, Nat.mul_one]
    simp only [hgt, hgt.le, hgt.not_gt, false_and, false_or, or_false, not_true_eq_false,
      not_false_eq_true, true_and]
    constructor
    · rintro ⟨hdigits, hproduct, hdivisor, hpower, hprice⟩
      exact ⟨hdigits, hdivisor, hproduct, hrange hproduct, hpower, hprice⟩
    · rintro ⟨hdigits, hdivisor, hproduct, -, hpower, hprice⟩
      exact ⟨hdigits, hproduct, hdivisor, hpower, hprice⟩

/-- An asset without an aggregator is quoted at its written price. -/
theorem getUnderlyingPrice_written (hunset : o.assetsMap asset = 0) :
    (getUnderlyingPrice env asset).run o = .ok (price, o') ↔
      price = o.priceMap asset ∧ o' = o := by
  simp only [getUnderlyingPrice, Tx.rules, and_assoc, exists_and_left, exists_eq_left, hunset, ne_eq,
    not_true_eq_false, not_false_eq_true, false_and, true_and, false_or]

theorem price_ok : o.price env asset = .ok price ↔
    ∃ o', (getUnderlyingPrice env asset).run o = .ok (price, o') := by
  unfold OracleStorage.price getPrice
  cases (getUnderlyingPrice env asset).run o with
  | error e => simp [Except.map]
  | ok r => simp [Except.map, Prod.ext_iff]

theorem price_feed (hfeed : o.Feeds env asset answer digits) :
    o.price env asset = .ok price ↔
      digits ≤ 18 ∧ o.decimals ≠ 0 ∧ answer.toNat * 10 ^ (18 - digits) < Tx.uint256 ∧
      o.price18 answer.toNat digits * 10 ^ (18 - o.decimalsMap asset) < Tx.uint256 ∧
      10 ^ (o.decimalsMap asset - 18) < Tx.uint256 ∧
      price = o.price18 answer.toNat digits * 10 ^ (18 - o.decimalsMap asset) /
        10 ^ (o.decimalsMap asset - 18) := by
  simp only [price_ok, getUnderlyingPrice_ok hfeed, exists_and_left, exists_eq, and_true]

/-- A quotation leaves the oracle as it is. -/
theorem getUnderlyingPrice_same (h : (getUnderlyingPrice env asset).run o = .ok (price, o')) :
    o' = o := by
  simp only [getUnderlyingPrice, Tx.rules, Tx.upow_ok, and_assoc, exists_and_left, exists_eq_left] at h
  rcases h with ⟨-, _, -, _, -, -, -, -, -, hrest⟩ | ⟨-, -, rfl⟩
  · rcases hrest with ⟨-, -, -, -, -, rfl⟩ | ⟨-, ⟨-, -, -, -, -, rfl⟩ | ⟨-, -, rfl⟩⟩
    all_goals rfl
  · rfl

/-- `getPrices` answers one price for each asset, in the order of the assets. -/
theorem getPrices_ok {assets prices : List Nat} :
    (getPrices env assets).run o = .ok (prices, o') ↔
      o' = o ∧ List.Forall₂ (fun asset price => o.price env asset = .ok price) assets prices := by
  -- with the prices found so far in front
  suffices hacc : ∀ (found prices : List Nat),
      (Tx.fold (fun prices underlying => do
        let price ← getUnderlyingPrice env underlying
        pure (prices ++ [price])) found assets).run o = .ok (prices, o') ↔
      o' = o ∧ ∃ rest, prices = found ++ rest ∧
        List.Forall₂ (fun asset price => o.price env asset = .ok price) assets rest by
    simpa [getPrices] using hacc [] prices
  induction assets with
  | nil =>
      intro found prices
      rw [Tx.fold_nil_ok]
      simp [and_comm]
  | cons asset assets ih =>
      intro found prices
      simp only [Tx.fold_cons_ok, Tx.bind_ok, Tx.pure_ok]
      constructor
      · rintro ⟨_, _, ⟨price, o₁, hprice, rfl, rfl⟩, hrest⟩
        obtain rfl := getUnderlyingPrice_same hprice
        obtain ⟨rfl, rest, rfl, hall⟩ := (ih _ _).mp hrest
        refine ⟨rfl, price :: rest, by simp, .cons (price_ok.mpr ⟨_, hprice⟩) hall⟩
      · rintro ⟨rfl, rest, rfl, hall⟩
        cases hall with
        | cons hprice hall =>
            obtain ⟨o₁, hrun⟩ := price_ok.mp hprice
            obtain rfl := getUnderlyingPrice_same hrun
            exact ⟨_, _, ⟨_, _, hrun, rfl, rfl⟩, (ih _ _).mpr ⟨rfl, _, by simp, hall⟩⟩

end Spec

/-! ## What an amount is worth -/

section Scale

variable {env : OracleEnv} {o : OracleStorage} {asset other : Address} {answer : BitVec 256}
  {digits price otherPrice : Nat}

theorem toNat_of_toInt_pos (h : 0 < answer.toInt) : answer.toNat = answer.toInt.toNat := by
  rw [BitVec.toInt_eq_toNat_cond] at h ⊢
  split
  · simp
  · next hlt =>
      rw [if_neg hlt] at h
      have := answer.isLt
      omega

/-- One whole token, at the price of its smallest unit. -/
theorem price_bounds (hfeed : o.Feeds env asset answer digits)
    (hprice : o.price env asset = .ok price) :
    price * 10 ^ o.decimalsMap asset ≤ o.price18 answer.toNat digits * 10 ^ 18 ∧
      o.price18 answer.toNat digits * 10 ^ 18 < (price + 1) * 10 ^ o.decimalsMap asset ∧
      (o.decimalsMap asset ≤ 18 →
        price * 10 ^ o.decimalsMap asset = o.price18 answer.toNat digits * 10 ^ 18) := by
  obtain ⟨-, -, -, -, -, rfl⟩ := (price_feed hfeed).mp hprice
  rw [Nat.add_mul, Nat.one_mul]
  exact ⟨rescale_mul_pow_le 10 _, lt_rescale_mul_pow 10 _ (by omega), rescale_mul_pow 10 _⟩

/-- **Digits do not change the value.** At the price of a positive answer, a whole token is worth what
the feed says: exactly when the token has at most 18 digits, and otherwise less by less than one unit
of its price. So the same number of whole tokens of two assets with one feed is worth the same up to one
unit of price, and if both have at most 18 digits, one is exchanged for the other at par. -/
theorem getUnderlyingPrice_scale (hfeed : o.Feeds env asset answer digits) (hpos : 0 < answer.toInt)
    (hprice : o.price env asset = .ok price) :
    (o.decimalsMap asset ≤ 18 →
      price * 10 ^ o.decimalsMap asset = o.price18 answer.toInt.toNat digits * 10 ^ 18) ∧
    (18 < o.decimalsMap asset →
      price * 10 ^ o.decimalsMap asset ≤ o.price18 answer.toInt.toNat digits * 10 ^ 18 ∧
      o.price18 answer.toInt.toNat digits * 10 ^ 18 <
        price * 10 ^ o.decimalsMap asset + 10 ^ o.decimalsMap asset) ∧
    ∀ other otherPrice, o.assetsMap other = o.assetsMap asset →
      o.price env other = .ok otherPrice → ∀ n,
        n * 10 ^ o.decimalsMap asset * price ≤ n * 10 ^ o.decimalsMap other * (otherPrice + 1) ∧
        n * 10 ^ o.decimalsMap other * otherPrice ≤ n * 10 ^ o.decimalsMap asset * (price + 1) ∧
        (o.decimalsMap asset ≤ 18 → o.decimalsMap other ≤ 18 → 0 < otherPrice →
          n * 10 ^ o.decimalsMap asset * price / otherPrice = n * 10 ^ o.decimalsMap other) := by
  obtain ⟨hle, hlt, heq⟩ := price_bounds hfeed hprice
  rw [← toNat_of_toInt_pos hpos]
  refine ⟨heq, fun _ => ⟨hle, by rwa [Nat.add_mul, Nat.one_mul] at hlt⟩, ?_⟩
  intro other otherPrice hsame hother n
  -- one aggregator gives both assets the same answer
  have hfeed' : o.Feeds env other answer digits :=
    ⟨hsame ▸ hfeed.set, hsame ▸ hfeed.answer, hsame ▸ hfeed.digits⟩
  obtain ⟨hle', hlt', heq'⟩ := price_bounds hfeed' hother
  refine ⟨?_, ?_, ?_⟩
  · calc n * 10 ^ o.decimalsMap asset * price
        = n * (price * 10 ^ o.decimalsMap asset) := by ring
      _ ≤ n * ((otherPrice + 1) * 10 ^ o.decimalsMap other) :=
          Nat.mul_le_mul_left n (hle.trans hlt'.le)
      _ = n * 10 ^ o.decimalsMap other * (otherPrice + 1) := by ring
  · calc n * 10 ^ o.decimalsMap other * otherPrice
        = n * (otherPrice * 10 ^ o.decimalsMap other) := by ring
      _ ≤ n * ((price + 1) * 10 ^ o.decimalsMap asset) :=
          Nat.mul_le_mul_left n (hle'.trans hlt.le)
      _ = n * 10 ^ o.decimalsMap asset * (price + 1) := by ring
  · intro ht ht' hpositive
    have hworth : n * 10 ^ o.decimalsMap asset * price =
        n * 10 ^ o.decimalsMap other * otherPrice := by
      calc n * 10 ^ o.decimalsMap asset * price
          = n * (price * 10 ^ o.decimalsMap asset) := by ring
        _ = n * (otherPrice * 10 ^ o.decimalsMap other) := by rw [heq ht, heq' ht']
        _ = n * 10 ^ o.decimalsMap other * otherPrice := by ring
    rw [hworth, Nat.mul_div_cancel _ hpositive]

end Scale

/-! Assets `1` and `3` have the same feed, and 18 and 6 digits; asset `2` has a written price. -/

/-- The administrator `10` calls; the feed reports `answer`. -/
def feedEnv (answer : BitVec 256) (digits : Nat) : OracleEnv where
  this := 300
  sender := 10
  keccak a b := a * 2 ^ 160 + b
  getValidSignature _ _ _ := .ok 1
  latestRoundData _ := .ok answer
  decimals _ := .ok digits

def setup : List (OracleEnv × Call) :=
  [(feedEnv 0 8, .setAssetsAggregator 1 60 18), (feedEnv 0 8, .setUnderlyingAggregator 3 60 6),
    (feedEnv 0 8, .setPrice 2 10)]

/-- The oracle after the three calls. -/
def configured : OracleStorage where
  multiSignature := 50
  assetsMap := Function.update (Function.update (fun _ => 0) 1 60) 3 60
  decimalsMap := Function.update (Function.update (fun _ => 0) 1 18) 3 6
  priceMap := Function.update (fun _ => 0) 2 10

theorem configured_run : Run Step (deployed 50) setup configured := by
  have hsecond : Step
      { deployed 50 with
        assetsMap := Function.update (fun _ => 0) 1 60
        decimalsMap := Function.update (fun _ => 0) 1 18 }
      (feedEnv 0 8, .setUnderlyingAggregator 3 60 6)
      { configured with priceMap := fun _ => 0 } := rfl
  exact ((Run.start.step rfl).step hsecond).step rfl

theorem configured_feeds (asset : Address) (answer : BitVec 256) (digits : Nat)
    (h : configured.assetsMap asset ≠ 0) :
    configured.Feeds (feedEnv answer digits) asset answer digits :=
  ⟨h, rfl, rfl⟩

/-- One dollar, with eight digits. -/
theorem getUnderlyingPrice_scale_configured :
    (configured.decimalsMap 3 ≤ 18 →
      10 ^ 30 * 10 ^ configured.decimalsMap 3 =
        configured.price18 (100000000 : BitVec 256).toInt.toNat 8 * 10 ^ 18) ∧
    (18 < configured.decimalsMap 3 →
      10 ^ 30 * 10 ^ configured.decimalsMap 3 ≤
        configured.price18 (100000000 : BitVec 256).toInt.toNat 8 * 10 ^ 18 ∧
      configured.price18 (100000000 : BitVec 256).toInt.toNat 8 * 10 ^ 18 <
        10 ^ 30 * 10 ^ configured.decimalsMap 3 + 10 ^ configured.decimalsMap 3) ∧
    ∀ other otherPrice, configured.assetsMap other = configured.assetsMap 3 →
      configured.price (feedEnv 100000000 8) other = .ok otherPrice → ∀ n,
        n * 10 ^ configured.decimalsMap 3 * 10 ^ 30 ≤
          n * 10 ^ configured.decimalsMap other * (otherPrice + 1) ∧
        n * 10 ^ configured.decimalsMap other * otherPrice ≤
          n * 10 ^ configured.decimalsMap 3 * (10 ^ 30 + 1) ∧
        (configured.decimalsMap 3 ≤ 18 → configured.decimalsMap other ≤ 18 → 0 < otherPrice →
          n * 10 ^ configured.decimalsMap 3 * 10 ^ 30 / otherPrice =
            n * 10 ^ configured.decimalsMap other) :=
  getUnderlyingPrice_scale (configured_feeds 3 100000000 8 (by decide)) (by decide) rfl

end Oracle

end Pledge.Contract
