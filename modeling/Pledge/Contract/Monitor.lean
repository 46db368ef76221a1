import Pledge.Contract.Health
import Pledge.Contract.Residue

/-!
# What a liquidator is told

`getLiquidationInfo` and `checkoutLiquidate` of `PledgePool.sol`, the views a liquidator looks at
before it calls `liquidate`. The view sums over the borrowers that are settled and not liquidated. Over
a run these are the loans paid since the pool was last liquidated (`Book.standing_loans`): a loan that
is claimed after the liquidation counts again.
-/

namespace Pledge.Contract

open Pledge.Evm Pledge.Arith

/-! ## The views

`getLiquidationInfo` asks for the health factor first, which is par out of `EXECUTION`, and then for
the totals in tokens. It converts the value of the collateral back at the same prices, so what it
reports is rounded twice. -/

/-- `_calculateLiquidationAmounts`, returning `(totalPledge, totalBorrow)`. -/
def calculateLiquidationAmounts (env : Env) (poolId : Nat) : Tx World (Nat × Nat) := do
  let (pledgePrice, settlePrice) ← getPrices env poolId
  let (totalPledge, totalBorrow) ← calculateTotals poolId pledgePrice settlePrice
  let product ← Tx.umul totalPledge settlePrice
  let totalPledge ← Tx.udiv product pledgePrice
  pure (totalPledge, totalBorrow)

/-- What `getLiquidationInfo` returns. -/
structure LiquidationInfo where
  healthFactor : Nat
  liquidationThreshold : Nat
  canLiquidatePool : Bool
  totalPledgeAmount : Nat
  totalBorrowAmount : Nat
  deriving Repr, DecidableEq

/-- `getLiquidationInfo`. -/
def getLiquidationInfo (env : Env) (poolId : Nat) : Tx World LiquidationInfo := do
  poolExists poolId
  let pool ← getPool poolId
  let healthFactor ← calculateHealthFactor env poolId
  let (totalPledgeAmount, totalBorrowAmount) ← calculateLiquidationAmounts env poolId
  pure
    { healthFactor := healthFactor
      liquidationThreshold := pool.liquidationRate
      canLiquidatePool := decide (pool.state = .execution ∧ pool.settleTime ≤ env.timestamp ∧
        healthFactor < pool.liquidationRate)
      totalPledgeAmount := totalPledgeAmount
      totalBorrowAmount := totalBorrowAmount }

/-- `checkoutLiquidate`. -/
def checkoutLiquidate (env : Env) (poolId : Nat) : Tx World Bool := do
  poolExists poolId
  canLiquidate env poolId

section Views

variable {env : Env} {w w' : World} {p pledgePrice settlePrice : Nat}

/-- Out of `EXECUTION` the health factor is par, whatever the prices. -/
theorem calculateHealthFactor_par (hstate : (w.store.pools p).state ≠ .execution)
    {healthFactor : Nat} :
    (calculateHealthFactor env p).run w = .ok (healthFactor, w') ↔
      w' = w ∧ w.store.Exists p ∧ healthFactor = RATE_BASE := by
  simp only [calculateHealthFactor, storage_rules, Tx.rules, and_assoc, exists_and_left,
    exists_eq_left, exists_const, hstate, ne_eq, not_false_eq_true, true_and, not_true_eq_false,
    false_and, or_false]
  tauto

/-- The health factor changes nothing. -/
theorem calculateHealthFactor_reads {healthFactor : Nat}
    (h : (calculateHealthFactor env p).run w = .ok (healthFactor, w')) : w' = w := by
  by_cases hstate : (w.store.pools p).state = .execution
  · exact ((calculateHealthFactor_ok hstate).mp h).1
  · exact ((calculateHealthFactor_par hstate).mp h).1

/-- Both prices are read of one oracle. -/
theorem getPrices_ok (hprices : env.Prices w.store p pledgePrice settlePrice) {prices : Nat × Nat} :
    (getPrices env p).run w = .ok (prices, w') ↔ w' = w ∧ prices = (pledgePrice, settlePrice) := by
  simp only [getPrices, storage_rules, Tx.rules, and_assoc, exists_and_left, exists_eq_left,
    exists_const, hprices.pledge, hprices.settle, Except.ok.injEq, exists_eq_left', ne_eq,
    hprices.oracle, not_false_eq_true, true_and]
  exact and_comm

/-- The two totals, of which the first is rounded back into tokens. -/
theorem calculateLiquidationAmounts_ok (hprices : env.Prices w.store p pledgePrice settlePrice)
    {totals : Nat × Nat} (h : (calculateLiquidationAmounts env p).run w = .ok (totals, w')) :
    w' = w ∧
      totals.1 = w.store.totalPledgeValue p pledgePrice settlePrice * settlePrice / pledgePrice ∧
      totals.2 = w.store.totalBorrowAmount p := by
  obtain ⟨prices, w₁, hread, h⟩ := Tx.bind_ok.mp h
  obtain ⟨rfl, rfl⟩ := (getPrices_ok hprices).mp hread
  simp only [Tx.rules, and_assoc, exists_and_left, exists_eq_left] at h
  obtain ⟨sums, w₂, hsums, -, -, rfl, rfl⟩ := h
  obtain ⟨rfl, hpledge, hborrow, -⟩ := (calculateTotals_ok hprices.settle_pos).mp hsums
  exact ⟨rfl, by rw [← hpledge], hborrow⟩

/-- The two views of the gate are one. -/
theorem checkoutLiquidate_ok {answer : Bool} : (checkoutLiquidate env p).run w = .ok (answer, w') ↔
    (canLiquidate env p).run w = .ok (answer, w') := by
  simp only [checkoutLiquidate, canLiquidate, storage_rules, Tx.rules, and_assoc, exists_and_left,
    exists_eq_left, exists_const]
  exact and_self_left

/-- **What the view answers** at the oracle's prices. Its gate is that of `canLiquidate`. -/
theorem getLiquidationInfo_ok (hprices : env.Prices w.store p pledgePrice settlePrice)
    {info : LiquidationInfo} (h : (getLiquidationInfo env p).run w = .ok (info, w')) :
    w' = w ∧ w.store.Exists p ∧
      info.totalPledgeAmount =
        w.store.totalPledgeValue p pledgePrice settlePrice * settlePrice / pledgePrice ∧
      info.totalBorrowAmount = w.store.totalBorrowAmount p ∧
      (canLiquidate env p).run w = .ok (info.canLiquidatePool, w) := by
  simp only [getLiquidationInfo, storage_rules, Tx.rules, and_assoc, exists_and_left,
    exists_eq_left, exists_const] at h
  obtain ⟨hex, health, _, hhealth, totals, w₁, htotals, rfl, rfl⟩ := h
  obtain rfl := calculateHealthFactor_reads hhealth
  obtain ⟨rfl, hpledge, hborrow⟩ := calculateLiquidationAmounts_ok hprices htotals
  refine ⟨rfl, hex, hpledge, hborrow, ?_⟩
  simp only [canLiquidate, storage_rules, Tx.rules, and_assoc, exists_and_left, exists_eq_left,
    exists_const]
  refine ⟨hex, ?_⟩
  by_cases hopen : (w'.store.pools p).state = .execution ∧
      (w'.store.pools p).settleTime ≤ env.timestamp
  · exact .inl ⟨hopen.1, hopen.2, health, w', hhealth, by simp [hopen.1, hopen.2], rfl⟩
  · refine .inr ⟨hopen, ?_, trivial⟩
    exact decide_eq_false fun hall => hopen ⟨hall.1, hall.2.1⟩

end Views

/-! ## The loans that count

A borrower counts from its claim until the pool is liquidated. `Marked` is what keeps the flags in
this order, and with it the sum over the borrowers that count follows the payments, and goes back to
zero with each liquidation (`Step.standing`). -/

namespace Act

def liquidates : Act → Bool
  | .liquidate _ _ _ => true
  | _ => false

end Act

namespace Book

/-- The loan of a borrower as the health factor counts it. -/
def standing (b : Book) (u : Address) : Nat :=
  if (b.borrowInfo u).settled = true ∧ (b.borrowInfo u).liquidated = false then
    (b.borrowInfo u).borrowAmount
  else 0

/-- Who was liquidated had claimed or taken the excess back before. -/
def Marked (b : Book) : Prop :=
  ∀ u, (b.borrowInfo u).liquidated = true → (b.borrowInfo u).settled = true

section Standing

variable {b b' : Book} {a : Act} {u : Address} {info : BorrowInfo}

/-- Who is not settled does not count. -/
theorem standing_of_unsettled (h : (b.borrowInfo u).settled = false) : b.standing u = 0 := by
  unfold standing
  rw [if_neg]
  rintro ⟨hsettled, -⟩
  rw [h] at hsettled
  cases hsettled

/-- One borrower is settled. -/
theorem standing_setBorrowInfo (hsettled : info.settled = true) (hfree : info.liquidated = false) :
    (b.setBorrowInfo u info).standing = Function.update b.standing u info.borrowAmount := by
  funext v
  by_cases hv : v = u
  · subst hv
    simp [standing, setBorrowInfo, hsettled, hfree]
  · simp [standing, setBorrowInfo, hv]

/-- Who is not settled was not liquidated. -/
theorem Marked.free (h : b.Marked) (hflag : (b.borrowInfo u).settled = false) :
    (b.borrowInfo u).liquidated = false := by
  by_contra hliq
  rw [Bool.not_eq_false] at hliq
  rw [h u hliq] at hflag
  cases hflag

/-- A borrower that is settled may have any other flag. -/
theorem Marked.setBorrowInfo (h : b.Marked) (hsettled : info.settled = true) :
    (b.setBorrowInfo u info).Marked := by
  intro v hv
  by_cases hvu : v = u
  · subst hvu
    simpa [Book.setBorrowInfo] using hsettled
  · simp only [Book.setBorrowInfo, Function.update_of_ne hvu] at hv ⊢
    exact h v hv

theorem Marked.step (h : b.Marked) (hs : Step b a b') (hsound : b.Sound) : b'.Marked := by
  cases hs with
  | create => exact fun _ hu => by cases hu
  | @borrow _ u n hstate =>
      have hclean := (hsound.untouched hstate).borrow
      intro v hv
      by_cases hvu : v = u
      · subst hvu
        simp [recordBorrow] at hv
      · simp only [recordBorrow, Function.update_of_ne hvu] at hv ⊢
        exact h v hv
  | refundBorrow | claimBorrow | emergencyBorrow => exact h.setBorrowInfo rfl
  | liquidate =>
      intro v hv
      unfold markLiquidated at hv ⊢
      dsimp only at hv ⊢
      split at hv
      · next hcount => rw [if_pos hcount]; exact hcount.2.1
      · next hcount => rw [if_neg hcount]; exact h v hv
  | _ => exact h

/-- Nobody on the list counts after a liquidation. -/
theorem markLiquidated_standing (hu : u ∈ b.borrowers) : b.markLiquidated.standing u = 0 := by
  unfold Book.standing markLiquidated
  dsimp only
  split
  · exact if_neg fun h => by cases h.2
  · next hcount => exact if_neg fun h => hcount ⟨hu, h⟩

/-- Nothing counts in a pool that has paid nothing. -/
theorem Untouched.standing (h : b.Untouched) : b.standing = fun _ => 0 := by
  funext u
  exact standing_of_unsettled (h.borrow u).1

/-- **One action** changes the loans that count by the loan it pays, and a liquidation clears them. -/
theorem Step.standing (hs : Step b a b') (hsound : b.Sound) (hsettlement : b.Settlement)
    (hmarked : b.Marked) : tally b'.borrowers b'.standing =
      if a.liquidates then 0 else tally b.borrowers b.standing + a.loaned := by
  have hunpaid {u : Address} {info : BorrowInfo} (hflag : (b.borrowInfo u).settled = false)
      (hinfo : info.settled = true) (hamount : info.borrowAmount = (b.borrowInfo u).borrowAmount)
      (hmark : info.liquidated = (b.borrowInfo u).liquidated) :
      (b.setBorrowInfo u info).standing = b.standing := by
    rw [standing_setBorrowInfo hinfo (hmark.trans (hmarked.free hflag)), hamount, hsettlement.unpaid hflag,
      ← standing_of_unsettled hflag, Function.update_eq_self]
  have hsound' := hsound.step hs
  cases hs with
  | create => rfl
  | borrow hstate =>
      rw [(hsound.untouched hstate).standing, (hsound'.untouched hstate).standing]
      show tally _ _ = tally _ _ + 0
      rw [tally_zero fun _ _ => rfl, tally_zero fun _ _ => rfl]
  | refundBorrow hstate hamount hflag =>
      exact congrArg (tally b.borrowers) (hunpaid hflag rfl rfl rfl)
  | emergencyBorrow hstate hamount hflag =>
      exact congrArg (tally b.borrowers) (hunpaid hflag rfl rfl rfl)
  | @claimBorrow _ u hstate hamount hflag =>
      have hupdate := tally_update hsound.borrowers.nodup ((hsound.borrowers.mem u).mpr hamount)
        b.standing (b.pool.loan (b.borrowInfo u))
      rw [standing_of_unsettled hflag, Nat.add_zero] at hupdate
      have hsame : (b.setBorrowInfo u { b.borrowInfo u with
          borrowAmount := b.pool.loan (b.borrowInfo u), settled := true }).standing =
            Function.update b.standing u (b.pool.loan (b.borrowInfo u)) :=
        standing_setBorrowInfo rfl (hmarked.free hflag)
      exact (congrArg (tally b.borrowers) hsame).trans hupdate
  | liquidate hstate =>
      exact tally_zero fun u hu => markLiquidated_standing hu
  | _ => rfl

/-- **The loans that count** are those paid since the pool was last liquidated. -/
theorem standing_loans {acts : List Act} (hrun : Run Step {} acts b) :
    tally b.borrowers b.standing = totalSince Act.liquidates Act.loaned acts := by
  have hI : b.Sound ∧ b.Settlement ∧ b.Marked ∧
      tally b.borrowers b.standing = totalSince Act.liquidates Act.loaned acts := by
    refine hrun.invariant (I := fun acts b => b.Sound ∧ b.Settlement ∧ b.Marked ∧
      tally b.borrowers b.standing = totalSince Act.liquidates Act.loaned acts) ?_ ?_
    · exact ⟨.blank _ rfl rfl, .of_matching rfl fun _ => rfl, fun _ hu => absurd hu Bool.false_ne_true,
        rfl⟩
    · intro acts b a b' ⟨hsound, hsettlement, hmarked, hloans⟩ hs
      refine ⟨hsound.step hs, hsettlement.step hsound hs, hmarked.step hs hsound, ?_⟩
      rw [totalSince_snoc, ← hloans]
      exact hs.standing hsound hsettlement hmarked
  exact hI.2.2.2

end Standing

end Book

/-- The total of the source is the sum of the standing loans. -/
theorem Storage.totalBorrowAmount_eq (s : Storage) (p : Nat) :
    s.totalBorrowAmount p = tally (s.borrowers p) (s.book p).standing := by
  show tally ((s.borrowers p).filter _) _ = _
  rw [tally_filter]
  apply tally_congr
  intro u _
  exact if_congr decide_eq_true_iff rfl rfl

/-! ## What the receipts show

A liquidation is seen in the call, and a loan in the receipt of the claim. -/

/-- The transaction liquidates `p`. -/
def Event.liquidates (p : Nat) : Event → Bool
  | .call _ (.liquidate q) _ => q = p
  | _ => false

/-- A liquidation of `p` is the action on `p` that the call shows. -/
theorem Acted.liquidates {p : Nat} {w w' : World} {e : Event} {a : Act} (h : Acted p w e a w') :
    e.liquidates p = a.liquidates := by
  cases e with
  | outside =>
      rw [h.outside rfl]
      rfl
  | call env c ts =>
      obtain ⟨-, moves, -, -, hshown⟩ := h.shown env c ts rfl
      cases a with
      | idle =>
          cases c with
          | liquidate q => exact decide_eq_false fun hq => hshown (congrArg some hq)
          | _ => rfl
      | create =>
          have hnone := hshown.1
          cases c with
          | liquidate => cases hnone
          | _ => rfl
      | configure => obtain ⟨⟨t, rfl | rfl⟩, -⟩ := hshown <;> rfl
      | lend | borrow =>
          obtain ⟨-, amount, rfl, -⟩ := hshown
          rfl
      | liquidate =>
          obtain ⟨rfl, -⟩ := hshown
          exact decide_eq_true rfl
      | _ =>
          obtain ⟨rfl, -⟩ := hshown
          rfl

/-! ## Over a run

The sum over the list of borrowers is a fact about the state, and the payments are facts about the
receipts. They are brought together by the actions of the run, which are what both are made of. -/

/-- What `getLiquidationInfo` answers about `p` is right, at prices that the oracle answers throughout:
the gate is the one of `canLiquidate`, and only through it the pool is liquidated; the loans are those
paid to borrowers since the pool was last liquidated; and the collateral is what the borrowers that
count have pledged, but for rounding. -/
structure Monitored (env : Env) (p pledgePrice settlePrice : Nat) (lendToken : Address)
    (es : List Event) (w : World) (info : LiquidationInfo) : Prop where
  gate : (checkoutLiquidate env p).run w = .ok (info.canLiquidatePool, w)
  liquidated : ∀ ts w', RegularStep w (.call env (.liquidate p) ts) w' → info.canLiquidatePool = true
  loans : info.totalBorrowAmount =
    totalSince (Event.liquidates p) (Event.tokens .sent (Call.pays p .loan) lendToken) es
  pledge_le : info.totalPledgeAmount ≤ w.store.countedPledge p
  lt_pledge : w.store.countedPledge p * pledgePrice <
    (info.totalPledgeAmount + 1) * pledgePrice + (w.store.countedBorrowers p).length * settlePrice

/-- A liquidation comes after the settle time. -/
theorem RegularStep.liquidation_due {env : Env} {w w' : World} {p : Nat} {ts : List Transfer}
    (h : RegularStep w (.call env (.liquidate p) ts) w') :
    (w.store.pools p).settleTime ≤ env.timestamp := by
  obtain ⟨hstep, hreg⟩ := h
  cases hstep with
  | call env c hrun =>
      obtain ⟨moves, heff, -⟩ := transaction_effect hreg.1 hrun
      generalize w'.store = s' at heff
      cases heff with
      | liquidate _ _ htime => exact htime

/-- The collateral that the view reports, against what was pledged. -/
theorem Storage.reported_pledge {s : Storage} {p pledgePrice settlePrice : Nat}
    (hpledge : 0 < pledgePrice) (hsettle : 0 < settlePrice) :
    s.totalPledgeValue p pledgePrice settlePrice * settlePrice / pledgePrice ≤ s.countedPledge p ∧
      s.countedPledge p * pledgePrice <
        (s.totalPledgeValue p pledgePrice settlePrice * settlePrice / pledgePrice + 1) * pledgePrice +
          (s.countedBorrowers p).length * settlePrice := by
  have hsplit : s.totalPledgeValue p pledgePrice settlePrice * settlePrice +
      s.truncation p pledgePrice settlePrice = s.countedPledge p * pledgePrice :=
    totalPledgeValue_split
  have hdropped : s.truncation p pledgePrice settlePrice + (s.countedBorrowers p).length ≤
      (s.countedBorrowers p).length * settlePrice := tally_mod_add_length_le _ _ hsettle
  constructor
  · apply Nat.div_le_of_le_mul
    rw [Nat.mul_comm pledgePrice]
    omega
  · have hround := Nat.lt_mul_div_succ
      (s.totalPledgeValue p pledgePrice settlePrice * settlePrice) hpledge
    rw [Nat.mul_comm pledgePrice] at hround
    omega

/-- **A liquidator is told the truth.** From the creation of a pool by `createPoolInfo` with
dedicated claim tokens, after every honest run and at all positive prices: whenever
`getLiquidationInfo` answers, its gate is the one that `liquidate` passes, its loans are those paid
since the pool was last liquidated, and its collateral is what the borrowers that count have pledged,
but for rounding. -/
theorem liquidation_monitored {admin multiSignature : Address} {ledger : Ledger} {es₀ es : List Event}
    {w₀ w₁ w : World} {env : Env} {settleTime endTime interestRate maxSupply martgageRate : Nat}
    {lendToken borrowToken spToken jpToken : Address} {autoLiquidateThreshold : Nat}
    {ts : List Transfer} {p : Nat}
    (hreach : Run RegularStep (deployed admin multiSignature ledger) es₀ w₀)
    (hcreate : RegularStep w₀ (.call env (.createPoolInfo settleTime endTime interestRate maxSupply
      martgageRate lendToken borrowToken spToken jpToken autoLiquidateThreshold) ts) w₁)
    (hp : p = w₀.store.poolCounter + 1)
    (hrun : Run (Restrict Step fun w e w' => e.Honest ∧ ∀ side, Dedicated p side w e w') w₁ es w)
    {asked : Env} {pledgePrice settlePrice : Nat} (hprices : asked.Prices w.store p pledgePrice settlePrice)
    {info : LiquidationInfo} {w' : World}
    (hanswer : (getLiquidationInfo asked p).run w = .ok (info, w')) :
    Monitored asked p pledgePrice settlePrice lendToken es w info := by
  have hin₀ := reachable_inOrder hreach
  have hin₁ := hcreate.inOrder hin₀
  obtain ⟨-, halive₁, -, -, hfresh, hbook⟩ := hcreate.created hin₀ hp
  obtain ⟨ls, rfl, hlabelled⟩ := run_acted (fun h => h.1.regular) hin₁ p hrun
  have halong : Run (DedicatedStep p lendToken borrowToken) w₁ ls w :=
    hlabelled.along halive₁ fun h hs => h.step hs.2
  have hbooks := Acted.books hfresh hbook (halong.mono fun hs => hs.2.2)
  -- the loans that count, first by the actions on the pool, then by the receipts
  have hloans : w.store.totalBorrowAmount p = totalSince (Event.liquidates p)
      (Event.tokens .sent (Call.pays p .loan) lendToken) (ls.map Prod.fst) := by
    rw [Storage.totalBorrowAmount_eq]
    refine (Book.standing_loans hbooks).trans ?_
    have hnone : Act.loaned (.create (w₁.store.pools p)) = 0 := rfl
    rw [List.singleton_append, totalSince_cons_zero _ _ _ hnone, totalSince_map, totalSince_map]
    symm
    apply halong.totalSince_eq
    intro w l w' hs
    exact ⟨hs.2.2.liquidates, DedicatedStep.pays hs⟩
  obtain ⟨rfl, hex, hpledge, hborrow, hgate⟩ := getLiquidationInfo_ok hprices hanswer
  obtain ⟨hle, hlt⟩ := Storage.reported_pledge (s := w'.store) (p := p) hprices.pledge_pos
    hprices.settle_pos
  refine ⟨checkoutLiquidate_ok.mpr hgate, ?_, hborrow.trans hloans, hpledge ▸ hle, hpledge ▸ hlt⟩
  intro ts w'' hliquidate
  obtain ⟨-, hstate, hlow⟩ := hliquidate.liquidated hprices
  obtain ⟨-, -, hanswer⟩ :=
    (canLiquidate_ok hex hstate hliquidate.liquidation_due hprices).mp hgate
  rw [hanswer]
  exact decide_eq_true hlow

theorem liquidation_monitored_claim : ∃ info : LiquidationInfo,
    (getLiquidationInfo (standardEnv (World.setting 13 200 10)) 1).run
        (World.afterCreation.play (World.supplies ++ World.claim)) =
      .ok (info, World.afterCreation.play (World.supplies ++ World.claim)) ∧
    Monitored (standardEnv (World.setting 13 200 10)) 1 10 10 1
      (World.afterCreation.events (World.supplies ++ World.claim))
      (World.afterCreation.play (World.supplies ++ World.claim)) info := by
  have hrun : Run (GuardedStep 1) World.afterCreation
      (World.afterCreation.events (World.supplies ++ World.claim))
      (World.afterCreation.play (World.supplies ++ World.claim)) :=
    World.respected_run World.afterCreation_inOrder (by decide +kernel) (by decide +kernel)
  have hanswer : ∃ info, (getLiquidationInfo (standardEnv (World.setting 13 200 10)) 1).run
      (World.afterCreation.play (World.supplies ++ World.claim)) =
        .ok (info, World.afterCreation.play (World.supplies ++ World.claim)) := ⟨⟨_, _, _, _, _⟩, rfl⟩
  obtain ⟨info, hanswer⟩ := hanswer
  refine ⟨info, hanswer, ?_⟩
  exact liquidation_monitored
    (World.setup_run.mono GuardedStep.regular)
    World.creation_honest.regular rfl
    (hrun.mono fun hs => ⟨hs.1, hs.2.1, hs.2.2.1⟩)
    (World.standard_prices (by decide +kernel) (by decide +kernel) (by decide +kernel)) hanswer

end Pledge.Contract
