import Pledge.Contract.Monitor
import Pledge.Contract.Residue

/-!
# What borrowers leave behind

A borrower of a settled pool can take the excess of its pledge back, and it can claim its loan with the
jp tokens. Both are marked by one flag, so it gets one of the two and forgoes the other. What all
borrowers forgo stays in the pool: nobody can take it out later.

The borrowers are the refunders, the claimers and the undecided (`Book.decided`). Each of the three
shares is paid to the ones and forgone by the others, so what was paid, what is still to be decided and
what was forgone come to the whole budget but for rounding (`Book.pledges_accounted`).
-/

namespace Pledge.Contract

open Pledge.Evm Pledge.Arith

/-! ## Who took what

Each borrower goes one of three ways, or has not decided. The lists of who did which are a partition
of the list of borrowers. -/

namespace Act

/-- The borrower that took the excess of its pledge. -/
def refunder : Act → Option Address
  | .refundBorrow user _ => some user
  | _ => none

/-- The borrower that claimed the loan. -/
def claimer : Act → Option Address
  | .claimBorrow user _ _ => some user
  | _ => none

/-- The borrower that took one of the two. -/
def decider (a : Act) : Option Address := a.refunder <|> a.claimer

theorem deciders_perm (acts : List Act) :
    (acts.filterMap refunder ++ acts.filterMap claimer).Perm (acts.filterMap decider) := by
  induction acts with
  | nil => exact .nil
  | cons a acts ih =>
      cases a with
      | refundBorrow user => exact ih.cons user
      | claimBorrow user =>
          apply List.Perm.trans _ (ih.cons user)
          exact List.perm_middle
      | _ => exact ih

end Act

namespace Book

variable {b b' : Book} {a : Act} {acts : List Act}

/-- The borrowers that have taken neither. -/
def undecided (b : Book) : List Address := b.borrowers.filter fun u => !(b.borrowInfo u).settled

/-- The accounts are those borrowers that are settled, each once. -/
structure Decided (us : List Address) (b : Book) : Prop where
  nodup : us.Nodup
  mem : ∀ u, u ∈ us ↔ u ∈ b.borrowers ∧ (b.borrowInfo u).settled = true

/-- One more borrower decides. -/
theorem Decided.snoc {us : List Address} (h : Decided us b) {u : Address} {info : BorrowInfo}
    (hu : u ∈ b.borrowers) (hflag : (b.borrowInfo u).settled = false) (hinfo : info.settled = true) :
    Decided (us ++ [u]) (b.setBorrowInfo u info) := by
  have hnew : u ∉ us := by
    intro hmem
    rw [((h.mem u).mp hmem).2] at hflag
    cases hflag
  refine ⟨List.concat_eq_append (a := u) ▸ h.nodup.concat hnew, ?_⟩
  intro v
  by_cases hv : v = u
  · subst hv
    simp [setBorrowInfo, hu, hinfo]
  · simp [setBorrowInfo, hv, h.mem v]

theorem Decided.same {us : List Address} (h : Decided us b) (hborrowers : b'.borrowers = b.borrowers)
    (hflags : ∀ u, (b'.borrowInfo u).settled = (b.borrowInfo u).settled) : Decided us b' := by
  refine ⟨h.nodup, ?_⟩
  intro u
  rw [hborrowers, hflags u]
  exact h.mem u

/-- **One action** on a settled pool. -/
theorem Step.decided (hs : Step b a b') (hsound : b.Sound) (hsettled : b.pool.state.Settled)
    {us : List Address} (h : Decided us b) : Decided (us ++ a.decider.toList) b' := by
  have hsame (hnone : a.decider = none) (hborrowers : b'.borrowers = b.borrowers)
      (hflags : ∀ u, (b'.borrowInfo u).settled = (b.borrowInfo u).settled) :
      Decided (us ++ a.decider.toList) b' := by
    rw [hnone]
    show Decided (us ++ []) b'
    rw [List.append_nil]
    exact h.same hborrowers hflags
  cases hs with
  | refundBorrow hstate hamount hflag =>
      exact h.snoc ((hsound.borrowers.mem _).mpr hamount) hflag rfl
  | claimBorrow hstate hamount hflag =>
      exact h.snoc ((hsound.borrowers.mem _).mpr hamount) hflag rfl
  | borrow hstate => exact absurd hstate hsettled.ne_matching
  | emergencyBorrow hstate => exact absurd hstate hsettled.ne_undone
  | create => exact absurd hsettled PoolState.matching_unsettled
  | liquidate =>
      apply hsame rfl rfl
      intro u
      unfold markLiquidated
      dsimp only
      split <;> rfl
  | _ => exact hsame rfl rfl fun _ => rfl

/-- **Every borrower of a settled pool took the excess back, claimed the loan, or has done neither.** -/
theorem decided (hrun : Run Step {} acts b) (hsettled : b.pool.state.Settled) :
    (acts.filterMap Act.refunder ++ acts.filterMap Act.claimer ++ b.undecided).Perm b.borrowers := by
  have hI : b.Sound ∧ (b.pool.state.Settled → Decided (acts.filterMap Act.decider) b) ∧
      (¬ b.pool.state.Settled → acts.filterMap Act.decider = []) := by
    refine hrun.invariant
      (I := fun acts b => b.Sound ∧ (b.pool.state.Settled → Decided (acts.filterMap Act.decider) b) ∧
        (¬ b.pool.state.Settled → acts.filterMap Act.decider = [])) ?_ ?_
    · exact ⟨.blank _ rfl rfl, fun h => absurd h PoolState.matching_unsettled, fun _ => rfl⟩
    · intro acts b a b' ⟨hsound, hin, hout⟩ hs
      refine ⟨hsound.step hs, ?_⟩
      rw [filterMap_snoc]
      by_cases hbefore : b.pool.state.Settled
      · refine ⟨fun _ => hs.decided hsound hbefore (hin hbefore), fun h => absurd ?_ h⟩
        exact hs.progress.path.settled hbefore
      · -- nobody decides before the settlement, and none is settled when it comes
        have hnone : a.decider = none := by
          cases hs with
          | refundBorrow hstate | claimBorrow hstate => exact absurd hstate hbefore
          | _ => rfl
        rw [hout hbefore, hnone]
        refine ⟨fun hafter => ⟨.nil, fun u => ?_⟩, fun _ => rfl⟩
        have hclean := hs.untouched hsound (hs.settles hbefore hafter).1 hafter.ne_matching
        simp [(hclean.borrow u).1]
  obtain ⟨hsound, hin, -⟩ := hI
  have hdecided := hin hsettled
  refine ((Act.deciders_perm acts).append_right _).trans ?_
  rw [List.perm_ext_iff_of_nodup ?_ hsound.borrowers.nodup]
  · intro u
    rw [List.mem_append, hdecided.mem u, undecided, List.mem_filter]
    cases (b.borrowInfo u).settled <;> simp
  · refine List.nodup_append'.mpr ⟨hdecided.nodup, hsound.borrowers.nodup.filter _, ?_⟩
    intro u hu hleft
    have hflag := (List.mem_filter.mp hleft).2
    rw [((hdecided.mem u).mp hu).2] at hflag
    cases hflag

end Book

/-! ## Shares of those who took them

An entitlement that some have taken is paid to them in full, so the payments are the sum of their
shares. -/

/-- The steps of a pool that has a jp token when loans are claimed. -/
abbrev Book.IssuingStep : Book → Act → Book → Prop :=
  Restrict Book.Step fun b a _ => a.claimer ≠ none → b.pool.jpToken ≠ 0

/-- A payment is exactly the share of the account that the action names. -/
structure Entitlement.Taken (E : Entitlement) (taker : Act → Option Address) : Prop where
  outside : ∀ {b a b'}, Book.Step b a b' → ¬ E.phase b.pool.state → taker a = none
  during : ∀ {b a b'}, Book.IssuingStep b a b' → E.phase b.pool.state →
    E.pays a = tally (taker a).toList (E.share b)

/-- **What was paid are the shares of those who took them.** -/
theorem Entitlement.Taken.paid {E : Entitlement} {taker : Act → Option Address} (hE : E.Taken taker)
    {acts : List Act} {b : Book} (hrun : Run Book.IssuingStep {} acts b)
    (hphase : E.phase b.pool.state) :
    total E.pays acts = tally (acts.filterMap taker) (E.share b) := by
  have hI : b.Sound ∧
      (E.phase b.pool.state → total E.pays acts = tally (acts.filterMap taker) (E.share b)) ∧
      (¬ E.phase b.pool.state → total E.pays acts = 0 ∧ acts.filterMap taker = []) := by
    refine hrun.invariant (I := fun acts b => b.Sound ∧
      (E.phase b.pool.state → total E.pays acts = tally (acts.filterMap taker) (E.share b)) ∧
      (¬ E.phase b.pool.state → total E.pays acts = 0 ∧ acts.filterMap taker = [])) ?_ ?_
    · exact ⟨.blank _ rfl rfl, fun h => absurd h E.start, fun _ => ⟨rfl, rfl⟩⟩
    · intro acts b a b' ⟨hsound, hin, hout⟩ hs
      refine ⟨hsound.step hs.1, ?_⟩
      rw [total_snoc, filterMap_snoc]
      by_cases hbefore : E.phase b.pool.state
      · -- the shares stay, and the payment is one of them
        obtain ⟨hafter, -, hshare, -⟩ := E.during hs.1 hsound hbefore
        refine ⟨fun _ => ?_, fun h => absurd hafter h⟩
        rw [tally_append, hshare, hin hbefore, hE.during hs hbefore]
      · obtain ⟨hpaid, htakers⟩ := hout hbefore
        rw [hpaid, htakers, E.outside hs.1 hbefore, hE.outside hs.1 hbefore]
        exact ⟨fun _ => rfl, fun _ => ⟨rfl, rfl⟩⟩
  exact hI.2.1 hphase

theorem borrowRefunds_taken : borrowRefunds.Taken Act.refunder where
  outside hs hphase := by
    cases hs with
    | refundBorrow hstate => exact absurd hstate hphase
    | _ => rfl
  during hs _ := by cases hs.1 <;> rfl

theorem loans_taken : loans.Taken Act.claimer where
  outside hs hphase := by
    cases hs with
    | claimBorrow hstate => exact absurd hstate hphase
    | _ => rfl
  during hs _ := by cases hs.1 <;> rfl

theorem jpClaims_taken : jpClaims.Taken Act.claimer where
  outside hs hphase := by
    cases hs with
    | claimBorrow hstate => exact absurd hstate hphase
    | _ => rfl
  during hs _ := by
    obtain ⟨hs, hissuing⟩ := hs
    cases hs with
    | claimBorrow =>
        have hjp := hissuing nofun
        show (if _ then _ else _) = _
        rw [if_pos hjp]
        rfl
    | _ => rfl

/-! ## What is left of the budgets

A borrower who takes a refund leaves its share of the loan, and one who takes the loan leaves its
share of the refund. Nobody can take either afterwards. -/

/-- What was paid and what is left come to the budget, but for less than one for each member. -/
structure Apportioned (budget paid left members : Nat) : Prop where
  within : paid + left ≤ budget
  rounding : budget < paid + left + members

/-- The others of those who took their share leave the rest. -/
theorem Entitlement.Taken.apportioned {E : Entitlement} {taker : Act → Option Address}
    (hE : E.Taken taker) {acts : List Act} {b : Book} (hrun : Run Book.IssuingStep {} acts b)
    (hphase : E.phase b.pool.state) {others : List Address}
    (hperm : (acts.filterMap taker ++ others).Perm b.borrowers) {budget : Nat}
    (hle : tally b.borrowers (E.share b) ≤ budget)
    (hlt : budget < tally b.borrowers (E.share b) + b.borrowers.length) :
    Apportioned budget (total E.pays acts) (tally others (E.share b)) b.borrowers.length := by
  have hall := tally_perm hperm (E.share b)
  rw [tally_append, ← hE.paid hrun hphase] at hall
  rw [← hall] at hle hlt
  exact ⟨hle, hlt⟩

/-- The books of the borrowers of a settled pool. Those who took the excess and those who have not
decided leave the loans and the jp tokens; those who claimed and those who have not decided leave the
excess. -/
structure Book.PledgesAccounted (acts : List Act) (b : Book) : Prop where
  excess : Apportioned (b.pool.borrowSupply - b.pool.settleAmountBorrow)
    (total (Act.paid .borrowRefund) acts)
    (tally (acts.filterMap Act.claimer ++ b.undecided) (borrowRefunds.share b)) b.borrowers.length
  loan : Apportioned b.pool.settleAmountLend (total (Act.paid .loan) acts)
    (tally (acts.filterMap Act.refunder ++ b.undecided) (loans.share b)) b.borrowers.length
  issue : Apportioned b.pool.totalJpAmount (total Act.jpMinted acts)
    (tally (acts.filterMap Act.refunder ++ b.undecided) (jpClaims.share b)) b.borrowers.length

/-- **What the borrowers of a settled pool were paid and what they leave are their budgets.** -/
theorem Book.pledges_accounted {acts : List Act} {b : Book} (hrun : Run IssuingStep {} acts b)
    (hsettlement : b.Settlement) (hsettled : b.pool.state.Settled) : PledgesAccounted acts b := by
  have hbooks : Run Step {} acts b := hrun.mono fun hs => hs.1
  have hsound : b.Sound := (loans.within hbooks).1
  have hsupply : tally b.borrowers b.pledged = b.pool.borrowSupply := hsound.borrowSupply.symm
  have hpos := (hsettlement.supplied hsettled).2
  have hperm := decided hbooks hsettled
  have hrefunders : (acts.filterMap Act.refunder ++
      (acts.filterMap Act.claimer ++ b.undecided)).Perm b.borrowers := by
    rw [← List.append_assoc]
    exact hperm
  have hclaimers : (acts.filterMap Act.claimer ++
      (acts.filterMap Act.refunder ++ b.undecided)).Perm b.borrowers := by
    rw [← List.append_assoc]
    exact (List.perm_append_comm.append_right _).trans hperm
  refine ⟨?_, ?_, ?_⟩
  · exact borrowRefunds_taken.apportioned hrun hsettled hrefunders (tally_share_le hsupply.le _)
      (lt_tally_share hsupply hpos _)
  · exact loans_taken.apportioned hrun hsettled hclaimers (tally_share_le hsupply.le _)
      (lt_tally_share hsupply hpos _)
  · exact jpClaims_taken.apportioned hrun hsettled hclaimers
      (tally_share_scaled_le hsupply.le _ _)
      (lt_tally_share_scaled hsupply hpos _ (by decide))

/-- **The pot of the borrowers**: the redemptions, the worth of the jp tokens that are held and the
worth of those that were not issued come to it, but for rounding. -/
theorem Book.pot_accounted {acts : List Act} {b : Book} (hrun : Run IssuingStep {} acts b)
    (hsettlement : b.Settlement) (hclosed : b.pool.state.Closed) {held : Nat}
    (hheld : held + total Act.jpBurned acts = total Act.jpMinted acts) :
    total (Act.paid .borrowRedemption) acts + b.pool.borrowPot * (held +
          tally (acts.filterMap Act.refunder ++ b.undecided) (jpClaims.share b)) /
        b.pool.totalJpAmount ≤ b.pool.borrowPot ∧
      (0 < b.pool.totalJpAmount → b.pool.borrowPot ≤
        total (Act.paid .borrowRedemption) acts + total borrowRedemptions.times acts +
          b.pool.borrowPot * (held +
              tally (acts.filterMap Act.refunder ++ b.undecided) (jpClaims.share b) +
            b.borrowers.length) / b.pool.totalJpAmount) := by
  have hbooks : Run Step {} acts b := hrun.mono fun hs => hs.1
  obtain ⟨hwithin, hrounding⟩ := (pledges_accounted hrun hsettlement hclosed.settled).issue
  constructor
  · apply Redemption.shared_le (R := borrowRedemptions) hbooks hclosed
    show _ + total Act.jpBurned acts ≤ b.pool.totalJpAmount
    omega
  · intro hpos
    apply Redemption.borrowRedemptions_tight.le_shared hbooks hclosed hpos
    show b.pool.totalJpAmount ≤ _ + total Act.jpBurned acts
    omega

/-! ## What the receipts show

Who made which call is read off the run. -/

/-- The account that made a call of some kind. -/
def Event.maker (sel : Call → Bool) : Event → Option Address
  | .call env c _ => if sel c then some env.sender else none
  | .outside => none

/-- The accounts that made the calls of some kind. -/
def makers (sel : Call → Bool) (es : List Event) : List Address := es.filterMap (Event.maker sel)

section Receipts

variable {p : Nat} {lendToken borrowToken : Address} {w w' : World} {l : Event × Act}

/-- A refund or a claim is made by the borrower that it serves. -/
theorem DedicatedStep.makers (h : DedicatedStep p lendToken borrowToken w l w') :
    l.1.maker (Call.pays p .borrowRefund) = l.2.refunder ∧
      l.1.maker (Call.pays p .loan) = l.2.claimer := by
  obtain ⟨e, a⟩ := l
  obtain ⟨halive, -, ha⟩ := h
  change Acted p w e a w' at ha
  show e.maker _ = a.refunder ∧ e.maker _ = a.claimer
  cases e with
  | outside =>
      rw [ha.outside rfl]
      exact ⟨rfl, rfl⟩
  | call env c ts =>
      obtain ⟨-, moves, heff, -, hshown⟩ := ha.shown env c ts rfl
      have hother (hc : c.poolId ≠ some p) (k : Payout) : c.pays p k = false :=
        Bool.eq_false_iff.mpr fun hpays => hc (Call.pays_poolId hpays)
      have hnobody (hc : ∀ k : Payout, c.pays p k = false) (k : Payout) :
          Event.maker (Call.pays p k) (.call env c ts) = none := by
        show (if c.pays p k = true then _ else _) = _
        rw [hc k]
        rfl
      cases a with
      | idle => exact ⟨hnobody (hother hshown) _, hnobody (hother hshown) _⟩
      | create =>
          have hnone := hother hshown.create_poolId
          exact ⟨hnobody hnone _, hnobody hnone _⟩
      | configure => obtain ⟨⟨t, rfl | rfl⟩, -⟩ := hshown <;> exact ⟨rfl, rfl⟩
      | lend | borrow =>
          obtain ⟨-, amount, rfl, -⟩ := hshown
          exact ⟨rfl, rfl⟩
      | refundBorrow user paid =>
          obtain ⟨rfl, hmoves⟩ := hshown
          generalize w'.store = s' at heff
          cases heff with
          | refundBorrow =>
              obtain ⟨⟨-, rfl, -⟩, -⟩ := List.cons.inj hmoves
              simp [Event.maker, Call.pays, Act.refunder, Act.claimer]
      | claimBorrow user paid minted =>
          -- the mint names the borrower, also when the loan is nothing
          obtain ⟨rfl, hmoves⟩ := hshown
          generalize w'.store = s' at heff
          cases heff with
          | claimBorrow =>
              rw [if_pos halive.jpToken, if_pos halive.jpToken] at hmoves
              obtain ⟨⟨-, rfl, -⟩, -⟩ := List.cons.inj hmoves
              simp [Event.maker, Call.pays, Act.refunder, Act.claimer]
      | _ =>
          obtain ⟨rfl, -⟩ := hshown
          exact ⟨rfl, rfl⟩

end Receipts

/-! ## From creation on

The two sides are brought together: the lists from the run and the budgets from the books. -/

/-- The borrowers' account after a run, when all accounts together hold `held` jp tokens. Each borrower
took the excess back, claimed the loan, or has done neither. The excess that was paid out and the
shares of all others come to the pledges that settlement did not use; the loans that were paid out and
the shares of all others come to the settled loan; and the redemptions, the worth of the jp tokens that
are held and of those that were not issued come to the borrowers' pot. What rounding leaves is less
than one for each borrower and each redemption, and the worth of one jp token for each borrower. -/
structure BorrowersAccounted (p : Nat) (lendToken borrowToken : Address) (es : List Event) (w : World)
    (held : Nat) : Prop where
  decided : (makers (Call.pays p .borrowRefund) es ++ makers (Call.pays p .loan) es ++
    (w.store.book p).undecided).Perm (w.store.borrowers p)
  excess : Apportioned ((w.store.pools p).borrowSupply - (w.store.pools p).settleAmountBorrow)
    (total (Event.tokens .sent (Call.pays p .borrowRefund) borrowToken) es)
    (tally (makers (Call.pays p .loan) es ++ (w.store.book p).undecided)
      (borrowRefunds.share (w.store.book p)))
    (w.store.borrowers p).length
  loan : Apportioned (w.store.pools p).settleAmountLend
    (total (Event.tokens .sent (Call.pays p .loan) lendToken) es)
    (tally (makers (Call.pays p .borrowRefund) es ++ (w.store.book p).undecided)
      (loans.share (w.store.book p)))
    (w.store.borrowers p).length
  pot : (w.store.pools p).state.Closed →
    total (Event.tokens .sent (Call.pays p .borrowRedemption) borrowToken) es +
        (w.store.pools p).borrowPot * (held +
          tally (makers (Call.pays p .borrowRefund) es ++ (w.store.book p).undecided)
            (jpClaims.share (w.store.book p))) / (w.store.pools p).totalJpAmount ≤
      (w.store.pools p).borrowPot
  rounding : (w.store.pools p).state.Closed → 0 < (w.store.pools p).totalJpAmount →
    (w.store.pools p).borrowPot ≤
      total (Event.tokens .sent (Call.pays p .borrowRedemption) borrowToken) es +
        total (Event.redeems p .borrow) es +
        (w.store.pools p).borrowPot * (held +
          tally (makers (Call.pays p .borrowRefund) es ++ (w.store.book p).undecided)
            (jpClaims.share (w.store.book p)) + (w.store.borrowers p).length) /
          (w.store.pools p).totalJpAmount

/-- **What borrowers leave behind is what they forgo.** From the creation of a pool by
`createPoolInfo`, with claim tokens that are dedicated to it, of which the jp token has no holdings
then and is not replaced, in every settled state of an honest run: each borrower's refund, loan and
jp tokens were paid once, are still to be decided, or are forgone because the borrower chose the
other, and together they are all that the pool has for its borrowers, but for what rounding leaves. -/
theorem borrowers_accounted {admin multiSignature : Address} {ledger : Ledger} {es₀ es : List Event}
    {w₀ w₁ w : World} {env : Env} {settleTime endTime interestRate maxSupply martgageRate : Nat}
    {lendToken borrowToken spToken jpToken : Address} {autoLiquidateThreshold : Nat}
    {ts : List Transfer} {p : Nat}
    (hreach : Run RegularStep (deployed admin multiSignature ledger) es₀ w₀)
    (hcreate : RegularStep w₀ (.call env (.createPoolInfo settleTime endTime interestRate maxSupply
      martgageRate lendToken borrowToken spToken jpToken autoLiquidateThreshold) ts) w₁)
    (hp : p = w₀.store.poolCounter + 1) (hjp : ∀ u, w₀.ledger.balance jpToken u = 0)
    (hrun : Run (Restrict Step fun w e w' =>
      e.Honest ∧ (∀ side, Dedicated p side w e w') ∧ e.Keeps p .borrow) w₁ es w)
    (hsettled : (w.store.pools p).state.Settled) :
    ∃ held, Holdings.SumsTo (w.ledger.balance jpToken) held ∧
      BorrowersAccounted p lendToken borrowToken es w held := by
  have hin₀ := reachable_inOrder hreach
  have hin₁ := hcreate.inOrder hin₀
  obtain ⟨hledger, halive₁, -, hjpToken, hfresh, hbook⟩ := hcreate.created hin₀ hp
  have hne : jpToken ≠ 0 := by
    rw [← hjpToken]
    exact halive₁.jpToken
  -- the run, labelled with the actions on the pool
  obtain ⟨ls, rfl, hlabelled⟩ := run_acted (fun h => h.1.regular) hin₁ p hrun
  have halong : Run (KeptStep p .borrow lendToken borrowToken) w₁ ls w :=
    (hlabelled.along halive₁ fun h hs => h.step hs.2).mono fun hs =>
      ⟨⟨hs.1, ⟨hs.2.1.1, hs.2.1.2.1⟩, hs.2.2⟩, hs.2.1.2.2⟩
  have hin : w.store.InOrder :=
    run_inOrder hin₁ (hrun.mono fun hs => ⟨hs.1, hs.2.1.regular⟩)
  have hheld := outstanding hne hjpToken (hledger ▸ hjp) halong
  have hcreated : Book.IssuingStep {} (.create (w₁.store.pools p)) { pool := w₁.store.pools p } :=
    ⟨.create hfresh, fun h => absurd rfl h⟩
  obtain ⟨acts, hacts⟩ : ∃ acts, acts = [.create (w₁.store.pools p)] ++ ls.map Prod.snd := ⟨_, rfl⟩
  have hbooks : Run Book.IssuingStep {} acts (w.store.book p) := by
    rw [hacts]
    apply (Run.start.step hcreated).append
    rw [← hbook]
    refine halong.map (fun w => w.store.book p) Prod.snd ?_
    intro w l w' hs
    exact ⟨hs.1.2.2.step, fun _ => hs.1.1.jpToken⟩
  -- the creation itself moves nothing and decides nothing
  have htotal {f : Act → Nat} (h0 : f (.create (w₁.store.pools p)) = 0) :
      total f acts = total (fun l => f l.2) ls := by
    rw [hacts, total_append, total_cons, h0, total_nil, Nat.zero_add, total_map]
  have hpaid (k : Payout) : total (Event.tokens .sent (Call.pays p k) (k.asset lendToken borrowToken))
      (ls.map Prod.fst) = total (Act.paid k) acts := by
    rw [htotal (by cases k <;> rfl), total_map]
    exact halong.total_eq fun hs => hs.1.pays
  have hrefunders : makers (Call.pays p .borrowRefund) (ls.map Prod.fst) =
      acts.filterMap Act.refunder := by
    rw [hacts]
    show (ls.map Prod.fst).filterMap _ = (ls.map Prod.snd).filterMap _
    rw [List.filterMap_map, List.filterMap_map]
    exact halong.filterMap_eq fun hs => hs.1.makers.1
  have hclaimers : makers (Call.pays p .loan) (ls.map Prod.fst) = acts.filterMap Act.claimer := by
    rw [hacts]
    show (ls.map Prod.fst).filterMap _ = (ls.map Prod.snd).filterMap _
    rw [List.filterMap_map, List.filterMap_map]
    exact halong.filterMap_eq fun hs => hs.1.makers.2
  have hredeems : total (Event.redeems p .borrow) (ls.map Prod.fst) =
      total borrowRedemptions.times acts := by
    rw [htotal rfl, total_map]
    exact halong.total_eq fun hs => hs.1.2.2.redeems
  have hminted : total (fun l => l.2.minted .borrow) ls - total (fun l => l.2.burned .borrow) ls +
      total Act.jpBurned acts = total Act.jpMinted acts := by
    rw [htotal rfl, htotal rfl]
    exact Nat.sub_add_cancel hheld.covered
  have haccounted := Book.pledges_accounted hbooks (hin.settlement p) hsettled
  refine ⟨_, hheld.holdings, ?_⟩
  constructor
  · rw [hrefunders, hclaimers]
    exact Book.decided (hbooks.mono fun hs => hs.1) hsettled
  · rw [hclaimers]
    exact (hpaid .borrowRefund).symm ▸ haccounted.excess
  · rw [hrefunders]
    exact (hpaid .loan).symm ▸ haccounted.loan
  · intro hclosed
    rw [hrefunders]
    exact (hpaid .borrowRedemption).symm ▸
      (Book.pot_accounted hbooks (hin.settlement p) hclosed hminted).1
  · intro hclosed hpos
    rw [hrefunders, hredeems]
    exact (hpaid .borrowRedemption).symm ▸
      (Book.pot_accounted hbooks (hin.settlement p) hclosed hminted).2 hpos

theorem borrowers_accounted_closing : ∃ held,
    Holdings.SumsTo ((World.afterCreation.play (World.supplies ++ World.closing)).ledger.balance 4)
        held ∧
      BorrowersAccounted 1 1 2 (World.afterCreation.events (World.supplies ++ World.closing))
        (World.afterCreation.play (World.supplies ++ World.closing)) held := by
  have hkeeps : ∀ e ∈ World.afterCreation.events (World.supplies ++ World.closing),
      e.Keeps 1 .borrow := by decide +kernel
  exact borrowers_accounted
    (World.setup_run.mono GuardedStep.regular)
    World.creation_honest.regular rfl
    (World.claim_tokens_fresh 4 (by decide))
    (World.closing_run.within.mono fun hs => ⟨hs.1.1, hs.1.2.1, hs.1.2.2.1, hkeeps _ hs.2⟩)
    (by decide +kernel)

end Pledge.Contract
