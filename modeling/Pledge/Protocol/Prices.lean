import Pledge.Contract.Settlement
import Pledge.Protocol.Authority

/-!
# Where the prices come from

The pool asks the oracle when it settles and when it is liquidated. In a run of the contracts the
answers depend on the transactions to the oracle alone, and on the feeds that they named; each of
these transactions was signed (`prices_signed`). -/

namespace Pledge.Protocol

open Pledge.Evm

variable {τ : Type}

/-- The call of the oracle in an event. -/
def Event.onOracle : Event → Option Contract.Oracle.Call
  | .oracle _ c => some c
  | _ => none

/-- What the oracle quotes for the assets of `p` after these events. -/
structure PricesQuoted (D : Deployment τ) (es : List Event) (s : State τ) (env : Surroundings)
    (p pledgePrice settlePrice : Nat) : Prop where
  pledge : Contract.Oracle.Quoted (es.filterMap Event.onOracle) (D.quoting s env)
    (s.world.store.pools p).pledgeToken pledgePrice
  settle : Contract.Oracle.Quoted (es.filterMap Event.onOracle) (D.quoting s env)
    (s.world.store.pools p).settleToken settlePrice
  pledge_pos : 0 < pledgePrice
  settle_pos : 0 < settlePrice

section Prices

variable {D : Deployment τ} {owners : List Address} {threshold : Nat} {s₀ s s' : State τ}
  {e : Event} {es : List Event} {env : Surroundings} {p : Nat} {ts : List Transfer}

theorem Step.holds (h : Step D s e s') {cs : List Contract.Oracle.Call}
    (hholds : Contract.Oracle.Holds cs s.oracle) :
    Contract.Oracle.Holds (cs ++ [e].filterMap Event.onOracle) s'.oracle := by
  cases h with
  | @oracle sender c _ hcall =>
      rw [hcall.wrote.2]
      exact hholds.written c
  | wallet | pool | token | outside =>
      rw [show [_].filterMap Event.onOracle = [] from rfl, List.append_nil]
      exact hholds

/-- The oracle holds what the transactions to it wrote last. -/
theorem run_holds (h₀ : Founded D owners threshold s₀) (hrun : Run (Step D) s₀ es s) :
    Contract.Oracle.Holds (es.filterMap Event.onOracle) s.oracle := by
  refine hrun.invariant
    (I := fun es s => Contract.Oracle.Holds (es.filterMap Event.onOracle) s.oracle) ?_ ?_
  · rw [h₀.oracle]
    exact Contract.Oracle.deployed_holds
  · intro es s e s' hholds hs
    rw [List.filterMap_append]
    exact hs.holds hholds

/-- A price that the pool got from the oracle. -/
theorem getPrice_quoted (horacle : s.world.store.oracle = D.oracle)
    (hholds : Contract.Oracle.Holds (es.filterMap Event.onOracle) s.oracle) {asset price : Nat}
    {w : Contract.World}
    (h : (D.env s env).getPrice s.world.store.oracle asset w = .ok price) :
    Contract.Oracle.Quoted (es.filterMap Event.onOracle) (D.quoting s env) asset price := by
  apply hholds.price_ok.mp
  rw [horacle] at h
  simpa [Deployment.env] using h

/-- A settlement that lends out, at the prices of the oracle. -/
theorem QuietStep.settled (hD : D.Lawful) (horacle : s.world.store.oracle = D.oracle)
    (hholds : Contract.Oracle.Holds (es.filterMap Event.onOracle) s.oracle)
    (h : QuietStep D s (.pool env (.settle p) ts) s')
    (hexecution : (s'.world.store.pools p).state = .execution) :
    ∃ pledgePrice settlePrice, PricesQuoted D es s env p pledgePrice settlePrice ∧
      s'.world.store.pools p = (s.world.store.pools p).settled pledgePrice settlePrice := by
  have hsupplied : 0 < (s.world.store.pools p).lendSupply ∧
      0 < (s.world.store.pools p).borrowSupply := by
    obtain ⟨-, -, -, moves, heff, -⟩ := h.effect hD
    generalize s'.world.store = store at heff hexecution
    cases heff with
    | settleExecution _ _ _ hlend hborrow => exact ⟨hlend, hborrow⟩
    | settleUndone =>
        rw [Contract.Storage.setPool_pools, if_pos rfl] at hexecution
        cases hexecution
  obtain ⟨hstep, -⟩ := h
  cases hstep with
  | pool hthis hcall =>
      cases hcall with
      | call _ _ hrun =>
          obtain ⟨-, -, hbody⟩ := Contract.Call.transaction_ok.mp hrun
          have hsettled := (Contract.settle_ok_iff (w := { s.world with transfers := [] }) hsupplied.1
            hsupplied.2).mp hbody
          obtain ⟨-, -, -, -, pledgePrice, settlePrice, hpledge, hsettle, hpos, hpos', -, rfl⟩ :=
            hsettled
          refine ⟨pledgePrice, settlePrice, ⟨getPrice_quoted horacle hholds hpledge,
            getPrice_quoted horacle hholds hsettle, hpos, hpos'⟩, ?_⟩
          show ((Contract.Storage.setPool _ _ _).pools p) = _
          rw [Contract.Storage.setPool_pools, if_pos rfl]

/-- A liquidation, at the prices of the oracle. -/
theorem QuietStep.liquidated (hD : D.Lawful) (horacle : s.world.store.oracle = D.oracle)
    (hholds : Contract.Oracle.Holds (es.filterMap Event.onOracle) s.oracle)
    (h : QuietStep D s (.pool env (.liquidate p) ts) s') :
    ∃ pledgePrice settlePrice, PricesQuoted D es s env p pledgePrice settlePrice ∧
      s.world.store.healthFactor p pledgePrice settlePrice <
        (s.world.store.pools p).liquidationRate := by
  obtain ⟨-, -, -, moves, heff, -⟩ := h.effect hD
  generalize s'.world.store = store at heff
  cases heff with
  | liquidate hex hstate htime hpledge hsettle hpledgePrice hsettlePrice hhealth =>
      obtain ⟨_, hpledgePrice⟩ := hpledgePrice
      obtain ⟨_, hsettlePrice⟩ := hsettlePrice
      exact ⟨_, _, ⟨getPrice_quoted horacle hholds hpledgePrice,
        getPrice_quoted horacle hholds hsettlePrice, hpledge, hsettle⟩, hhealth⟩

/-- **Prices are signed.** In every run of the contracts from their constructors, while the pool asks
this oracle: it settles and it is liquidated at what the oracle quotes after the transactions to it so
far, and at each of these transactions at least `threshold` accounts stood by the application of its
sender for the oracle. -/
theorem prices_signed (hD : D.Lawful) (h₀ : Founded D owners threshold s₀)
    (hrun : Run (QuietStep D) s₀ es s) (horacle : s.world.store.oracle = D.oracle) :
    (∀ env p ts s', QuietStep D s (.pool env (.settle p) ts) s' →
      (s'.world.store.pools p).state = .execution →
        ∃ pledgePrice settlePrice, PricesQuoted D es s env p pledgePrice settlePrice ∧
          s'.world.store.pools p = (s.world.store.pools p).settled pledgePrice settlePrice) ∧
    (∀ env p ts s', QuietStep D s (.pool env (.liquidate p) ts) s' →
      ∃ pledgePrice settlePrice, PricesQuoted D es s env p pledgePrice settlePrice ∧
        s.world.store.healthFactor p pledgePrice settlePrice <
          (s.world.store.pools p).liquidationRate) ∧
    ∀ before sender c after, es = before ++ .oracle sender c :: after →
      Signed D threshold before (sender, D.oracle) := by
  have hruns : Run (Step D) s₀ es s := hrun.mono And.left
  have hholds := run_holds h₀ hruns
  refine ⟨?_, ?_, ?_⟩
  · intro env p ts s' hstep hexecution
    exact hstep.settled hD horacle hholds hexecution
  · intro env p ts s' hstep
    exact hstep.liquidated hD horacle hholds
  · rintro before sender c after rfl
    obtain ⟨s₁, hbefore, hrest⟩ := hruns.split
    obtain ⟨s₂, hwrite, -⟩ := hrest.uncons
    exact hwrite.signed h₀ hbefore rfl

/-- The prices of the array that two owners signed. -/
theorem prices_signed_settlement : ∃ s', QuietStep sample (sampleAfter sampleOffer) sampleSettlement s' ∧
    (∃ pledgePrice settlePrice, PricesQuoted sample sampleOffer (sampleAfter sampleOffer)
        (sampleSurroundings 1 100) 1 pledgePrice settlePrice ∧
      s'.world.store.pools 1 =
        ((sampleAfter sampleOffer).world.store.pools 1).settled pledgePrice settlePrice) ∧
    ∀ before sender c after, sampleOffer = before ++ .oracle sender c :: after →
      Signed sample 2 before (sender, 300) := by
  have hrun : Run (QuietStep sample) sampleStart sampleOffer (sampleAfter sampleOffer) :=
    sample_run ⟨sampleSettlement :: sampleClaim :: sampleRepayment, by simp [sampleScript, sampleLoan]⟩
      (by decide +kernel)
  have hnext : ((Step.next sample (sampleAfter sampleOffer) sampleSettlement).map
      fun s' => (s'.world.store.pools 1).state) = some .execution := by decide +kernel
  obtain ⟨s', hs', hexecution⟩ := Option.map_eq_some_iff.mp hnext
  have hstep : QuietStep sample (sampleAfter sampleOffer) sampleSettlement s' :=
    ⟨Step.of_next hs', (sample_exact _ (by simp [sampleScript, sampleLoan])).quiet⟩
  obtain ⟨hsettles, -, hsigned⟩ :=
    prices_signed sample_lawful sample_founded hrun (by decide +kernel)
  exact ⟨s', hstep, hsettles _ _ _ s' hstep hexecution, hsigned⟩

end Prices

end Pledge.Protocol
