import Pledge.Contract.Entitlement
import Pledge.Contract.Health

/-!
# One flag for two entitlements

A borrower of a settled pool is owed the collateral that settlement did not use (`refundBorrow`) and
the loan with its jp tokens (`claimBorrow`). A lender has a flag for each of two such payments; the
borrower has one, `settled`, which both functions check and set. So whichever call comes first, the
other one reverts for good: the flag, once set in a settled pool, stays set (`run_settled`).
-/

namespace Pledge.Contract

open Pledge.Evm

section Flag

variable {w w' : World} {e : Event} {es : List Event} {p : Nat} {u : Address}

theorem RegularStep.settled_flag (h : RegularStep w e w') (hw : w.store.InOrder)
    (hst : (w.store.pools p).state ≠ .matching)
    (hflag : (w.store.borrowInfos p u).settled = true) :
    (w'.store.borrowInfos p u).settled = true := by
  obtain ⟨a, ha⟩ := h.lifecycle hw p
  exact (ha.frozen hst).settled u hflag

/-- **The flag stays set** on every run from a pool that has left `MATCH`. -/
theorem run_settled (hw : w.store.InOrder) (hst : (w.store.pools p).state ≠ .matching)
    (hflag : (w.store.borrowInfos p u).settled = true) (hrun : Run RegularStep w es w') :
    (w'.store.borrowInfos p u).settled = true := by
  have hinv : w'.store.InOrder ∧ (w'.store.pools p).state ≠ .matching ∧
      (w'.store.borrowInfos p u).settled = true := by
    refine hrun.invariant (I := fun _ w => w.store.InOrder ∧ (w.store.pools p).state ≠ .matching ∧
      (w.store.borrowInfos p u).settled = true) ⟨hw, hst, hflag⟩ ?_
    intro es w e w' ⟨hin, hst, hflag⟩ hs
    obtain ⟨a, ha⟩ := hs.lifecycle hin p
    exact ⟨hs.inOrder hin, ha.progress.path.ne_matching hst, hs.settled_flag hin hst hflag⟩
  exact hinv.2.2

/-- Both functions need the flag clear, in a settled pool, and leave it set. -/
theorem RegularStep.takes_flag {env : Env} {c : Call} {ts : List Transfer}
    (h : RegularStep w (.call env c ts) w') (hc : c = .refundBorrow p ∨ c = .claimBorrow p) :
    (w.store.pools p).state.Settled ∧ (w.store.borrowInfos p env.sender).settled = false ∧
      (w'.store.pools p).state.Settled ∧ (w'.store.borrowInfos p env.sender).settled = true := by
  obtain ⟨hstep, hreg⟩ := h
  cases hstep with
  | call env c hrun =>
      obtain ⟨moves, heff, -⟩ := transaction_effect hreg.1 hrun
      generalize hs : w'.store = s' at heff ⊢
      rcases hc with rfl | rfl
      · cases heff with
        | refundBorrow hex hamount hflag hstate => exact ⟨hstate, hflag, hstate, by simp⟩
      · cases heff with
        | claimBorrow hex hamount hflag hstate => exact ⟨hstate, hflag, hstate, by simp⟩

end Flag

/-- The account `u` calls `first` and, sooner or later, `second`, and both calls succeed. -/
def World.BothSucceed (w : World) (u : Address) (first second : Call) : Prop :=
  ∃ env₁ ts₁ w₁ es w₂ env₂ ts₂ w₃, env₁.sender = u ∧ env₂.sender = u ∧
    RegularStep w (.call env₁ first ts₁) w₁ ∧ Run RegularStep w₁ es w₂ ∧
    RegularStep w₂ (.call env₂ second ts₂) w₃

/-- **A borrower gets one of the two entitlements.** From no reachable state can the excess be
refunded and the loan claimed, in either order and whatever happens in between. -/
theorem refund_excludes_claim {admin multiSignature : Address} {ledger : Ledger} {es : List Event}
    {w : World} (hrun : Run RegularStep (deployed admin multiSignature ledger) es w) (p : Nat)
    (u : Address) :
    ¬ w.BothSucceed u (.refundBorrow p) (.claimBorrow p) ∧
      ¬ w.BothSucceed u (.claimBorrow p) (.refundBorrow p) := by
  have hblocked {first second : Call} (hfirst : first = .refundBorrow p ∨ first = .claimBorrow p)
      (hsecond : second = .refundBorrow p ∨ second = .claimBorrow p) :
      ¬ w.BothSucceed u first second := by
    rintro ⟨env₁, ts₁, w₁, es₁, w₂, env₂, ts₂, w₃, rfl, hsender, h₁, hbetween, h₂⟩
    -- the first call leaves the flag set, the run keeps it, and the second call needs it clear
    obtain ⟨-, -, hstate, hset⟩ := h₁.takes_flag hfirst
    obtain ⟨-, hclear, -, -⟩ := h₂.takes_flag hsecond
    have hstays := run_settled (h₁.inOrder (reachable_inOrder hrun)) hstate.ne_matching hset hbetween
    rw [hsender, hstays] at hclear
    cases hclear
  exact ⟨hblocked (.inl rfl) (.inr rfl), hblocked (.inr rfl) (.inl rfl)⟩

theorem refund_excludes_claim_opening :
    ¬ World.afterOpening.BothSucceed 12 (.refundBorrow 1) (.claimBorrow 1) ∧
      ¬ World.afterOpening.BothSucceed 12 (.claimBorrow 1) (.refundBorrow 1) :=
  refund_excludes_claim (World.opening_run.mono HonestStep.regular) 1 12

/-- The borrower of the opening is owed an excess of 500 and a loan of 1000; after either call the
other one reverts. -/
theorem second_call_reverts : ∃ es w env, Run HonestStep (deployed 10 50 World.openingLedger) es w ∧
    (w.store.pools 1).state = .execution ∧ (w.store.pools 1).settleTime ≤ env.timestamp ∧
    w.store.globalPaused = false ∧
    (w.store.pools 1).settleAmountBorrow < (w.store.pools 1).borrowSupply ∧
    0 < (w.store.borrowInfos 1 env.sender).pledgeAmount ∧
    0 < (w.store.pools 1).borrowRefund (w.store.borrowInfos 1 env.sender) ∧
    0 < (w.store.pools 1).loan (w.store.borrowInfos 1 env.sender) ∧
    w.succeeds env (.refundBorrow 1) = true ∧
    (w.next env (.refundBorrow 1)).succeeds env (.claimBorrow 1) = false ∧
    w.succeeds env (.claimBorrow 1) = true ∧
    (w.next env (.claimBorrow 1)).succeeds env (.refundBorrow 1) = false := by
  refine ⟨_, World.afterOpening, standardEnv (World.setting 12 110 10), World.opening_run, ?_⟩
  decide +kernel

end Pledge.Contract
