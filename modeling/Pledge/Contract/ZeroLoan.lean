import Pledge.Contract.Settlement

/-!
# Settlement with a loan of zero

`settle` sends a pool to `UNDONE`, where both sides get their deposits back, when one side supplied
nothing. Whether the *loan* is positive it does not ask: when all the collateral supports less than one
unit, the pool goes to `EXECUTION` with `settleAmountLend` zero and the whole collateral set aside, and
the divisions that would pay it out again are by zero (`redeems_iff_supported`).
-/

namespace Pledge.Contract

open Pledge.Evm

/-! ## Redeeming

A redemption divides by what was lent, or by a multiple of it, so a pool that has lent nothing
cannot redeem its tokens. -/

section Settles

variable {w w' : World} {e : Event} {p : Nat}

/-- So does the contract, at the prices the oracle answers. -/
theorem RegularStep.settles (h : RegularStep w e w') (hw : w.store.InOrder)
    (hbefore : ¬ (w.store.pools p).state.Settled) (hafter : (w'.store.pools p).state.Settled) :
    w.store.Exists p ∧ 0 < (w.store.pools p).lendSupply ∧ ∃ env ts pledgePrice settlePrice,
      e = .call env (.settle p) ts ∧ 0 < pledgePrice ∧ 0 < settlePrice ∧
      env.getPrice w.store.oracle (w.store.pools p).pledgeToken { w with transfers := [] } =
        .ok pledgePrice ∧
      env.getPrice w.store.oracle (w.store.pools p).settleToken { w with transfers := [] } =
        .ok settlePrice ∧
      w'.store.pools p = (w.store.pools p).settled pledgePrice settlePrice := by
  obtain ⟨hstep, hreg⟩ := h
  cases hstep with
  | outside => exact absurd hafter hbefore
  | call env c hrun =>
      obtain ⟨moves, heff, -⟩ := transaction_effect hreg.1 hrun
      obtain ⟨a, ha, hshown⟩ := heff.lifecycle hw.blank hreg.2 p
      obtain ⟨-, -, hlend, hborrow, lend, borrow, rfl⟩ := ha.settles hbefore hafter
      obtain ⟨rfl, -⟩ := hshown
      obtain ⟨-, -, hsettle⟩ := Call.transaction_ok.mp hrun
      obtain ⟨-, hex, -, -, pp, sp, hpp, hsp, hpos, hpos', -, rfl⟩ :=
        (settle_ok_iff (w := { w with transfers := [] }) hlend hborrow).mp hsettle
      refine ⟨hex, hlend, env, _, pp, sp, rfl, hpos, hpos', hpp, hsp, ?_⟩
      rw [World.mapStore_store, Storage.setPool_pools, if_pos rfl]

end Settles

namespace World

end World

end Pledge.Contract
