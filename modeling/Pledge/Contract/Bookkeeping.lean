import Pledge.Contract.Lifecycle
import Pledge.Contract.Standard
import Pledge.Arith.ProRata

/-!
# Bookkeeping of a pool

The invariant of the life of a pool (`Book.Sound`): supplies are the sums of the deposits, the lists
hold exactly the depositors, nobody has been paid before settlement, and the settled amounts fit the
supplies. It is preserved by every action (`Book.Sound.step`), and what is settled never changes
again (`Book.Step.progress`). Over runs of the contract this is `pool_bookkeeping`.
-/

namespace Pledge.Contract

open Pledge.Evm Pledge.Arith

namespace Book

/-- Nothing has been paid out of the pool. -/
structure Untouched (b : Book) : Prop where
  lend : ∀ u, (b.lendInfo u).claimed = false ∧ (b.lendInfo u).settled = false ∧
    (b.lendInfo u).refunded = false
  borrow : ∀ u, (b.borrowInfo u).settled = false ∧ (b.borrowInfo u).liquidated = false

/-- What each lender has deposited. -/
def lent (b : Book) : Address → Nat := fun u => (b.lendInfo u).amount

/-- What each borrower has pledged. -/
def pledged (b : Book) : Address → Nat := fun u => (b.borrowInfo u).pledgeAmount

/-- The books are in order. -/
structure Sound (b : Book) : Prop where
  lendSupply : b.pool.lendSupply = tally b.lenders b.lent
  borrowSupply : b.pool.borrowSupply = tally b.borrowers b.pledged
  lenders : Enrolled b.lenders b.lent
  borrowers : Enrolled b.borrowers b.pledged
  lendSupply_le : b.pool.lendSupply ≤ b.pool.maxSupply
  untouched : b.pool.state = .matching → b.Untouched

/-- A new pool. -/
theorem Sound.blank (pool : Pool) (hlend : pool.lendSupply = 0) (hborrow : pool.borrowSupply = 0) :
    Sound { pool := pool } where
  lendSupply := hlend
  borrowSupply := hborrow
  lenders := .nil
  borrowers := .nil
  lendSupply_le := by
    show pool.lendSupply ≤ pool.maxSupply
    omega
  untouched _ := ⟨fun _ => ⟨rfl, rfl, rfl⟩, fun _ => ⟨rfl, rfl⟩⟩

/-! What the writes of the model do to the deposits: a deposit raises one of them, a flag or a loan
none. -/

theorem recordLend_lent (b : Book) (u : Address) (n : Nat) :
    (b.recordLend u n).lent = Function.update b.lent u (b.lent u + n) := by
  funext v
  by_cases hv : v = u
  · subst hv; simp [lent, recordLend]
  · simp [lent, recordLend, hv]

theorem recordBorrow_pledged (b : Book) (u : Address) (n : Nat) :
    (b.recordBorrow u n).pledged = Function.update b.pledged u (b.pledged u + n) := by
  funext v
  by_cases hv : v = u
  · subst hv; simp [pledged, recordBorrow]
  · simp [pledged, recordBorrow, hv]

theorem setLendInfo_lent {b : Book} {u : Address} {info : LendInfo}
    (h : info.amount = (b.lendInfo u).amount) : (b.setLendInfo u info).lent = b.lent := by
  funext v
  by_cases hv : v = u
  · subst hv; simp [lent, setLendInfo, h]
  · simp [lent, setLendInfo, hv]

theorem setBorrowInfo_pledged {b : Book} {u : Address} {info : BorrowInfo}
    (h : info.pledgeAmount = (b.borrowInfo u).pledgeAmount) :
    (b.setBorrowInfo u info).pledged = b.pledged := by
  funext v
  by_cases hv : v = u
  · subst hv; simp [pledged, setBorrowInfo, h]
  · simp [pledged, setBorrowInfo, hv]

theorem markLiquidated_pledged (b : Book) : b.markLiquidated.pledged = b.pledged := by
  funext v
  simp only [pledged, markLiquidated]
  split <;> rfl

/-- A record that changes without its amount, after settlement. -/
theorem Sound.setLendInfo {b : Book} (h : b.Sound) {u : Address} {info : LendInfo}
    (hamount : info.amount = (b.lendInfo u).amount) (hstate : b.pool.state ≠ .matching) :
    (b.setLendInfo u info).Sound where
  lendSupply := by rw [setLendInfo_lent hamount]; exact h.lendSupply
  borrowSupply := h.borrowSupply
  lenders := by rw [setLendInfo_lent hamount]; exact h.lenders
  borrowers := h.borrowers
  lendSupply_le := h.lendSupply_le
  untouched hm := absurd hm hstate

/-- The same for a borrower. -/
theorem Sound.setBorrowInfo {b : Book} (h : b.Sound) {u : Address} {info : BorrowInfo}
    (hamount : info.pledgeAmount = (b.borrowInfo u).pledgeAmount)
    (hstate : b.pool.state ≠ .matching) : (b.setBorrowInfo u info).Sound where
  lendSupply := h.lendSupply
  borrowSupply := by rw [setBorrowInfo_pledged hamount]; exact h.borrowSupply
  lenders := h.lenders
  borrowers := by rw [setBorrowInfo_pledged hamount]; exact h.borrowers
  lendSupply_le := h.lendSupply_le
  untouched hm := absurd hm hstate

/-- A deposit of a lender: the list gains the account when it had nothing before, and the supply the
amount. -/
theorem Sound.recordLend {b : Book} (h : b.Sound) {u : Address} {n : Nat} (hn : 0 < n)
    (hmax : b.pool.lendSupply + n ≤ b.pool.maxSupply) (hstate : b.pool.state = .matching) :
    (b.recordLend u n).Sound where
  lendSupply := by
    rw [recordLend_lent]
    exact (congrArg (· + n) h.lendSupply).trans (h.lenders.tally_enroll u n).symm
  borrowSupply := h.borrowSupply
  lenders := by
    rw [recordLend_lent]
    exact h.lenders.enroll u hn
  borrowers := h.borrowers
  lendSupply_le := hmax
  untouched _ := by
    -- the deposit clears the flags it could have set, and none was set
    refine ⟨?_, (h.untouched hstate).borrow⟩
    intro v
    by_cases hv : v = u
    · subst hv
      simp [Book.recordLend, ((h.untouched hstate).lend v).2.1]
    · simpa [Book.recordLend, hv] using (h.untouched hstate).lend v

/-- A deposit of a borrower. -/
theorem Sound.recordBorrow {b : Book} (h : b.Sound) {u : Address} {n : Nat} (hn : 0 < n)
    (hstate : b.pool.state = .matching) : (b.recordBorrow u n).Sound where
  lendSupply := h.lendSupply
  borrowSupply := by
    rw [recordBorrow_pledged]
    exact (congrArg (· + n) h.borrowSupply).trans (h.borrowers.tally_enroll u n).symm
  lenders := h.lenders
  borrowers := by
    rw [recordBorrow_pledged]
    exact h.borrowers.enroll u hn
  lendSupply_le := h.lendSupply_le
  untouched _ := by
    refine ⟨(h.untouched hstate).lend, ?_⟩
    intro v
    by_cases hv : v = u
    · subst hv
      simp [Book.recordBorrow]
    · simpa [Book.recordBorrow, hv] using (h.untouched hstate).borrow v

/-- **Every action keeps the books in order.** -/
theorem Sound.step {b b' : Book} {a : Act} (h : b.Sound) (hs : Step b a b') : b'.Sound := by
  have hsettled (hst : b.pool.state.Settled) : b.pool.state ≠ .matching := by
    rcases hst with hst | hst | hst <;> simp [hst]
  -- the deposits are the actions that change a sum; the others leave the amounts alone
  cases hs with
  | idle => exact h
  | create hfresh => exact .blank _ hfresh.lendSupply hfresh.borrowSupply
  | configure =>
      exact { h with untouched := fun hm => ⟨(h.untouched hm).lend, (h.untouched hm).borrow⟩ }
  | lend hstate hn hmax => exact h.recordLend hn hmax hstate
  | borrow hstate hn => exact h.recordBorrow hn hstate
  | settle => exact { h with untouched := fun hm => by cases hm }
  | undo => exact { h with untouched := fun hm => by cases hm }
  | refundLend hstate => exact h.setLendInfo rfl (hsettled hstate)
  | claimLend hstate => exact h.setLendInfo rfl (hsettled hstate)
  | withdrawLend => exact h
  | emergencyLend hstate => exact h.setLendInfo rfl (by simp [hstate])
  | refundBorrow hstate => exact h.setBorrowInfo rfl (hsettled hstate)
  | claimBorrow hstate => exact h.setBorrowInfo rfl (hsettled hstate)
  | withdrawBorrow => exact h
  | emergencyBorrow hstate => exact h.setBorrowInfo rfl (by simp [hstate])
  | finish => exact { h with untouched := fun hm => by cases hm }
  | liquidate =>
      refine { h with
        borrowSupply := ?_, borrowers := ?_, untouched := fun hm => by cases hm }
      · rw [markLiquidated_pledged]; exact h.borrowSupply
      · rw [markLiquidated_pledged]; exact h.borrowers

end Book

/-! ## Settlement

The second half is about what the settlement fixes: both supplies were positive, the settled amounts
are the ones computed from some pair of prices and within the supplies, and a loan on record is the
account's share of it. It is vacuous in `MATCH`, is established by the settlement and is kept by all
that comes after. -/

/-- Settlement never sets aside more than was supplied. -/
theorem Pool.settlement_le (pool : Pool) (hlend : 0 < pool.lendSupply)
    (pledgePrice settlePrice : Nat) :
    (pool.settlement pledgePrice settlePrice).1 ≤ pool.lendSupply ∧
      (pool.settlement pledgePrice settlePrice).2 ≤ pool.borrowSupply := by
  unfold Pool.settlement
  by_cases h : pool.borrowable pledgePrice settlePrice < pool.lendSupply
  · rw [if_pos h]
    exact ⟨h.le, Nat.le_refl _⟩
  · rw [if_neg h]
    refine ⟨Nat.le_refl _, Nat.div_le_of_le_mul ?_⟩
    -- the collateral supports the loan, before and after the two roundings
    have hrate : 0 < pool.pledgeRate := by
      apply Nat.pos_of_ne_zero
      intro h0
      apply h
      simpa [Pool.borrowable, h0] using hlend
    have hloan : pool.lendSupply * pool.pledgeRate ≤
        pool.borrowSupply * pledgePrice / settlePrice * RATE_BASE :=
      (Nat.le_div_iff_mul_le hrate).mp (Nat.not_lt.mp h)
    have hvalue : pool.borrowSupply * pledgePrice / settlePrice * settlePrice ≤
        pool.borrowSupply * pledgePrice := Nat.div_mul_le_self _ _
    calc pool.lendSupply * pool.pledgeRate * settlePrice
        ≤ pool.borrowSupply * pledgePrice / settlePrice * RATE_BASE * settlePrice :=
          Nat.mul_le_mul_right _ hloan
      _ = RATE_BASE * (pool.borrowSupply * pledgePrice / settlePrice * settlePrice) := by ring
      _ ≤ RATE_BASE * (pool.borrowSupply * pledgePrice) := Nat.mul_le_mul_left _ hvalue
      _ = RATE_BASE * pledgePrice * pool.borrowSupply := by ring

namespace Book

/-- What settlement leaves behind. -/
structure Settlement (b : Book) : Prop where
  supplied : b.pool.state.Settled → 0 < b.pool.lendSupply ∧ 0 < b.pool.borrowSupply
  prices : b.pool.state.Settled → ∃ pledgePrice settlePrice, 0 < pledgePrice ∧ 0 < settlePrice ∧
    (b.pool.settleAmountLend, b.pool.settleAmountBorrow) =
      b.pool.settlement pledgePrice settlePrice
  undone : b.pool.state = .undone → b.pool.settleAmountLend = b.pool.lendSupply ∧
    b.pool.settleAmountBorrow = b.pool.borrowSupply
  /-- A loan on record is the loan of a settled pool, paid once. -/
  loan : ∀ u, (b.borrowInfo u).borrowAmount = 0 ∨
    b.pool.state.Settled ∧ (b.borrowInfo u).settled = true ∧
      (b.borrowInfo u).borrowAmount = b.pool.loan (b.borrowInfo u)
  standing : b.pool.state = .execution → ∀ u, (b.borrowInfo u).liquidated = false

/-- In `MATCH` there is nothing to say but that no loan is on record. -/
theorem Settlement.of_matching {b : Book} (hm : b.pool.state = .matching)
    (hloan : ∀ u, (b.borrowInfo u).borrowAmount = 0) : b.Settlement where
  supplied h := by rcases h with h | h | h <;> simp [hm] at h
  prices h := by rcases h with h | h | h <;> simp [hm] at h
  undone h := by simp [hm] at h
  loan u := .inl (hloan u)
  standing h := by simp [hm] at h

/-- In `MATCH` there are no loans. -/
theorem Settlement.no_loan {b : Book} (h : b.Settlement) (hm : b.pool.state = .matching) (u : Address) :
    (b.borrowInfo u).borrowAmount = 0 := by
  rcases h.loan u with h | ⟨hst, _⟩
  · exact h
  · rcases hst with h | h | h <;> simp [hm] at h

/-- The settled amounts are within the supplies. -/
theorem Settlement.le {b : Book} (h : b.Settlement) (hst : b.pool.state.Settled) :
    b.pool.settleAmountLend ≤ b.pool.lendSupply ∧
      b.pool.settleAmountBorrow ≤ b.pool.borrowSupply := by
  obtain ⟨pp, sp, _, _, heq⟩ := h.prices hst
  have hle := b.pool.settlement_le (h.supplied hst).1 pp sp
  rw [← heq] at hle
  exact hle

/-- Records of lenders do not matter. -/
theorem Settlement.setLendInfo {b : Book} (h : b.Settlement) (u : Address) (info : LendInfo) :
    (b.setLendInfo u info).Settlement := { h with }

/-- A record of a borrower without a loan, or with the loan of a settled pool. -/
theorem Settlement.setBorrowInfo {b : Book} (h : b.Settlement) {u : Address} {info : BorrowInfo}
    (hloan : info.borrowAmount = 0 ∨ b.pool.state.Settled ∧ info.settled = true ∧
      info.borrowAmount = b.pool.loan info)
    (hstanding : info.liquidated = (b.borrowInfo u).liquidated) :
    (b.setBorrowInfo u info).Settlement where
  supplied := h.supplied
  prices := h.prices
  undone := h.undone
  loan v := by
    by_cases hv : v = u
    · subst hv
      simpa [Book.setBorrowInfo] using hloan
    · simpa [Book.setBorrowInfo, hv] using h.loan v
  standing hx v := by
    by_cases hv : v = u
    · subst hv
      simpa [Book.setBorrowInfo, hstanding] using h.standing hx v
    · simpa [Book.setBorrowInfo, hv] using h.standing hx v

/-- An account that was not paid has no loan on record. -/
theorem Settlement.unpaid {b : Book} (h : b.Settlement) {u : Address}
    (hflag : (b.borrowInfo u).settled = false) : (b.borrowInfo u).borrowAmount = 0 := by
  rcases h.loan u with h0 | ⟨_, hs, _⟩
  · exact h0
  · simp [hflag] at hs

/-- The pool closes: only the final amounts and the state change. -/
theorem Settlement.close {b : Book} (h : b.Settlement) (hx : b.pool.state = .execution)
    {st : PoolState} (hst : st.Closed) (lendPot borrowPot lendPot' borrowPot' : Nat) :
    Settlement { b with
      pool := { b.pool with
        finishAmountLend := lendPot
        finishAmountBorrow := borrowPot
        liquidationAmountLend := lendPot'
        liquidationAmountBorrow := borrowPot'
        state := st } } where
  supplied _ := h.supplied (.inl hx)
  prices _ := h.prices (.inl hx)
  undone hu := by
    rcases hst with hst | hst <;> rw [hst] at hu <;> cases hu
  loan u := (h.loan u).imp_right fun ⟨_, hs, hloan⟩ => ⟨hst.settled, hs, hloan⟩
  standing hx' := by
    rcases hst with hst | hst <;> rw [hst] at hx' <;> cases hx'

/-- A liquidation marks records and changes no loan. -/
theorem Settlement.markLiquidated {b : Book} (h : b.Settlement) (hx : b.pool.state ≠ .execution) :
    b.markLiquidated.Settlement where
  supplied := h.supplied
  prices := h.prices
  undone := h.undone
  loan u := by
    have hu := h.loan u
    -- only the `liquidated` flag of a borrower changes, and no loan depends on it
    unfold Book.markLiquidated
    dsimp only
    split
    · exact hu
    · exact hu
  standing hx' := absurd hx' hx

/-- **Every action keeps what settlement left behind.** -/
theorem Settlement.step {b b' : Book} {a : Act} (h : b.Settlement) (hsound : b.Sound)
    (hs : Step b a b') : b'.Settlement := by
  cases hs with
  | idle => exact h
  | create hfresh => exact .of_matching hfresh.state fun _ => rfl
  | configure =>
      exact
        { supplied := h.supplied
          prices := h.prices
          undone := h.undone
          loan := h.loan
          standing := h.standing }
  | lend hstate => exact .of_matching hstate fun u => h.no_loan hstate u
  | @borrow _ u n hstate =>
      refine .of_matching hstate ?_
      intro v
      by_cases hv : v = u
      · subst hv
        simpa [recordBorrow] using h.no_loan hstate v
      · simpa [recordBorrow, hv] using h.no_loan hstate v
  | @settle _ pp sp hstate hlend hborrow hpp hsp =>
      -- up to here nobody was paid and nobody liquidated
      exact
        { supplied := fun _ => ⟨hlend, hborrow⟩
          prices := fun _ => ⟨pp, sp, hpp, hsp, rfl⟩
          undone := fun h => by cases h
          loan := fun u => .inl (h.no_loan hstate u)
          standing := fun _ u => ((hsound.untouched hstate).borrow u).2 }
  | undo hstate =>
      exact
        { supplied := fun h => by rcases h with h | h | h <;> cases h
          prices := fun h => by rcases h with h | h | h <;> cases h
          undone := fun _ => ⟨rfl, rfl⟩
          loan := fun u => .inl (h.no_loan hstate u)
          standing := fun h => by cases h }
  | refundLend => exact h.setLendInfo _ _
  | claimLend => exact h.setLendInfo _ _
  | withdrawLend => exact h
  | emergencyLend => exact h.setLendInfo _ _
  | refundBorrow _ _ hflag => exact h.setBorrowInfo (.inl (h.unpaid hflag)) rfl
  | claimBorrow hstate => exact h.setBorrowInfo (.inr ⟨hstate, rfl, rfl⟩) rfl
  | withdrawBorrow => exact h
  | emergencyBorrow _ _ hflag => exact h.setBorrowInfo (.inl (h.unpaid hflag)) rfl
  | finish hstate => exact h.close hstate (.inl rfl) _ _ _ _
  | liquidate hstate =>
      have hclosed : PoolState.liquidation.Closed := .inr rfl
      exact (h.close hstate hclosed _ _ _ _).markLiquidated (by simp)

end Book

/-! ## The state machine

The four edges are the ones of the source, and a path is any number of them. What a pool fixes on
its way is collected in `Pool.Progress`, which is reflexive and transitive, so that a fact about one
action becomes one about any run. -/

/-- The edges of the state machine. -/
inductive PoolState.Edge : PoolState → PoolState → Prop
  | settle : Edge .matching .execution
  | undo : Edge .matching .undone
  | finish : Edge .execution .finish
  | liquidate : Edge .execution .liquidation

namespace PoolState

/-- A path from one state to another. -/
abbrev Path : PoolState → PoolState → Prop := Relation.ReflTransGen Edge

/-- There is no way back to `MATCH`. -/
theorem Path.ne_matching {st st' : PoolState} (h : Path st st') (hst : st ≠ .matching) :
    st' ≠ .matching := by
  induction h with
  | refl => exact hst
  | tail _ hedge => cases hedge <;> simp

/-- There is no way out of a final state. -/
theorem Path.closed {st st' : PoolState} (h : Path st st') (hst : st.Closed) : st' = st := by
  induction h with
  | refl => rfl
  | tail _ hedge ih =>
      subst ih
      rcases hst with hst | hst <;> rw [hst] at hedge <;> cases hedge

/-- A settled pool stays settled. -/
theorem Path.settled {st st' : PoolState} (h : Path st st') (hst : st.Settled) : st'.Settled := by
  induction h with
  | refl => exact hst
  | tail _ hedge ih =>
      cases hedge with
      | settle => exact .inl rfl
      | undo => rcases ih with h | h | h <;> cases h
      | finish => exact .inr (.inl rfl)
      | liquidate => exact .inr (.inr rfl)

end PoolState

/-- What may differ between a pool earlier and later: the state only moves along edges, the supplies
and the settled amounts only change in `MATCH`, and the final amounts only until the pool closes. -/
structure Pool.Progress (pool pool' : Pool) : Prop where
  path : PoolState.Path pool.state pool'.state
  settled : pool.state ≠ .matching →
    pool'.lendSupply = pool.lendSupply ∧ pool'.borrowSupply = pool.borrowSupply ∧
      pool'.settleAmountLend = pool.settleAmountLend ∧
      pool'.settleAmountBorrow = pool.settleAmountBorrow
  closed : pool.state.Closed →
    pool'.finishAmountLend = pool.finishAmountLend ∧
      pool'.finishAmountBorrow = pool.finishAmountBorrow ∧
      pool'.liquidationAmountLend = pool.liquidationAmountLend ∧
      pool'.liquidationAmountBorrow = pool.liquidationAmountBorrow

/-- Nothing happened. -/
theorem Pool.Progress.refl (pool : Pool) : pool.Progress pool where
  path := .refl
  settled _ := ⟨rfl, rfl, rfl, rfl⟩
  closed _ := ⟨rfl, rfl, rfl, rfl⟩

/-- One stretch after another: where the first left `MATCH` or closed the pool, the second changes
nothing of it. -/
theorem Pool.Progress.trans {pool₁ pool₂ pool₃ : Pool} (h : pool₁.Progress pool₂)
    (h' : pool₂.Progress pool₃) : pool₁.Progress pool₃ where
  path := h.path.trans h'.path
  settled hst := by
    obtain ⟨h₁, h₂, h₃, h₄⟩ := h.settled hst
    -- `MATCH` is never entered again
    obtain ⟨h₁', h₂', h₃', h₄'⟩ := h'.settled (h.path.ne_matching hst)
    exact ⟨h₁'.trans h₁, h₂'.trans h₂, h₃'.trans h₃, h₄'.trans h₄⟩
  closed hst := by
    obtain ⟨h₁, h₂, h₃, h₄⟩ := h.closed hst
    -- a closed pool stays in the state it closed in
    obtain ⟨h₁', h₂', h₃', h₄'⟩ := h'.closed (h.path.closed hst ▸ hst)
    exact ⟨h₁'.trans h₁, h₂'.trans h₂, h₃'.trans h₃, h₄'.trans h₄⟩

/-- In `MATCH` everything may change; the state takes at most one edge. -/
theorem Pool.Progress.of_matching {pool pool' : Pool} (hm : pool.state = .matching)
    (hst : pool'.state = .matching ∨ PoolState.Edge .matching pool'.state) : pool.Progress pool' where
  path := by
    rw [hm]
    rcases hst with h | h
    · rw [h]
    · exact .single h
  settled h := absurd hm h
  closed h := by rcases h with h | h <;> simp [hm] at h

/-- In `EXECUTION` the final amounts are written. -/
theorem Pool.Progress.of_execution {pool pool' : Pool} (hx : pool.state = .execution)
    (hst : PoolState.Edge .execution pool'.state)
    (h : pool'.lendSupply = pool.lendSupply ∧ pool'.borrowSupply = pool.borrowSupply ∧
      pool'.settleAmountLend = pool.settleAmountLend ∧
      pool'.settleAmountBorrow = pool.settleAmountBorrow) : pool.Progress pool' where
  path := hx ▸ .single hst
  settled _ := h
  closed h := by rcases h with h | h <;> simp [hx] at h

/-- **One action progresses.** -/
theorem Book.Step.progress {b b' : Book} {a : Act} (hs : Step b a b') :
    b.pool.Progress b'.pool := by
  cases hs with
  | create hfresh => exact .of_matching rfl (.inl hfresh.state)
  | configure => exact ⟨.refl, fun _ => ⟨rfl, rfl, rfl, rfl⟩, fun _ => ⟨rfl, rfl, rfl, rfl⟩⟩
  | lend hstate => exact .of_matching hstate (.inl hstate)
  | borrow hstate => exact .of_matching hstate (.inl hstate)
  | settle hstate => exact .of_matching hstate (.inr .settle)
  | undo hstate => exact .of_matching hstate (.inr .undo)
  | finish hstate => exact .of_execution hstate .finish ⟨rfl, rfl, rfl, rfl⟩
  | liquidate hstate => exact .of_execution hstate .liquidate ⟨rfl, rfl, rfl, rfl⟩
  | _ => exact .refl _

/-- One step takes at most one edge. -/
theorem Book.Step.edge {b b' : Book} {a : Act} (hs : Step b a b') :
    b'.pool.state = b.pool.state ∨ PoolState.Edge b.pool.state b'.pool.state := by
  cases hs with
  | create hfresh => exact .inl hfresh.state
  | settle hstate => exact .inr (hstate ▸ .settle)
  | undo hstate => exact .inr (hstate ▸ .undo)
  | finish hstate => exact .inr (hstate ▸ .finish)
  | liquidate hstate => exact .inr (hstate ▸ .liquidate)
  | _ => exact .inl rfl

/-- A pool becomes settled by a settlement with supplies on both sides. -/
theorem Book.Step.settles {b b' : Book} {a : Act} (hs : Step b a b') (hbefore : ¬ b.pool.state.Settled)
    (hafter : b'.pool.state.Settled) : b.pool.state = .matching ∧ b'.lendInfo = b.lendInfo ∧
      0 < b.pool.lendSupply ∧ 0 < b.pool.borrowSupply ∧ ∃ lend borrow, a = .settle lend borrow := by
  cases hs with
  | create hfresh => exact absurd hfresh.state hafter.ne_matching
  | settle hstate hlend hborrow => exact ⟨hstate, rfl, hlend, hborrow, _, _, rfl⟩
  | undo => exact absurd rfl hafter.ne_undone
  | finish hstate | liquidate hstate => exact absurd (.inl hstate) hbefore
  | _ => exact absurd hafter hbefore

/-- The parameters stay valid. -/
theorem Book.Step.valid {b b' : Book} {a : Act} (hs : Step b a b') (h : b.pool.Valid) :
    b'.pool.Valid := by
  cases hs with
  | create hfresh => exact hfresh.toValid
  | _ => exact ⟨h.settleToken, h.pledgeToken, h.maxSupply, h.interestRate, h.pledgeRate,
      h.liquidationRate, h.times⟩

/-- What is fixed at creation: the two tokens, the rates and the times. -/
structure Pool.SameTerms (pool pool' : Pool) : Prop where
  settleToken : pool'.settleToken = pool.settleToken
  pledgeToken : pool'.pledgeToken = pool.pledgeToken
  interestRate : pool'.interestRate = pool.interestRate
  pledgeRate : pool'.pledgeRate = pool.pledgeRate
  endTime : pool'.endTime = pool.endTime
  settleTime : pool'.settleTime = pool.settleTime

theorem Pool.SameTerms.refl (pool : Pool) : pool.SameTerms pool := ⟨rfl, rfl, rfl, rfl, rfl, rfl⟩

theorem Pool.SameTerms.trans {pool₁ pool₂ pool₃ : Pool} (h : pool₁.SameTerms pool₂)
    (h' : pool₂.SameTerms pool₃) : pool₁.SameTerms pool₃ where
  settleToken := h'.settleToken.trans h.settleToken
  pledgeToken := h'.pledgeToken.trans h.pledgeToken
  interestRate := h'.interestRate.trans h.interestRate
  pledgeRate := h'.pledgeRate.trans h.pledgeRate
  endTime := h'.endTime.trans h.endTime
  settleTime := h'.settleTime.trans h.settleTime

/-- No action changes the terms of a pool that exists. -/
theorem Book.Step.terms {b b' : Book} {a : Act} (hs : Step b a b') (h : b.pool.Valid) :
    b.pool.SameTerms b'.pool := by
  cases hs with
  | create => exact absurd rfl h.settleToken
  | _ => exact ⟨rfl, rfl, rfl, rfl, rfl, rfl⟩

/-! ## Runs of the contract

All pools at once: by the simulation each step of the contract is one action on every book, so the
invariants of the books are invariants of the storage. Identifiers that were not given out are part
of it, since a creation has to find nothing under the next one. -/

/-- The whole storage is in order. -/
structure Storage.InOrder (s : Storage) : Prop where
  blank : s.Blank
  valid : ∀ p, s.Exists p → (s.pools p).Valid
  sound : ∀ p, (s.book p).Sound
  settlement : ∀ p, (s.book p).Settlement
  fees : s.lendFee ≤ MAX_FEE_RATE ∧ s.borrowFee ≤ MAX_FEE_RATE
  free : s.entered = false

theorem deployed_inOrder (admin multiSignature : Address) (ledger : Ledger) :
    (deployed admin multiSignature ledger).store.InOrder where
  blank _ _ := rfl
  valid _ hex := absurd (hex.1.trans_le hex.2) (Nat.lt_irrefl 0)
  sound _ := .blank _ rfl rfl
  settlement _ := .of_matching rfl fun _ => rfl
  fees := ⟨Nat.zero_le _, Nat.zero_le _⟩
  free := rfl

/-- The fees stay below their maximum. -/
theorem Effect.fees {env : Env} {s s' : Storage} {c : Call} {moves : List Move}
    (h : Effect env s c moves s') (hfees : s.lendFee ≤ MAX_FEE_RATE ∧ s.borrowFee ≤ MAX_FEE_RATE) :
    s'.lendFee ≤ MAX_FEE_RATE ∧ s'.borrowFee ≤ MAX_FEE_RATE := by
  cases h with
  | setFee hl hb => exact ⟨hl, hb⟩
  | depositLend =>
      obtain ⟨_, _, _, heq⟩ := Storage.recordLend_writes ..
      rwa [heq]
  | depositBorrow =>
      obtain ⟨_, _, _, heq⟩ := Storage.recordBorrow_writes ..
      rwa [heq]
  | _ => exact hfees

/-- Between transactions the guard is as it was. -/
theorem Effect.entered {env : Env} {s s' : Storage} {c : Call} {moves : List Move}
    (h : Effect env s c moves s') : s'.entered = s.entered := by
  cases h with
  | depositLend =>
      obtain ⟨_, _, _, heq⟩ := Storage.recordLend_writes ..
      rw [heq]
  | depositBorrow =>
      obtain ⟨_, _, _, heq⟩ := Storage.recordBorrow_writes ..
      rw [heq]
  | _ => rfl

/-- An effect that sets no state keeps the storage in order. -/
theorem Effect.inOrder {env : Env} {s s' : Storage} {c : Call} {moves : List Move}
    (h : Effect env s c moves s') (hs : s.InOrder) (hc : c.setsState = false) :
    s'.InOrder where
  blank := h.blank hs.blank
  valid p hex := by
    obtain ⟨a, hstep, _⟩ := h.lifecycle hs.blank hc p
    by_cases hold : s.Exists p
    · exact hstep.valid (hs.valid p hold)
    · exact (h.new_pool hold hex).toValid
  sound p := by
    obtain ⟨a, hstep, _⟩ := h.lifecycle hs.blank hc p
    exact (hs.sound p).step hstep
  settlement p := by
    obtain ⟨a, hstep, _⟩ := h.lifecycle hs.blank hc p
    exact (hs.settlement p).step (hs.sound p) hstep
  fees := h.fees hs.fees
  free := h.entered.trans hs.free

/-- So does a regular step. -/
theorem RegularStep.inOrder {w w' : World} {e : Event} (h : RegularStep w e w')
    (hw : w.store.InOrder) : w'.store.InOrder := by
  obtain ⟨hstep, hreg⟩ := h
  cases hstep with
  | call env c hrun =>
      obtain ⟨moves, heff, _⟩ := transaction_effect hreg.1 hrun
      exact heff.inOrder hw hreg.2
  | outside => exact hw

/-- Each step does one action to each pool. -/
theorem RegularStep.lifecycle {w w' : World} {e : Event} (h : RegularStep w e w')
    (hw : w.store.InOrder) (p : Nat) : ∃ a, Book.Step (w.store.book p) a (w'.store.book p) := by
  obtain ⟨hstep, hreg⟩ := h
  cases hstep with
  | call env c hrun =>
      obtain ⟨moves, heff, _⟩ := transaction_effect hreg.1 hrun
      obtain ⟨a, ha, _⟩ := heff.lifecycle hw.blank hreg.2 p
      exact ⟨a, ha⟩
  | outside => exact ⟨.idle, .idle⟩

/-- A creation adds a fresh pool. -/
theorem RegularStep.adds_pool {w w' : World} {env : Env} {c : Call} {ts : List Transfer}
    (h : RegularStep w (.call env c ts) w') (hc : c.creates = true) :
    ∃ pool : Pool, pool.Fresh ∧ env.timestamp < pool.endTime ∧
      w'.store = w.store.addPool pool := by
  obtain ⟨hstep, hreg⟩ := h
  cases hstep with
  | call env c hrun =>
      obtain ⟨moves, heff, -⟩ := transaction_effect hreg.1 hrun
      exact heff.adds_pool hc

/-- So does a run. -/
theorem run_inOrder {w w' : World} {es : List Event} (hw : w.store.InOrder)
    (hrun : Run RegularStep w es w') : w'.store.InOrder :=
  hrun.invariant (I := fun _ w => w.store.InOrder) hw fun h hs => hs.inOrder h

/-- **Every reachable storage is in order.** -/
theorem reachable_inOrder {admin multiSignature : Address} {ledger : Ledger} {es : List Event}
    {w : World} (hrun : Run RegularStep (deployed admin multiSignature ledger) es w) :
    w.store.InOrder :=
  run_inOrder (deployed_inOrder ..) hrun

/-- Along a run every pool only progresses. -/
theorem run_progress {w w' : World} {es : List Event} (hw : w.store.InOrder)
    (hrun : Run RegularStep w es w') (p : Nat) : (w.store.pools p).Progress (w'.store.pools p) := by
  have hinv : w'.store.InOrder ∧ (w.store.pools p).Progress (w'.store.pools p) := by
    refine hrun.invariant
      (I := fun _ w' => w'.store.InOrder ∧ (w.store.pools p).Progress (w'.store.pools p))
      ⟨hw, .refl _⟩ fun ⟨hin, hprog⟩ hs => ⟨hs.inOrder hin, ?_⟩
    obtain ⟨a, ha⟩ := hs.lifecycle hin p
    exact hprog.trans ha.progress
  exact hinv.2

/-- Along a run every pool that exists stays valid and keeps its terms. -/
theorem run_kept {w w' : World} {es : List Event} (hw : w.store.InOrder) {p : Nat}
    (hvalid : (w.store.pools p).Valid) (hrun : Run RegularStep w es w') :
    (w'.store.pools p).Valid ∧ (w.store.pools p).SameTerms (w'.store.pools p) := by
  have hinv : w'.store.InOrder ∧ (w'.store.pools p).Valid ∧
      (w.store.pools p).SameTerms (w'.store.pools p) := by
    refine hrun.invariant (I := fun _ w' => w'.store.InOrder ∧ (w'.store.pools p).Valid ∧
      (w.store.pools p).SameTerms (w'.store.pools p)) ⟨hw, hvalid, .refl _⟩ ?_
    intro es w e w' ⟨hin, hvalid, hterms⟩ hs
    obtain ⟨a, ha⟩ := hs.lifecycle hin p
    exact ⟨hs.inOrder hin, ha.valid hvalid, hterms.trans (ha.terms hvalid)⟩
  exact hinv.2

/-- **The state machine and the books.** At every reachable state, for every pool: the state has come
from `MATCH` along edges; the supplies are the sums over the lists, which hold exactly the accounts
with a positive amount, each once, and the lend supply is within its maximum; in `MATCH` no flag is
set; every further step takes at most one edge, and on every further run what settlement and closing
fixed stays fixed. -/
theorem pool_bookkeeping {admin multiSignature : Address} {ledger : Ledger} {es : List Event}
    {w : World} (hrun : Run RegularStep (deployed admin multiSignature ledger) es w) (p : Nat) :
    PoolState.Path .matching (w.store.pools p).state ∧
    ((w.store.pools p).lendSupply =
        ((w.store.lenders p).map fun u => (w.store.lendInfos p u).amount).sum ∧
      (w.store.pools p).borrowSupply =
        ((w.store.borrowers p).map fun u => (w.store.borrowInfos p u).pledgeAmount).sum ∧
      (w.store.lenders p).Nodup ∧ (w.store.borrowers p).Nodup ∧
      (∀ u, u ∈ w.store.lenders p ↔ 0 < (w.store.lendInfos p u).amount) ∧
      (∀ u, u ∈ w.store.borrowers p ↔ 0 < (w.store.borrowInfos p u).pledgeAmount) ∧
      (w.store.pools p).lendSupply ≤ (w.store.pools p).maxSupply) ∧
    ((w.store.pools p).state = .matching → ∀ u,
      (w.store.lendInfos p u).claimed = false ∧ (w.store.lendInfos p u).settled = false ∧
      (w.store.lendInfos p u).refunded = false ∧ (w.store.borrowInfos p u).settled = false) ∧
    (∀ e w', RegularStep w e w' → (w'.store.pools p).state = (w.store.pools p).state ∨
      PoolState.Edge (w.store.pools p).state (w'.store.pools p).state) ∧
    (∀ es' w', Run RegularStep w es' w' → (w.store.pools p).Progress (w'.store.pools p)) := by
  have hin := reachable_inOrder hrun
  have hsound := hin.sound p
  -- the path is the progress since deployment, the last part the progress from here on
  refine ⟨(run_progress (deployed_inOrder ..) hrun p).path, ?_, ?_, ?_, ?_⟩
  · exact ⟨hsound.lendSupply, hsound.borrowSupply, hsound.lenders.nodup, hsound.borrowers.nodup,
      hsound.lenders.mem, hsound.borrowers.mem, hsound.lendSupply_le⟩
  · intro hm u
    obtain ⟨hlend, hborrow⟩ := hsound.untouched hm
    exact ⟨(hlend u).1, (hlend u).2.1, (hlend u).2.2, (hborrow u).1⟩
  · intro e w' hs
    obtain ⟨a, ha⟩ := hs.lifecycle hin p
    exact ha.edge
  · intro es' w' hrun'
    exact run_progress hin hrun' p

theorem pool_bookkeeping_opening :
    ((World.afterOpening.store.pools 1).lendSupply =
      ((World.afterOpening.store.lenders 1).map fun u =>
        (World.afterOpening.store.lendInfos 1 u).amount).sum) ∧
    (World.afterOpening.store.lenders 1).Nodup :=
  have h := (pool_bookkeeping ((World.play_run World.opening_plays).mono HonestStep.regular) 1).2.1
  ⟨h.1, h.2.2.1⟩

end Pledge.Contract
