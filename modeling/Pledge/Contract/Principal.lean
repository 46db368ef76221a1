import Pledge.Arith.Rounding
import Pledge.Contract.Health
import Pledge.Contract.Solvency

/-!
# What a lender gets back

A lender's deposit is split at settlement into the part that was lent, for which there are sp tokens,
and the part that is refunded. Closing the pool raises the loan with interest, so a sp token is worth at
least one settle token (`Pool.Repaid`), and over a run the refund and the redemptions of a lender come
to the deposit less at most one unit (`Treated`).
-/

namespace Pledge.Contract

open Pledge.Evm Pledge.Arith

/-! ## What a step pays a lender

The amounts are read from the receipts of the run: what the settle token sent to an account in its
calls of `refundLend`, and in its calls of `withdrawLend`, against the sp tokens it handed in there.
-/

def Call.refundsLend (p : Nat) : Call → Bool
  | .refundLend q => q = p
  | _ => false

def Call.redeemsLend (p : Nat) : Call → Bool
  | .withdrawLend q _ => q = p
  | _ => false

/-- What `u` received of a token in the selected calls that `u` made. -/
def Event.paidTo (sel : Call → Bool) (u token : Address) : Event → Nat
  | .call env c ts => if sel c ∧ env.sender = u then receivedBy token u ts else 0
  | .outside => 0

@[simp] theorem Event.paidTo_call {sel : Call → Bool} {u token : Address} {env : Env} {c : Call}
    {ts : List Transfer} : Event.paidTo sel u token (.call env c ts) =
      if sel c ∧ env.sender = u then receivedBy token u ts else 0 := rfl

/-- The sp tokens of `p` that `u` handed in. -/
def Event.handedIn (p : Nat) (u : Address) : Event → Nat
  | .call env c _ => if env.sender = u then c.accepted p .lend else 0
  | .outside => 0

@[simp] theorem Event.handedIn_call {p : Nat} {u : Address} {env : Env} {c : Call}
    {ts : List Transfer} : Event.handedIn p u (.call env c ts) =
      if env.sender = u then c.accepted p .lend else 0 := rfl

/-- What a move pays `u`. -/
def Move.paid (token u : Address) : Move → Nat
  | .pay t recipient n => if t = token ∧ recipient = u then n else 0
  | _ => 0

/-- A payment, or a call to another token. -/
def Move.PaysOnly (token : Address) : Move → Prop
  | .pay t _ _ => t ≠ 0
  | .burn t _ _ => t ≠ token
  | _ => False

section Paid

variable {env : Env} {w w' : World} {token u : Address}

/-- A move adds to the receipt what it pays. -/
theorem Move.Ran.paid (hx : Exact env) {m : Move} (hm : m.PaysOnly token) (h : m.Ran env w w') :
    Evm.receivedBy token u w'.transfers = Evm.receivedBy token u w.transfers + m.paid token u := by
  cases m with
  | pay t recipient n =>
      rcases transferToken_moved hx hm h with ⟨rfl, rfl⟩ | hmoved
      · show _ = _ + if t = token ∧ recipient = u then 0 else 0
        rw [ite_self]
        rfl
      · exact hmoved.receivedBy token u
  | burn t holder n =>
      obtain ⟨b, hburn⟩ := h
      exact (hx.burn_touched hburn).receivedBy hm u
  | pull | mint | swap => exact absurd hm id

/-- So do several. -/
theorem Chain.paid (hx : Exact env) {ms : List Move} (hms : ∀ m ∈ ms, m.PaysOnly token)
    (hc : Chain env w ms w') :
    Evm.receivedBy token u w'.transfers =
      Evm.receivedBy token u w.transfers + (ms.map (Move.paid token u)).sum :=
  hc.measure (f := fun w => Evm.receivedBy token u w.transfers) (fun h => by rw [h.2])
    fun hm h => h.paid hx (hms _ hm)

end Paid

/-! ## The closing amounts

`finish` and `liquidate` set the amount for lenders to the loan with interest to the unit, since the
sale raises exactly this and sends the rest away. The amount is written once, and the terms it was
computed from do not change afterwards. -/

/-- A closed pool holds for its lenders the loan with interest: for the term of the pool, or up to the
liquidation. -/
structure Pool.Repaid (pool : Pool) (p : Nat) (es : List Event) : Prop where
  finish : pool.state = .finish →
    pool.finishAmountLend = pool.repayment (pool.endTime - pool.settleTime)
  liquidation : pool.state = .liquidation → ∃ env ts, .call env (.liquidate p) ts ∈ es ∧
    pool.liquidationAmountLend = pool.repayment (env.timestamp - pool.settleTime)

namespace Pool.Repaid

variable {pool pool' : Pool} {p : Nat} {es : List Event} {e : Event}

/-- A pool that has not closed owes nothing yet. -/
theorem of_open (h : ¬ pool.state.Closed) : pool.Repaid p es where
  finish hf := absurd (.inl hf) h
  liquidation hl := absurd (.inr hl) h

/-- A closed pool has at least the loan. -/
theorem le_lendPot (h : pool.Repaid p es) (hclosed : pool.state.Closed) :
    pool.settleAmountLend ≤ pool.lendPot := by
  unfold Pool.lendPot
  rcases hclosed with hf | hl
  · rw [if_pos hf, h.finish hf]
    exact pool.le_repayment _
  · obtain ⟨env, ts, -, hpot⟩ := h.liquidation hl
    rw [if_neg (by simp [hl]), hpot]
    exact pool.le_repayment _

/-- A step that keeps the terms of the pool keeps it. -/
theorem keep (h : pool.Repaid p es) (hstate : pool'.state = pool.state)
    (hterms : pool'.settleAmountLend = pool.settleAmountLend ∧ pool'.interestRate = pool.interestRate ∧
      pool'.endTime = pool.endTime ∧ pool'.settleTime = pool.settleTime ∧
      pool'.finishAmountLend = pool.finishAmountLend ∧
      pool'.liquidationAmountLend = pool.liquidationAmountLend) : pool'.Repaid p (es ++ [e]) := by
  obtain ⟨hlent, hrate, hend, hsettle, hfinish, hliquidation⟩ := hterms
  have hrepay (d : Nat) : pool'.repayment d = pool.repayment d := by
    unfold Pool.repayment
    rw [hlent, hrate]
  constructor
  · intro hf
    rw [hfinish, hrepay, hend, hsettle]
    exact h.finish (hstate ▸ hf)
  · intro hl
    obtain ⟨env, ts, hmem, hpot⟩ := h.liquidation (hstate ▸ hl)
    rw [hliquidation, hsettle]
    exact ⟨env, ts, List.mem_append_left _ hmem, by rw [hrepay, hpot]⟩

end Pool.Repaid

/-- Only a closing writes the closing amounts. -/
theorem Book.Step.repaid {b b' : Book} {a : Act} {p : Nat} {es : List Event} {e : Event}
    (hs : Book.Step b a b') (hopen : ∀ raised sold fee, a ≠ .finish raised sold fee ∧
      a ≠ .liquidate raised sold fee) (h : b.pool.Repaid p es) : b'.pool.Repaid p (es ++ [e]) := by
  cases hs with
  | create hfresh =>
      apply Pool.Repaid.of_open
      rw [hfresh.state]
      exact PoolState.matching_open
  | lend hstate | borrow hstate =>
      apply Pool.Repaid.of_open
      show ¬ b.pool.state.Closed
      rw [hstate]
      exact PoolState.matching_open
  | settle => exact .of_open PoolState.execution_open
  | undo => exact .of_open PoolState.undone_open
  | finish => exact absurd rfl (hopen _ _ _).1
  | liquidate => exact absurd rfl (hopen _ _ _).2
  | _ => exact h.keep rfl ⟨rfl, rfl, rfl, rfl, rfl, rfl⟩

/-- A finish writes the repayment for the term of the pool. -/
theorem Effect.finish_repaid {env : Env} {s s' : Storage} {p : Nat} {moves : List Move}
    {es : List Event} (h : Effect env s (.finish p) moves s') : (s'.pools p).Repaid p es := by
  cases h with
  | finish =>
      rw [Storage.setPool_pools, if_pos rfl]
      exact ⟨fun _ => rfl, nofun⟩

/-- A liquidation writes the repayment up to now. -/
theorem Effect.liquidate_repaid {env : Env} {s s' : Storage} {p : Nat} {moves : List Move}
    {es : List Event} {ts : List Transfer} (h : Effect env s (.liquidate p) moves s') :
    (s'.pools p).Repaid p (es ++ [.call env (.liquidate p) ts]) := by
  cases h with
  | liquidate =>
      show ((Storage.setPool s p _).pools p).Repaid p _
      rw [Storage.setPool_pools, if_pos rfl]
      exact ⟨nofun, fun _ => ⟨env, ts, List.mem_append_right _ (List.mem_singleton_self _), rfl⟩⟩

/-- **A step keeps the closing amounts right.** -/
theorem Acted.repaid {p : Nat} {w w' : World} {e : Event} {a : Act} {es : List Event}
    (ha : Acted p w e a w') (h : (w.store.pools p).Repaid p es) :
    (w'.store.pools p).Repaid p (es ++ [e]) := by
  cases e with
  | outside =>
      have hstep := ha.step
      rw [ha.outside rfl] at hstep
      exact hstep.repaid (fun _ _ _ => ⟨nofun, nofun⟩) h
  | call env c ts =>
      obtain ⟨-, moves, heff, -, hshown⟩ := ha.shown env c ts rfl
      cases a with
      | finish =>
          obtain ⟨rfl, -⟩ := hshown
          exact heff.finish_repaid
      | liquidate =>
          obtain ⟨rfl, -⟩ := hshown
          exact heff.liquidate_repaid
      | _ => exact ha.step.repaid (fun _ _ _ => ⟨nofun, nofun⟩) h

/-! ## One lender

What the flags of a lender say about its receipts. The refund of a settled pool is paid when its
flag is set and shows in the receipt of that call; a redemption is paid from the pot in proportion,
rounded down. -/

/-- The flag of a refund in a settled pool is set by `refundLend` only. -/
theorem Book.Step.refunded {b b' : Book} {a : Act} {u : Address} (hs : Book.Step b a b')
    (hst : b.pool.state.Settled) (hbefore : (b.lendInfo u).refunded = false)
    (hafter : (b'.lendInfo u).refunded = true) :
    a = .refundLend u (b.pool.lendRefund (b.lendInfo u)) := by
  have hkept (h : b'.lendInfo u = b.lendInfo u) :
      a = .refundLend u (b.pool.lendRefund (b.lendInfo u)) := by
    rw [h, hbefore] at hafter
    cases hafter
  have hother {v : Address} {info : LendInfo}
      (hinfo : info.refunded = (b.lendInfo v).refunded) (h : b' = b.setLendInfo v info) :
      a = .refundLend u (b.pool.lendRefund (b.lendInfo u)) := by
    subst h
    by_cases hv : u = v
    · subst hv
      simp [Book.setLendInfo, hinfo, hbefore] at hafter
    · exact hkept (by simp [Book.setLendInfo, hv])
  cases hs with
  | @refundLend _ v =>
      by_cases hv : u = v
      · rw [hv]
      · exact hkept (by simp [Book.setLendInfo, hv])
  | claimLend =>
      refine hother ?_ rfl
      rfl
  | emergencyLend hstate => exact absurd hstate hst.ne_undone
  | lend hstate =>
      rw [hstate] at hst
      exact absurd hst PoolState.matching_unsettled
  | create => exact absurd hst PoolState.matching_unsettled
  | _ => exact hkept rfl

/-- A refund goes to its caller. -/
theorem Effect.refundLend_sender {env : Env} {s s' : Storage} {p : Nat} {moves : List Move}
    (h : Effect env s (.refundLend p) moves s') {t u : Address} {n : Nat}
    (hmoves : moves = [.pay t u n]) : env.sender = u := by
  cases h with
  | refundLend =>
      cases hmoves
      rfl

/-- A redemption burns and pays. -/
theorem Effect.withdrawLend_moves {env : Env} {s s' : Storage} {p n : Nat} {moves : List Move}
    (h : Effect env s (.withdrawLend p n) moves s') :
    (s.pools p).state.Closed ∧ (s.pools p).settleAmountLend ≠ 0 ∧ (s.pools p).spToken ≠ 0 ∧
      moves = [.burn (s.pools p).spToken env.sender n,
        .pay (s.pools p).settleToken env.sender ((s.pools p).lendRedemption n)] := by
  cases h with
  | withdrawLend hex hstate hamount hsp htime hsettle => exact ⟨hstate, hsettle, hsp, rfl⟩

section Lender

variable {p : Nat} {u : Address} {w w' : World} {e : Event} {a : Act}

/-- The receipt of a refund shows it. -/
theorem Acted.refund_paid (ha : Acted p w e a w') (hx : e.Honest)
    (hvalid : (w.store.pools p).Valid) {n : Nat} (h : a = .refundLend u n) :
    e.paidTo (Call.refundsLend p) u (w.store.pools p).settleToken = n := by
  cases e with
  | outside =>
      rw [ha.outside rfl] at h
      cases h
  | call env c ts =>
      obtain ⟨rfl, moves, heff, hchain, hshown⟩ := ha.shown env c ts rfl
      subst h
      obtain ⟨rfl, rfl⟩ := hshown
      have honly : ∀ m ∈ [Move.pay (w.store.pools p).settleToken u n],
          m.PaysOnly (w.store.pools p).settleToken := by
        intro m hm
        rw [List.mem_singleton.mp hm]
        exact hvalid.settleToken
      have hreceipt := hchain.paid (u := u) hx.1 honly
      rw [Event.paidTo_call, if_pos ⟨by simp [Call.refundsLend], heff.refundLend_sender rfl⟩, hreceipt]
      simp [Move.paid, receivedBy, volume]

/-- The receipt of a redemption shows the share of the pot. -/
theorem Acted.redemption_paid (ha : Acted p w e a w') (hx : e.Honest) (hok : Dedicated p .lend w e w')
    (hvalid : (w.store.pools p).Valid) :
    e.paidTo (Call.redeemsLend p) u (w.store.pools p).settleToken =
      (w.store.pools p).lendRedemption (e.handedIn p u) := by
  have hzero : (w.store.pools p).lendRedemption 0 = 0 := by
    unfold Pool.lendRedemption
    rw [Nat.mul_zero, Nat.zero_div]
  cases e with
  | outside => exact hzero.symm
  | call env c ts =>
      obtain ⟨rfl, moves, heff, hchain, -⟩ := ha.shown env c ts rfl
      rw [Event.paidTo_call, Event.handedIn_call]
      by_cases hu : env.sender = u
      · rw [if_pos hu]
        cases c with
        | withdrawLend q n =>
            by_cases hq : q = p
            · subst hq
              obtain ⟨-, -, hsp, rfl⟩ := heff.withdrawLend_moves
              have hexcl := hok.exclusive hsp
              -- the only payment in the settle token is that of the redemption
              have honly : ∀ m ∈ [Move.burn (w.store.pools q).spToken env.sender n,
                  .pay (w.store.pools q).settleToken env.sender
                    ((w.store.pools q).lendRedemption n)],
                  m.PaysOnly (w.store.pools q).settleToken := by
                intro m hm
                simp only [List.mem_cons, List.not_mem_nil, or_false] at hm
                rcases hm with rfl | rfl
                · exact fun heq => (hexcl.assets q).1 heq.symm
                · exact hvalid.settleToken
              have hreceipt := hchain.paid (u := u) hx.1 honly
              rw [if_pos ⟨by simp [Call.redeemsLend], hu⟩, hreceipt]
              simp [Move.paid, receivedBy, volume, Call.accepted, hu]
            · rw [if_neg (by simp [Call.redeemsLend, hq])]
              simp [Call.accepted, hq, hzero]
        | _ => exact hzero.symm
      · rw [if_neg (fun h => hu h.2), if_neg hu, hzero]

/-- Sp tokens are handed in to a closed pool that made a loan. -/
theorem Acted.handedIn_closed (ha : Acted p w e a w') (hne : e.handedIn p u ≠ 0) :
    (w.store.pools p).state.Closed ∧ (w.store.pools p).settleAmountLend ≠ 0 := by
  cases e with
  | outside => exact absurd rfl hne
  | call env c ts =>
      obtain ⟨-, moves, heff, -, -⟩ := ha.shown env c ts rfl
      rw [Event.handedIn_call] at hne
      split at hne
      · cases c with
        | withdrawLend q n =>
            by_cases hq : q = p
            · subst hq
              obtain ⟨hclosed, hsettle, -⟩ := heff.withdrawLend_moves
              exact ⟨hclosed, hsettle⟩
            · exact absurd (if_neg hq) hne
        | _ => exact absurd rfl hne
      · exact absurd rfl hne

end Lender

/-! ## Over a run

The invariant for one lender has three parts: the refund is in the receipts once its flag is set,
nothing is redeemed before the pool is closed, and what was redeemed paid at least the tokens that
were handed in and at most their share at once. The last part is superadditivity of the floor: the
floors of the parts do not exceed the floor of the sum. -/

/-- What the lender `u` was paid in the steps `ls`, which led to `w`: the refund, once its flag is set,
and for the sp tokens handed in at least as many settle tokens, and not more than their share. -/
structure Treated (p : Nat) (u token : Address) (ls : List (Event × Act)) (w : World) : Prop where
  refund : (w.store.pools p).state.Settled → (w.store.lendInfos p u).refunded = true →
    (w.store.pools p).lendRefund (w.store.lendInfos p u) ≤
      total (fun l => l.1.paidTo (Call.refundsLend p) u token) ls
  waiting : ¬ (w.store.pools p).state.Closed →
    total (fun l => l.1.handedIn p u) ls = 0 ∧
      total (fun l => l.1.paidTo (Call.redeemsLend p) u token) ls = 0
  share : (w.store.pools p).state.Closed →
    total (fun l => l.1.paidTo (Call.redeemsLend p) u token) ls ≤
      (w.store.pools p).lendRedemption (total (fun l => l.1.handedIn p u) ls)
  worth : (w.store.pools p).state.Closed → total (fun l => l.1.handedIn p u) ls ≤
    total (fun l => l.1.paidTo (Call.redeemsLend p) u token) ls

namespace Treated

variable {p : Nat} {u lendToken borrowToken : Address} {w w' : World} {ls : List (Event × Act)}
  {e : Event} {a : Act}

/-- Before settlement there is nothing to show. -/
theorem of_matching (h : (w.store.pools p).state = .matching) : Treated p u lendToken [] w where
  refund hst := by
    rw [h] at hst
    exact absurd hst PoolState.matching_unsettled
  waiting _ := ⟨rfl, rfl⟩
  share _ := Nat.zero_le _
  worth _ := Nat.le_refl _

/-- The refund flag is set in a settled pool, by the call that paid the refund. -/
theorem step_refund (h : Treated p u lendToken ls w)
    (hs : SlotStep p .lend lendToken borrowToken w (e, a) w')
    (hst' : (w'.store.pools p).state.Settled) (hflag' : (w'.store.lendInfos p u).refunded = true) :
    (w'.store.pools p).lendRefund (w'.store.lendInfos p u) ≤
      total (fun l => l.1.paidTo (Call.refundsLend p) u lendToken) (ls ++ [(e, a)]) := by
  obtain ⟨halive, ⟨hx, -⟩, ha⟩ := hs
  rw [total_snoc]
  by_cases hst : (w.store.pools p).state.Settled
  · -- what the refund is computed from is frozen
    have hf := ha.step.frozen hst.ne_matching
    have hsame : (w'.store.pools p).lendRefund (w'.store.lendInfos p u) =
        (w.store.pools p).lendRefund (w.store.lendInfos p u) := by
      have hlent : (w'.store.lendInfos p u).amount = (w.store.lendInfos p u).amount :=
        congrFun hf.lent u
      have hsupply : (w'.store.pools p).lendSupply = (w.store.pools p).lendSupply := hf.lendSupply
      have hloan : (w'.store.pools p).settleAmountLend = (w.store.pools p).settleAmountLend :=
        hf.settleAmountLend
      unfold Pool.lendRefund
      rw [hlent, hsupply, hloan]
    rw [hsame]
    cases hflag : (w.store.lendInfos p u).refunded with
    | true => exact (h.refund hst hflag).trans (Nat.le_add_right _ _)
    | false =>
        have hact := ha.step.refunded hst hflag hflag'
        have hpaid := ha.refund_paid hx halive.valid hact
        rw [halive.settleToken] at hpaid
        rw [hpaid]
        exact Nat.le_add_left _ _
  · -- the pool is being settled, and nobody has taken anything yet
    obtain ⟨hm, hinfo, -⟩ := ha.step.settles hst hst'
    have hclear : ((w'.store.book p).lendInfo u).refunded = false := by
      rw [hinfo]
      exact (((ha.inOrder.sound p).untouched hm).lend u).2.2
    rw [Storage.book_lendInfo, hflag'] at hclear
    cases hclear

/-- **A step keeps it.** -/
theorem step (h : Treated p u lendToken ls w)
    (hs : SlotStep p .lend lendToken borrowToken w (e, a) w')
    (hpot : (w.store.pools p).state.Closed →
      (w.store.pools p).settleAmountLend ≤ (w.store.pools p).lendPot) :
    Treated p u lendToken (ls ++ [(e, a)]) w' := by
  have hrefund := h.step_refund hs
  obtain ⟨halive, ⟨hx, hok⟩, ha⟩ := hs
  have hprogress := ha.step.progress
  have hpaid := ha.redemption_paid (u := u) hx hok halive.valid
  rw [halive.settleToken] at hpaid
  by_cases hclosed : (w.store.pools p).state.Closed
  · -- the pot and the loan stay as they are
    have hstate : (w'.store.pools p).state = (w.store.pools p).state := hprogress.path.closed hclosed
    have hloan : (w'.store.pools p).settleAmountLend = (w.store.pools p).settleAmountLend :=
      (hprogress.settled hclosed.settled.ne_matching).2.2.1
    have hsame : (w'.store.pools p).lendPot = (w.store.pools p).lendPot := by
      obtain ⟨hfinish, -, hliquidation, -⟩ := hprogress.closed hclosed
      rw [Storage.book_pool, Storage.book_pool] at hfinish hliquidation
      unfold Pool.lendPot
      rw [hstate, hfinish, hliquidation]
    refine ⟨hrefund, fun hopen => absurd (hstate ▸ hclosed) hopen, fun _ => ?_, fun _ => ?_⟩
    · rw [total_snoc, total_snoc, hpaid]
      have hshare := h.share hclosed
      unfold Pool.lendRedemption at hshare ⊢
      rw [hsame, hloan, Nat.mul_add]
      exact (Nat.add_le_add_right hshare _).trans (Nat.div_add_div_le_add_div)
    · rw [total_snoc, total_snoc, hpaid]
      apply Nat.add_le_add (h.worth hclosed)
      rcases Nat.eq_zero_or_pos (e.handedIn p u) with h0 | hpos
      · rw [h0]
        exact Nat.zero_le _
      · have hlent := (ha.handedIn_closed hpos.ne').2
        exact le_share (Nat.pos_of_ne_zero hlent) (hpot hclosed) _
  · -- nothing has been redeemed, and nothing is now
    have hnone : e.handedIn p u = 0 := by
      by_contra hne
      exact hclosed (ha.handedIn_closed hne).1
    rw [hnone, Pool.lendRedemption, Nat.mul_zero, Nat.zero_div] at hpaid
    obtain ⟨hhanded, hredeemed⟩ := h.waiting hclosed
    have htotals : total (fun l => l.1.handedIn p u) (ls ++ [(e, a)]) = 0 ∧
        total (fun l => l.1.paidTo (Call.redeemsLend p) u lendToken) (ls ++ [(e, a)]) = 0 := by
      rw [total_snoc, total_snoc, hhanded, hredeemed, hnone, hpaid]
      exact ⟨rfl, rfl⟩
    refine ⟨hrefund, fun _ => htotals, fun _ => ?_, fun _ => ?_⟩
    · rw [htotals.2]
      exact Nat.zero_le _
    · rw [htotals.1]
      exact Nat.zero_le _

end Treated

/-- **A run keeps the closing amounts and every lender treated.** -/
theorem SlotStep.treated {p : Nat} {lendToken borrowToken : Address} {w₁ w : World}
    {ls : List (Event × Act)} (h₁ : (w₁.store.pools p).state = .matching)
    (hrun : Run (SlotStep p .lend lendToken borrowToken) w₁ ls w) :
    (w.store.pools p).Repaid p (ls.map Prod.fst) ∧ ∀ u, Treated p u lendToken ls w := by
  refine hrun.invariant (I := fun ls w => (w.store.pools p).Repaid p (ls.map Prod.fst) ∧
    ∀ u, Treated p u lendToken ls w) ?_ ?_
  · refine ⟨.of_open ?_, fun u => .of_matching h₁⟩
    rw [h₁]
    exact PoolState.matching_open
  · intro ls w l w' ih hs
    obtain ⟨e, a⟩ := l
    obtain ⟨hrepaid, htreated⟩ := ih
    constructor
    · rw [List.map_append]
      exact hs.2.2.repaid hrepaid
    · intro u
      exact (htreated u).step hs fun hclosed => hrepaid.le_lendPot hclosed

/-- Nobody holds more sp tokens than were lent for: what is held circulates, what circulates was
minted, and what was minted is the lenders' shares of the loan. -/
theorem SlotStep.held_le {p : Nat} {lendToken borrowToken : Address} {w₁ w : World}
    {ls : List (Event × Act)}
    (hempty : ∀ u, w₁.ledger.balance ((w₁.store.pools p).claimToken .lend) u = 0)
    (hfresh : (w₁.store.pools p).Fresh) (hbook : w₁.store.book p = { pool := w₁.store.pools p })
    (hrun : Run (SlotStep p .lend lendToken borrowToken) w₁ ls w)
    (hst : (w.store.pools p).state.Settled) (hsp : (w.store.pools p).spToken ≠ 0) (u : Address) :
    w.ledger.balance (w.store.pools p).spToken u ≤ (w.store.pools p).settleAmountLend := by
  have hbooks := Acted.books hfresh hbook (hrun.mono fun hs => hs.2.2)
  have hheld := ((SlotStep.backed hempty hrun).circulating hsp).le u
  have hminted : total Act.spMinted ([.create (w₁.store.pools p)] ++ ls.map Prod.snd) ≤
      (w.store.pools p).settleAmountLend := spClaims.le_budget hbooks hst
  have hsame : total Act.spMinted ([.create (w₁.store.pools p)] ++ ls.map Prod.snd) =
      total (fun l => l.2.spMinted) ls := by
    simp [total, Act.spMinted, Function.comp_def]
  rw [hsame] at hminted
  exact hheld.trans ((Nat.sub_le _ _).trans hminted)

/-- `createPoolInfo` insists on an sp token. -/
theorem RegularStep.spToken_ne {w₀ w₁ : World} {env : Env}
    {settleTime endTime interestRate maxSupply martgageRate : Nat}
    {lendToken borrowToken spToken jpToken : Address} {autoLiquidateThreshold : Nat}
    {ts : List Transfer}
    (hcreate : RegularStep w₀ (.call env (.createPoolInfo settleTime endTime interestRate maxSupply
      martgageRate lendToken borrowToken spToken jpToken autoLiquidateThreshold) ts) w₁) :
    spToken ≠ 0 := by
  obtain ⟨hstep, hreg⟩ := hcreate
  cases hstep with
  | call env c hrun =>
      obtain ⟨moves, heff, -⟩ := transaction_effect hreg.1 hrun
      generalize w₁.store = s' at heff
      cases heff with
      | createPoolInfo htime hsp => exact hsp

/-! ## A redemption that is asked for

The other direction: a redemption that a holder asks for goes through. For this the two tokens have
to work for this call, the contract has to have the money, and the product of the source has to fit.
The last condition is not met by every position, which is what the counterexample below shows. -/

/-- A holder hands in sp tokens of `p` once redemption is open; the settle token pays the holder what the
contract has, the sp token burns what the holder has, and the contract has what it is to pay. -/
structure Redeeming (env : Env) (w : World) (p n : Nat) : Prop extends Exact env where
  exclusive : w.store.Exclusive (w.store.pools p).spToken p .lend
  pays : ∀ m v, m ≤ v.ledger.balance (w.store.pools p).settleToken env.this →
    ∃ v', (env.transfer (w.store.pools p).settleToken env.sender m).run v = .ok (true, v')
  burns : ∀ m v, m ≤ v.ledger.balance (w.store.pools p).spToken env.sender →
    ∃ b v', (env.burn (w.store.pools p).spToken env.sender m).run v = .ok (b, v')
  pos : 0 < n
  held : n ≤ w.ledger.balance (w.store.pools p).spToken env.sender
  opened : (w.store.pools p).redeemTime < env.timestamp
  funds : (w.store.pools p).lendRedemption n ≤
    w.ledger.balance (w.store.pools p).settleToken env.this

/-- With the standard tokens it is enough that the holder has the sp tokens and the contract the
money. -/
theorem World.standard_redeeming {st : Setting} {w : World} {p n : Nat}
    (hsender : st.sender ≠ st.this) (hrouter : st.router ≠ st.this)
    (hexclusive : w.store.Exclusive (w.store.pools p).spToken p .lend) (hn : 0 < n)
    (hheld : n ≤ w.ledger.balance (w.store.pools p).spToken st.sender)
    (hopened : (w.store.pools p).redeemTime < st.timestamp)
    (hfunds : (w.store.pools p).lendRedemption n ≤
      w.ledger.balance (w.store.pools p).settleToken st.this) :
    Redeeming (standardEnv st) w p n where
  toExact := standard_exact hsender hrouter
  exclusive := hexclusive
  pays _ _ h := standard_pays _ h
  burns _ _ h := standard_burns h
  pos := hn
  held := hheld
  opened := hopened
  funds := hfunds

/-- **A redemption succeeds** when its product is in range, and pays at least what is handed in. -/
theorem withdrawLend_pays {env : Env} {w : World} {p n : Nat} (h : Redeeming env w p n)
    (hfree : w.store.entered = false) (hex : w.store.Exists p)
    (hclosed : (w.store.pools p).state.Closed) (hsp : (w.store.pools p).spToken ≠ 0)
    (hsettle : (w.store.pools p).settleToken ≠ 0) (hlent : (w.store.pools p).settleAmountLend ≠ 0)
    (hpot : (w.store.pools p).settleAmountLend ≤ (w.store.pools p).lendPot)
    (hfits : (w.store.pools p).lendPot * n < Tx.uint256) :
    ∃ w', (withdrawLend env p n).run w = .ok ((), w') ∧
      w.ledger.balance (w.store.pools p).settleToken env.sender + n ≤
        w'.ledger.balance (w.store.pools p).settleToken env.sender := by
  have hworth : n ≤ (w.store.pools p).lendRedemption n := le_share (Nat.pos_of_ne_zero hlent) hpot n
  have hpos : 0 < (w.store.pools p).lendRedemption n := h.pos.trans_le hworth
  -- the burn leaves the settle tokens alone
  obtain ⟨b, w₁, hburn⟩ := h.burns _ w.guarded h.held
  have hkept : w₁.ledger.balance (w.store.pools p).settleToken =
      w.ledger.balance (w.store.pools p).settleToken :=
    (h.burn_touched hburn).balance _ (h.exclusive.assets p).1
  have hfunds := h.funds
  rw [← hkept] at hfunds
  obtain ⟨w₂, hpay⟩ := h.pays _ w₁ hfunds
  refine ⟨w₂.mapStore (·.setEntered false), ?_, ?_⟩
  · refine (withdrawLend_ok h.toQuiet).mpr ⟨hfree, hex, h.pos, hclosed, hsp, h.opened, hfits, hlent,
      hpos, b, w₁, hburn, w₂, ?_, rfl⟩
    simp only [transferToken, Tx.rules]
    exact .inr ⟨hpos.ne', .inr ⟨hsettle, true, w₂, hpay, trivial, rfl⟩⟩
  · have hmoved := (h.transfer_moved hpay).2
    show _ ≤ w₂.ledger.balance _ _
    rw [hmoved.balance, Function.update_self, Holdings.move_dst _ h.external, hkept]
    exact Nat.add_le_add_left hworth _

/-- **Lenders keep their principal.** A pool of `createPoolInfo` whose sp token is dedicated to it, in
any state in which it has closed: the closing amount is the loan with interest; a redemption whose
product with the closing amount is in range succeeds and pays at least what is handed in; redeeming in
pieces pays at most what redeeming at once pays; and a lender who took the refund, where it is
positive, and redeemed the sp tokens of the deposit has the deposit back but for one unit. -/
theorem lenders_keep_principal {admin multiSignature : Address} {ledger : Ledger}
    {es₀ es : List Event} {w₀ w₁ w : World} {env : Env}
    {settleTime endTime interestRate maxSupply martgageRate : Nat}
    {lendToken borrowToken spToken jpToken : Address} {autoLiquidateThreshold : Nat}
    {ts : List Transfer} {p : Nat}
    (hreach : Run RegularStep (deployed admin multiSignature ledger) es₀ w₀)
    (hcreate : RegularStep w₀ (.call env (.createPoolInfo settleTime endTime interestRate maxSupply
      martgageRate lendToken borrowToken spToken jpToken autoLiquidateThreshold) ts) w₁)
    (hp : p = w₀.store.poolCounter + 1) (hsp : ∀ u, w₀.ledger.balance spToken u = 0)
    (hrun : Run (Restrict Step fun w e w' => e.Honest ∧ Dedicated p .lend w e w') w₁ es w)
    (hclosed : (w.store.pools p).state.Closed) :
    (w.store.pools p).Repaid p es ∧
      (∀ env n, Redeeming env w p n → (w.store.pools p).lendPot * n < Tx.uint256 →
        ∃ w', (withdrawLend env p n).run w = .ok ((), w') ∧
          w.ledger.balance lendToken env.sender + n ≤ w'.ledger.balance lendToken env.sender) ∧
      ∀ u, total (Event.paidTo (Call.redeemsLend p) u lendToken) es ≤
          (w.store.pools p).lendRedemption (total (Event.handedIn p u) es) ∧
        ((0 < (w.store.pools p).lendRefund (w.store.lendInfos p u) →
            (w.store.lendInfos p u).refunded = true) →
          (w.store.pools p).spShare (w.store.lendInfos p u) ≤ total (Event.handedIn p u) es →
          (w.store.lendInfos p u).amount ≤
            total (Event.paidTo (Call.refundsLend p) u lendToken) es +
              total (Event.paidTo (Call.redeemsLend p) u lendToken) es + 1) := by
  have hin₀ := reachable_inOrder hreach
  have hin₁ := hcreate.inOrder hin₀
  obtain ⟨hledger, halive₁, hspToken, -, hfresh, hbook⟩ := hcreate.created hin₀ hp
  -- the run, labelled with the actions on the pool
  obtain ⟨ls, rfl, hlabelled⟩ := run_acted (fun h => h.1.regular) hin₁ p hrun
  have halong : Run (SlotStep p .lend lendToken borrowToken) w₁ ls w :=
    hlabelled.along halive₁ fun h hs => h.step hs.2
  have halive : Alive p lendToken borrowToken w :=
    halong.invariant (I := fun _ w => Alive p lendToken borrowToken w) halive₁
      fun h hs => h.step hs.2.2
  have hin : w.store.InOrder := run_inOrder hin₁ (hrun.mono fun hs => ⟨hs.1, hs.2.1.regular⟩)
  have hsp' : (w.store.pools p).spToken ≠ 0 := by
    refine halong.invariant (I := fun _ w => (w.store.pools p).claimToken .lend ≠ 0) ?_ ?_
    · rw [hspToken]
      exact hcreate.spToken_ne
    · intro ls w l w' hne hs
      exact hs.2.2.claimToken_ne hne
  obtain ⟨hrepaid, htreated⟩ := SlotStep.treated hfresh.state halong
  refine ⟨hrepaid, ?_, ?_⟩
  · intro env n hredeem hfits
    have hex := hin.exists (p := p) hclosed.settled.ne_matching
    have hminted := SlotStep.held_le (by rwa [hspToken, hledger]) hfresh hbook halong
      hclosed.settled hsp' env.sender
    have hlent : (w.store.pools p).settleAmountLend ≠ 0 :=
      (hredeem.pos.trans_le (hredeem.held.trans hminted)).ne'
    have hpaid := withdrawLend_pays hredeem hin.free hex hclosed hsp' halive.valid.settleToken hlent
      (hrepaid.le_lendPot hclosed) hfits
    rwa [halive.settleToken] at hpaid
  · intro u
    have h := htreated u
    rw [total_map, total_map, total_map]
    refine ⟨h.share hclosed, ?_⟩
    intro htaken hredeemed
    have hsettlement := hin.settlement p
    have hsplit := le_two_shares (hsettlement.supplied hclosed.settled).1
      (hsettlement.le hclosed.settled).1 (w.store.lendInfos p u).amount
    have hrefund : (w.store.pools p).lendRefund (w.store.lendInfos p u) ≤
        total (fun l => l.1.paidTo (Call.refundsLend p) u lendToken) ls := by
      rcases Nat.eq_zero_or_pos ((w.store.pools p).lendRefund (w.store.lendInfos p u)) with h0 | hpos
      · rw [h0]
        exact Nat.zero_le _
      · exact h.refund hclosed.settled (htaken hpos)
    have hworth := hredeemed.trans (h.worth hclosed)
    calc (w.store.lendInfos p u).amount
        ≤ (w.store.pools p).lendRefund (w.store.lendInfos p u) +
            (w.store.pools p).spShare (w.store.lendInfos p u) + 1 := hsplit
      _ ≤ _ := Nat.add_le_add_right (Nat.add_le_add hrefund hworth) 1

namespace World

/-- The pool of the opening is finished before anyone redeems. -/
def finishing : List (Setting × Call) :=
  supplies ++ [(setting 11 110 10, .claimLend 1), (setting 10 1000 10, .finish 1)]

theorem finishing_run : Run (GuardedStep 1) afterCreation (afterCreation.events finishing)
    (afterCreation.play finishing) :=
  respected_run afterCreation_inOrder (by decide +kernel) (by decide +kernel)

theorem finishing_redeeming :
    Redeeming (standardEnv (setting 11 1001 10)) (afterCreation.play finishing) 1 1000 := by
  have hin : (afterCreation.play finishing).store.InOrder := run_inOrder afterCreation_inOrder
    (finishing_run.mono GuardedStep.regular)
  have hexclusive := respects_exclusive hin (p := 1) (c := .withdrawLend 1 1000) (by decide +kernel)
    .lend (by decide +kernel)
  exact standard_redeeming (by decide) (by decide) hexclusive (by decide) (by decide +kernel)
    (by decide +kernel) (by decide +kernel)

end World

theorem lenders_keep_principal_finishing :
    ((World.afterCreation.play World.finishing).store.pools 1).Repaid 1
        (World.afterCreation.events World.finishing) ∧
      (∃ w', (withdrawLend (standardEnv (World.setting 11 1001 10)) 1 1000).run
          (World.afterCreation.play World.finishing) = .ok ((), w') ∧
        (World.afterCreation.play World.finishing).ledger.balance 1 11 + 1000 ≤
          w'.ledger.balance 1 11) := by
  have h := lenders_keep_principal (World.setup_run.mono GuardedStep.regular)
    World.creation_honest.regular rfl (World.claim_tokens_fresh 3 (by decide))
    (World.finishing_run.mono fun hs => ⟨hs.1, hs.2.1, hs.2.2.1 .lend⟩) (by decide +kernel)
  exact ⟨h.1, h.2.1 _ 1000 World.finishing_redeeming (by decide +kernel)⟩

/-! A deposit of `2 ^ 128 - 1` lent for a year: the loan with interest times the sp tokens of the only
lender leaves `uint256`. -/

namespace World

def largeLedger : Ledger where
  balance token a := if token ≤ 2 ∧ (a = 11 ∨ a = 12 ∨ a = 200) then 2 ^ 160 else 0
  allowance _ _ _ := 2 ^ 160

def largeSetup : World := (deployed 10 50 largeLedger).play setup

def largeCreation : Setting × Call :=
  (setting 10 0 10, .createPoolInfo 100 31536100 1000 (2 ^ 128) 15000 1 2 3 4 12000)

def largePool : World := largeSetup.next (standardEnv largeCreation.1) largeCreation.2

def largeFinishing : List (Setting × Call) :=
  [(setting 11 10 10, .depositLend 1 (2 ^ 128 - 1)),
    (setting 12 10 10, .depositBorrow 1 (2 ^ 129)),
    (setting 10 100 10, .settle 1),
    (setting 11 110 10, .claimLend 1),
    (setting 10 31536101 10, .finish 1)]

end World

/-- The only lender cannot redeem the whole position at once, though everything else is in place. -/
theorem principal_stuck : ∃ es₀ w₀ ts w₁ es w,
    Run RegularStep (deployed 10 50 World.largeLedger) es₀ w₀ ∧
      RegularStep w₀ (.call (standardEnv World.largeCreation.1) World.largeCreation.2 ts) w₁ ∧
      1 = w₀.store.poolCounter + 1 ∧ (∀ u, w₀.ledger.balance 3 u = 0) ∧
      Run (Restrict Step fun w e w' => e.Honest ∧ Dedicated 1 .lend w e w') w₁ es w ∧
      (w.store.pools 1).state.Closed ∧ w.store.globalPaused = false ∧
      ∃ env n, Redeeming env w 1 n ∧ ¬ ∃ w', (withdrawLend env 1 n).run w = .ok ((), w') := by
  have hsetup : Run HonestStep (deployed 10 50 World.largeLedger)
      ((deployed 10 50 World.largeLedger).events World.setup) World.largeSetup :=
    World.play_run (by decide +kernel)
  have hcreation : RegularStep World.largeSetup
      (.call (standardEnv World.largeCreation.1) World.largeCreation.2 World.largePool.transfers)
      World.largePool :=
    ⟨World.next_step (by decide +kernel), (standard_exact (by decide) (by decide)).toQuiet, rfl⟩
  have hin₀ := reachable_inOrder (hsetup.mono HonestStep.regular)
  have hin₁ := hcreation.inOrder hin₀
  have hrun : Run (GuardedStep 1) World.largePool (World.largePool.events World.largeFinishing)
      (World.largePool.play World.largeFinishing) :=
    World.respected_run hin₁ (by decide +kernel) (by decide +kernel)
  have hin := run_inOrder hin₁ (hrun.mono GuardedStep.regular)
  refine ⟨_, World.largeSetup, _, World.largePool, _, World.largePool.play World.largeFinishing,
    hsetup.mono HonestStep.regular, hcreation, by decide +kernel, ?_,
    hrun.mono fun hs => ⟨hs.1, hs.2.1, hs.2.2.1 .lend⟩, by decide +kernel, by decide +kernel,
    standardEnv (World.setting 11 31536200 10), 2 ^ 128 - 1, ?_, ?_⟩
  · intro u
    have hledger : World.largeSetup.ledger.balance = World.largeLedger.balance := rfl
    rw [hledger]
    simp [World.largeLedger]
  · have hexclusive := World.respects_exclusive hin (p := 1) (c := .withdrawLend 1 (2 ^ 128 - 1))
      (by decide +kernel) .lend (by decide +kernel)
    exact World.standard_redeeming (by decide) (by decide) hexclusive (by decide)
      (by decide +kernel) (by decide +kernel) (by decide +kernel)
  · rintro ⟨w', hrun⟩
    -- the product of the pot and the tokens handed in leaves the range
    have hfails : ((withdrawLend (standardEnv (World.setting 11 31536200 10)) 1 (2 ^ 128 - 1)).run
        (World.largePool.play World.largeFinishing)).isOk = false := by decide +kernel
    rw [hrun] at hfails
    cases hfails

end Pledge.Contract
