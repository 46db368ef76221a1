import Pledge.Contract.Sale

/-!
# What the contract allows a router

Before it trades, `_swap` approves the router twice: for the tokens it is about to sell, and without a
limit for the tokens it buys. The router spends the first approval and has no use for the second, which
nobody takes back. `cleared_iff` says what comes of it over whole runs: the routers are left without an
allowance exactly as long as no pool with a settled loan is finished or liquidated.
-/

namespace Pledge.Contract

open Pledge.Evm

/-! ## Allowances of one owner

What is followed is the allowances that the contract has granted, of every token and to every
spender. -/

/-- What `owner` allows is as it was. -/
def World.SameGrants (owner : Address) (w w' : World) : Prop :=
  ∀ token spender, w'.ledger.allowance token owner spender = w.ledger.allowance token owner spender

/-- `owner` now allows `spender` to take `n` of the token, and everything else is as it was. -/
def World.Granted (owner token spender : Address) (n : Nat) (w w' : World) : Prop :=
  ∀ t a, w'.ledger.allowance t owner a =
    if t = token ∧ a = spender then n else w.ledger.allowance t owner a

theorem World.SameGrants.trans {owner : Address} {w₁ w₂ w₃ : World} (h : w₁.SameGrants owner w₂)
    (h' : w₂.SameGrants owner w₃) : w₁.SameGrants owner w₃ :=
  fun token spender => (h' token spender).trans (h token spender)

theorem World.SameTokens.grants {w w' : World} (h : w.SameTokens w') (owner : Address) :
    w.SameGrants owner w' := by
  intro token spender
  rw [h.1]

/-- Allowances follow the rules: `approve` sets what it is given, a router takes of the token it sells
exactly what it sells and does not trade a token for itself, and nothing else changes what the
contract allows. -/
structure Allowing (env : Env) : Prop extends Quiet env where
  external : env.sender ≠ env.this
  transfer_grants {token recipient : Address} {n : Nat} {w w' : World} {b : Bool} :
    (env.transfer token recipient n).run w = .ok (b, w') → w.SameGrants env.this w'
  transferFrom_grants {token source recipient : Address} {n : Nat} {w w' : World} {b : Bool} :
    source ≠ env.this → (env.transferFrom token source recipient n).run w = .ok (b, w') →
      w.SameGrants env.this w'
  sendEth_grants {recipient : Address} {n : Nat} {w w' : World} :
    (env.sendEth recipient n).run w = .ok ((), w') → w.SameGrants env.this w'
  mint_grants {token holder : Address} {n : Nat} {w w' : World} {b : Bool} :
    (env.mint token holder n).run w = .ok (b, w') → w.SameGrants env.this w'
  burn_grants {token holder : Address} {n : Nat} {w w' : World} {b : Bool} :
    (env.burn token holder n).run w = .ok (b, w') → w.SameGrants env.this w'
  approve_grants {token spender : Address} {n : Nat} {w w' : World} {r : CallResult} :
    (env.approve token spender n).run w = .ok (r, w') → r = .noData ∨ r = .returned true →
      w.Granted env.this token spender n w'
  swap_spends {router recipient tokenIn tokenOut : Address} {n minOut deadline : Nat} {w w' : World}
    {amounts : List Nat} :
    (env.swapExactTokensForTokens router n minOut [tokenIn, tokenOut] recipient deadline).run w =
      .ok (amounts, w') →
      tokenIn ≠ tokenOut ∧
        w.Granted env.this tokenIn router (w.ledger.allowance tokenIn env.this router - n) w'

/-! ## One call

An approval is made in a swap, for the token that is sold and without a limit for the other. No
other move grants anything, and a transfer by the router uses what it was granted. -/

section Calls

variable {env : Env} {w w' : World} {c : Call}

/-- The move does not touch what the contract allows. -/
def Move.Frames (env : Env) : Move → Prop
  | .pull _ source _ => source ≠ env.this
  | .swap .. => False
  | _ => True

theorem transferToken_grants (ha : Allowing env) {token recipient : Address} {n : Nat}
    (h : (transferToken env token recipient n).run w = .ok ((), w')) : w.SameGrants env.this w' := by
  simp only [transferToken, Tx.rules] at h
  rcases h with ⟨-, -, rfl⟩ | ⟨-, ⟨-, hsend⟩ | ⟨-, b, w₁, hcall, -, rfl⟩⟩
  · exact fun _ _ => rfl
  · exact ha.sendEth_grants hsend
  · exact ha.transfer_grants hcall

theorem Move.Ran.grants (ha : Allowing env) {m : Move} (hm : m.Frames env) (h : m.Ran env w w') :
    w.SameGrants env.this w' := by
  cases m with
  | pull token source n =>
      obtain ⟨b, hcall⟩ := h
      exact ha.transferFrom_grants hm hcall
  | pay token recipient n => exact transferToken_grants ha h
  | mint token holder n =>
      obtain ⟨b, hcall⟩ := h
      exact ha.mint_grants hcall
  | burn token holder n =>
      obtain ⟨b, hcall⟩ := h
      exact ha.burn_grants hcall
  | swap => exact hm.elim

theorem Chain.grants (ha : Allowing env) {ms : List Move} (hms : ∀ m ∈ ms, m.Frames env)
    (h : Chain env w ms w') : w.SameGrants env.this w' := by
  induction h with
  | done h => exact h.grants env.this
  | move h hm _ ih =>
      have hhead := hm.grants ha (hms _ List.mem_cons_self)
      exact (h.grants env.this).trans (hhead.trans (ih fun m hm => hms m (List.mem_cons_of_mem _ hm)))

/-- The call is to sell collateral: it ends a pool with a settled loan. -/
def Call.Sells (s : Storage) : Call → Prop
  | .finish p | .liquidate p => 0 < (s.pools p).settleAmountLend
  | _ => False

theorem Pool.repayment_eq_zero {pool : Pool} (h : pool.settleAmountLend = 0) (duration : Nat) :
    pool.repayment duration = 0 := by
  simp [Pool.repayment, h]

theorem feeMoves_frames (s : Storage) (token : Address) (fee : Nat) :
    ∀ m ∈ feeMoves s token fee, m.Frames env := by
  intro m hm
  unfold feeMoves at hm
  split at hm
  · rw [List.mem_singleton.mp hm]
    trivial
  · cases hm

theorem Received.frames (hsender : env.sender ≠ env.this) {token : Address} {amount n : Nat}
    {ms : List Move} (h : Received env token amount n ms) : ∀ m ∈ ms, m.Frames env := by
  intro m hm
  cases h with
  | eth => cases hm
  | token =>
      rw [List.mem_singleton.mp hm]
      exact hsender

/-- A sale that raises nothing sells nothing. -/
theorem Sale.frames {s : Storage} {pool : Pool} {lend sold received : Nat} {ms : List Move}
    (h : Sale s pool lend sold received ms) (hlend : lend = 0) : ∀ m ∈ ms, m.Frames env := by
  cases h with
  | none => exact fun m hm => absurd hm List.not_mem_nil
  | some hpos => exact absurd hlend hpos.ne'

/-- Without a sale no move of a call touches what the contract allows. -/
theorem Effect.frames {s s' : Storage} {moves : List Move} (h : Effect env s c moves s')
    (hsender : env.sender ≠ env.this) (hc : ¬ c.Sells s) : ∀ m ∈ moves, m.Frames env := by
  cases h with
  | depositLend hex hstate hend hrecv => exact hrecv.frames hsender
  | depositBorrow hex hstate hend hrecv => exact hrecv.frames hsender
  | finish hex htime hstate horder hsale =>
      have hsettled := Nat.eq_zero_of_not_pos hc
      intro m hm
      rcases List.mem_append.mp hm with hm | hm
      · exact hsale.frames (Pool.repayment_eq_zero hsettled _) m hm
      · exact feeMoves_frames _ _ _ m hm
  | liquidate hex hstate htime hpledge hsettle hpp hsp hhealth hsale =>
      have hsettled := Nat.eq_zero_of_not_pos hc
      intro m hm
      rcases List.mem_append.mp hm with hm | hm
      · exact hsale.frames (Pool.repayment_eq_zero hsettled _) m hm
      · exact feeMoves_frames _ _ _ m hm
  | claimBorrow | withdrawBorrow =>
      intro m hm
      simp only [List.mem_append, List.mem_ite_nil_right, List.mem_singleton] at hm
      rcases hm with ⟨-, rfl⟩ | ⟨-, rfl⟩ <;> trivial
  | _ => simp [Move.Frames]

theorem safeApprove_grants (ha : Allowing env) {token spender : Address} {n : Nat} {u : Unit}
    (h : (safeApprove env token spender n).run w = .ok (u, w')) :
    w.Granted env.this token spender n w' := by
  simp only [safeApprove, Tx.rules] at h
  obtain ⟨r, w₁, hcall, hr, rfl⟩ := h
  exact ha.approve_grants hcall hr

/-- **What a swap leaves allowed**: nothing of the token it sold, and the token it bought without a
limit. -/
theorem swap_grants (ha : Allowing env) {t0 t1 : Address} (h0 : t0 ≠ 0) (h1 : t1 ≠ 0) {n out : Nat}
    (hn : n ≠ 0) (h : (swap env t0 t1 n).run w = .ok (out, w')) :
    w.store.swapRouter ≠ 0 ∧ t0 ≠ t1 ∧ ∀ t a, w'.ledger.allowance t env.this a =
      if t = t1 ∧ a = w.store.swapRouter then Tx.maxUint256
      else if t = t0 ∧ a = w.store.swapRouter then 0 else w.ledger.allowance t env.this a := by
  simp only [swap, getSwapPath, storage_rules, Tx.rules, and_assoc, exists_and_left,
    exists_eq_left, exists_const, h0, h1, hn, ne_eq, not_false_eq_true, true_and, false_and, false_or,
    not_true_eq_false, or_false] at h
  obtain ⟨hrouter, -, w₁, hsell, w₂, hbuy, -, amounts, w₃, hswap, -, -, rfl⟩ := h
  obtain ⟨hdiff, hspent⟩ := ha.swap_spends hswap
  have hselling := safeApprove_grants ha hsell
  have hbuying := safeApprove_grants ha hbuy
  rw [safeApprove_store ha.toQuiet hsell] at hbuying
  have hleft : w₂.ledger.allowance t0 env.this w.store.swapRouter = n := by
    rw [hbuying, if_neg (fun h => hdiff h.1), hselling, if_pos ⟨rfl, rfl⟩]
  refine ⟨hrouter, hdiff, fun t a => ?_⟩
  rw [hspent t a, hleft, Nat.sub_self]
  by_cases hsold : t = t0 ∧ a = w.store.swapRouter
  · obtain ⟨rfl, rfl⟩ := hsold
    rw [if_pos ⟨rfl, rfl⟩, if_neg (fun h => hdiff h.1), if_pos ⟨rfl, rfl⟩]
  · rw [if_neg hsold, hbuying t a, hselling t a, if_neg hsold, if_neg hsold]

theorem FeeSent.grants (ha : Allowing env) {feeAddress token : Address} {fee : Nat}
    (h : FeeSent env feeAddress token fee w w') : w.SameGrants env.this w' := by
  rcases h.cases with ⟨-, hpay⟩ | ⟨-, rfl⟩
  · exact transferToken_grants ha hpay
  · exact fun _ _ => rfl

/-- A call that sells is an exit that has something to raise. -/
theorem Call.Sells.exit (env : Env) (hc : c.Sells w.store) : ∃ x, c.exit env w = some x ∧ 0 < x.lend ∧
    x.start.store.swapRouter = w.store.swapRouter := by
  cases c with
  | finish p | liquidate p => exact ⟨_, rfl, hc.trans_le (Pool.le_repayment _ _), rfl⟩
  | _ => exact hc.elim

/-- **A sale leaves the router an unlimited allowance** of the settle token of the pool. -/
theorem sale_grants (ha : Allowing env) (hlisted : w.store.Listed) (hc : c.Sells w.store)
    (h : (c.transaction env).run w = .ok ((), w')) :
    ∃ p, w.store.Exists p ∧ w.store.swapRouter ≠ 0 ∧
      w'.ledger.allowance (w.store.pools p).settleToken env.this w.store.swapRouter =
        Tx.maxUint256 := by
  obtain ⟨x, hexit, hlend, hrouter⟩ := hc.exit env
  obtain ⟨d, hended⟩ := transaction_ended ha.toQuiet hexit h
  obtain ⟨moves, heff, -⟩ := transaction_effect ha.toQuiet h
  obtain ⟨hpools, -, -, hid⟩ := Call.exit_start hexit
  have hex := heff.exists hid
  have hsale := hended.disposes.swap
  have hraised := hlend.trans_le hended.disposes.raised
  rw [hpools] at hsale
  rcases sellExactAmount_ok hsale with ⟨-, -, hnone, -⟩ | ⟨-, hswap⟩
  · exact absurd hnone hraised.ne'
  have hsold : d.sold ≠ 0 := by
    intro hzero
    rw [hzero] at hswap
    exact hraised.ne' (swap_zero hswap)
  obtain ⟨hne, -, hgrants⟩ := swap_grants ha (hlisted _ hex).2 (hlisted _ hex).1 hsold hswap
  rw [hrouter] at hne hgrants
  -- the transfers of the two fees change nothing
  have hsurplus := hended.disposes.surplus.grants ha
  have hleftover := hended.disposes.leftover.grants ha
  refine ⟨x.poolId, hex, hne, ?_⟩
  rw [hended.tokens.grants env.this, hleftover, World.mapStore_ledger, hsurplus, hgrants,
    if_pos ⟨rfl, rfl⟩]

/-- The router changes only by `setSwapRouterAddress`. -/
theorem Effect.router {s s' : Storage} {moves : List Move} (h : Effect env s c moves s') :
    s'.swapRouter = s.swapRouter ∨ c = .setSwapRouterAddress s'.swapRouter := by
  cases h with
  | setSwapRouterAddress => exact .inr rfl
  | depositLend =>
      obtain ⟨_, _, _, heq⟩ := Storage.recordLend_writes ..
      exact .inl (by rw [heq])
  | depositBorrow =>
      obtain ⟨_, _, _, heq⟩ := Storage.recordBorrow_writes ..
      exact .inl (by rw [heq])
  | _ => exact .inl rfl

end Calls

/-! ## Runs

An allowance is left behind by a sale in the token that comes back, and a sale of that token finds
it there. A token that refuses to replace an allowance then stops the sale. -/

/-- In a step the contract is at `this` and allowances follow the rules; outside its transactions
nobody changes what it allows. -/
def Event.Allows (this : Address) (w w' : World) : Event → Prop
  | .call env _ _ => Allowing env ∧ env.this = this
  | .outside => w.SameGrants this w'

/-- Steps of the contract at `this` in which allowances follow the rules. -/
abbrev AllowingStep (this : Address) : World → Event → World → Prop :=
  Restrict Step fun w e w' => e.Allows this w w'

/-- The address has been the router. -/
def Routed (es : List Event) (router : Address) : Prop :=
  ∃ env ts, Event.call env (.setSwapRouterAddress router) ts ∈ es

/-- The step sells collateral. -/
def Event.Sells (w : World) : Event → Prop
  | .call _ c _ => c.Sells w.store
  | .outside => False

/-- **No router has an allowance** of a settle or pledge token, be it the present one or an earlier
one. -/
def World.Cleared (this : Address) (es : List Event) (w : World) : Prop :=
  ∀ router, Routed es router → ∀ p, w.store.Exists p →
    w.ledger.allowance (w.store.pools p).settleToken this router = 0 ∧
      w.ledger.allowance (w.store.pools p).pledgeToken this router = 0

/-- Some router has an allowance of a settle token. -/
def World.Standing (this : Address) (es : List Event) (w : World) : Prop :=
  ∃ router, Routed es router ∧ ∃ p, w.store.Exists p ∧
    w.ledger.allowance (w.store.pools p).settleToken this router ≠ 0

section Runs

variable {this admin multiSignature : Address} {ledger : Ledger} {es : List Event} {e : Event}
  {w w' : World}

theorem AllowingStep.quiet (h : AllowingStep this w e w') : QuietStep w e w' := by
  refine ⟨h.1, ?_⟩
  cases e with
  | call => exact h.2.1.toQuiet
  | outside => trivial

/-- A step that sells nothing leaves every allowance alone. -/
theorem AllowingStep.grants (h : AllowingStep this w e w') (hs : ¬ e.Sells w) :
    w.SameGrants this w' := by
  obtain ⟨hstep, hallows⟩ := h
  cases hstep with
  | call env c hrun =>
      obtain ⟨ha, rfl⟩ := hallows
      obtain ⟨moves, heff, hchain⟩ := transaction_effect ha.toQuiet hrun
      have hgrants : w.opened.SameGrants env.this w' :=
        hchain.grants ha (heff.frames ha.external hs)
      exact hgrants
  | outside => exact hallows

theorem Routed.mono {router : Address} (h : Routed es router) (e : Event) :
    Routed (es ++ [e]) router := by
  obtain ⟨env, ts, hmem⟩ := h
  exact ⟨env, ts, List.mem_append_left _ hmem⟩

/-- The router of a step is the one before, or one that the step sets. -/
theorem AllowingStep.routed (h : AllowingStep this w e w')
    (hw : w.store.swapRouter = 0 ∨ Routed es w.store.swapRouter) :
    w'.store.swapRouter = 0 ∨ Routed (es ++ [e]) w'.store.swapRouter := by
  have hquiet := h.quiet
  obtain ⟨hstep, -⟩ := h
  cases hstep with
  | call env c hrun =>
      obtain ⟨moves, heff, -⟩ := transaction_effect hquiet.2 hrun
      rcases heff.router with hsame | rfl
      · rw [hsame]
        exact hw.imp_right fun hrouted => hrouted.mono _
      · exact .inr ⟨env, w'.transfers, List.mem_append_right _ List.mem_cons_self⟩
  | outside => exact hw.imp_right fun hrouted => hrouted.mono _

/-- A sale leaves an allowance standing. -/
theorem AllowingStep.sale (h : AllowingStep this w e w') (hlisted : w.store.Listed)
    (hw : w.store.swapRouter = 0 ∨ Routed es w.store.swapRouter) (hs : e.Sells w) :
    w'.Standing this (es ++ [e]) := by
  obtain ⟨hstep, hallows⟩ := h
  cases hstep with
  | call env c hrun =>
      obtain ⟨ha, rfl⟩ := hallows
      obtain ⟨moves, heff, -⟩ := transaction_effect ha.toQuiet hrun
      obtain ⟨p, hex, hrouter, hmax⟩ := sale_grants (w := w.opened) ha hlisted hs hrun
      have hleft : w'.ledger.allowance (w'.store.pools p).settleToken env.this w.store.swapRouter =
          Tx.maxUint256 := by
        rw [(heff.same_tokens hex).1]
        exact hmax
      refine ⟨w.store.swapRouter, (hw.resolve_left hrouter).mono _, p, heff.exists_mono hex, ?_⟩
      rw [hleft]
      decide
  | outside => exact hs.elim

/-- It stays until another sale. -/
theorem World.Standing.step (hstanding : w.Standing this es) (h : AllowingStep this w e w')
    (hs : ¬ e.Sells w) : w'.Standing this (es ++ [e]) := by
  obtain ⟨router, hrouted, p, hex, hallowed⟩ := hstanding
  have hgrants := h.grants hs
  have hquiet := h.quiet
  refine ⟨router, hrouted.mono e, p, ?_⟩
  rw [hgrants]
  obtain ⟨hstep, -⟩ := h
  cases hstep with
  | call env c hrun =>
      obtain ⟨moves, heff, -⟩ := transaction_effect hquiet.2 hrun
      rw [(heff.same_tokens hex).1]
      exact ⟨heff.exists_mono hex, hallowed⟩
  | outside => exact ⟨hex, hallowed⟩

/-- **The routers are left without an allowance exactly as long as nothing is sold.** On every run of a
contract that starts without allowances: no step finishes or liquidates a pool with a settled loan. -/
theorem cleared_iff (hledger : ∀ token spender, ledger.allowance token this spender = 0)
    (hrun : Run (AllowingStep this) (deployed admin multiSignature ledger) es w) :
    w.Cleared this es ↔ Run (Restrict (AllowingStep this) fun w e _ => ¬ e.Sells w)
      (deployed admin multiSignature ledger) es w := by
  constructor
  · intro hcleared
    have hinv : w.store.Listed ∧ (w.store.swapRouter = 0 ∨ Routed es w.store.swapRouter) ∧
        (Run (Restrict (AllowingStep this) fun w e _ => ¬ e.Sells w)
          (deployed admin multiSignature ledger) es w ∨ w.Standing this es) := by
      refine hrun.invariant (I := fun es w => w.store.Listed ∧
        (w.store.swapRouter = 0 ∨ Routed es w.store.swapRouter) ∧
        (Run (Restrict (AllowingStep this) fun w e _ => ¬ e.Sells w)
          (deployed admin multiSignature ledger) es w ∨ w.Standing this es)) ?_ ?_
      · exact ⟨fun p hex => absurd hex.2 (Nat.not_le.mpr hex.1), .inl rfl, .inl .start⟩
      · intro es w e w' ⟨hlisted, hrouter, hstate⟩ hs
        refine ⟨hs.quiet.listed hlisted, hs.routed hrouter, ?_⟩
        by_cases hsells : e.Sells w
        · exact .inr (hs.sale hlisted hrouter hsells)
        · exact hstate.imp (fun hkept => hkept.step ⟨hs, hsells⟩)
            fun hstanding => hstanding.step hs hsells
    refine hinv.2.2.resolve_right ?_
    rintro ⟨router, hrouted, p, hex, hallowed⟩
    exact hallowed (hcleared router hrouted p hex).1
  · intro hkept
    have hnone : ∀ token spender, w.ledger.allowance token this spender = 0 := by
      refine hkept.invariant
        (I := fun _ w => ∀ token spender, w.ledger.allowance token this spender = 0) hledger ?_
      intro es w e w' hnone ⟨hs, hsells⟩ token spender
      rw [hs.grants hsells, hnone]
    exact fun router _ p _ => ⟨hnone _ _, hnone _ _⟩

end Runs

/-! ## Strict tokens

An instance of such tokens, in which the run of the counterexample can be computed. -/

/-- The standard market with tokens that are strict about allowances: `approve` does not replace one
that is left over by another, and the router spends what the contract allows it. -/
def strictEnv (st : Setting) : Env :=
  { standardEnv st with
    approve := fun token spender n => do
      let allowance ← Tx.reads fun w : World => w.ledger.allowance token st.this spender
      Tx.require (n = 0 ∨ allowance = 0) "approve from non-zero to non-zero allowance"
      setAllowance token st.this spender n
      pure (.returned true)
    swapExactTokensForTokens := fun router amountIn minOut path recipient deadline =>
      match path with
      | [tokenIn, tokenOut] => do
          Tx.require (tokenIn ≠ tokenOut) "UniswapV2Library: IDENTICAL_ADDRESSES"
          let allowance ← Tx.reads fun w : World => w.ledger.allowance tokenIn st.this router
          Tx.require (amountIn ≤ allowance) "TransferHelper: TRANSFER_FROM_FAILED"
          setAllowance tokenIn st.this router (allowance - amountIn)
          (standardEnv st).swapExactTokensForTokens router amountIn minOut path recipient deadline
      | _ => Tx.revert .call }

section Strict

variable {st : Setting} {w w' : World}

theorem moveToken_allowance {token source recipient : Address} {n : Nat} {u : Unit}
    (h : (moveToken token source recipient n).run w = .ok (u, w')) :
    w'.ledger.allowance = w.ledger.allowance := by
  simp only [moveToken, Tx.rules, and_assoc, exists_and_left, exists_eq_left, exists_const] at h
  rw [h.2]

theorem setAllowance_granted {token owner spender : Address} {n : Nat} {u : Unit}
    (h : (setAllowance token owner spender n).run w = .ok (u, w')) :
    w'.store = w.store ∧ w.Granted owner token spender n w' := by
  simp only [setAllowance, Tx.rules] at h
  obtain ⟨-, rfl⟩ := h
  exact ⟨rfl, fun t a => by simp⟩

theorem strict_approve {token spender : Address} {n : Nat} {r : CallResult}
    (h : ((strictEnv st).approve token spender n).run w = .ok (r, w')) :
    w'.store = w.store ∧ w.Granted st.this token spender n w' := by
  simp only [strictEnv, Tx.bind_ok, Tx.reads_ok, Tx.require_ok, Tx.pure_ok, and_assoc, exists_and_left,
    exists_eq_left, exists_const] at h
  obtain ⟨-, _, w₁, hset, -, rfl⟩ := h
  exact setAllowance_granted hset

theorem strict_swap {router recipient : Address} {n minOut deadline : Nat} {path : List Address}
    {amounts : List Nat}
    (h : ((strictEnv st).swapExactTokensForTokens router n minOut path recipient deadline).run w =
      .ok (amounts, w')) :
    w'.store = w.store ∧ ∃ tokenIn tokenOut, path = [tokenIn, tokenOut] ∧ tokenIn ≠ tokenOut ∧
      w.Granted st.this tokenIn router (w.ledger.allowance tokenIn st.this router - n) w' := by
  simp only [strictEnv] at h
  split at h
  · next tokenIn tokenOut =>
      simp only [Tx.bind_ok, Tx.reads_ok, Tx.require_ok, and_assoc, exists_and_left, exists_eq_left,
        exists_const] at h
      obtain ⟨hdiff, -, _, w₁, hset, hswap⟩ := h
      obtain ⟨hstore, hgranted⟩ := setAllowance_granted hset
      have hkept := (standard_swap hswap).1
      simp only [standardEnv, Tx.bind_ok, Tx.pure_ok] at hswap
      obtain ⟨_, w₂, hin, _, w₃, hout, -, rfl⟩ := hswap
      refine ⟨hkept.trans hstore, tokenIn, tokenOut, rfl, hdiff, fun t a => ?_⟩
      rw [moveToken_allowance hout, moveToken_allowance hin]
      exact hgranted t a
  · exact (Tx.revert_ok.mp h).elim

theorem strict_transfer {token recipient : Address} {n : Nat} {b : Bool}
    (h : ((strictEnv st).transfer token recipient n).run w = .ok (b, w')) :
    w.SameGrants st.this w' := by
  simp only [strictEnv, standardEnv, Tx.bind_ok, Tx.pure_ok] at h
  obtain ⟨_, w₁, hmove, -, rfl⟩ := h
  intro t a
  rw [moveToken_allowance hmove]

theorem strict_transferFrom {token source recipient : Address} {n : Nat} {b : Bool}
    (hsource : source ≠ st.this)
    (h : ((strictEnv st).transferFrom token source recipient n).run w = .ok (b, w')) :
    w.SameGrants st.this w' := by
  simp only [strictEnv, standardEnv, Tx.bind_ok, Tx.reads_ok, Tx.require_ok, Tx.pure_ok, and_assoc,
    exists_and_left, exists_eq_left, exists_const] at h
  obtain ⟨-, _, w₁, hset, _, w₂, hmove, -, rfl⟩ := h
  intro t a
  rw [moveToken_allowance hmove]
  -- the allowance that was spent is another owner's
  simp only [setAllowance, Tx.rules] at hset
  obtain ⟨-, rfl⟩ := hset
  exact if_neg fun h => hsource h.2.1.symm

/-- **On the strict market allowances follow the rules.** -/
theorem strict_allowing (hsender : st.sender ≠ st.this) (hrouter : st.router ≠ st.this) :
    Allowing (strictEnv st) := by
  have hq : Quiet (standardEnv st) := (standard_exact hsender hrouter).toQuiet
  refine { hq with
    approve := fun h => (strict_approve h).1
    swapExactTokensForTokens := fun h => (strict_swap h).1
    external := hsender
    transfer_grants := strict_transfer
    transferFrom_grants := strict_transferFrom
    sendEth_grants := fun h => (Tx.revert_ok.mp h).elim
    mint_grants := ?_
    burn_grants := ?_
    approve_grants := fun h _ => (strict_approve h).2
    swap_spends := ?_ }
  · intro token holder n w w' b h
    replace h : ((standardEnv st).mint token holder n).run w = .ok (b, w') := h
    rw [standard_mint h]
    exact fun _ _ => rfl
  · intro token holder n w w' b h
    replace h : ((standardEnv st).burn token holder n).run w = .ok (b, w') := h
    rw [(standard_burn h).2]
    exact fun _ _ => rfl
  · intro router recipient tokenIn tokenOut n minOut deadline w w' amounts h
    obtain ⟨-, _, _, hpath, hdiff, hgranted⟩ := strict_swap h
    cases hpath
    exact ⟨hdiff, hgranted⟩

end Strict

namespace World

/-- The world after a sequence of transactions on the strict market. -/
def trade (w : World) : List (Setting × Call) → World
  | [] => w
  | (st, c) :: rest => (w.next (strictEnv st) c).trade rest

/-- Every transaction of the sequence succeeds, and the contract is at `this` in each of them. -/
def trades (this : Address) (w : World) : List (Setting × Call) → Bool
  | [] => true
  | (st, c) :: rest =>
      w.succeeds (strictEnv st) c &&
        decide (st.this = this ∧ st.sender ≠ st.this ∧ st.router ≠ st.this) &&
        (w.next (strictEnv st) c).trades this rest

/-- The events of the sequence. -/
def traded (w : World) : List (Setting × Call) → List Event
  | [] => []
  | (st, c) :: rest =>
      .call (strictEnv st) c (w.next (strictEnv st) c).transfers ::
        (w.next (strictEnv st) c).traded rest

theorem trade_run {this : Address} {w : World} {script : List (Setting × Call)}
    (h : w.trades this script = true) :
    Run (AllowingStep this) w (w.traded script) (w.trade script) := by
  induction script generalizing w with
  | nil => exact .start
  | cons head rest ih =>
      obtain ⟨st, c⟩ := head
      simp only [trades, Bool.and_eq_true, decide_eq_true_eq] at h
      obtain ⟨⟨hsucc, rfl, hsender, hrouter⟩, hrest⟩ := h
      have hstep : AllowingStep st.this w _ (w.next (strictEnv st) c) :=
        ⟨next_step hsucc, strict_allowing hsender hrouter, rfl⟩
      exact (Run.step .start hstep).append (ih hrest)

/-- The contract has allowed nothing; everybody else allows it what it asks for. -/
def freshLedger : Ledger :=
  { openingLedger with allowance := fun _ owner _ => if owner = 100 then 0 else 1000000 }

/-- The opening, with a second pool of the same tokens beside the first. -/
def twoPools : List (Setting × Call) :=
  setup ++ [creation, creation] ++
    [(setting 11 10 10, .depositLend 2 500), (setting 12 10 10, .depositBorrow 2 1000)] ++ supplies ++
    [(setting 10 100 10, .settle 2)]

/-- The first pool is finished. -/
def firstSale : List (Setting × Call) := twoPools ++ [(setting 10 1000 10, .finish 1)]

/-- And the router is replaced. -/
def newRouter : List (Setting × Call) :=
  firstSale ++ [(setting 10 1010 10, .setSwapRouterAddress 201)]

def afterTwoPools : World := (deployed 10 50 freshLedger).trade twoPools

def afterFirstSale : World := (deployed 10 50 freshLedger).trade firstSale

def afterNewRouter : World := (deployed 10 50 freshLedger).trade newRouter

/-- The world with the allowances of the contract taken back. -/
def revoked (w : World) : World :=
  { w with ledger := { w.ledger with allowance := freshLedger.allowance } }

/-- A call that the first router makes. -/
def routerSide : Setting := { setting 10 1010 10 with this := 200 }

end World

theorem cleared_iff_twoPools : World.afterTwoPools.Cleared 100
      ((deployed 10 50 World.freshLedger).traded World.twoPools) ↔
    Run (Restrict (AllowingStep 100) fun w e _ => ¬ e.Sells w) (deployed 10 50 World.freshLedger)
      ((deployed 10 50 World.freshLedger).traded World.twoPools) World.afterTwoPools :=
  cleared_iff (fun _ _ => rfl) (World.trade_run (by decide +kernel))

/-- One sale through the router 200, and it may take any amount of the settle token. The second pool
can no longer be finished, and would be but for that allowance; and when the router is replaced, the
old one takes all settle tokens that the contract holds. -/
theorem allowance_stands : ∃ es es', Run (AllowingStep 100) (deployed 10 50 World.freshLedger) es
      World.afterFirstSale ∧
    Routed es 200 ∧ World.afterFirstSale.ledger.allowance 1 100 200 = Tx.maxUint256 ∧
    ¬ World.afterFirstSale.Cleared 100 es ∧
    World.afterFirstSale.succeeds (strictEnv (World.setting 10 1000 10)) (.finish 2) = false ∧
    World.afterFirstSale.revoked.succeeds (strictEnv (World.setting 10 1000 10)) (.finish 2) = true ∧
    Run (AllowingStep 100) (deployed 10 50 World.freshLedger) es' World.afterNewRouter ∧
    World.afterNewRouter.store.swapRouter = 201 ∧ World.afterNewRouter.ledger.balance 1 100 = 2500 ∧
    (World.afterNewRouter.after ((strictEnv World.routerSide).transferFrom 1 100 200 2500)).map
      (fun w => w.ledger.balance 1 100) = some 0 := by
  have hmax : World.afterFirstSale.ledger.allowance 1 100 200 = Tx.maxUint256 := by decide +kernel
  have hrouted : Routed ((deployed 10 50 World.freshLedger).traded World.firstSale) 200 :=
    ⟨strictEnv (World.setting 10 0 10), _, List.mem_cons_of_mem _ List.mem_cons_self⟩
  refine ⟨_, _, World.trade_run (by decide +kernel), hrouted, hmax, ?_, by decide +kernel,
    by decide +kernel, World.trade_run (by decide +kernel), by decide +kernel, by decide +kernel,
    by decide +kernel⟩
  intro hcleared
  have hex : World.afterFirstSale.store.Exists 1 := by decide +kernel
  have htoken : (World.afterFirstSale.store.pools 1).settleToken = 1 := by decide +kernel
  have hzero := (hcleared 200 hrouted 1 hex).1
  rw [htoken, hmax] at hzero
  exact absurd hzero (by decide)

end Pledge.Contract
