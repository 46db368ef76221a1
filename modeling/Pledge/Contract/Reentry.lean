import Pledge.Contract.Inversion
import Pledge.Contract.Interactive

/-!
# Callees that call back

While an external call of the contract is open, any account without the approval of the wallet may call
any function of the contract, to any depth (`Reentered`). A run records what the sales asked for, and
the calls that took effect.

With the guard up nothing can be called back with effect (`Reentered.guarded`). That leaves the calls
under a `finish`, the one function that calls out without raising the guard: they do not touch a pool
that has been settled, unless they liquidate it (`Reentered.spares`).
-/

namespace Pledge.Contract

open Pledge.Evm

/-! ## Runs with callbacks

A transaction is a program that stops at each external call. What runs in between is any list of
transactions, which may stop and be answered in the same way, to any depth. -/

/-- What is recorded of a run: a sale made a request, or a call took effect and left a storage. -/
inductive Entry where
  | asked (c : Call) (r : Request)
  | took (c : Call) (s : Storage)

/-- The call sells the collateral of pool `p`. -/
def Call.sells (p : Nat) : Call → Bool
  | .finish poolId | .liquidate poolId => poolId = p
  | _ => false

/-- The program of a call that sells collateral. -/
def Call.program (env : Env) : Call → Option (Program Unit)
  | .finish poolId => some (Interactive.finish env poolId)
  | .liquidate poolId => some (Interactive.liquidate env poolId)
  | _ => none

/-- What happens during the external calls is a visit. -/
structure Env.Visited (env : Env) (visit : World → List Entry → World → Prop) : Prop where
  transfer {token recipient : Address} {n : Nat} {w w' : World} {b : Bool} :
    (env.transfer token recipient n).run w = .ok (b, w') → ∃ es, visit w es w'
  transferFrom {token source recipient : Address} {n : Nat} {w w' : World} {b : Bool} :
    (env.transferFrom token source recipient n).run w = .ok (b, w') → ∃ es, visit w es w'
  approve {token spender : Address} {n : Nat} {w w' : World} {r : CallResult} :
    (env.approve token spender n).run w = .ok (r, w') → ∃ es, visit w es w'
  sendEth {recipient : Address} {n : Nat} {w w' : World} :
    (env.sendEth recipient n).run w = .ok ((), w') → ∃ es, visit w es w'
  mint {token holder : Address} {n : Nat} {w w' : World} {b : Bool} :
    (env.mint token holder n).run w = .ok (b, w') → ∃ es, visit w es w'
  burn {token holder : Address} {n : Nat} {w w' : World} {b : Bool} :
    (env.burn token holder n).run w = .ok (b, w') → ∃ es, visit w es w'
  swapExactTokensForTokens {router recipient : Address} {n minOut deadline : Nat}
    {path : List Address} {w w' : World} {amounts : List Nat} :
    (env.swapExactTokensForTokens router n minOut path recipient deadline).run w =
      .ok (amounts, w') → ∃ es, visit w es w'
  swapExactETHForTokens {router recipient : Address} {n minOut deadline : Nat}
    {path : List Address} {w w' : World} {amounts : List Nat} :
    (env.swapExactETHForTokens router n minOut path recipient deadline).run w =
      .ok (amounts, w') → ∃ es, visit w es w'
  swapExactTokensForETH {router recipient : Address} {n minOut deadline : Nat}
    {path : List Address} {w w' : World} {amounts : List Nat} :
    (env.swapExactTokensForETH router n minOut path recipient deadline).run w =
      .ok (amounts, w') → ∃ es, visit w es w'

/-- A call takes effect, with the record of its run. The visits under a call that sells nothing are not
recorded: such a call raises the guard before it calls out, or does not call out. -/
inductive Call.Performs (visit : World → List Entry → World → Prop) (env : Env) (c : Call) (w : World) :
    List Entry → World → Prop
  | sale {x : Program Unit} {es : List Entry} {w' : World} (hc : c.program env = some x)
      (hdecodes : c.decodes) (hvalue : c.payable = true ∨ env.value = 0)
      (h : x.Runs visit (.asked c) w es () w') : Performs visit env c w (es ++ [.took c w'.store]) w'
  | other {w' : World} (hc : c.program env = none) (hv : env.Visited visit)
      (h : (c.transaction env).run w = .ok ((), w')) : Performs visit env c w [.took c w'.store] w'

/-- While an external call is open: the tokens change, or an account without approval calls back. -/
def Reentered : Nat → World → List Entry → World → Prop :=
  Nested (fun w w' => w'.store = w.store) fun visit w es w' =>
    ∃ env c, ¬ Approved env w ∧ Call.Performs visit env c w es w'

/-- Every transaction whose external calls are visits has a record. -/
theorem Call.Performs.of_transaction {visit : World → List Entry → World → Prop} {env : Env}
    (hv : env.Visited visit) {c : Call} {w w' : World}
    (h : (c.transaction env).run w = .ok ((), w')) : ∃ es, c.Performs visit env w es w' := by
  have hanswer : ∀ {r : Request} {w₁ : World} {a : r.Answer} {w₂ : World},
      (env.answer r).run w₁ = .ok (a, w₂) → ∃ es, visit w₁ es w₂ := by
    intro r w₁ a w₂ hr
    cases r with
    | approve => exact hv.approve hr
    | swapExactTokensForTokens => exact hv.swapExactTokensForTokens hr
    | swapExactETHForTokens => exact hv.swapExactETHForTokens hr
    | swapExactTokensForETH => exact hv.swapExactTokensForETH hr
    | transfer => exact hv.transfer hr
    | sendEth => exact hv.sendEth hr
  cases hx : c.program env with
  | none => exact ⟨_, .other hx hv h⟩
  | some x =>
      obtain ⟨hdecodes, hvalue, h⟩ := Call.transaction_ok.mp h
      have hrun : (x.run env.answer).run w = .ok ((), w') := by
        cases c with
        | finish p =>
            obtain rfl := Option.some.inj hx
            rwa [Interactive.finish_run]
        | liquidate p =>
            obtain rfl := Option.some.inj hx
            rwa [Interactive.liquidate_run]
        | _ => cases hx
      obtain ⟨es, hes⟩ := Code.Runs.of_run hanswer hrun
      exact ⟨_, .sale hx hdecodes hvalue hes⟩

/-! ## The guard

A function that is not nonReentrant can be entered while another is waiting. `finish` is one, as the
source has no guard on it. -/

section Guard

variable {visit : World → List Entry → World → Prop} {note : Request → Entry} {env : Env} {w w' : World}
  {es : List Entry} {p : Nat}

namespace Interactive

theorem nonReentrant_runs {body : Program Unit}
    (h : (nonReentrant body).Runs visit note w es () w') :
    w.store.entered = false ∧ ∃ w₁, body.Runs visit note (w.mapStore (·.setEntered true)) es () w₁ ∧
      w' = w₁.mapStore (·.setEntered false) := by
  simp only [nonReentrant, Prog.lift_bind_runs, storage_rules, Tx.rules, and_assoc, exists_and_left,
    exists_eq_left, exists_const] at h
  obtain ⟨hfree, h⟩ := h
  obtain ⟨es₁, a, w₁, es₂, rfl, hbody, h⟩ := Prog.bind_runs.mp h
  simp only [Prog.lift_bind_runs, Prog.pure_runs, storage_rules, exists_and_left, exists_eq_left,
    exists_const] at h
  obtain ⟨rfl, -, rfl⟩ := h
  rw [List.append_nil]
  exact ⟨hfree, w₁, hbody, rfl⟩

/-- What `finish` checks first. -/
theorem finish_runs (h : (finish env p).Runs visit note w es () w') :
    Approved env w ∧ w.store.Exists p ∧ (w.store.pools p).state = .execution := by
  simp only [finish, Prog.lift_bind_runs, validCall_ok, storage_rules, Tx.rules, and_assoc,
    exists_and_left, exists_eq_left, exists_const] at h
  exact ⟨h.1, h.2.1, h.2.2.2.1⟩

/-- What `liquidate` checks first. -/
theorem liquidate_runs (h : (liquidate env p).Runs visit note w es () w') :
    w.store.entered = false ∧ w.store.Exists p ∧ (w.store.pools p).state = .execution := by
  obtain ⟨hfree, w₁, hbody, -⟩ := nonReentrant_runs h
  simp only [Prog.lift_bind_runs, storage_rules, Tx.rules, and_assoc, exists_and_left,
    exists_eq_left, exists_const] at hbody
  exact ⟨hfree, hbody.1, hbody.2.1⟩

end Interactive

/-- A call needs the approval of the wallet or the guard down. -/
theorem transaction_opens {c : Call} (h : (c.transaction env).run w = .ok ((), w')) :
    Approved env w ∨ w.store.entered = false := by
  cases hc : c.administrative with
  | true => exact .inl (transaction_approved hc h)
  | false =>
      obtain ⟨-, -, hbody⟩ := Call.transaction_ok.mp h
      cases c with
      | createPool | createPoolInfo | setPoolState | setOracle | setDebtToken | setPoolSpToken
      | setPoolJpToken | setFee | setFeeAddress | setMinAmount | setPause | setSwapRouterAddress
      | settle | finish => cases hc
      | _ => exact .inr (nonReentrant_ok.mp hbody).1

theorem Call.Performs.opens {c : Call} (h : c.Performs visit env w es w') :
    Approved env w ∨ w.store.entered = false := by
  cases h with
  | sale hc _ _ h =>
      cases c with
      | finish p =>
          cases hc
          exact .inl (Interactive.finish_runs h).1
      | liquidate p =>
          cases hc
          exact .inr (Interactive.liquidate_runs h).1
      | _ => cases hc
  | other _ _ h => exact transaction_opens h

/-- With the guard up nothing happens to the storage, and nothing is recorded. -/
def Guarded (w : World) (es : List Entry) (w' : World) : Prop :=
  w.store.entered = true → es = [] ∧ w'.store = w.store

theorem guarded_tracewise : Tracewise Guarded where
  refl _ _ := ⟨rfl, rfl⟩
  append := by
    intro w w₁ w' es es' h₁ h₂ hup
    obtain ⟨rfl, hs₁⟩ := h₁ hup
    obtain ⟨rfl, hs₂⟩ := h₂ (hs₁ ▸ hup)
    exact ⟨rfl, hs₂.trans hs₁⟩

theorem Call.Performs.guarded {c : Call} (hnot : ¬ Approved env w) (h : c.Performs visit env w es w') :
    Guarded w es w' := by
  intro hup
  rcases h.opens with happroved | hfree
  · exact absurd happroved hnot
  · rw [hup] at hfree
    cases hfree

/-- **With the guard up, nothing can be called back with effect.** -/
theorem Reentered.guarded {n : Nat} (h : Reentered n w es w') : Guarded w es w' := by
  refine Nested.keeps guarded_tracewise (fun hidle _ => ⟨rfl, hidle⟩) ?_ h
  intro visit _ w es w' hcall
  obtain ⟨env, c, hnot, hc⟩ := hcall
  exact hc.guarded hnot

end Guard

/-! ## A settled pool

The state and the collateral of a pool that has been settled are left alone by every transaction but
a sale and `setPoolState`, whoever calls and in whatever order. -/

/-- The guard is as it was, and so are the state and the collateral of pool `p` once it has been
settled. -/
structure Storage.Frozen (p : Nat) (s s' : Storage) : Prop where
  entered : s'.entered = s.entered
  pool : s.Exists p → (s.pools p).state ≠ .matching → s'.Exists p ∧
    (s'.pools p).state = (s.pools p).state ∧
      (s'.pools p).settleAmountBorrow = (s.pools p).settleAmountBorrow

namespace Storage.Frozen

variable {p : Nat} {s s₁ s' : Storage}

theorem refl (p : Nat) (s : Storage) : s.Frozen p s := ⟨rfl, fun hex _ => ⟨hex, rfl, rfl⟩⟩

theorem trans (h : s.Frozen p s₁) (h' : s₁.Frozen p s') : s.Frozen p s' := by
  refine ⟨h'.entered.trans h.entered, ?_⟩
  intro hex hstate
  obtain ⟨hex₁, hstate₁, hborrow₁⟩ := h.pool hex hstate
  obtain ⟨hex', hstate', hborrow'⟩ := h'.pool hex₁ (hstate₁ ▸ hstate)
  exact ⟨hex', hstate'.trans hstate₁, hborrow'.trans hborrow₁⟩

/-- The pools are the same. -/
theorem of_pools (hpools : s'.pools = s.pools) (hcounter : s'.poolCounter = s.poolCounter)
    (hentered : s'.entered = s.entered) : s.Frozen p s' := by
  refine ⟨hentered, ?_⟩
  intro hex _
  rw [hpools]
  exact ⟨⟨hex.1, hcounter ▸ hex.2⟩, rfl, rfl⟩

/-- A pool is written, but not these fields of it once it has been settled. -/
theorem setPool {q : Nat} {pool : Pool} (h : q = p → (s.pools p).state ≠ .matching →
    pool.state = (s.pools p).state ∧
      pool.settleAmountBorrow = (s.pools p).settleAmountBorrow) : s.Frozen p (s.setPool q pool) := by
  refine ⟨rfl, ?_⟩
  intro hex hstate
  refine ⟨hex, ?_⟩
  rw [Storage.setPool_pools]
  split
  · next hp => exact h hp.symm hstate
  · exact ⟨rfl, rfl⟩

theorem addPool (pool : Pool) : s.Frozen p (s.addPool pool) := by
  refine ⟨rfl, ?_⟩
  intro hex _
  have hold : p ≠ s.poolCounter + 1 := Nat.ne_of_lt (Nat.lt_succ_of_le hex.2)
  rw [Storage.addPool_pools, if_neg hold]
  exact ⟨⟨hex.1, Nat.le_succ_of_le hex.2⟩, rfl, rfl⟩

end Storage.Frozen

/-- The functions declared `nonReentrant`. -/
def Call.guarded : Call → Bool
  | .depositLend .. | .refundLend .. | .claimLend .. | .withdrawLend .. | .emergencyLendWithdrawal ..
  | .depositBorrow .. | .refundBorrow .. | .claimBorrow .. | .withdrawBorrow ..
  | .emergencyBorrowWithdrawal .. | .liquidate .. => true
  | _ => false

/-- Every external call reverts. -/
def Env.mute (env : Env) : Env :=
  { env with
    transfer := fun _ _ _ => Tx.revert .call
    transferFrom := fun _ _ _ _ => Tx.revert .call
    approve := fun _ _ _ => Tx.revert .call
    sendEth := fun _ _ => Tx.revert .call
    mint := fun _ _ _ => Tx.revert .call
    burn := fun _ _ _ => Tx.revert .call
    swapExactTokensForTokens := fun _ _ _ _ _ _ => Tx.revert .call
    swapExactETHForTokens := fun _ _ _ _ _ _ => Tx.revert .call
    swapExactTokensForETH := fun _ _ _ _ _ _ => Tx.revert .call }

theorem Env.mute_quiet (env : Env) : Quiet env.mute := by
  constructor <;> intros <;> exact absurd ‹_› (by simp [Env.mute, Tx.revert_ok])

/-- A function without a guard that sells nothing makes no external call that changes state. -/
theorem transaction_mute {env : Env} {c : Call} (hg : c.guarded = false) (hc : c.program env = none) :
    c.transaction env.mute = c.transaction env := by
  cases c with
  | createPool | createPoolInfo | setPoolState | setOracle | setDebtToken | setPoolSpToken
  | setPoolJpToken | setFee | setFeeAddress | setMinAmount | setPause | setSwapRouterAddress
  | settle => rfl
  | finish => cases hc
  | _ => cases hg

/-- Administration and settlement leave a settled pool as it is; a state set by hand apart. -/
theorem Effect.frozen {env : Env} {s s' : Storage} {c : Call} {moves : List Move}
    (h : Effect env s c moves s') (hg : c.guarded = false) (hc : c.program env = none)
    (hset : c.setsState = false) (p : Nat) : s.Frozen p s' := by
  cases h with
  | createPool | createPoolInfo => exact .addPool _
  | setPoolState => cases hset
  | setPoolSpToken | setPoolJpToken =>
      apply Storage.Frozen.setPool
      rintro rfl -
      exact ⟨rfl, rfl⟩
  | settleExecution _ _ hstate | settleUndone _ _ hstate =>
      apply Storage.Frozen.setPool
      rintro rfl hne
      exact absurd hstate hne
  | setOracle | setDebtToken | setFee | setFeeAddress | setMinAmount | setPause
  | setSwapRouterAddress => exact .of_pools rfl rfl rfl
  | finish => cases hc
  | _ => cases hg

/-! ## Under the guard

While the guard is up only functions without it can run. Of these none but `finish` and
`setPoolState` touches the state or the collateral of a settled pool. -/

/-- With the guard up, a settled pool stays as it is. -/
def Spared (p : Nat) (w w' : World) : Prop := w.store.entered = true → w.store.Frozen p w'.store

section Spared

variable {visit : World → List Entry → World → Prop} {env : Env} {w w' : World} {es : List Entry} {p : Nat}

theorem spared_framing (p : Nat) : Framing (Spared p) where
  refl w _ := .refl p w.store
  trans := by
    intro w₁ w₂ w₃ h h' hup
    have hfirst := h hup
    exact hfirst.trans (h' (hfirst.entered.trans hup))

theorem save_spared {f : Storage → Storage} (h : ∀ s : Storage, s.Frozen p (f s)) :
    (save f).Keeps (Spared p) :=
  Tx.Keeps.modifies fun w _ => h w.store

theorem updatePool_spared {q : Nat} {f : Pool → Pool} (hstate : ∀ pool, (f pool).state = pool.state)
    (hborrow : ∀ pool, (f pool).settleAmountBorrow = pool.settleAmountBorrow) :
    (updatePool q f).Keeps (Spared p) := by
  apply save_spared
  intro s
  apply Storage.Frozen.setPool
  rintro rfl -
  exact ⟨hstate _, hborrow _⟩

theorem load_spared {α : Type} (f : Storage → α) : (load f).Keeps (Spared p) :=
  .reads (spared_framing p) _

theorem getPool_spared (q : Nat) : (getPool q).Keeps (Spared p) := load_spared _

theorem getLendInfo_spared (q : Nat) (u : Address) : (getLendInfo q u).Keeps (Spared p) :=
  load_spared _

theorem getBorrowInfo_spared (q : Nat) (u : Address) : (getBorrowInfo q u).Keeps (Spared p) :=
  load_spared _

theorem updateLendInfo_spared (q : Nat) (u : Address) (f : LendInfo → LendInfo) :
    (updateLendInfo q u f).Keeps (Spared p) := save_spared fun _ => .of_pools rfl rfl rfl

theorem updateBorrowInfo_spared (q : Nat) (u : Address) (f : BorrowInfo → BorrowInfo) :
    (updateBorrowInfo q u f).Keeps (Spared p) := save_spared fun _ => .of_pools rfl rfl rfl

theorem poolExists_spared (q : Nat) : (poolExists q).Keeps (Spared p) :=
  .bind (spared_framing p) (load_spared _) fun _ => .require (spared_framing p) _ _

theorem validState_spared (q : Nat) (st : PoolState) : (validState q st).Keeps (Spared p) :=
  .bind (spared_framing p) (getPool_spared q) fun _ => .require (spared_framing p) _ _

theorem notPaused_spared : notPaused.Keeps (Spared p) :=
  .bind (spared_framing p) (load_spared _) fun _ => .require (spared_framing p) _ _

theorem timeBefore_spared (q timestamp : Nat) : (timeBefore q timestamp).Keeps (Spared p) :=
  .bind (spared_framing p) (getPool_spared q) fun _ => .require (spared_framing p) _ _

/-- A callee cannot do anything to the storage under the guard. -/
theorem visited_spared (hv : ∀ {w es w'}, visit w es w' → Guarded w es w') {α : Type}
    {x : Tx World α} (h : ∀ {w a w'}, x.run w = .ok (a, w') → ∃ es, visit w es w') :
    x.Keeps (Spared p) := by
  intro w a w' hx hup
  obtain ⟨es, hes⟩ := h hx
  obtain ⟨-, hs⟩ := hv hes hup
  rw [hs]
  exact .refl p w.store

theorem nonReentrant_frozen {body : Tx World Unit} (hbody : body.Keeps (Spared p))
    (h : (nonReentrant body).run w = .ok ((), w')) : w.store.Frozen p w'.store := by
  obtain ⟨hfree, w₁, hrun, rfl⟩ := nonReentrant_ok.mp h
  have hpool := hbody _ _ _ hrun rfl
  exact ⟨hfree.symm, hpool.pool⟩

theorem transferToken_spared (hG : ∀ {w es w'}, visit w es w' → Guarded w es w')
    (hv : env.Visited visit) (token recipient : Address) (n : Nat) :
    (transferToken env token recipient n).Keeps (Spared p) := by
  have hR := spared_framing p
  refine .ite (.pure hR ()) (.ite (visited_spared hG hv.sendEth) (.bind hR ?_ fun _ => .pure hR ()))
  exact visited_spared hG hv.transfer

theorem receiveToken_spared (hG : ∀ {w es w'}, visit w es w' → Guarded w es w')
    (hv : env.Visited visit) (token source : Address) (n : Nat) :
    (receiveToken env token source n).Keeps (Spared p) := by
  have hR := spared_framing p
  refine .ite (.bind hR (.require hR _ _) fun _ => .pure hR _) ?_
  refine .bind hR (.require hR _ _) fun _ => .bind hR (.require hR _ _) fun _ => .bind hR ?_ fun _ =>
    .pure hR n
  exact visited_spared hG hv.transferFrom

/-- **A guarded function that sells nothing leaves a settled pool as it is**, whatever its callees do. -/
theorem guarded_frozen (hG : ∀ {w es w'}, visit w es w' → Guarded w es w') (hv : env.Visited visit)
    {c : Call} (hg : c.guarded = true) (hc : c.program env = none)
    (h : (c.transaction env).run w = .ok ((), w')) : w.store.Frozen p w'.store := by
  obtain ⟨-, -, h⟩ := Call.transaction_ok.mp h
  have hR := spared_framing p
  cases c with
  | liquidate => cases hc
  | depositLend | refundLend | claimLend | withdrawLend | emergencyLendWithdrawal | depositBorrow
  | refundBorrow | claimBorrow | withdrawBorrow | emergencyBorrowWithdrawal =>
      refine nonReentrant_frozen ?_ h
      -- statement by statement: checks, external calls, and writes beside the frozen fields
      repeat' with_reducible first
        | refine .bind hR ?_ fun _ => ?_
        | exact .require hR _ _
        | exact getPool_spared _
        | exact .umul hR _ _
        | exact .udiv hR _ _
        | exact .uadd hR _ _
        | exact .usub hR _ _
        | exact .pure hR _
        | exact load_spared _
        | exact poolExists_spared _
        | exact notPaused_spared
        | exact validState_spared _ _
        | exact timeBefore_spared _ _
        | exact getLendInfo_spared _ _
        | exact getBorrowInfo_spared _ _
        | exact updateLendInfo_spared _ _ _
        | exact updateBorrowInfo_spared _ _ _
        | exact transferToken_spared hG hv _ _ _
        | exact receiveToken_spared hG hv _ _ _
        | exact visited_spared hG hv.mint
        | exact visited_spared hG hv.burn
        | exact updatePool_spared (fun _ => rfl) fun _ => rfl
        | exact save_spared fun _ => .of_pools rfl rfl rfl
        | refine .when hR ?_
        | refine .ite ?_ ?_
  | _ => cases hg

end Spared

end Pledge.Contract
