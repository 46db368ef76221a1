import Pledge.Contract.Reentry
import Pledge.Contract.Standard

/-!
# The collateral of a pool is sold once

`finish` and `liquidate` ask the router to swap collateral, write the state of the pool only afterwards,
and in between hand over the control several times. The account of a sale (`Accounts`) adds up what a
run asks for, with whatever happens while a request is open.

`liquidate` raises the guard, `finish` does not: a callee of `finish` can liquidate the pool that is
being finished. A pool is sold once exactly when that does not happen (`collateral_sold_once`).
-/

namespace Pledge.Contract

open Pledge.Evm

/-! ## The account of a sale

A record lists what was asked of callees, in whose call, and the calls that took effect. From it the
account of a pool is read off in three sums: the swaps and the collateral that leaves, which are
charged to the sales of that pool only, and the entries into `FINISH` or `LIQUIDATION`.

A sale is first accounted for without saying what the account is of: `Accounts` lists what a
relation between worlds has to satisfy so that the body of a sale can be added up under it. It is
instantiated three times below: for the sale of the pool itself, for a sale of another pool, and for
one whose callees may liquidate the pool in between. -/

/-- How often collateral is swapped. -/
def Request.swaps : Request → Nat
  | .swapExactTokensForTokens .. | .swapExactETHForTokens .. | .swapExactTokensForETH .. => 1
  | _ => 0

/-- How much collateral leaves. -/
def Request.collateral : Request → Nat
  | .swapExactTokensForTokens _ amountIn .. | .swapExactTokensForETH _ amountIn .. => amountIn
  | .swapExactETHForTokens _ value .. => value
  | .transfer .borrow _ _ amount | .sendEth .borrow _ amount => amount
  | _ => 0

/-- The call that an entry is about. -/
def Entry.call : Entry → Call
  | .asked c _ | .took c _ => c

/-- The swaps of the collateral of pool `p`. -/
def Entry.swaps (p : Nat) : Entry → Nat
  | .asked c r => if c.sells p then r.swaps else 0
  | .took .. => 0

/-- The collateral of pool `p` that leaves by the router or as a fee. -/
def Entry.collateral (p : Nat) : Entry → Nat
  | .asked c r => if c.sells p then r.collateral else 0
  | .took .. => 0

/-- A sale of pool `p` takes the pool to `FINISH` or `LIQUIDATION`. -/
def Entry.enters (p : Nat) : Entry → Nat
  | .asked .. => 0
  | .took c s => if c.sells p ∧ (s.pools p).state.Closed then 1 else 0

/-- The collateral of pool `p` is swapped at most once, at most `bound` of it leaves, and exactly one of
`FINISH` and `LIQUIDATION` is entered. -/
structure SoldOnce (p bound : Nat) (log : List Entry) : Prop where
  swaps : total (Entry.swaps p) log ≤ 1
  collateral : total (Entry.collateral p) log ≤ bound
  enters : total (Entry.enters p) log = 1

/-- Up to here at most `m` swaps and at most `n` of the collateral, and no end of the pool. -/
structure Tally (p m n : Nat) (es : List Entry) : Prop where
  swaps : total (Entry.swaps p) es ≤ m
  collateral : total (Entry.collateral p) es ≤ n
  enters : total (Entry.enters p) es = 0

namespace Tally

variable {p m n m' n' : Nat} {es es' : List Entry}

theorem nil (p : Nat) : Tally p 0 0 [] := ⟨Nat.le_refl 0, Nat.le_refl 0, rfl⟩

theorem append (h : Tally p m n es) (h' : Tally p m' n' es') :
    Tally p (m + m') (n + n') (es ++ es') where
  swaps := by
    rw [total_append]
    exact Nat.add_le_add h.swaps h'.swaps
  collateral := by
    rw [total_append]
    exact Nat.add_le_add h.collateral h'.collateral
  enters := by rw [total_append, h.enters, h'.enters]

theorem mono (hm : m ≤ m') (hn : n ≤ n') (h : Tally p m n es) : Tally p m' n' es :=
  ⟨h.swaps.trans hm, h.collateral.trans hn, h.enters⟩

/-- A request of the pool's own sale. -/
theorem request {c : Call} (r : Request) (h : Tally p 0 0 es) :
    Tally p r.swaps r.collateral (.asked c r :: es) where
  swaps := by
    rw [total_cons, Nat.le_zero.mp h.swaps, Entry.swaps]
    split <;> simp
  collateral := by
    rw [total_cons, Nat.le_zero.mp h.collateral, Entry.collateral]
    split <;> simp
  enters := by rw [total_cons, h.enters, Entry.enters]

/-- A request of another sale. -/
theorem other {c : Call} (hc : c.sells p = false) (r : Request) (h : Tally p 0 0 es) :
    Tally p 0 0 (.asked c r :: es) where
  swaps := by
    rw [total_cons, Nat.le_zero.mp h.swaps, Entry.swaps, hc]
    simp
  collateral := by
    rw [total_cons, Nat.le_zero.mp h.collateral, Entry.collateral, hc]
    simp
  enters := by rw [total_cons, h.enters, Entry.enters]

/-- A call that does not sell the pool. -/
theorem took {c : Call} (hc : c.sells p = false) (s : Storage) : Tally p 0 0 [.took c s] := by
  refine ⟨?_, ?_, ?_⟩ <;> simp [total_cons, Entry.swaps, Entry.collateral, Entry.enters, hc]

/-- The end of the pool after its account. -/
theorem soldOnce {c : Call} {s : Storage} (h : Tally p 1 n es) (hc : c.sells p = true)
    (hs : (s.pools p).state.Closed) : SoldOnce p n (es ++ [.took c s]) where
  swaps := by
    rw [total_snoc]
    exact h.swaps
  collateral := by
    rw [total_snoc]
    exact h.collateral
  enters := by
    rw [total_snoc, h.enters, Entry.enters, if_pos ⟨hc, hs⟩]

end Tally

/-- `T m n` accounts for runs with `m` swaps in which `n` of the collateral leaves: it adds up along a
run, allows for every request with what happens while it is open, and for writes that freeze pool `p`. -/
structure Accounts (visit : World → List Entry → World → Prop) (note : Request → Entry) (p : Nat)
    (T : Nat → Nat → World → List Entry → World → Prop) : Prop where
  append : ∀ {m n m' n' w w₁ w' es es'}, T m n w es w₁ → T m' n' w₁ es' w' →
    T (m + m') (n + n') w (es ++ es') w'
  mono : ∀ {m n m' n' w w' es}, m ≤ m' → n ≤ n' → T m n w es w' → T m' n' w es w'
  frozen : ∀ {w w'}, w.store.Frozen p w'.store → T 0 0 w [] w'
  request : ∀ (r : Request) {w es w'}, visit w es w' → T r.swaps r.collateral w (note r :: es) w'

section Sale

variable {visit : World → List Entry → World → Prop} {note : Request → Entry} {env : Env} {p q : Nat}
  {T : Nat → Nat → World → List Entry → World → Prop} {m n : Nat} {w w' : World} {es : List Entry}

namespace Accounts

variable (h : Accounts visit note p T)

include h

/-- What counts for nothing can be strung together. -/
theorem tracewise : Tracewise (T 0 0) where
  refl w := h.frozen (.refl p w.store)
  append := h.append

/-- A part that counts for nothing comes first. -/
theorem seq {α β : Type} {x : Program α} {f : α → Program β} (hx : x.Keeps visit note (T 0 0))
    (hf : ∀ a, (f a).Keeps visit note (T m n)) : (x >>= f).Keeps visit note (T m n) := by
  refine Prog.Keeps.seq ?_ hx hf
  intro w w₁ w' es es' h₁ h₂
  simpa using h.append h₁ h₂

/-- A part that counts for nothing comes last. -/
theorem seq_last {α β : Type} {x : Program α} {f : α → Program β} (hx : x.Keeps visit note (T m n))
    (hf : ∀ a, (f a).Keeps visit note (T 0 0)) : (x >>= f).Keeps visit note (T m n) := by
  refine Prog.Keeps.seq ?_ hx hf
  intro w w₁ w' es es' h₁ h₂
  exact h.append h₁ h₂

theorem load {α : Type} (f : Storage → α) :
    (Prog.lift (load f) : Program α).Keeps visit note (T 0 0) :=
  .lift (.reads h.tracewise.framing _)

theorem require (c : Prop) [Decidable c] (m : String) :
    (Prog.lift (Tx.require c m) : Program Unit).Keeps visit note (T 0 0) :=
  .lift (.require h.tracewise.framing _ _)

theorem pure {α : Type} (a : α) : (Pure.pure a : Program α).Keeps visit note (T m n) := by
  intro w es b w' hrun
  exact h.mono (Nat.zero_le m) (Nat.zero_le n) (Prog.Keeps.pure h.tracewise a _ _ _ _ hrun)

/-- Arithmetic leaves the world as it is. -/
theorem of_same {α : Type} {x : Tx World α} (hx : ∀ {w a w'}, x.run w = .ok (a, w') → w' = w) :
    (Prog.lift x : Program α).Keeps visit note (T 0 0) :=
  .lift (.of_same h.tracewise.framing hx)

theorem safeApprove (token spender : Address) (n : Nat) :
    (Interactive.safeApprove token spender n).Keeps visit note (T 0 0) :=
  .bind h.tracewise (.ask (h.request (.approve token spender n))) fun _ => h.require _ _

/-- The borrow fee comes out of the collateral. -/
theorem transferToken_borrow (token recipient : Address) (n : Nat) :
    (Interactive.transferToken .borrow token recipient n).Keeps visit note (T 0 n) := by
  refine .ite (h.pure ()) (.ite ?_ ?_)
  · exact .ask (h.request (.sendEth .borrow recipient n))
  · refine h.seq_last ?_ fun _ => h.pure ()
    exact .ask (h.request (.transfer .borrow token recipient n))

/-- The lend fee is not collateral. -/
theorem transferToken_lend (token recipient : Address) (n : Nat) :
    (Interactive.transferToken .lend token recipient n).Keeps visit note (T 0 0) := by
  refine .ite (h.pure ()) (.ite ?_ ?_)
  · exact .ask (h.request (.sendEth .lend recipient n))
  · refine h.seq_last ?_ fun _ => h.pure ()
    exact .ask (h.request (.transfer .lend token recipient n))

/-- The swap: at most two approvals of the router, and one of its three functions. -/
theorem swap (token0 token1 : Address) (n : Nat) :
    (Interactive.swap env token0 token1 n).Keeps visit note (T 1 n) := by
  refine h.seq (h.load _) fun swapRouter => h.seq (h.require _ _) fun _ => .ite (h.pure 0) ?_
  refine h.seq (h.of_same getSwapPath_same) fun path => ?_
  refine h.seq (.when h.tracewise (h.seq (h.load _) fun _ => h.safeApprove _ _ _)) fun _ => ?_
  refine h.seq (.when h.tracewise (h.seq (h.load _) fun _ => h.safeApprove _ _ _)) fun _ => ?_
  refine h.seq (h.of_same fun hadd => (Tx.uadd_ok.mp hadd).2.2) fun deadline => ?_
  -- ETH on the one side, on the other, or on neither
  refine h.seq_last (.ite ?_ (.ite ?_ ?_)) fun amounts => ?_
  · exact .ask (h.request (.swapExactETHForTokens swapRouter n 0 path env.this deadline))
  · exact .ask (h.request (.swapExactTokensForETH swapRouter n 0 path env.this deadline))
  · exact .ask (h.request (.swapExactTokensForTokens swapRouter n 0 path env.this deadline))
  · refine h.seq (h.of_same fun hsub => (Tx.usub_ok.mp hsub).2.2) fun last => ?_
    exact h.of_same fun hindex => (Tx.index_ok.mp hindex).2

/-- What is sold is what the router is asked to take. -/
theorem sellExactAmount {token0 token1 : Address} {amountOut : Nat} {a : Nat × Nat}
    (hrun : (Interactive.sellExactAmount env token0 token1 amountOut).Runs visit note w es a w') :
    T 1 a.1 w es w' := by
  -- nothing to raise, nothing to sell
  rcases Prog.ite_runs.mp hrun with ⟨-, hrun⟩ | ⟨-, hrun⟩
  · exact h.pure _ _ _ _ _ hrun
  · obtain ⟨amountIn, w₁, hin, hrun⟩ := Prog.lift_bind_runs.mp hrun
    obtain ⟨es₁, received, w₂, es₂, rfl, hswap, hrun⟩ := Prog.bind_runs.mp hrun
    obtain ⟨rfl, rfl, rfl⟩ := Prog.pure_runs.mp hrun
    obtain rfl := getAmountIn_same hin
    rw [List.append_nil]
    exact h.swap _ _ _ _ _ _ _ hswap

/-- The fee is part of what is left. -/
theorem redeemFees (feeRatio : Nat) (token : Address) (n : Nat) :
    (Interactive.redeemFees feeRatio token n).Keeps visit note (T 0 n) := by
  intro w es rest w' hrun
  rcases Prog.ite_runs.mp hrun with ⟨-, hrun⟩ | ⟨-, hrun⟩
  · exact h.pure _ _ _ _ _ hrun
  · simp only [Prog.lift_bind_runs, storage_rules, Tx.rules, and_assoc, exists_and_left,
      exists_eq_left] at hrun
    obtain ⟨-, -, hrun⟩ := hrun
    obtain ⟨es₁, _, w₁, es₂, rfl, hfee, hrun⟩ := Prog.bind_runs.mp hrun
    obtain ⟨rfl, hsub⟩ := Prog.lift_runs.mp hrun
    -- the rest is what the fee leaves, so the fee is at most `n`
    obtain ⟨hle, -, rfl⟩ := Tx.usub_ok.mp hsub
    rw [List.append_nil]
    rcases Prog.when_runs.mp hfee with ⟨-, hfee⟩ | ⟨-, rfl, rfl⟩
    · exact h.mono (Nat.le_refl 0) hle (h.transferToken_borrow _ _ _ _ _ _ _ hfee)
    · exact h.mono (Nat.le_refl 0) (Nat.zero_le n) (h.tracewise.refl w')

/-- The sale raises what is owed to the lenders, and its fee is in the token of the lenders. -/
theorem processSwapAndFees {lend : Nat} {a : Nat × Nat}
    (hrun : (Interactive.processSwapAndFees env q lend).Runs visit note w es a w') :
    T 1 a.1 w es w' := by
  simp only [Interactive.processSwapAndFees, Prog.lift_bind_runs, storage_rules, Tx.rules, and_assoc,
    exists_and_left, exists_eq_left] at hrun
  obtain ⟨-, -, -, hrun⟩ := hrun
  obtain ⟨es₁, ⟨sold, received⟩, w₁, es₂, rfl, hsell, hrun⟩ := Prog.bind_runs.mp hrun
  -- a fee on what was raised, if any, and the amount sold is passed on
  have hrest : T 0 0 w₁ es₂ w' ∧ a.1 = sold := by
    simp only [Prog.lift_bind_runs, Prog.ite_runs, Tx.require_ok, and_assoc, exists_and_left,
      exists_eq_left, exists_const] at hrun
    obtain ⟨-, ⟨-, hrun⟩ | ⟨-, hrun⟩⟩ := hrun
    · simp only [storage_rules, Tx.rules, and_assoc, exists_and_left, exists_eq_left] at hrun
      obtain ⟨-, hrun⟩ := hrun
      obtain ⟨es₃, _, w₂, es₄, rfl, hfee, hrun⟩ := Prog.bind_runs.mp hrun
      simp only [Prog.lift_bind_runs, Prog.pure_runs, Tx.rules, and_assoc, exists_and_left,
        exists_eq_left] at hrun
      obtain ⟨-, rfl, rfl, rfl⟩ := hrun
      rw [List.append_nil]
      refine ⟨?_, rfl⟩
      rcases Prog.when_runs.mp hfee with ⟨-, hfee⟩ | ⟨-, rfl, rfl⟩
      · simp only [Prog.lift_bind_runs, storage_rules] at hfee
        obtain ⟨_, _, ⟨rfl, rfl⟩, hfee⟩ := hfee
        exact h.transferToken_lend _ _ _ _ _ _ _ hfee
      · exact h.tracewise.refl w'
    · obtain ⟨rfl, rfl, rfl⟩ := Prog.pure_runs.mp hrun
      exact ⟨h.tracewise.refl w', rfl⟩
  rw [hrest.2]
  exact h.append (h.sellExactAmount hsell) hrest.1

end Accounts
end Sale

/-! ## Both sales

`finish` and `liquidate` have the same middle part: they sell, they write what was raised, they take
the fee from the rest of the collateral, and they write that rest (`Sold`). What differs stands
around it: which fields are written, and which state comes last. -/

section Closing

variable {visit : World → List Entry → World → Prop} {note : Request → Entry} {env : Env} {p q : Nat}
  {T : Nat → Nat → World → List Entry → World → Prop} {w w₁ w₂ w' : World} {es : List Entry}

/-- The account of a sale of pool `q` up to the write of its last state: `sold` was swapped, and the
fee came out of the rest of the settled collateral. -/
def Sold (T : Nat → Nat → World → List Entry → World → Prop) (q : Nat) (w : World) (es : List Entry)
    (w' : World) : Prop :=
  ∃ es₁ sold w₁ es₂ rest, es = es₁ ++ es₂ ∧ T 1 sold w es₁ w₁ ∧
    sold + rest = (w₁.store.pools q).settleAmountBorrow ∧ T 0 rest w₁ es₂ w'

namespace Accounts

variable (h : Accounts visit note p T)

include h

/-- A write beside the frozen fields. -/
theorem updatePool {f : Pool → Pool} (hstate : ∀ pool, (f pool).state = pool.state)
    (hborrow : ∀ pool, (f pool).settleAmountBorrow = pool.settleAmountBorrow) (w : World) :
    T 0 0 w [] (w.mapStore fun s => s.setPool q (f (s.pools q))) := by
  apply h.frozen
  apply Storage.Frozen.setPool
  intro hq _
  rw [hq]
  exact ⟨hstate _, hborrow _⟩

/-- The sale and the fee, with a write after each. -/
theorem sold {es₁ es₂ : List Entry} {lend fee rest : Nat} {a : Nat × Nat} {token : Address}
    {f g : Pool → Pool} (hf : ∀ pool, (f pool).state = pool.state)
    (hf' : ∀ pool, (f pool).settleAmountBorrow = pool.settleAmountBorrow)
    (hg : ∀ pool, (g pool).state = pool.state)
    (hg' : ∀ pool, (g pool).settleAmountBorrow = pool.settleAmountBorrow)
    (hsale : (Interactive.processSwapAndFees env q lend).Runs visit note w es₁ a w₁)
    (hle : a.1 ≤ (w₁.store.pools q).settleAmountBorrow)
    (hfee : (Interactive.redeemFees fee token ((w₁.store.pools q).settleAmountBorrow - a.1)).Runs visit
      note (w₁.mapStore fun s => s.setPool q (f (s.pools q))) es₂ rest w₂) :
    Sold T q w (es₁ ++ es₂) (w₂.mapStore fun s => s.setPool q (g (s.pools q))) := by
  refine ⟨es₁, a.1, w₁, es₂, (w₁.store.pools q).settleAmountBorrow - a.1, rfl,
    h.processSwapAndFees hsale, Nat.add_sub_cancel' hle, ?_⟩
  have hrest := h.append (h.updatePool (q := q) hf hf' w₁) (h.redeemFees _ _ _ _ _ _ _ hfee)
  have hall := h.append hrest (h.updatePool (q := q) hg hg' w₂)
  simpa using hall

/-- A `finish`: its account, and then the state. -/
theorem finish (hrun : (Interactive.finish env q).Runs visit note w es () w') :
    ∃ w₁, Sold T q w es w₁ ∧
      w' = w₁.mapStore fun s => s.setPool q { s.pools q with state := .finish } := by
  simp only [Interactive.finish, Prog.lift_bind_runs, validCall_ok, calculateRepayAmount_ok,
    storage_rules, Tx.rules, and_assoc, exists_and_left, exists_eq_left, exists_const] at hrun
  obtain ⟨-, -, -, -, -, -, hrun⟩ := hrun
  obtain ⟨es₁, ⟨sold, received⟩, w₁, es₂, rfl, hsale, hrun⟩ := Prog.bind_runs.mp hrun
  simp only [Prog.lift_bind_runs, storage_rules, Tx.rules, and_assoc, exists_and_left,
    exists_eq_left, exists_const, World.mapStore_store, Storage.setPool_pools, ↓reduceIte] at hrun
  obtain ⟨hle, hrun⟩ := hrun
  obtain ⟨es₃, rest, w₂, es₄, rfl, hfee, hrun⟩ := Prog.bind_runs.mp hrun
  simp only [Prog.lift_bind_runs, Prog.lift_runs, storage_rules, exists_and_left, exists_eq_left,
    exists_const] at hrun
  obtain ⟨rfl, rfl⟩ := hrun
  rw [List.append_nil]
  exact ⟨_, h.sold (f := fun pool => { pool with finishAmountLend := received })
    (g := fun pool => { pool with finishAmountBorrow := rest }) (fun _ => rfl) (fun _ => rfl)
    (fun _ => rfl) (fun _ => rfl) hsale hle hfee, rfl⟩

/-- A `liquidate`: the guard goes up, its account follows, then the state, the marks of the
borrowers, and the guard down. -/
theorem liquidate (hrun : (Interactive.liquidate env q).Runs visit note w es () w') :
    ∃ w₁ us, Sold T q (w.mapStore (·.setEntered true)) es w₁ ∧
      w' = w₁.mapStore fun s =>
        ((s.setPool q { s.pools q with state := .liquidation }).markLiquidated q us).setEntered
          false := by
  obtain ⟨-, w₀, hbody, rfl⟩ := Interactive.nonReentrant_runs hrun
  simp only [Prog.lift_bind_runs, calculateRepayAmount_ok, storage_rules, Tx.rules, and_assoc,
    exists_and_left, exists_eq_left, exists_const] at hbody
  -- the check of the health factor reads and writes nothing
  obtain ⟨-, hstate, -, health, w₁, hhealth, hbody⟩ := hbody
  obtain ⟨rfl, -⟩ := (calculateHealthFactor_ok hstate).mp hhealth
  obtain ⟨-, -, -, hbody⟩ := hbody
  obtain ⟨es₁, ⟨sold, received⟩, w₂, es₂, rfl, hsale, hbody⟩ := Prog.bind_runs.mp hbody
  simp only [Prog.lift_bind_runs, storage_rules, Tx.rules, and_assoc, exists_and_left,
    exists_eq_left, exists_const, World.mapStore_store, Storage.setPool_pools, ↓reduceIte] at hbody
  obtain ⟨hle, hbody⟩ := hbody
  obtain ⟨es₃, rest, w₃, es₄, rfl, hfee, hbody⟩ := Prog.bind_runs.mp hbody
  simp only [Prog.lift_bind_runs, Prog.lift_runs, storage_rules, markLiquidated_fold,
    exists_eq_left, exists_const] at hbody
  obtain ⟨us, _, ⟨rfl, rfl⟩, rfl, rfl⟩ := hbody
  rw [List.append_nil]
  exact ⟨_, _, h.sold (f := fun pool => { pool with liquidationAmountLend := received })
    (g := fun pool => { pool with liquidationAmountBorrow := rest }) (fun _ => rfl) (fun _ => rfl)
    (fun _ => rfl) (fun _ => rfl) hsale hle hfee, rfl⟩

end Accounts
end Closing


/-! ## What other sales leave alone

While one pool is being sold, callees may sell others, and those sales are on the record as well.
They must neither touch the pool nor its account. For a `liquidate` in progress this is immediate,
since the guard is up and whatever is called back reverts or does nothing to the storage
(`Guarded.spends`). For a `finish` it is not: the guard is down, and another pool's sale may itself
have callees that liquidate ours. So the statement has a second case, in which the pool was in
`EXECUTION` and its liquidation is on the record (`Spares`), and it is proved for all depths at once
by induction on the nesting. -/

/-- While `I` holds of the storage, pool `p` is frozen and its account goes up by `m` and `n`. -/
def Spends (p : Nat) (I : Storage → Prop) (m n : Nat) (w : World) (es : List Entry) (w' : World) :
    Prop :=
  I w.store → w.store.Frozen p w'.store ∧ Tally p m n es

/-- A settled pool stays as it is with nothing on its account, or it was liquidated on the way. -/
def Spares (p : Nat) (w : World) (es : List Entry) (w' : World) : Prop :=
  w.store.Exists p → (w.store.pools p).state ≠ .matching →
    (w.store.Frozen p w'.store ∧ Tally p 0 0 es) ∨
      (w.store.pools p).state = .execution ∧ ∃ s, .took (.liquidate p) s ∈ es

section Others

variable {visit : World → List Entry → World → Prop} {env : Env} {p q n : Nat} {I : Storage → Prop}
  {c : Call} {w w₁ w' : World} {es : List Entry}

/-- Accounts add up, since what is frozen keeps `I`. -/
theorem Spends.append {m n m' n' : Nat} {es' : List Entry}
    (hI : ∀ {s s' : Storage}, s.Frozen p s' → I s → I s') (h : Spends p I m n w es w₁)
    (h' : Spends p I m' n' w₁ es' w') : Spends p I (m + m') (n + n') w (es ++ es') w' := by
  intro hw
  obtain ⟨hfrozen, htally⟩ := h hw
  obtain ⟨hfrozen', htally'⟩ := h' (hI hfrozen hw)
  exact ⟨hfrozen.trans hfrozen', htally.append htally'⟩

/-- The account of the pool's own sale. -/
theorem own_accounts (hI : ∀ {s s' : Storage}, s.Frozen p s' → I s → I s')
    (hv : ∀ {w es w'}, visit w es w' → Spends p I 0 0 w es w') :
    Accounts visit (.asked c) p (Spends p I) where
  append := Spends.append hI
  mono hm hn h hw := ⟨(h hw).1, (h hw).2.mono hm hn⟩
  frozen h _ := ⟨h, .nil p⟩
  request r _ _ _ hvisit hw := ⟨(hv hvisit hw).1, (hv hvisit hw).2.request r⟩

/-- The account of another sale. -/
theorem other_accounts (hc : c.sells p = false) (hI : ∀ {s s' : Storage}, s.Frozen p s' → I s → I s')
    (hv : ∀ {w es w'}, visit w es w' → Spends p I 0 0 w es w') :
    Accounts visit (.asked c) p fun _ _ => Spends p I 0 0 where
  append := Spends.append hI
  mono _ _ h := h
  frozen h _ := ⟨h, .nil p⟩
  request r _ _ _ hvisit hw := ⟨(hv hvisit hw).1, (hv hvisit hw).2.other hc r⟩

/-- Either both parts leave the pool alone, or one of them shows the liquidation. -/
theorem spares_tracewise (p : Nat) : Tracewise (Spares p) where
  refl w _ _ := .inl ⟨.refl p w.store, .nil p⟩
  append := by
    intro w w₁ w' es es' h₁ h₂ hex hstate
    rcases h₁ hex hstate with ⟨hfrozen₁, hes⟩ | ⟨hexecution, s, hs⟩
    · obtain ⟨hex₁, hstate₁, -⟩ := hfrozen₁.pool hex hstate
      rcases h₂ hex₁ (hstate₁ ▸ hstate) with ⟨hfrozen₂, hes'⟩ | ⟨hexecution, s, hs⟩
      · exact .inl ⟨hfrozen₁.trans hfrozen₂, hes.append hes'⟩
      · exact .inr ⟨hstate₁ ▸ hexecution, s, List.mem_append_right es hs⟩
    · exact .inr ⟨hexecution, s, List.mem_append_left es' hs⟩

/-- The account of another sale whose callees may liquidate the pool. -/
theorem spares_accounts (hc : c.sells p = false) (hv : ∀ {w es w'}, visit w es w' → Spares p w es w') :
    Accounts visit (.asked c) p fun _ _ => Spares p where
  append := (spares_tracewise p).append
  mono _ _ h := h
  frozen h _ _ := .inl ⟨h, .nil p⟩
  request r w es w' hvisit := by
    intro hex hstate
    rcases hv hvisit hex hstate with ⟨hfrozen, hes⟩ | ⟨hexecution, s, hs⟩
    · exact .inl ⟨hfrozen, hes.other hc r⟩
    · exact .inr ⟨hexecution, s, List.mem_cons_of_mem _ hs⟩

/-- With the guard up, visits are on no account. -/
theorem Guarded.spends (h : Guarded w es w') : Spends p (·.entered = true) 0 0 w es w' := by
  intro hup
  obtain ⟨rfl, hs⟩ := h hup
  rw [hs]
  exact ⟨.refl p w.store, .nil p⟩

/-- The guard belongs to what is frozen. -/
theorem entered_frozen {s s' : Storage} (h : s.Frozen p s') (hs : s.entered = true) :
    s'.entered = true := h.entered.trans hs

/-- An account that adds up to the same relation. -/
theorem Sold.same {T : World → List Entry → World → Prop}
    (happend : ∀ {w w₁ w' es es'}, T w es w₁ → T w₁ es' w' → T w (es ++ es') w')
    (h : Sold (fun _ _ => T) q w es w') : T w es w' := by
  obtain ⟨es₁, sold, w₁, es₂, rest, rfl, hfirst, -, hlast⟩ := h
  exact happend hfirst hlast

/-- Closing another pool. -/
theorem Storage.Frozen.close (hq : q ≠ p) (s : Storage) (pool : Pool) :
    s.Frozen p (s.setPool q pool) := by
  apply Storage.Frozen.setPool
  intro heq
  exact absurd heq hq

/-- A call that is neither the pool's `finish` nor sets a state spares it, when what is called back
does. -/
theorem Call.Performs.spares (hG : ∀ {w es w'}, visit w es w' → Guarded w es w')
    (hS : ∀ {w es w'}, visit w es w' → Spares p w es w') (hset : c.setsState = false)
    (hfinish : c ≠ .finish p) (h : c.Performs visit env w es w') : Spares p w es w' := by
  cases h with
  | @sale x es w' hc hdecodes hvalue hrun =>
      cases c with
      | finish q =>
          cases hc
          -- a `finish` of another pool: the guard is down, so the callees may do anything that
          -- spares ours
          have hq : q ≠ p := fun heq => hfinish (heq ▸ rfl)
          have hsells : (Call.finish q).sells p = false := decide_eq_false hq
          obtain ⟨w₁, hsold, rfl⟩ := (spares_accounts hsells hS).finish hrun
          refine (spares_tracewise p).append (hsold.same (spares_tracewise p).append) ?_
          intro _ _
          exact .inl ⟨.close hq _ _, .took hsells _⟩
      | liquidate q =>
          cases hc
          by_cases hq : q = p
          · -- the pool itself is liquidated
            subst hq
            intro _ _
            exact .inr ⟨(Interactive.liquidate_runs hrun).2.2, w'.store,
              List.mem_append_right es (List.mem_singleton_self _)⟩
          · have hsells : (Call.liquidate q).sells p = false := decide_eq_false hq
            -- a `liquidate` of another pool: with the guard up nothing is called back
            have hfree := (Interactive.liquidate_runs hrun).1
            obtain ⟨w₁, us, hsold, rfl⟩ :=
              (other_accounts hsells entered_frozen fun hv => (hG hv).spends).liquidate hrun
            obtain ⟨hfrozen, htally⟩ := hsold.same (Spends.append entered_frozen) rfl
            intro hex hstate
            refine .inl ⟨?_, htally.append (.took hsells _)⟩
            obtain ⟨hex₁, hstate₁, hborrow₁⟩ := hfrozen.pool hex hstate
            obtain ⟨hex₂, hstate₂, hborrow₂⟩ :=
              (Storage.Frozen.close hq w₁.store { w₁.store.pools q with state := .liquidation }).pool hex₁
                (hstate₁ ▸ hstate)
            exact ⟨hfree.symm, fun _ _ => ⟨hex₂, hstate₂.trans hstate₁, hborrow₂.trans hborrow₁⟩⟩
      | _ => cases hc
  | other hc hv hrun =>
      have hfrozen : w.store.Frozen p w'.store := by
        -- a function that is not guarded and is no sale asks nothing of a callee
        cases hg : c.guarded with
        | true => exact guarded_frozen hG hv hg hc hrun
        | false =>
            rw [← transaction_mute hg hc] at hrun
            obtain ⟨moves, heff, -⟩ := transaction_effect env.mute_quiet hrun
            exact heff.frozen hg (by cases c <;> first | rfl | cases hc) hset p
      have hsells : c.sells p = false := by cases c <;> first | rfl | cases hc
      intro _ _
      exact .inl ⟨hfrozen, .took hsells _⟩

/-- What is called back is neither a `finish` nor sets a state. -/
theorem Call.Performs.unapproved (hnot : ¬ Approved env w) (h : c.Performs visit env w es w') :
    c.setsState = false ∧ c ≠ .finish p := by
  constructor
  · cases c with
    | setPoolState q st =>
        cases h with
        | sale hc => cases hc
        | other _ _ hrun =>
            obtain ⟨-, -, hbody⟩ := Call.transaction_ok.mp hrun
            obtain ⟨_, w₁, happroved, -⟩ := Tx.bind_ok.mp hbody
            exact absurd (validCall_ok.mp happroved).1 hnot
    | _ => rfl
  · rintro rfl
    cases h with
    | sale hc _ _ hrun =>
        cases hc
        exact hnot (Interactive.finish_runs hrun).1
    | other hc => cases hc

/-- **What is called back leaves a settled pool alone, unless it liquidates it.** -/
theorem Reentered.spares (h : Reentered n w es w') : Spares p w es w' := by
  suffices hboth : Guarded w es w' ∧ Spares p w es w' from hboth.2
  have hT : Tracewise fun w es w' => Guarded w es w' ∧ Spares p w es w' :=
    ⟨fun w => ⟨guarded_tracewise.refl w, (spares_tracewise p).refl w⟩, fun h h' =>
      ⟨guarded_tracewise.append h.1 h'.1, (spares_tracewise p).append h.2 h'.2⟩⟩
  refine Nested.keeps hT ?_ ?_ h
  · intro w w' hidle
    refine ⟨fun _ => ⟨rfl, hidle⟩, fun _ _ => .inl ⟨?_, .nil p⟩⟩
    rw [hidle]
    exact .refl p w.store
  · intro visit hvisit w es w' hcall
    obtain ⟨env, c, hnot, hc⟩ := hcall
    obtain ⟨hset, hfinish⟩ := hc.unapproved (p := p) hnot
    exact ⟨hc.guarded hnot, hc.spares (fun hv => (hvisit hv).1) (fun hv => (hvisit hv).2) hset hfinish⟩

end Others

/-! ## The sale of a pool, and what comes after

A `finish` that is not liquidated under way, and every `liquidate`, freezes the pool up to its last
write and has one swap of at most the settled collateral on the account; the last write closes the
pool. A closed pool then stays closed: both sales require `EXECUTION`, and only `setPoolState` leads
back there (`Occurs`). -/

section Once

variable {visit : World → List Entry → World → Prop} {env : Env} {p n : Nat} {I : Storage → Prop}
  {c : Call} {w w₁ w₂ w' : World} {log : List Entry}

/-- The own sale: one swap, and what it takes and the fee come to the settled collateral at most. -/
theorem Sold.spends (hI : ∀ {s s' : Storage}, s.Frozen p s' → I s → I s')
    (h : Sold (Spends p I) p w log w') (hw : I w.store) (hex : w.store.Exists p)
    (hstate : (w.store.pools p).state ≠ .matching) :
    w.store.Frozen p w'.store ∧ Tally p 1 (w.store.pools p).settleAmountBorrow log := by
  obtain ⟨es₁, sold, w₁, es₂, rest, rfl, hfirst, hsum, hlast⟩ := h
  obtain ⟨hfrozen, htally⟩ := hfirst hw
  obtain ⟨hfrozen', htally'⟩ := hlast (hI hfrozen hw)
  obtain ⟨-, -, hborrow⟩ := hfrozen.pool hex hstate
  refine ⟨hfrozen.trans hfrozen', ?_⟩
  -- the bound is read after the swap, from a pool that is still the one before it
  rw [← hborrow, ← hsum]
  exact htally.append htally'

/-- The pool exists and has been settled. -/
def Storage.PastMatch (s : Storage) (p : Nat) : Prop := s.Exists p ∧ (s.pools p).state ≠ .matching

/-- A settled pool that is frozen stays settled. -/
theorem pastMatch_frozen {s s' : Storage} (h : s.Frozen p s') (hs : s.PastMatch p) : s'.PastMatch p := by
  obtain ⟨hex, hstate, -⟩ := h.pool hs.1 hs.2
  exact ⟨hex, hstate ▸ hs.2⟩

/-- The pool exists and has been sold. -/
def Storage.IsClosed (s : Storage) (p : Nat) : Prop := s.Exists p ∧ (s.pools p).state.Closed

/-- A `finish` under which the pool is not liquidated sells it once. -/
theorem finish_soldOnce (h : (Call.finish p).Performs (Reentered n) env w log w')
    (hnone : ∀ s, .took (.liquidate p) s ∉ log) :
    SoldOnce p (w.store.pools p).settleAmountBorrow log ∧ w'.store.IsClosed p := by
  cases h with
  | other hc => cases hc
  | @sale x es w' hc _ _ hrun =>
      cases hc
      obtain ⟨-, hex, hexecution⟩ := Interactive.finish_runs hrun
      have hpast : w.store.PastMatch p := ⟨hex, by rw [hexecution]; decide⟩
      have hclean : ∀ e ∈ es, ∀ s, e ≠ .took (.liquidate p) s := by
        intro e he s heq
        exact hnone s (List.mem_append_left _ (heq ▸ he))
      -- from here on only visits that do not liquidate the pool
      have hvisit : ∀ {w es w'}, (Reentered n w es w' ∧ ∀ e ∈ es, ∀ s, e ≠ .took (.liquidate p) s) →
          Spends p (·.PastMatch p) 0 0 w es w' := by
        intro w es w' hv hw
        rcases hv.1.spares hw.1 hw.2 with hspared | ⟨-, s, hs⟩
        · exact hspared
        · exact absurd rfl (hv.2 _ hs s)
      obtain ⟨w₁, hsold, rfl⟩ :=
        (own_accounts pastMatch_frozen hvisit).finish (Code.Runs.restrict hrun hclean)
      obtain ⟨hfrozen, htally⟩ := hsold.spends pastMatch_frozen hpast hpast.1 hpast.2
      have hclosed : (w₁.mapStore fun s =>
          s.setPool p { s.pools p with state := .finish }).store.IsClosed p := by
        refine ⟨(hfrozen.pool hpast.1 hpast.2).1, .inl ?_⟩
        simp
      exact ⟨htally.soldOnce (decide_eq_true rfl) hclosed.2, hclosed⟩

/-- A `liquidate` sells the pool once, whatever its callees do. -/
theorem liquidate_soldOnce (h : (Call.liquidate p).Performs (Reentered n) env w log w') :
    SoldOnce p (w.store.pools p).settleAmountBorrow log ∧ w'.store.IsClosed p := by
  cases h with
  | other hc => cases hc
  | @sale x es w' hc _ _ hrun =>
      cases hc
      obtain ⟨-, hex, hexecution⟩ := Interactive.liquidate_runs hrun
      have hpast : w.store.PastMatch p := ⟨hex, by rw [hexecution]; decide⟩
      -- the invariant of the account is that the guard is up
      obtain ⟨w₁, us, hsold, rfl⟩ :=
        (own_accounts entered_frozen fun hv => (Reentered.guarded hv).spends).liquidate hrun
      obtain ⟨hfrozen, htally⟩ := hsold.spends entered_frozen rfl hpast.1 hpast.2
      have hclosed : (w₁.mapStore fun s =>
          ((s.setPool p { s.pools p with state := .liquidation }).markLiquidated p us).setEntered
            false).store.IsClosed p := by
        refine ⟨(hfrozen.pool hpast.1 hpast.2).1, .inr ?_⟩
        show (((w₁.store.setPool p _).pools p).state = _)
        simp
      exact ⟨htally.soldOnce (decide_eq_true rfl) hclosed.2, hclosed⟩

/-- One step while callees may call back: a transaction that sets no state by hand, with its record, or
a change of the tokens. -/
inductive Occurs (n : Nat) : World → List Entry → World → Prop
  | call {w w' : World} {log : List Entry} (env : Env) (c : Call) (hset : c.setsState = false)
      (h : c.Performs (Reentered n) env { w with transfers := [] } log w') : Occurs n w log w'
  | outside {w : World} (ledger : Ledger) :
      Occurs n w [] { w with ledger := ledger, transfers := [] }

/-- A closed pool stays closed, with nothing on its account. -/
theorem Occurs.closed (h : Occurs n w log w') (hw : w.store.IsClosed p) :
    w'.store.IsClosed p ∧ Tally p 0 0 log := by
  cases h with
  | outside ledger => exact ⟨hw, .nil p⟩
  | call env c hset h =>
      obtain ⟨hex, hclosed⟩ := hw
      have hnot : (w.store.pools p).state ≠ .execution := by
        rcases hclosed with heq | heq <;> rw [heq] <;> decide
      have hpast : (w.store.pools p).state ≠ .matching := by
        rcases hclosed with heq | heq <;> rw [heq] <;> decide
      -- a `finish` would have found the pool in `EXECUTION`
      have hfinish : c ≠ .finish p := by
        rintro rfl
        cases h with
        | sale hc _ _ hrun =>
            cases hc
            exact hnot (Interactive.finish_runs hrun).2.2
        | other hc => cases hc
      rcases h.spares Reentered.guarded Reentered.spares hset hfinish hex hpast with
        ⟨hfrozen, htally⟩ | ⟨hexecution, -⟩
      · obtain ⟨hex', hstate', -⟩ := hfrozen.pool hex hpast
        have hstate : (w'.store.pools p).state = (w.store.pools p).state := hstate'
        exact ⟨⟨hex', hstate ▸ hclosed⟩, htally⟩
      · exact absurd hexecution hnot

/-- So it stays in every run, with nothing on its account. -/
theorem run_closed {logs : List (List Entry)} (hrun : Run (Occurs n) w logs w')
    (hw : w.store.IsClosed p) : w'.store.IsClosed p ∧ Tally p 0 0 logs.flatten := by
  have hT : Tracewise fun w log w' => Storage.IsClosed (World.store w) p →
      Storage.IsClosed (World.store w') p ∧ Tally p 0 0 log := by
    refine ⟨fun w hw => ⟨hw, .nil p⟩, ?_⟩
    intro w w₁ w' es es' h h' hw
    obtain ⟨hw₁, htally⟩ := h hw
    obtain ⟨hw', htally'⟩ := h' hw₁
    exact ⟨hw', htally.append htally'⟩
  exact hT.flatten Occurs.closed hrun hw

/-! ## Two sales

The other direction of the theorem. A liquidation on the record has entered `LIQUIDATION`, and the
`finish` around it enters `FINISH` after that, which makes two. -/

/-- A liquidation in the record left the pool in `LIQUIDATION`. -/
def Entry.Sound (p : Nat) (e : Entry) : Prop :=
  ∀ s, e = .took (.liquidate p) s → (s.pools p).state = .liquidation

/-- Every liquidation that a call leaves on the record did what it says. -/
theorem Call.Performs.sound (hv : ∀ {w es w'}, visit w es w' → ∀ e ∈ es, Entry.Sound p e)
    (h : c.Performs visit env w log w') : ∀ e ∈ log, Entry.Sound p e := by
  cases h with
  | @sale x es w' hc _ _ hrun =>
      have hes : ∀ e ∈ es, Entry.Sound p e := by
        refine Code.Runs.labels ?_ hv hrun
        intro r s heq
        cases heq
      refine List.forall_mem_append.mpr ⟨hes, ?_⟩
      intro e he s heq
      obtain rfl := List.mem_singleton.mp he
      cases heq
      cases hc
      have htrivial : Accounts visit (Entry.asked (.liquidate p)) p fun _ _ _ _ _ => True := by
        constructor <;> intros <;> trivial
      obtain ⟨w₁, us, -, rfl⟩ := htrivial.liquidate hrun
      show (((w₁.store.setPool p _).pools p).state = _)
      simp
  | other hc =>
      intro e he s heq
      obtain rfl := List.mem_singleton.mp he
      cases heq
      cases hc

/-- This holds of what is called back, at every depth. -/
theorem Reentered.sound (h : Reentered n w log w') : ∀ e ∈ log, Entry.Sound p e := by
  have hT : Tracewise fun (_ : World) log (_ : World) => ∀ e ∈ log, Entry.Sound p e := by
    constructor
    · intro w e he
      cases he
    · intro w w₁ w' es es' h h'
      exact List.forall_mem_append.mpr ⟨h, h'⟩
  refine Nested.keeps hT ?_ ?_ h
  · intro w w' _ e he
    cases he
  · intro visit hvisit w es w' hcall
    obtain ⟨env, c, -, hc⟩ := hcall
    exact hc.sound hvisit

/-- A `finish` under which the pool is liquidated enters both states. -/
theorem finish_enters_both (h : (Call.finish p).Performs (Reentered n) env w log w') {s : Storage}
    (hs : .took (.liquidate p) s ∈ log) : 2 ≤ total (Entry.enters p) log := by
  have hsound := h.sound (p := p) Reentered.sound _ hs s rfl
  cases h with
  | other hc => cases hc
  | @sale x es w' hc _ _ hrun =>
      cases hc
      -- it is on the record of the callees, since the last entry is the `finish` itself
      have hmem : Entry.took (.liquidate p) s ∈ es := by
        rcases List.mem_append.mp hs with hmem | hmem
        · exact hmem
        · cases List.mem_singleton.mp hmem
      have hfirst : 1 ≤ total (Entry.enters p) es := by
        have hle := le_total_of_mem (Entry.enters p) hmem
        rwa [Entry.enters, if_pos ⟨decide_eq_true rfl, .inr hsound⟩] at hle
      have htrivial : Accounts (Reentered n) (Entry.asked (.finish p)) p fun _ _ _ _ _ => True := by
        constructor <;> intros <;> trivial
      obtain ⟨w₁, -, rfl⟩ := htrivial.finish hrun
      rw [total_snoc, Entry.enters, if_pos ⟨decide_eq_true rfl, .inl (by simp)⟩]
      omega

/-- **The collateral of a pool is sold once exactly when no callee of its `finish` liquidates it.** The
account covers the sale, what is called back during it at any depth, and every run after it. -/
theorem collateral_sold_once {logs : List (List Entry)} (hc : c.sells p = true)
    (hsale : c.Performs (Reentered n) env w log w₁) (hafter : Run (Occurs n) w₁ logs w₂) :
    SoldOnce p (w.store.pools p).settleAmountBorrow (log ++ logs.flatten) ↔
      (c = .finish p → ∀ s, .took (.liquidate p) s ∉ log) := by
  constructor
  · intro honce
    rintro rfl s hs
    have hboth := finish_enters_both hsale hs
    have hone := honce.enters
    rw [total_append] at hone
    omega
  · intro hcond
    -- the sale itself, by the function that makes it
    have hsold : SoldOnce p (w.store.pools p).settleAmountBorrow log ∧ w₁.store.IsClosed p := by
      cases c with
      | finish q =>
          obtain rfl : q = p := of_decide_eq_true hc
          exact finish_soldOnce hsale (hcond rfl)
      | liquidate q =>
          obtain rfl : q = p := of_decide_eq_true hc
          exact liquidate_soldOnce hsale
      | _ => cases hc
    obtain ⟨honce, hclosed⟩ := hsold
    obtain ⟨-, hrest⟩ := run_closed hafter hclosed
    constructor
    · rw [total_append, Nat.le_zero.mp hrest.swaps]
      exact honce.swaps
    · rw [total_append, Nat.le_zero.mp hrest.collateral]
      exact honce.collateral
    · rw [total_append, hrest.enters]
      exact honce.enters

end Once

/-! ## Runs that are computed

To run a sale with given callees, each request is answered together with the record of what it
called back (`Callees`). Whatever can be computed this way is a run in the sense above
(`World.sell_performs`), provided that the answers are visits. -/

section Compute

variable {visit : World → List Entry → World → Prop} {env : Env} {c : Call} {n : Nat} {w w' : World}

/-- Nothing is called back. -/
theorem Reentered.idle (n : Nat) (h : w'.store = w.store) : Reentered n w [] w' := by
  cases n with
  | zero => exact ⟨rfl, h⟩
  | succ n => exact ⟨[[]], rfl, Run.step .start (.inl ⟨rfl, h⟩)⟩

/-- One call by an account without approval, and nothing but the tokens after it. -/
theorem Reentered.called (hnot : ¬ Approved env w) {w₁ : World} {es : List Entry}
    (h : c.Performs (Reentered n) env w es w₁) (hs : w'.store = w₁.store) :
    Reentered (n + 1) w es w' :=
  ⟨[es, []], by simp, (Run.step .start (.inr ⟨env, c, hnot, h⟩)).step (.inl ⟨rfl, hs⟩)⟩

/-- What a callee answers, with the record of what it called back. -/
abbrev Callees : Type := (r : Request) → World → Except Revert (List Entry × r.Answer × World)

/-- The answers of an environment in which nobody calls back. -/
def Env.silent (env : Env) : Callees := fun r w =>
  match (env.answer r).run w with
  | .ok (a, w') => .ok ([], a, w')
  | .error e => .error e

/-- Callees that are quiet make no visits. -/
theorem Quiet.silent (hq : Quiet env) {r : Request} {w : World} {es : List Entry} {a : r.Answer}
    {w' : World} (h : env.silent r w = .ok (es, a, w')) : Reentered n w es w' := by
  rw [Env.silent] at h
  split at h
  · next hr =>
      cases h
      apply Reentered.idle
      cases r with
      | approve => exact hq.approve hr
      | swapExactTokensForTokens => exact hq.swapExactTokensForTokens hr
      | swapExactETHForTokens => exact hq.swapExactETHForTokens hr
      | swapExactTokensForETH => exact hq.swapExactTokensForETH hr
      | transfer => exact hq.transfer hr
      | sendEth => exact hq.sendEth hr
  · cases h

/-- An environment whose callees are quiet answers as one in which they may call back. -/
theorem Quiet.visited (hq : Quiet env) (n : Nat) : env.Visited (Reentered n) where
  transfer h := ⟨[], .idle n (hq.transfer h)⟩
  transferFrom h := ⟨[], .idle n (hq.transferFrom h)⟩
  approve h := ⟨[], .idle n (hq.approve h)⟩
  sendEth h := ⟨[], .idle n (hq.sendEth h)⟩
  mint h := ⟨[], .idle n (hq.mint h)⟩
  burn h := ⟨[], .idle n (hq.burn h)⟩
  swapExactTokensForTokens h := ⟨[], .idle n (hq.swapExactTokensForTokens h)⟩
  swapExactETHForTokens h := ⟨[], .idle n (hq.swapExactETHForTokens h)⟩
  swapExactTokensForETH h := ⟨[], .idle n (hq.swapExactTokensForETH h)⟩

/-- A sale with given answers: its record and where it leads, when it succeeds. -/
def World.sell (w : World) (env : Env) (c : Call) (f : Callees) : Option (List Entry × World) :=
  match c.program env with
  | none => none
  | some x =>
      if c.decodes ∧ (c.payable = true ∨ env.value = 0) then
        match (x w).trace (.asked c) f with
        | .ok (es, _, w') => some (es ++ [.took c w'.store], w')
        | .error _ => none
      else none

/-- What is computed is a run. -/
theorem World.sell_performs {f : Callees} {log : List Entry}
    (hf : ∀ {r w es a w'}, f r w = .ok (es, a, w') → visit w es w')
    (h : w.sell env c f = some (log, w')) : c.Performs visit env w log w' := by
  rw [World.sell] at h
  split at h
  · cases h
  · next x hx =>
      split at h
      · next hvalid =>
          split at h
          · next es u w₁ htrace =>
              cases h
              have hes : (x w).Runs visit (.asked c) es u w' := Code.Runs.of_trace @hf htrace
              exact .sale hx hvalid.1 hvalid.2 hes
          · cases h
      · cases h

end Compute

namespace World

/-- The pledge token makes a call when it is approved; otherwise the callees of the setting. -/
def callingBack (back : World → Option (List Entry × World)) : Callees
  | .approve token spender value, w =>
      if token = 2 then
        match back w with
        | none => .error .call
        | some (es, w₁) =>
            match ((standardEnv (setting 10 1000 10)).approve token spender value).run w₁ with
            | .ok (a, w₂) => .ok (es, a, w₂)
            | .error e => .error e
      else (standardEnv (setting 10 1000 10)).silent (.approve token spender value) w
  | r, w => (standardEnv (setting 10 1000 10)).silent r w

/-- Accounts without the approval of the wallet, at the end of the pool. -/
def outsider : Setting := { setting 13 1000 10 with approval := 0 }

def lender : Setting := { setting 11 1000 10 with approval := 0 }

/-- The outsider liquidates the pool. -/
def liquidating : Callees :=
  callingBack fun w =>
    w.sell (standardEnv outsider) (.liquidate 1) (standardEnv outsider).silent

/-- The lender claims its share. -/
def claiming : Callees :=
  callingBack fun w =>
    match ((Call.claimLend 1).transaction (standardEnv lender)).run w with
    | .ok (_, w') => some ([.took (.claimLend 1) w'.store], w')
    | .error _ => none

theorem standard_quiet {st : Setting} (hsender : st.sender ≠ st.this) (hrouter : st.router ≠ st.this) :
    Quiet (standardEnv st) := (standard_exact hsender hrouter).toQuiet

theorem unapproved {st : Setting} (hst : st.approval = 0) (w : World) :
    ¬ Approved (standardEnv st) w := by
  rintro ⟨k, hk, hpos⟩
  obtain rfl : st.approval = k := Except.ok.inj hk
  rw [hst] at hpos
  exact absurd hpos (Nat.lt_irrefl 0)

/-- What such a callee calls back is a visit. -/
theorem callingBack_reentered {back : World → Option (List Entry × World)}
    (hback : ∀ {w es w'}, back w = some (es, w') →
      ∃ env c, ¬ Approved env w ∧ Call.Performs (Reentered 0) env c w es w')
    {r : Request} {w : World} {es : List Entry} {a : r.Answer} {w' : World}
    (h : callingBack back r w = .ok (es, a, w')) : Reentered 1 w es w' := by
  have hquiet : Quiet (standardEnv (setting 10 1000 10)) := standard_quiet (by decide) (by decide)
  cases r with
  | approve token spender value =>
      rw [callingBack] at h
      split at h
      · split at h
        · cases h
        · next es₁ w₁ hcall =>
            split at h
            · next b w₂ happrove =>
                cases h
                obtain ⟨env, c, hnot, hperforms⟩ := hback hcall
                exact .called hnot hperforms (hquiet.approve happrove)
            · cases h
      · exact hquiet.silent h
  | _ =>
      rw [callingBack] at h
      · exact hquiet.silent h
      · rintro token spender value ⟨⟩

theorem liquidating_reentered {r : Request} {w : World} {es : List Entry} {a : r.Answer} {w' : World}
    (h : liquidating r w = .ok (es, a, w')) : Reentered 1 w es w' := by
  have houtsider : Quiet (standardEnv outsider) := standard_quiet (by decide) (by decide)
  apply callingBack_reentered _ h
  intro w es w' hsell
  exact ⟨_, _, unapproved rfl w, sell_performs houtsider.silent hsell⟩

theorem claiming_reentered {r : Request} {w : World} {es : List Entry} {a : r.Answer} {w' : World}
    (h : claiming r w = .ok (es, a, w')) : Reentered 1 w es w' := by
  have hlender : Quiet (standardEnv lender) := standard_quiet (by decide) (by decide)
  apply callingBack_reentered _ h
  intro w es w' hclaim
  split at hclaim
  · next hrun =>
      cases hclaim
      exact ⟨_, _, unapproved rfl w, .other rfl (hlender.visited 0) hrun⟩
  · cases hclaim

end World

/-- The finish of the pool the opening leads to, while the lender claims. -/
theorem collateral_sold_once_claiming : ∃ log w₁,
    (Call.finish 1).Performs (Reentered 1) (standardEnv (World.setting 10 1000 10)) World.afterOpening
      log w₁ ∧ (log.map Entry.call).count (.claimLend 1) = 1 ∧ SoldOnce 1 1500 log := by
  have hfacts : (World.afterOpening.sell (standardEnv (World.setting 10 1000 10)) (.finish 1)
      World.claiming).map (fun x => ((x.1.map Entry.call).count (.claimLend 1),
        (x.1.map Entry.call).count (.liquidate 1))) = some (1, 0) := by decide +kernel
  have hsettled : (World.afterOpening.store.pools 1).settleAmountBorrow = 1500 := by decide +kernel
  obtain ⟨⟨log, w₁⟩, hlog, hcounts⟩ := Option.map_eq_some_iff.mp hfacts
  obtain ⟨hclaimed, hclean⟩ := Prod.mk.inj hcounts
  have hsale : (Call.finish 1).Performs (Reentered 1) (standardEnv (World.setting 10 1000 10))
      World.afterOpening log w₁ := World.sell_performs World.claiming_reentered hlog
  have honce := (collateral_sold_once (p := 1) rfl hsale .start).mpr ?_
  · rw [List.flatten_nil, List.append_nil, hsettled] at honce
    exact ⟨log, w₁, hsale, hclaimed, honce⟩
  · intro _ s hs
    exact List.count_eq_zero.mp hclean (List.mem_map_of_mem hs)

/-- The same finish when the pledge token calls back: both states are entered, and more than the settled
collateral goes to the router. -/
theorem collateral_sold_twice : ∃ es w env log w₁,
    Run HonestStep (deployed 10 50 World.openingLedger) es w ∧ (w.store.pools 1).state = .execution ∧
    (Call.finish 1).Performs (Reentered 1) env w log w₁ ∧ total (Entry.swaps 1) log = 2 ∧
    (w.store.pools 1).settleAmountBorrow < total (Entry.collateral 1) log ∧
    ¬ SoldOnce 1 (w.store.pools 1).settleAmountBorrow log := by
  have hfacts : (World.afterOpening.sell (standardEnv (World.setting 10 1000 10)) (.finish 1)
      World.liquidating).map (fun x => (total (Entry.swaps 1) x.1, total (Entry.collateral 1) x.1)) =
        some (2, 2000) := by decide +kernel
  have hsettled : (World.afterOpening.store.pools 1).settleAmountBorrow = 1500 := by decide +kernel
  obtain ⟨⟨log, w₁⟩, hlog, hnumbers⟩ := Option.map_eq_some_iff.mp hfacts
  obtain ⟨hswaps, hcollateral⟩ := Prod.mk.inj hnumbers
  refine ⟨_, _, _, log, w₁, World.play_run World.opening_plays, by decide +kernel,
    World.sell_performs World.liquidating_reentered hlog, hswaps, ?_, ?_⟩
  · show (World.afterOpening.store.pools 1).settleAmountBorrow < _
    rw [hsettled, hcollateral]
    decide
  · intro honce
    have hle := honce.swaps
    rw [hswaps] at hle
    exact absurd hle (by decide)

end Pledge.Contract
