import Pledge.Contract.Callees

/-!
# Every transaction has its effect

`transaction_effect`: when no callee calls back, a transaction that succeeds has one of the effects of
`Effect`, and the calls it made form a `Chain`. There is one lemma for each function of the source.
-/

namespace Pledge.Contract

open Pledge.Evm

/-! ## Storage accesses

The functions of the source read and write storage through a few accessors and stand behind two
modifiers. Each of these has an exact reading as a statement about the worlds before and after, and
they are bundled in `storage_rules`: a `simp only` with it and `Tx.rules` turns the success of a
body into the list of its checks, its external calls and its writes, in the order of the source. -/

/-- The world with another storage. -/
def World.mapStore (w : World) (f : Storage → Storage) : World := { w with store := f w.store }

@[simp] theorem World.mapStore_store (w : World) (f : Storage → Storage) :
    (w.mapStore f).store = f w.store := rfl

@[simp] theorem World.mapStore_ledger (w : World) (f : Storage → Storage) :
    (w.mapStore f).ledger = w.ledger := rfl

@[simp] theorem World.mapStore_transfers (w : World) (f : Storage → Storage) :
    (w.mapStore f).transfers = w.transfers := rfl

/-- The world inside a guarded function. -/
def World.guarded (w : World) : World := w.mapStore (·.setEntered true)

/-- A write moves no tokens. -/
theorem World.sameTokens_mapStore (w : World) (f : Storage → Storage) :
    w.SameTokens (w.mapStore f) := ⟨rfl, rfl⟩

/-- A guarded function finds the guard down, runs with it up, and leaves it down. -/
theorem nonReentrant_ok {α : Type} {body : Tx World α} {a : α} {w w' : World} :
    (nonReentrant body).run w = .ok (a, w') ↔ w.store.entered = false ∧
      ∃ w₁, body.run (w.mapStore (·.setEntered true)) = .ok (a, w₁) ∧
        w' = w₁.mapStore (·.setEntered false) := by
  simp only [nonReentrant, load, save, Tx.rules, and_assoc, exists_and_left, exists_eq_left,
    exists_const]
  constructor
  · rintro ⟨he, b, w₁, hb, rfl, rfl⟩
    exact ⟨he, w₁, hb, rfl⟩
  · rintro ⟨he, w₁, hb, rfl⟩
    exact ⟨he, a, w₁, hb, rfl, rfl⟩

/-- **How storage accesses and modifiers read**, for `simp only` together with `Tx.rules`. -/
theorem storage_rules :
    (∀ {α : Type} {f : Storage → α} {a : α} {w w' : World},
      (load f).run w = .ok (a, w') ↔ a = f w.store ∧ w' = w) ∧
    (∀ {f : Storage → Storage} {u : Unit} {w w' : World},
      (save f).run w = .ok (u, w') ↔ w' = w.mapStore f) ∧
    (∀ {p : Nat} {pool : Pool} {w w' : World},
      (getPool p).run w = .ok (pool, w') ↔ pool = w.store.pools p ∧ w' = w) ∧
    (∀ {p : Nat} {f : Pool → Pool} {u : Unit} {w w' : World},
      (updatePool p f).run w = .ok (u, w') ↔
        w' = w.mapStore fun s => s.setPool p (f (s.pools p))) ∧
    (∀ {p : Nat} {v : Address} {info : LendInfo} {w w' : World},
      (getLendInfo p v).run w = .ok (info, w') ↔ info = w.store.lendInfos p v ∧ w' = w) ∧
    (∀ {p : Nat} {v : Address} {f : LendInfo → LendInfo} {u : Unit} {w w' : World},
      (updateLendInfo p v f).run w = .ok (u, w') ↔
        w' = w.mapStore fun s => s.setLendInfo p v (f (s.lendInfos p v))) ∧
    (∀ {p : Nat} {v : Address} {info : BorrowInfo} {w w' : World},
      (getBorrowInfo p v).run w = .ok (info, w') ↔ info = w.store.borrowInfos p v ∧ w' = w) ∧
    (∀ {p : Nat} {v : Address} {f : BorrowInfo → BorrowInfo} {u : Unit} {w w' : World},
      (updateBorrowInfo p v f).run w = .ok (u, w') ↔
        w' = w.mapStore fun s => s.setBorrowInfo p v (f (s.borrowInfos p v))) ∧
    (∀ {p : Nat} {u : Unit} {w w' : World},
      (poolExists p).run w = .ok (u, w') ↔ w.store.Exists p ∧ w' = w) ∧
    (∀ {p : Nat} {st : PoolState} {u : Unit} {w w' : World},
      (validState p st).run w = .ok (u, w') ↔ (w.store.pools p).state = st ∧ w' = w) ∧
    (∀ {u : Unit} {w w' : World},
      notPaused.run w = .ok (u, w') ↔ w.store.globalPaused = false ∧ w' = w) ∧
    (∀ {p t : Nat} {u : Unit} {w w' : World},
      (timeBefore p t).run w = .ok (u, w') ↔ t < (w.store.pools p).endTime ∧ w' = w) := by
  have hload {α : Type} {f : Storage → α} {a : α} {w w' : World} :
      (load f).run w = .ok (a, w') ↔ a = f w.store ∧ w' = w := Tx.reads_ok
  have hsave {f : Storage → Storage} {u : Unit} {w w' : World} :
      (save f).run w = .ok (u, w') ↔ w' = w.mapStore f := Tx.modifies_ok
  refine ⟨hload, hsave, hload, hsave, hload, hsave, hload, hsave, ?_, ?_, ?_, ?_⟩
  all_goals
    intros
    simp only [poolExists, validState, notPaused, timeBefore, getPool, hload, Tx.rules, and_assoc,
      exists_and_left, exists_eq_left, Storage.Exists]

/-- The wallet has approved the sender for this contract. -/
def Approved (env : Env) (w : World) : Prop :=
  ∃ n, env.getValidSignature w.store.multiSignature (env.keccak env.sender env.this) 0 w = .ok n ∧
    0 < n

/-- The modifier passes the approved and changes nothing. -/
theorem validCall_ok {env : Env} {u : Unit} {w w' : World} :
    (validCall env).run w = .ok (u, w') ↔ Approved env w ∧ w' = w := by
  simp only [validCall, storage_rules, Tx.rules, and_assoc, exists_and_left, exists_eq_left,
    Approved]
  constructor
  · rintro ⟨n, hn, hpos, rfl⟩
    exact ⟨⟨n, hn, hpos⟩, rfl⟩
  · rintro ⟨⟨n, hn, hpos⟩, rfl⟩
    exact ⟨n, hn, hpos, rfl⟩

/-! ## Calls to tokens and router

What the contract asks of others is recorded as a list of moves (`Chain`). With quiet callees the
storage is the same after each call as before, so the body can go on with what it has read; this is
where the hypothesis `Quiet` enters, and the only place. -/

/-- From `w` to `w'` the calls `moves` were made and the storage of the contract stayed as it was. -/
def Called (env : Env) (moves : List Move) (w w' : World) : Prop :=
  Chain env w moves w' ∧ w'.store = w.store

/-- No call. -/
theorem Called.nil {env : Env} (w : World) : Called env [] w w := ⟨.done (.refl w), rfl⟩

/-- Calls one after the other. -/
theorem Called.append {env : Env} {w w₁ w' : World} {ms ms' : List Move} (h : Called env ms w w₁)
    (h' : Called env ms' w₁ w') : Called env (ms ++ ms') w w' :=
  ⟨h.1.append h'.1, h'.2.trans h.2⟩

/-- One call. -/
theorem Called.single {env : Env} {w w' : World} {m : Move} (hm : m.Ran env w w')
    (hs : w'.store = w.store) : Called env [m] w w' :=
  ⟨.single (.refl w) hm (.refl w'), hs⟩

/-- Calls made under a condition. -/
theorem Called.ite {env : Env} {w w' : World} {ms : List Move} {c made : Prop} [Decidable c]
    (h : c ∧ made ∨ ¬ c ∧ w' = w) (hmade : made → Called env ms w w') :
    Called env (if c then ms else []) w w' := by
  rcases h with ⟨hc, h⟩ | ⟨hc, rfl⟩
  · rw [if_pos hc]
    exact hmade h
  · rw [if_neg hc]
    exact .nil w'

section Quiet

variable {env : Env} {w w' : World}

/-- A payment out of the contract. -/
theorem transferToken_called (hq : Quiet env) {token recipient : Address} {n : Nat}
    (h : (transferToken env token recipient n).run w = .ok ((), w')) :
    Called env [.pay token recipient n] w w' := by
  refine .single h ?_
  simp only [transferToken, Tx.rules] at h
  rcases h with ⟨_, _, rfl⟩ | ⟨_, ⟨_, h⟩ | ⟨_, b, w₁, h, _, rfl⟩⟩
  · rfl
  · exact hq.sendEth h
  · exact hq.transfer h

/-- A payment to the contract, in ETH or by `transferFrom`, of which the contract counts what it
received. -/
theorem receiveToken_called (hq : Quiet env) {token : Address} {amount n : Nat}
    (h : (receiveToken env token env.sender amount).run w = .ok (n, w')) :
    ∃ moves, Received env token amount n moves ∧ Called env moves w w' := by
  simp only [receiveToken, Tx.rules, and_assoc, exists_and_left, exists_eq_left, exists_const] at h
  rcases h with ⟨rfl, hv, rfl, rfl⟩ | ⟨ht, hv, hn, b, w₁, h, rfl, rfl⟩
  · exact ⟨[], .eth hv, .nil w'⟩
  · exact ⟨[_], .token ht hv hn, .single ⟨b, h⟩ (hq.transferFrom h)⟩

/-- A mint of a claim token. -/
theorem mint_called (hq : Quiet env) {token holder : Address} {n : Nat} {b : Bool}
    (h : (env.mint token holder n).run w = .ok (b, w')) :
    Called env [.mint token holder n] w w' :=
  .single ⟨b, h⟩ (hq.mint h)

/-- A burn of a claim token. -/
theorem burn_called (hq : Quiet env) {token holder : Address} {n : Nat} {b : Bool}
    (h : (env.burn token holder n).run w = .ok (b, w')) :
    Called env [.burn token holder n] w w' :=
  .single ⟨b, h⟩ (hq.burn h)

/-! The router is asked for a path and a price, approved, and asked to swap. None of it touches the
storage. -/

theorem getSwapPath_same {t0 t1 : Address} {path : List Address}
    (h : (getSwapPath env t0 t1).run w = .ok (path, w')) : w' = w := by
  simp only [getSwapPath, storage_rules, Tx.rules, and_assoc, exists_and_left, exists_eq_left,
    exists_const] at h
  obtain ⟨_, _, _, h0, _, _, h1, _, rfl⟩ := h
  rcases h0 with ⟨_, _, rfl⟩ | ⟨_, _, rfl⟩ <;> rcases h1 with ⟨_, _, rfl⟩ | ⟨_, _, rfl⟩ <;> rfl

theorem getAmountIn_same {t0 t1 : Address} {n m : Nat}
    (h : (getAmountIn env t0 t1 n).run w = .ok (m, w')) : w' = w := by
  simp only [getAmountIn, storage_rules, Tx.rules, and_assoc, exists_and_left, exists_eq_left,
    exists_const] at h
  obtain ⟨_, _, _, hpath, _, _, _, rfl⟩ := h
  exact getSwapPath_same hpath

theorem safeApprove_store (hq : Quiet env) {token spender : Address} {n : Nat} {u : Unit}
    (h : (safeApprove env token spender n).run w = .ok (u, w')) : w'.store = w.store := by
  simp only [safeApprove, Tx.rules] at h
  obtain ⟨_, _, h, _, rfl⟩ := h
  exact hq.approve h

theorem swap_store (hq : Quiet env) {t0 t1 : Address} {n m : Nat}
    (h : (swap env t0 t1 n).run w = .ok (m, w')) : w'.store = w.store := by
  simp only [swap, storage_rules, Tx.rules, and_assoc, exists_and_left, exists_eq_left,
    exists_const] at h
  obtain ⟨_, ⟨_, _, rfl⟩ | ⟨_, path, w₁, hpath, w₂, ha0, w₃, ha1, _, amounts, w₄, hcall, _, _, rfl⟩⟩ := h
  · rfl
  obtain rfl := getSwapPath_same hpath
  -- two approvals, each made or skipped, then one of the three calls to the router
  have h₂ : w₂.store = w₁.store := by
    rcases ha0 with ⟨_, h⟩ | ⟨_, rfl⟩
    · exact safeApprove_store hq h
    · rfl
  have h₃ : w₃.store = w₂.store := by
    rcases ha1 with ⟨_, h⟩ | ⟨_, rfl⟩
    · exact safeApprove_store hq h
    · rfl
  have h₄ : w'.store = w₃.store := by
    rcases hcall with ⟨_, h⟩ | ⟨_, ⟨_, h⟩ | ⟨_, h⟩⟩
    · exact hq.swapExactETHForTokens h
    · exact hq.swapExactTokensForETH h
    · exact hq.swapExactTokensForTokens h
  rw [h₄, h₃, h₂]

/-- Nothing comes out of a swap of nothing. -/
theorem swap_zero {t0 t1 : Address} {m : Nat} (h : (swap env t0 t1 0).run w = .ok (m, w')) :
    m = 0 := by
  simp only [swap, storage_rules, Tx.rules, and_assoc, exists_and_left, exists_eq_left,
    exists_const, not_true_eq_false, false_and, or_false, true_and] at h
  exact h.2.1

/-- The principal and the interest, when the products are in range. -/
theorem calculateRepayAmount_ok {p duration repay : Nat} :
    (calculateRepayAmount p duration).run w = .ok (repay, w') ↔
      (w.store.pools p).RepaymentFits duration ∧ repay = (w.store.pools p).repayment duration ∧
        w' = w := by
  simp only [calculateRepayAmount, storage_rules, Tx.rules, and_assoc, exists_and_left,
    exists_eq_left, Pool.RepaymentFits, Pool.repayment]
  constructor
  · rintro ⟨h₁, _, h₂, h₃, _, _, h₄, rfl, rfl⟩
    exact ⟨h₁, h₂, h₃, h₄, rfl, rfl⟩
  · rintro ⟨h₁, h₂, h₃, h₄, rfl, rfl⟩
    exact ⟨h₁, by decide, h₂, h₃, by decide, by decide, h₄, rfl, rfl⟩

/-- The two branches of a redemption: a finished pool pays `f` out after its end time, a liquidated one
pays `l` out after its settle time. -/
theorem Pool.redeems_iff {pool : Pool} {f l n d r time : Nat} :
    (pool.state = .finish ∧ pool.endTime < time ∧ f * n < Tx.uint256 ∧ d ≠ 0 ∧ r = f * n / d ∧ w' = w ∨
      ¬ pool.state = .finish ∧ pool.settleTime < time ∧ l * n < Tx.uint256 ∧ d ≠ 0 ∧ r = l * n / d ∧
        w' = w) ↔
      pool.redeemTime < time ∧ (if pool.state = .finish then f else l) * n < Tx.uint256 ∧ d ≠ 0 ∧
        r = (if pool.state = .finish then f else l) * n / d ∧ w' = w := by
  unfold Pool.redeemTime
  by_cases hf : pool.state = .finish
  · simp only [hf, true_and, not_true_eq_false, false_and, or_false, ↓reduceIte]
  · simp only [hf, false_and, not_false_eq_true, true_and, false_or, ↓reduceIte]

/-- A fee transfer of the source: made if there is something to send and somewhere to send it. -/
def FeeSent (env : Env) (feeAddress token : Address) (fee : Nat) (w w' : World) : Prop :=
  (Tx.when (0 < fee ∧ feeAddress ≠ 0) (transferToken env token feeAddress fee)).run w = .ok ((), w')

/-- Nothing is sold for nothing; otherwise the router swaps what the target needs. -/
theorem sellExactAmount_ok {t0 t1 : Address} {n sold received : Nat}
    (h : (sellExactAmount env t0 t1 n).run w = .ok ((sold, received), w')) :
    (n = 0 ∧ sold = 0 ∧ received = 0 ∧ w' = w) ∨
      (0 < n ∧ (swap env t0 t1 sold).run w = .ok (received, w')) := by
  simp only [sellExactAmount, Tx.rules, Prod.mk.injEq, and_assoc] at h
  rcases h with ⟨rfl, rfl, rfl, rfl⟩ | ⟨hn, sold, w₁, hquote, received, w₂, hswap, rfl, rfl, rfl⟩
  · exact .inl ⟨rfl, rfl, rfl, rfl⟩
  · rw [getAmountIn_same hquote] at hswap
    exact .inr ⟨Nat.pos_of_ne_zero hn, hswap⟩

/-- The transfer of a fee, or the branch that skips it. -/
theorem FeeSent.cases {feeAddress token : Address} {fee : Nat}
    (h : FeeSent env feeAddress token fee w w') :
    (0 < fee ∧ feeAddress ≠ 0) ∧ (transferToken env token feeAddress fee).run w = .ok ((), w') ∨
      ¬ (0 < fee ∧ feeAddress ≠ 0) ∧ w' = w := by
  unfold FeeSent at h
  rwa [Tx.when_ok] at h

theorem FeeSent.store (hq : Quiet env) {feeAddress token : Address} {fee : Nat}
    (h : FeeSent env feeAddress token fee w w') : w'.store = w.store := by
  rcases h.cases with ⟨-, hpay⟩ | ⟨-, rfl⟩
  · exact (transferToken_called hq hpay).2
  · rfl

/-- The sale leaves the storage as it is. -/
theorem sellExactAmount_store (hq : Quiet env) {t0 t1 : Address} {n : Nat} {r : Nat × Nat}
    (h : (sellExactAmount env t0 t1 n).run w = .ok (r, w')) : w'.store = w.store := by
  rcases sellExactAmount_ok h with ⟨-, -, -, rfl⟩ | ⟨-, hswap⟩
  · rfl
  · exact swap_store hq hswap

/-- `_processSwapAndFees` is a sale, a check of its proceeds and the transfer of what is above the
amount to be raised. -/
theorem processSwapAndFees_ok (hq : Quiet env) {p lend sold amountIn : Nat} :
    (processSwapAndFees env p lend).run w = .ok ((sold, amountIn), w') ↔
      RATE_BASE + w.store.lendFee < Tx.uint256 ∧
      lend * (RATE_BASE + w.store.lendFee) < Tx.uint256 ∧ amountIn = lend ∧ ∃ received w₁,
        (sellExactAmount env (w.store.pools p).pledgeToken (w.store.pools p).settleToken
          (w.store.saleTarget lend)).run w = .ok ((sold, received), w₁) ∧ lend ≤ received ∧
        FeeSent env w.store.feeAddress (w.store.pools p).settleToken (received - lend) w₁ w' := by
  have hbase : RATE_BASE ≠ 0 := by decide
  simp only [processSwapAndFees, storage_rules, Tx.bind_ok, Tx.uadd_ok, Tx.umul_ok, Tx.udiv_ok,
    Tx.require_ok, Tx.ite_ok, Tx.when_ok, Tx.usub_ok, Tx.pure_ok, Prod.mk.injEq, and_assoc,
    exists_and_left, exists_eq_left, exists_const, hbase, ne_eq, not_false_eq_true, true_and,
    Storage.saleTarget, FeeSent]
  refine and_congr_right fun _ => and_congr_right fun _ => ?_
  constructor
  · rintro ⟨⟨sold', received⟩, w₁, hsell, hle, h⟩
    have hstore : w₁.store = w.store := sellExactAmount_store hq hsell
    simp only [hstore] at h
    rcases h with ⟨hlt, -, w₂, hpay, -, rfl, rfl, rfl⟩ | ⟨hnot, rfl, rfl, rfl⟩
    · refine ⟨Nat.sub_sub_self hle, received, w₁, hsell, hle, ?_⟩
      rcases hpay with ⟨hpos, haddress, hpay⟩ | ⟨hskip, rfl⟩
      · exact .inl ⟨hpos, haddress, hpay⟩
      · exact .inr ⟨hskip, rfl⟩
    · -- without a surplus nothing is sent
      obtain rfl : amountIn = lend := Nat.le_antisymm (Nat.not_lt.mp hnot) hle
      refine ⟨rfl, amountIn, w', hsell, hle, .inr ⟨?_, rfl⟩⟩
      rw [Nat.sub_self]
      exact fun h => Nat.lt_irrefl 0 h.1
  · rintro ⟨rfl, received, w₁, hsell, hle, hpay⟩
    have hstore : w₁.store = w.store := sellExactAmount_store hq hsell
    refine ⟨(sold, received), w₁, hsell, hle, ?_⟩
    simp only [hstore]
    -- the source sends a fee only above what is owed, and with nothing above it there is none to
    -- send
    by_cases hlt : amountIn < received
    · refine .inl ⟨hlt, hle, w', ?_, Nat.sub_le _ _, trivial, (Nat.sub_sub_self hle).symm, rfl⟩
      rcases hpay with ⟨hpos, haddress, hpay⟩ | ⟨hskip, rfl⟩
      · exact .inl ⟨hpos, haddress, hpay⟩
      · exact .inr ⟨hskip, rfl⟩
    · have heq : amountIn = received := Nat.le_antisymm hle (Nat.not_lt.mp hlt)
      rcases hpay with ⟨hpos, -⟩ | ⟨-, rfl⟩
      · exact absurd (Nat.sub_pos_iff_lt.mp hpos) hlt
      · exact .inr ⟨hlt, trivial, heq, rfl⟩

/-- `_redeemFees` deducts the fee and sends it if it can. -/
theorem redeemFees_ok {ratio amount rest : Nat} {token : Address} :
    (redeemFees env ratio token amount).run w = .ok (rest, w') ↔
      amount * ratio < Tx.uint256 ∧ feeOf ratio amount ≤ amount ∧ rest = amount - feeOf ratio amount ∧
        FeeSent env w.store.feeAddress token (feeOf ratio amount) w w' := by
  have hbase : RATE_BASE ≠ 0 := by decide
  unfold redeemFees
  rw [Tx.ite_ok]
  by_cases hzero : ratio = 0 ∨ amount = 0
  · -- there is no fee, and nothing is computed
    have hproduct : amount * ratio = 0 := by
      rcases hzero with rfl | rfl <;> simp
    have hfee : feeOf ratio amount = 0 := by
      rw [feeOf, hproduct, Nat.zero_div]
    have hrange : 0 < Tx.uint256 := Nat.two_pow_pos 256
    simp only [hzero, true_and, not_true_eq_false, false_and, or_false, Tx.pure_ok, hproduct, hfee,
      hrange, Nat.zero_le, Nat.sub_zero, FeeSent, Tx.when_ok, Nat.lt_irrefl, not_false_eq_true,
      false_or]
  · simp only [hzero, false_and, false_or, not_false_eq_true, true_and, storage_rules, Tx.bind_ok,
      Tx.umul_ok, Tx.udiv_ok, Tx.usub_ok, and_assoc, exists_and_left, exists_eq_left, hbase, ne_eq]
    constructor
    · rintro ⟨hrange, u, w₁, hpay, hle, rfl, rfl⟩
      exact ⟨hrange, hle, rfl, hpay⟩
    · rintro ⟨hrange, hle, rfl, hpay⟩
      exact ⟨hrange, (), w', hpay, hle, rfl, rfl⟩

/-- The moves of a fee. -/
theorem FeeSent.called (hq : Quiet env) {token : Address} {fee : Nat}
    (h : FeeSent env w.store.feeAddress token fee w w') : Called env (feeMoves w.store token fee) w w' :=
  .ite h.cases fun h => transferToken_called hq h

/-- The moves of the borrow fee, and what is left after it. -/
theorem redeemFees_called (hq : Quiet env) {ratio amount rest : Nat} {token : Address}
    (h : (redeemFees env ratio token amount).run w = .ok (rest, w')) :
    feeOf ratio amount ≤ amount ∧ rest = amount - feeOf ratio amount ∧
      Called env (feeMoves w.store token (feeOf ratio amount)) w w' := by
  obtain ⟨-, hle, hrest, hfee⟩ := redeemFees_ok.mp h
  exact ⟨hle, hrest, hfee.called hq⟩

/-- The sale raises `lend` and keeps it; what the router delivered beyond it went out as fee. -/
theorem processSwapAndFees_called (hq : Quiet env) {p lend sold amountIn : Nat}
    (h : (processSwapAndFees env p lend).run w = .ok ((sold, amountIn), w')) :
    amountIn = lend ∧ ∃ received moves,
      Sale w.store (w.store.pools p) lend sold received moves ∧ Called env moves w w' := by
  obtain ⟨-, -, rfl, received, w₁, hsell, hle, hfee⟩ := (processSwapAndFees_ok hq).mp h
  rcases sellExactAmount_ok hsell with ⟨-, rfl, rfl, rfl⟩ | ⟨hpos, hswap⟩
  · -- nothing was to be raised
    obtain rfl : amountIn = 0 := Nat.le_zero.mp hle
    rcases hfee.cases with ⟨⟨hdue, -⟩, -⟩ | ⟨-, rfl⟩
    · exact absurd hdue (Nat.lt_irrefl 0)
    · exact ⟨rfl, 0, [], .none, .nil w'⟩
  · have hlend : 0 < amountIn := by
      apply Nat.pos_of_ne_zero
      intro h0
      simp [h0, Storage.saleTarget] at hpos
    have hsold : 0 < sold := by
      apply Nat.pos_of_ne_zero
      intro h0
      subst h0
      -- a swap of nothing would have delivered nothing, below what was to be raised
      rw [swap_zero hswap] at hle
      omega
    have hstore : w₁.store = w.store := swap_store hq hswap
    have hsale : Sale w.store (w.store.pools p) amountIn sold received _ := .some hlend hsold hle
    have hcalled := Called.single (m := .swap _ _ _ _) hswap hstore
    rw [← hstore] at hfee
    have hsent := hfee.called hq
    rw [hstore] at hsent
    exact ⟨rfl, received, _, hsale, hcalled.append hsent⟩

/-- What `finish` and `liquidate` do with the collateral of `p`: they sell, write down what came in
with `f`, and take the fee on what was not sold. -/
structure SellsOff (env : Env) (p lend : Nat) (f : Nat → Pool → Pool) (w : World)
    (sold amountIn rest : Nat) (w₁ w₂ : World) : Prop where
  sale : (processSwapAndFees env p lend).run w = .ok ((sold, amountIn), w₁)
  covered : sold ≤ (w.store.pools p).settleAmountBorrow
  redeem : (redeemFees env w.store.borrowFee (w.store.pools p).pledgeToken
    ((w.store.pools p).settleAmountBorrow - sold)).run
      (w₁.mapStore fun s => s.setPool p (f amountIn (s.pools p))) = .ok (rest, w₂)

/-- The functions read the pool and the fee again after the sale, and find what was there before. -/
theorem sellsOff_iff (hq : Quiet env) {p lend sold amountIn rest : Nat} {f : Nat → Pool → Pool}
    (hf : ∀ n pool, (f n pool).settleAmountBorrow = pool.settleAmountBorrow ∧
      (f n pool).pledgeToken = pool.pledgeToken) {w₁ w₂ w₃ : World}
    (hw₃ : w₃ = w₁.mapStore fun s => s.setPool p (f amountIn (s.pools p))) :
    SellsOff env p lend f w sold amountIn rest w₁ w₂ ↔
      (processSwapAndFees env p lend).run w = .ok ((sold, amountIn), w₁) ∧
      sold ≤ (w₃.store.pools p).settleAmountBorrow ∧
      (redeemFees env w₃.store.borrowFee (w₃.store.pools p).pledgeToken
        ((w₃.store.pools p).settleAmountBorrow - sold)).run w₃ = .ok (rest, w₂) := by
  have hsame (hsale : (processSwapAndFees env p lend).run w = .ok ((sold, amountIn), w₁)) :
      (w₃.store.pools p).settleAmountBorrow = (w.store.pools p).settleAmountBorrow ∧
        (w₃.store.pools p).pledgeToken = (w.store.pools p).pledgeToken ∧
        w₃.store.borrowFee = w.store.borrowFee := by
    obtain ⟨-, -, -, -, -, hs₁⟩ := processSwapAndFees_called hq hsale
    simp [hw₃, hs₁, hf]
  constructor
  · rintro ⟨hsale, hcovered, hredeem⟩
    obtain ⟨hsettle, htoken, hfee⟩ := hsame hsale
    rw [hsettle, htoken, hfee, hw₃]
    exact ⟨hsale, hcovered, hredeem⟩
  · rintro ⟨hsale, hcovered, hredeem⟩
    obtain ⟨hsettle, htoken, hfee⟩ := hsame hsale
    rw [hsettle] at hcovered
    rw [hsettle, htoken, hfee, hw₃] at hredeem
    exact ⟨hsale, hcovered, hredeem⟩

/-- Between the sale and the fee the pool is written, and no callee touches it. -/
theorem SellsOff.store (hq : Quiet env) {p lend sold amountIn rest : Nat} {f : Nat → Pool → Pool}
    {w₁ w₂ : World} (h : SellsOff env p lend f w sold amountIn rest w₁ w₂) :
    w₂.store = w.store.setPool p (f amountIn (w.store.pools p)) := by
  obtain ⟨-, -, -, -, -, hs₁⟩ := processSwapAndFees_called hq h.sale
  obtain ⟨-, -, -, hs₂⟩ := redeemFees_called hq h.redeem
  rw [hs₂, World.mapStore_store, hs₁]

/-- All moves of a sale with its two fees: the calls of `finish` and `liquidate` in their order. -/
theorem SellsOff.called (hq : Quiet env) {p lend sold amountIn rest : Nat} {f : Nat → Pool → Pool}
    {w₁ w₂ : World} (h : SellsOff env p lend f w sold amountIn rest w₁ w₂) :
    ∃ received moves fee, fee = feeOf w.store.borrowFee ((w.store.pools p).settleAmountBorrow - sold) ∧
      Sale w.store (w.store.pools p) lend sold received moves ∧ amountIn = lend ∧
      fee ≤ (w.store.pools p).settleAmountBorrow - sold ∧
      rest = (w.store.pools p).settleAmountBorrow - sold - fee ∧
      Chain env w (moves ++ feeMoves w.store (w.store.pools p).pledgeToken fee) w₂ := by
  obtain ⟨rfl, received, moves, hsale, hsaleChain, hs₁⟩ := processSwapAndFees_called hq h.sale
  obtain ⟨hfee, hrest, hfeeChain, -⟩ := redeemFees_called hq h.redeem
  simp only [World.mapStore_store, hs₁, feeMoves_setPool] at hfeeChain
  exact ⟨received, moves, _, rfl, hsale, rfl, hfee, hrest,
    hsaleChain.append (hfeeChain.of_same (World.sameTokens_mapStore w₁ _))⟩

end Quiet

/-! ## The loops over the borrowers

Two functions walk over the list of borrowers: `_calculateTotals` adds up those that count, and
`liquidate` marks them. Both loops are read by induction on the list, from any accumulators and from
any storage, since a round hands the next one whatever it has come to. -/

section Loops

variable {env : Env} {w w' : World}

/-- The rounds of `_calculateTotals` that remain, from any accumulators that still fit in a word. -/
theorem calculateTotals_fold {p pledgePrice settlePrice : Nat} (hsp : 0 < settlePrice)
    {us : List Address} {acc totals : Nat × Nat} (hacc₁ : acc.1 < Tx.uint256)
    (hacc₂ : acc.2 < Tx.uint256) :
    (Tx.fold (addTotals p pledgePrice settlePrice) acc us).run w = .ok (totals, w') ↔
      w' = w ∧
      totals.1 = acc.1 + ((us.filter fun u => decide (w.store.Counted p u)).map fun u =>
        (w.store.borrowInfos p u).pledgeAmount * pledgePrice / settlePrice).sum ∧
      totals.2 = acc.2 + ((us.filter fun u => decide (w.store.Counted p u)).map fun u =>
        (w.store.borrowInfos p u).borrowAmount).sum ∧
      totals.1 < Tx.uint256 ∧ totals.2 < Tx.uint256 ∧
      ∀ u ∈ us.filter fun u => decide (w.store.Counted p u),
        (w.store.borrowInfos p u).pledgeAmount * pledgePrice < Tx.uint256 := by
  -- the accumulators change from round to round, so the induction is for all of them
  induction us generalizing acc with
  | nil =>
      rw [Tx.fold_nil_ok]
      constructor
      · rintro ⟨rfl, rfl⟩
        exact ⟨rfl, rfl, rfl, hacc₁, hacc₂, nofun⟩
      · rintro ⟨rfl, h₁, h₂, -⟩
        exact ⟨Prod.ext h₁ h₂, rfl⟩
  | cons u us ih =>
      simp only [Tx.fold_cons_ok, addTotals, storage_rules, Tx.rules, and_assoc, exists_and_left,
        exists_eq_left]
      by_cases hcount : w.store.Counted p u
      · -- the borrower is counted: its value and its loan go on the accumulators
        have hboth := hcount
        obtain ⟨hs, hl⟩ := hcount
        rw [List.filter_cons_of_pos (by simpa using hboth)]
        simp only [hs, hl, true_and, not_true_eq_false, false_and, or_false, List.map_cons,
          List.sum_cons, List.mem_cons, forall_eq_or_imp]
        constructor
        · rintro ⟨acc', w₁, ⟨hp, -, hv, hb, rfl, rfl⟩, hrest⟩
          obtain ⟨rfl, h₁, h₂, hfit₁, hfit₂, hall⟩ := (ih hv hb).mp hrest
          refine ⟨rfl, ?_, ?_, hfit₁, hfit₂, hp, hall⟩
          · rw [h₁, Nat.add_assoc]
          · rw [h₂, Nat.add_assoc]
        · rintro ⟨rfl, h₁, h₂, hfit₁, hfit₂, hp, hall⟩
          -- the final sums fit, so the accumulators fit after this round
          have hv : acc.1 + (w'.store.borrowInfos p u).pledgeAmount * pledgePrice / settlePrice <
              Tx.uint256 := by omega
          have hb : acc.2 + (w'.store.borrowInfos p u).borrowAmount < Tx.uint256 := by omega
          refine ⟨_, w', ⟨hp, hsp.ne', hv, hb, rfl, rfl⟩, ?_⟩
          refine (ih hv hb).mpr ⟨rfl, ?_, ?_, hfit₁, hfit₂, hall⟩
          · rw [h₁, Nat.add_assoc]
          · rw [h₂, Nat.add_assoc]
      · -- the borrower is skipped
        have hout : ¬ ((w.store.borrowInfos p u).settled = true ∧
            (w.store.borrowInfos p u).liquidated = false) := hcount
        rw [List.filter_cons_of_neg (by simpa using hcount)]
        constructor
        · rintro ⟨acc', w₁, ⟨hs, hl, -⟩ | ⟨-, rfl, rfl⟩, hrest⟩
          · exact absurd ⟨hs, hl⟩ hcount
          · exact (ih hacc₁ hacc₂).mp hrest
        · intro h
          exact ⟨acc, w, .inr ⟨hout, rfl, rfl⟩, (ih hacc₁ hacc₂).mpr h⟩

/-- One round, then the rest: the borrowers marked by the round are not counted by the rest. -/
theorem markLiquidated_cons (s : Storage) (p : Nat) (u : Address) (us : List Address) :
    s.markLiquidated p (u :: us) =
      Storage.markLiquidated
        (if s.Counted p u then s.setBorrowInfo p u { s.borrowInfos p u with liquidated := true }
          else s) p us := by
  split
  · next hc =>
      simp only [Storage.markLiquidated, Storage.setBorrowInfo, Function.update_idem,
        Function.update_self, List.mem_cons, Storage.Counted]
      congr 2
      funext v
      by_cases hv : v = u
      · subst hv
        simp [hc.1, hc.2]
      · simp [hv]
  · next hc =>
      simp only [Storage.markLiquidated, List.mem_cons]
      congr 2
      funext v
      by_cases hv : v = u
      · subst hv
        simp [hc]
      · simp [hv]

/-- The loop of `liquidate` marks the borrowers that are counted where it starts. -/
theorem markLiquidated_fold {p : Nat} {us : List Address} :
    (Tx.fold (markLiquidated p) () us).run w = .ok ((), w') ↔
      w' = w.mapStore (·.markLiquidated p us) := by
  induction us generalizing w with
  | nil =>
      rw [Tx.fold_nil_ok]
      simp [Storage.markLiquidated, World.mapStore]
  | cons u us ih =>
      -- the round writes one record, and the rest of the list goes on from there
      have hcons := markLiquidated_cons w.store p u us
      simp only [Tx.fold_cons_ok, markLiquidated, storage_rules, Tx.rules, and_assoc,
        exists_and_left, exists_eq_left, exists_const, ih]
      by_cases hc : w.store.Counted p u
      · rw [if_pos hc] at hcons
        constructor
        · rintro ⟨_, ⟨_, _, rfl⟩ | ⟨hout, _⟩, rfl⟩
          · simp only [World.mapStore, hcons]
          · exact absurd hc hout
        · rintro rfl
          exact ⟨_, .inl ⟨hc.1, hc.2, rfl⟩, by simp only [World.mapStore, hcons]⟩
      · rw [if_neg hc] at hcons
        constructor
        · rintro ⟨_, ⟨hs, hl, _⟩ | ⟨_, rfl⟩, rfl⟩
          · exact absurd ⟨hs, hl⟩ hc
          · simp only [World.mapStore, hcons]
        · rintro rfl
          exact ⟨_, .inr ⟨hc, rfl⟩, by simp only [World.mapStore, hcons]⟩

/-- `_calculateTotals` sums over the counted borrowers, or overflows. -/
theorem calculateTotals_ok {p pledgePrice settlePrice : Nat} (hsp : 0 < settlePrice)
    {totals : Nat × Nat} :
    (calculateTotals p pledgePrice settlePrice).run w = .ok (totals, w') ↔
      w' = w ∧ totals.1 = w.store.totalPledgeValue p pledgePrice settlePrice ∧
      totals.2 = w.store.totalBorrowAmount p ∧ totals.1 < Tx.uint256 ∧ totals.2 < Tx.uint256 ∧
      ∀ u ∈ w.store.countedBorrowers p,
        (w.store.borrowInfos p u).pledgeAmount * pledgePrice < Tx.uint256 := by
  have hzero : 0 < Tx.uint256 := Nat.two_pow_pos 256
  simp only [calculateTotals, storage_rules, Tx.rules, and_assoc, exists_and_left, exists_eq_left]
  rw [calculateTotals_fold hsp hzero hzero]
  simp only [Nat.zero_add]
  rfl

/-- The health factor: both prices are there and positive, every product is in range, and nothing is
written. -/
theorem calculateHealthFactor_ok {p healthFactor : Nat}
    (hstate : (w.store.pools p).state = .execution) :
    (calculateHealthFactor env p).run w = .ok (healthFactor, w') ↔
      w' = w ∧ w.store.Exists p ∧ w.store.oracle ≠ 0 ∧ ∃ pledgePrice settlePrice,
        0 < pledgePrice ∧ 0 < settlePrice ∧
        env.getPrice w.store.oracle (w.store.pools p).pledgeToken w = .ok pledgePrice ∧
        env.getPrice w.store.oracle (w.store.pools p).settleToken w = .ok settlePrice ∧
        w.store.HealthFits p pledgePrice settlePrice ∧
        healthFactor = w.store.healthFactor p pledgePrice settlePrice := by
  simp only [calculateHealthFactor, getPrices, storage_rules, Tx.rules, and_assoc,
    exists_and_left, exists_eq_left, exists_const, hstate, ne_eq, not_true_eq_false, false_and,
    false_or, not_false_eq_true, true_and]
  constructor
  · rintro ⟨hex, horacle, _, _, ⟨pp, hpp, sp, hsp, rfl, rfl⟩, hpos, hpos', totals, w₁, htotals, h⟩
    dsimp only at hpos hpos' htotals
    obtain ⟨rfl, hvalue, hborrow, hfit₁, hfit₂, hall⟩ := (calculateTotals_ok hpos').mp htotals
    rw [hvalue] at hfit₁
    rw [hborrow] at hfit₂
    have hhealth : w₁.store.healthFactor p pp sp =
        if totals.2 = 0 then RATE_BASE else totals.1 * RATE_BASE / totals.2 := by
      rw [hvalue, hborrow]
      rfl
    -- with no loans outstanding the factor is par, and nothing is multiplied
    rcases h with ⟨h0, rfl, rfl⟩ | ⟨h0, hprod, _, rfl, rfl⟩
    · refine ⟨rfl, hex, horacle, pp, hpos, sp, hpos', hpp, hsp, ⟨hall, hfit₁, hfit₂, ?_⟩, ?_⟩
      · intro hne
        exact absurd (hborrow.symm.trans h0) hne
      · rw [hhealth, if_pos h0]
    · refine ⟨rfl, hex, horacle, pp, hpos, sp, hpos', hpp, hsp, ⟨hall, hfit₁, hfit₂, ?_⟩, ?_⟩
      · intro _
        rwa [hvalue] at hprod
      · rw [hhealth, if_neg h0]
  · rintro ⟨rfl, hex, horacle, pp, hpos, sp, hpos', hpp, hsp, ⟨hall, hfit₁, hfit₂, hprod⟩, rfl⟩
    refine ⟨hex, horacle, _, _, ⟨pp, hpp, sp, hsp, rfl, rfl⟩, hpos, hpos', (_, _), w',
      (calculateTotals_ok hpos').mpr ⟨rfl, rfl, rfl, hfit₁, hfit₂, hall⟩, ?_⟩
    unfold Storage.healthFactor
    by_cases h0 : w'.store.totalBorrowAmount p = 0
    · exact .inl ⟨h0, if_pos h0, rfl⟩
    · exact .inr ⟨h0, hprod h0, h0, if_neg h0, rfl⟩

end Loops

/-! ## The reentrancy guard

The effects are stated for the storage as it is between transactions, with the guard down, while the
body of a guarded function runs with it up. Since no effect reads or writes the guard, the one
follows from the other, once for all functions (`nonReentrant_does`). -/

/-- From `w` to `w'` the call `c` had one of its effects. -/
def Does (env : Env) (c : Call) (w w' : World) : Prop :=
  ∃ moves, Effect env w.store c moves w'.store ∧ Chain env w moves w'

/-- A sale does not see the guard. -/
theorem Sale.setEntered {s : Storage} {pool : Pool} {lend sold received : Nat} {moves : List Move}
    (h : Sale s pool lend sold received moves) (b : Bool) :
    Sale (s.setEntered b) pool lend sold received moves := by
  cases h with
  | none => exact .none
  | some hlend hsold h => exact .some hlend hsold h

theorem recordLend_setEntered (s : Storage) (p : Nat) (u : Address) (n : Nat) (b : Bool) :
    (s.recordLend p u n).setEntered b = (s.setEntered b).recordLend p u n := by
  have hpush (c : Prop) [Decidable c] :
      (if c then s.pushLender p u else s).setEntered b =
        if c then (s.setEntered b).pushLender p u else s.setEntered b := by
    split <;> rfl
  show (((if _ then _ else _ : Storage).setEntered b).setLendInfo p u _).setPool p _ = _
  rw [hpush]
  rfl

theorem recordBorrow_setEntered (s : Storage) (p : Nat) (u : Address) (n : Nat) (b : Bool) :
    (s.recordBorrow p u n).setEntered b = (s.setEntered b).recordBorrow p u n := by
  have hpush (c : Prop) [Decidable c] :
      (if c then s.pushBorrower p u else s).setEntered b =
        if c then (s.setEntered b).pushBorrower p u else s.setEntered b := by
    split <;> rfl
  show (((if _ then _ else _ : Storage).setEntered b).setBorrowInfo p u _).setPool p _ = _
  rw [hpush]
  rfl

/-- No effect reads or writes the guard. -/
theorem Effect.setEntered {env : Env} {s s' : Storage} {c : Call} {moves : List Move}
    (h : Effect env s c moves s') (b : Bool) :
    Effect env (s.setEntered b) c moves (s'.setEntered b) := by
  cases h with
  | depositLend hex hstate hend hrecv hmin hmax =>
      rw [recordLend_setEntered]
      exact .depositLend hex hstate hend hrecv hmin hmax
  | depositBorrow hex hstate hend hrecv =>
      rw [recordBorrow_setEntered]
      exact .depositBorrow hex hstate hend hrecv
  | finish hex htime hstate horder hsale hsold hfee =>
      exact .finish hex htime hstate horder (hsale.setEntered b) hsold hfee
  | liquidate hex hstate htime hpledge hsettle hpp hsp hhealth hsale hsold hfee =>
      exact .liquidate hex hstate htime hpledge hsettle hpp hsp hhealth (hsale.setEntered b) hsold hfee
  | settleExecution hex htime hstate hlend hborrow hpledge hsettle =>
      exact .settleExecution hex htime hstate hlend hborrow hpledge hsettle
  | settleUndone hex htime hstate hempty => exact .settleUndone hex htime hstate hempty
  | _ => constructor <;> assumption

/-- The body of a guarded function runs with the guard up; from outside it is seen with the guard down. -/
theorem Does.unguarded {env : Env} {c : Call} {w w₁ : World} (hfree : w.store.entered = false)
    (h : Does env c w.guarded w₁) : Does env c w (w₁.mapStore (·.setEntered false)) := by
  obtain ⟨moves, heff, hchain⟩ := h
  have hback := heff.setEntered false
  rw [show (w.guarded.store.setEntered false) = w.store from
    Storage.setEntered_of_eq w.store hfree] at hback
  exact ⟨moves, hback, (hchain.of_same (World.sameTokens_mapStore w _)).then_same
    (World.sameTokens_mapStore w₁ _)⟩

/-- A guarded function does what its body does. -/
theorem nonReentrant_does {env : Env} {c : Call} {body : Tx World Unit} {w w' : World}
    (h : (nonReentrant body).run w = .ok ((), w'))
    (hbody : ∀ {w w₁}, body.run w = .ok ((), w₁) → Does env c w w₁) : Does env c w w' := by
  obtain ⟨hfree, w₁, hrun, rfl⟩ := nonReentrant_ok.mp h
  exact (hbody hrun).unguarded hfree

/-! ## One lemma for each function

From here on the lemmas follow the source function by function: first `PoolLendBorrow`, then
`PledgePool`. Each opens the body with the rules, takes the list of checks apart in the order in
which the source makes them, and hands those that matter to the constructor of `Effect` with the
function's name. Where a later proof also needs the converse, the lemma is an equivalence and ends
in `_ok`. -/

section Functions

variable {env : Env} {w w' : World}

/-- Calls that left the storage alone, and a write after or before them. -/
theorem Called.does {c : Call} {moves : List Move} {s' : Storage}
    (h : Called env moves w w') (heff : Effect env w.store c moves s') (hs : w'.store = s') :
    Does env c w w' := ⟨moves, hs ▸ heff, h.1⟩

/-- A call that made no external calls and wrote the storage once. -/
theorem Effect.does {c : Call} {f : Storage → Storage}
    (heff : Effect env w.store c [] (f w.store)) : Does env c w (w.mapStore f) :=
  ⟨[], heff, .done (World.sameTokens_mapStore w f)⟩

/-! The two ways to create a pool. `createPoolInfo` creates it as `createPool` does and then writes
the fields that are missing. -/

theorem createPool_eq {settleToken pledgeToken : Address}
    {borrowAmount interestRate pledgeRate liquidationRate endTime p : Nat}
    (h : (createPool env settleToken pledgeToken borrowAmount interestRate pledgeRate
      liquidationRate endTime).run w = .ok (p, w')) :
    p = w.store.poolCounter + 1 ∧ w.store.poolCounter + 1 < Tx.uint256 ∧
      w' = w.mapStore (·.addPool (newPool env.sender settleToken pledgeToken borrowAmount
        interestRate pledgeRate liquidationRate endTime)) ∧
      Effect env w.store
        (.createPool settleToken pledgeToken borrowAmount interestRate pledgeRate liquidationRate
          endTime) []
        (w.store.addPool (newPool env.sender settleToken pledgeToken borrowAmount
          interestRate pledgeRate liquidationRate endTime)) := by
  simp only [createPool, validCall_ok, storage_rules, Tx.rules, and_assoc, exists_and_left,
    exists_eq_left, exists_const] at h
  obtain ⟨_, hsettle, hpledge, hborrow, hi, hi', hr, hr', hl, hl', hend, hword, rfl, rfl⟩ := h
  exact ⟨rfl, hword, rfl, .createPool hsettle hpledge hborrow ⟨hi, hi'⟩ ⟨hr, hr'⟩ ⟨hl, hl'⟩ hend⟩

theorem createPoolInfo_does {settleTime endTime interestRate maxSupply martgageRate : Nat}
    {lendToken borrowToken spToken jpToken : Address} {autoLiquidateThreshold p : Nat}
    (h : (createPoolInfo env settleTime endTime interestRate maxSupply martgageRate lendToken
      borrowToken spToken jpToken autoLiquidateThreshold).run w = .ok (p, w')) :
    Does env (.createPoolInfo settleTime endTime interestRate maxSupply martgageRate lendToken
      borrowToken spToken jpToken autoLiquidateThreshold) w w' := by
  simp only [createPoolInfo, setPoolSpToken, setPoolJpToken, validCall_ok, storage_rules, Tx.rules,
    and_assoc, exists_and_left, exists_eq_left, exists_const] at h
  obtain ⟨_, htime, hjp, hsp, q, w₁, hcreate, _, _, _, _, _, _, rfl, rfl⟩ := h
  obtain ⟨rfl, -, rfl, heff⟩ := createPool_eq hcreate
  cases heff with
  | createPool hsettle hpledge hborrow hinterest hrate hliq hend =>
      refine ⟨[], ?_, .done ⟨rfl, rfl⟩⟩
      simp only [World.mapStore_store, Storage.addPool_setPool, Storage.addPool_pools, if_pos]
      exact .createPoolInfo htime hsp hjp hsettle hpledge hborrow hinterest hrate hliq hend

/-! The lenders' functions. -/

theorem depositLend_does (hq : Quiet env) {p amount : Nat}
    (h : (depositLend env p amount).run w = .ok ((), w')) : Does env (.depositLend p amount) w w' := by
  apply nonReentrant_does h
  intro w w' h
  simp only [storage_rules, Tx.rules, and_assoc, exists_and_left, exists_eq_left,
    exists_const] at h
  obtain ⟨_, hex, hstate, _, hend, n, w₁, hrecv, hmin, _, hmax, w₂, hpush, _, rfl⟩ := h
  obtain ⟨moves, hrecv, hchain, hs⟩ := receiveToken_called hq hrecv
  rw [hs] at hmin hmax hpush
  have heff := Effect.depositLend hex hstate hend hrecv hmin hmax
  unfold Storage.recordLend at heff
  -- the first deposit of an account also enters it in the list
  rcases hpush with ⟨h0, rfl⟩ | ⟨h0, rfl⟩
  · simp only [if_pos h0] at heff
    refine ⟨moves, ?_, hchain.then_same ⟨rfl, rfl⟩⟩
    simp only [World.mapStore_store, hs]
    exact heff
  · simp only [if_neg h0] at heff
    refine ⟨moves, ?_, hchain.then_same ⟨rfl, rfl⟩⟩
    simp only [World.mapStore_store, hs]
    exact heff

theorem refundLend_does (hq : Quiet env) {p : Nat}
    (h : (refundLend env p).run w = .ok ((), w')) : Does env (.refundLend p) w w' := by
  apply nonReentrant_does h
  intro w w' h
  simp only [storage_rules, Tx.rules, and_assoc, exists_and_left, exists_eq_left,
    exists_const] at h
  obtain ⟨_, hex, hstate, htime, hamount, hflag, hexcess, _, _, _, hpos, hpay⟩ := h
  obtain ⟨hchain, hs⟩ := transferToken_called hq hpay
  refine ⟨_, ?_, hchain.of_same (World.sameTokens_mapStore w _)⟩
  rw [hs]
  exact .refundLend hex hstate htime hamount hflag hexcess hpos

theorem claimLend_does (hq : Quiet env) {p : Nat}
    (h : (claimLend env p).run w = .ok ((), w')) : Does env (.claimLend p) w w' := by
  apply nonReentrant_does h
  intro w w' h
  simp only [storage_rules, Tx.rules, and_assoc, exists_and_left, exists_eq_left,
    exists_const] at h
  obtain ⟨hex, hstate, hamount, hflag, hsp, hsupply, _, _, b, w₁, hmint, rfl⟩ := h
  obtain ⟨hchain, hs⟩ := mint_called hq hmint
  refine ⟨_, ?_, hchain.then_same (World.sameTokens_mapStore w₁ _)⟩
  simp only [World.mapStore_store, hs]
  exact .claimLend hex hstate hamount hflag hsp hsupply

/-- When a redemption goes through: the checks, the burn, and the payment of its share. -/
theorem withdrawLend_ok (hq : Quiet env) {p n : Nat} :
    (withdrawLend env p n).run w = .ok ((), w') ↔
      w.store.entered = false ∧ w.store.Exists p ∧ 0 < n ∧ (w.store.pools p).state.Closed ∧
      (w.store.pools p).spToken ≠ 0 ∧ (w.store.pools p).redeemTime < env.timestamp ∧
      (w.store.pools p).lendPot * n < Tx.uint256 ∧ (w.store.pools p).settleAmountLend ≠ 0 ∧
      0 < (w.store.pools p).lendRedemption n ∧ ∃ b w₁,
        (env.burn (w.store.pools p).spToken env.sender n).run w.guarded = .ok (b, w₁) ∧ ∃ w₂,
          (transferToken env (w.store.pools p).settleToken env.sender
            ((w.store.pools p).lendRedemption n)).run w₁ = .ok ((), w₂) ∧
          w' = w₂.mapStore (·.setEntered false) := by
  -- the state of the pool picks the pot and the time
  simp only [withdrawLend, nonReentrant_ok, storage_rules, Tx.rules, and_assoc, exists_and_left,
    exists_eq_left, exists_const, Pool.redeems_iff]
  constructor
  · rintro ⟨hfree, hex, hamount, hstate, hsp, w₂, ⟨b, w₁, hburn, htime, hproduct, hloan, hpos, hpay⟩, rfl⟩
    rw [hq.burn hburn] at htime hproduct hloan hpos hpay
    exact ⟨hfree, hex, hamount, hstate, hsp, htime, hproduct, hloan, hpos, b, w₁, hburn, w₂, hpay, rfl⟩
  · rintro ⟨hfree, hex, hamount, hstate, hsp, htime, hproduct, hloan, hpos, b, w₁, hburn, w₂, hpay, rfl⟩
    refine ⟨hfree, hex, hamount, hstate, hsp, w₂, ⟨b, w₁, hburn, ?_⟩, rfl⟩
    rw [hq.burn hburn]
    exact ⟨htime, hproduct, hloan, hpos, hpay⟩

theorem withdrawLend_does (hq : Quiet env) {p n : Nat}
    (h : (withdrawLend env p n).run w = .ok ((), w')) : Does env (.withdrawLend p n) w w' := by
  obtain ⟨hfree, hex, hamount, hstate, hsp, htime, -, hloan, hpos, b, w₁, hburn, w₂, hpay, rfl⟩ :=
    (withdrawLend_ok hq).mp h
  apply Does.unguarded hfree
  have hburned := burn_called hq hburn
  have hpaid := transferToken_called hq hpay
  exact (hburned.append hpaid).does (.withdrawLend hex hstate hamount hsp htime hloan hpos)
    (hpaid.2.trans hburned.2)

theorem emergencyLendWithdrawal_does (hq : Quiet env) {p : Nat}
    (h : (emergencyLendWithdrawal env p).run w = .ok ((), w')) :
    Does env (.emergencyLendWithdrawal p) w w' := by
  apply nonReentrant_does h
  intro w w' h
  simp only [storage_rules, Tx.rules, and_assoc, exists_and_left, exists_eq_left,
    exists_const] at h
  obtain ⟨_, hex, hstate, _, hamount, hflag, hpay⟩ := h
  obtain ⟨hchain, hs⟩ := transferToken_called hq hpay
  refine ⟨_, ?_, hchain.of_same (World.sameTokens_mapStore w _)⟩
  rw [hs]
  exact .emergencyLendWithdrawal hex hstate hamount hflag

/-! The borrowers' functions. -/

theorem depositBorrow_does (hq : Quiet env) {p amount : Nat}
    (h : (depositBorrow env p amount).run w = .ok ((), w')) :
    Does env (.depositBorrow p amount) w w' := by
  apply nonReentrant_does h
  intro w w' h
  simp only [storage_rules, Tx.rules, and_assoc, exists_and_left, exists_eq_left,
    exists_const] at h
  obtain ⟨_, hex, hstate, hend, _, n, w₁, hrecv, w₂, hpush, _, _, rfl⟩ := h
  obtain ⟨moves, hrecv, hchain, hs⟩ := receiveToken_called hq hrecv
  rw [hs] at hpush
  have heff := Effect.depositBorrow hex hstate hend hrecv
  unfold Storage.recordBorrow at heff
  -- the first deposit of an account also enters it in the list
  rcases hpush with ⟨h0, rfl⟩ | ⟨h0, rfl⟩
  · simp only [if_pos h0] at heff
    refine ⟨moves, ?_, hchain.then_same ⟨rfl, rfl⟩⟩
    simp only [World.mapStore_store, hs]
    exact heff
  · simp only [if_neg h0] at heff
    refine ⟨moves, ?_, hchain.then_same ⟨rfl, rfl⟩⟩
    simp only [World.mapStore_store, hs]
    exact heff

theorem refundBorrow_does (hq : Quiet env) {p : Nat}
    (h : (refundBorrow env p).run w = .ok ((), w')) : Does env (.refundBorrow p) w w' := by
  apply nonReentrant_does h
  intro w w' h
  simp only [storage_rules, Tx.rules, and_assoc, exists_and_left, exists_eq_left,
    exists_const] at h
  obtain ⟨_, hex, hamount, hflag, hstate, hexcess, htime, _, _, _, hpos, _, w₁, hpay,
    rfl⟩ := h
  obtain ⟨hchain, hs⟩ := transferToken_called hq hpay
  refine ⟨_, ?_, hchain.then_same (World.sameTokens_mapStore w₁ _)⟩
  simp only [World.mapStore_store, hs]
  exact .refundBorrow hex hamount hflag hstate hexcess htime hpos

theorem claimBorrow_does (hq : Quiet env) {p : Nat}
    (h : (claimBorrow env p).run w = .ok ((), w')) : Does env (.claimBorrow p) w w' := by
  apply nonReentrant_does h
  intro w w' h
  simp only [storage_rules, Tx.rules, and_assoc, exists_and_left, exists_eq_left,
    exists_const] at h
  obtain ⟨_, hex, hamount, hflag, hstate, htime, _, _, _, _, w₁, hmint, h⟩ := h
  have hminted := Called.ite hmint fun ⟨_, _, hmint, _, hw⟩ => mint_called hq (hw ▸ hmint)
  rw [hminted.2] at h
  obtain ⟨_, hsupply, w₂, hpay, rfl⟩ := h
  have hpaid := Called.ite hpay fun hpay => transferToken_called hq hpay
  refine ⟨_, ?_, (hminted.append hpaid).1.then_same (World.sameTokens_mapStore w₂ _)⟩
  simp only [World.mapStore_store, hpaid.2, hminted.2]
  exact .claimBorrow hex hamount hflag hstate htime hsupply

theorem withdrawBorrow_does (hq : Quiet env) {p n : Nat}
    (h : (withdrawBorrow env p n).run w = .ok ((), w')) : Does env (.withdrawBorrow p n) w w' := by
  apply nonReentrant_does h
  intro w w' h
  simp only [storage_rules, Tx.rules, and_assoc, exists_and_left, exists_eq_left,
    exists_const] at h
  obtain ⟨_, hex, hamount, hstate, w₁, hburn, h⟩ := h
  have hburned := Called.ite hburn fun ⟨_, _, hburn, _, hw⟩ => burn_called hq (hw ▸ hburn)
  rw [hburned.2] at h
  obtain ⟨_, _, redeemed, w₂, hredeem, hpay⟩ := h
  obtain ⟨htime, -, htotal, rfl, rfl⟩ := Pool.redeems_iff.mp hredeem
  have hpaid := Called.ite hpay fun hpay => transferToken_called hq hpay
  exact (hburned.append hpaid).does (.withdrawBorrow hex hstate hamount htime htotal)
    (hpaid.2.trans hburned.2)

theorem emergencyBorrowWithdrawal_does (hq : Quiet env) {p : Nat}
    (h : (emergencyBorrowWithdrawal env p).run w = .ok ((), w')) :
    Does env (.emergencyBorrowWithdrawal p) w w' := by
  apply nonReentrant_does h
  intro w w' h
  simp only [storage_rules, Tx.rules, and_assoc, exists_and_left, exists_eq_left,
    exists_const] at h
  obtain ⟨_, hex, hstate, _, hamount, hflag, hpay⟩ := h
  obtain ⟨hchain, hs⟩ := transferToken_called hq hpay
  refine ⟨_, ?_, hchain.of_same (World.sameTokens_mapStore w _)⟩
  rw [hs]
  exact .emergencyBorrowWithdrawal hex hstate hamount hflag

/-! The functions that take a pool from one state to the next. -/

theorem settle_does {p : Nat}
    (h : (settle env p).run w = .ok ((), w')) : Does env (.settle p) w w' := by
  simp only [settle, validCall_ok, storage_rules, Tx.rules, and_assoc, exists_and_left, exists_eq_left,
    exists_const] at h
  obtain ⟨_, hex, htime, hstate, h⟩ := h
  rcases h with ⟨hlend, hborrow, pp, _, sp, _, hpp, hsp, _, _, _, _, w₁, hw, rfl⟩ | ⟨hempty, rfl⟩
  · have heff : Effect env w.store (.settle p) [] _ :=
      .settleExecution hex htime hstate hlend hborrow hpp hsp
    refine ⟨[], ?_, .done ?_⟩
    · unfold Pool.settlement Pool.borrowable at heff
      -- either the lenders or the borrowers have more than can be matched
      rcases hw with ⟨hlt, rfl⟩ | ⟨hlt, _, _, _, _, rfl⟩
      · simp only [if_pos hlt] at heff
        simp only [World.mapStore_store, Storage.setPool_setPool, Storage.setPool_pools, ↓reduceIte]
        exact heff
      · simp only [if_neg hlt] at heff
        simp only [World.mapStore_store, Storage.setPool_setPool, Storage.setPool_pools, ↓reduceIte]
        exact heff
    · rcases hw with ⟨_, rfl⟩ | ⟨_, _, _, _, _, rfl⟩ <;> exact ⟨rfl, rfl⟩
  · -- one side is empty, and the pool is undone
    exact Effect.does (f := fun s => s.setPool p _) (.settleUndone hex htime hstate hempty)

/-- When a `finish` goes through: the approval, the checks, and the sale. -/
theorem finish_ok (hq : Quiet env) {p : Nat} :
    (finish env p).run w = .ok ((), w') ↔
      Approved env w ∧ w.store.Exists p ∧ (w.store.pools p).endTime ≤ env.timestamp ∧
      (w.store.pools p).state = .execution ∧ (w.store.pools p).settleTime ≤ (w.store.pools p).endTime ∧
      (w.store.pools p).RepaymentFits ((w.store.pools p).endTime - (w.store.pools p).settleTime) ∧
      ∃ sold amountIn rest w₁ w₂, SellsOff env p
        ((w.store.pools p).repayment ((w.store.pools p).endTime - (w.store.pools p).settleTime))
        (fun n pool => { pool with finishAmountLend := n }) w sold amountIn rest w₁ w₂ ∧
        w' = w₂.mapStore fun s =>
          s.setPool p { s.pools p with finishAmountBorrow := rest, state := .finish } := by
  simp only [finish, validCall_ok, calculateRepayAmount_ok, storage_rules, Tx.rules, and_assoc,
    exists_and_left, exists_eq_left, exists_const]
  refine and_congr_right fun _ => and_congr_right fun _ => and_congr_right fun _ =>
    and_congr_right fun _ => and_congr_right fun _ => and_congr_right fun _ => ?_
  constructor
  · rintro ⟨⟨sold, amountIn⟩, w₁, hsale, hsold, rest, w₂, hredeem, rfl⟩
    refine ⟨sold, amountIn, rest, w₁, w₂, ?_, ?_⟩
    · exact (sellsOff_iff hq (by simp) rfl).mpr ⟨hsale, hsold, hredeem⟩
    · simp [World.mapStore]
  · rintro ⟨sold, amountIn, rest, w₁, w₂, h, rfl⟩
    obtain ⟨hsale, hsold, hredeem⟩ := (sellsOff_iff hq (by simp) rfl).mp h
    refine ⟨(sold, amountIn), w₁, hsale, hsold, rest, w₂, hredeem, ?_⟩
    simp [World.mapStore]

theorem finish_does (hq : Quiet env) {p : Nat}
    (h : (finish env p).run w = .ok ((), w')) : Does env (.finish p) w w' := by
  obtain ⟨-, hex, htime, hstate, horder, -, sold, amountIn, rest, w₁, w₂, hsells, rfl⟩ :=
    (finish_ok hq).mp h
  have hs₂ := hsells.store hq
  obtain ⟨received, moves, fee, rfl, hsale, rfl, hfee, rfl, hchain⟩ := hsells.called hq
  refine ⟨_, ?_, hchain.then_same ⟨rfl, rfl⟩⟩
  simp only [World.mapStore_store, hs₂, Storage.setPool_setPool, Storage.setPool_pools, ↓reduceIte]
  exact .finish hex htime hstate horder hsale hsells.covered hfee

/-- When a `liquidate` goes through: the checks, a health factor below the rate, and the sale with
the guard up. -/
theorem liquidate_ok (hq : Quiet env) {p : Nat} :
    (liquidate env p).run w = .ok ((), w') ↔
      w.store.entered = false ∧ w.store.Exists p ∧ (w.store.pools p).state = .execution ∧
      (w.store.pools p).settleTime ≤ env.timestamp ∧
      (∃ healthFactor, (calculateHealthFactor env p).run w.guarded = .ok (healthFactor, w.guarded) ∧
        healthFactor < (w.store.pools p).liquidationRate) ∧
      (w.store.pools p).RepaymentFits (env.timestamp - (w.store.pools p).settleTime) ∧
      ∃ sold amountIn rest w₁ w₂, SellsOff env p
        ((w.store.pools p).repayment (env.timestamp - (w.store.pools p).settleTime))
        (fun n pool => { pool with liquidationAmountLend := n }) w.guarded sold amountIn rest w₁ w₂ ∧
        w' = (w₂.mapStore fun s => Storage.markLiquidated
          (s.setPool p { s.pools p with liquidationAmountBorrow := rest, state := .liquidation })
          p (s.borrowers p)).mapStore (·.setEntered false) := by
  simp only [liquidate, nonReentrant_ok, calculateRepayAmount_ok, storage_rules, Tx.rules, and_assoc,
    exists_and_left, exists_eq_left, exists_const, markLiquidated_fold]
  constructor
  · rintro ⟨hfree, hex, hstate, htime, w₀, ⟨factor, w₁, hhealth, hbelow, -, hrepay, ⟨sold, amountIn⟩, w₂,
      hsale, hsold, rest, w₃, hredeem, rfl⟩, rfl⟩
    -- the health factor is a view
    obtain ⟨rfl, -⟩ := (calculateHealthFactor_ok hstate).mp hhealth
    refine ⟨hfree, hex, hstate, htime, ⟨factor, hhealth, hbelow⟩, hrepay, sold, amountIn, rest, w₂, w₃,
      ?_, ?_⟩
    · exact (sellsOff_iff hq (by simp) rfl).mpr ⟨hsale, hsold, hredeem⟩
    · simp [World.mapStore]
  · rintro ⟨hfree, hex, hstate, htime, ⟨factor, hhealth, hbelow⟩, hrepay, sold, amountIn, rest, w₁, w₂,
      hsells, rfl⟩
    obtain ⟨hsale, hsold, hredeem⟩ := (sellsOff_iff hq (by simp) rfl).mp hsells
    refine ⟨hfree, hex, hstate, htime, _, ⟨factor, _, hhealth, hbelow, htime, hrepay, (sold, amountIn),
      w₁, hsale, hsold, rest, w₂, hredeem, rfl⟩, ?_⟩
    simp [World.mapStore]

theorem liquidate_does (hq : Quiet env) {p : Nat}
    (h : (liquidate env p).run w = .ok ((), w')) : Does env (.liquidate p) w w' := by
  obtain ⟨hfree, hex, hstate, htime, ⟨factor, hhealth, hbelow⟩, -, sold, amountIn, rest, w₁, w₂, hsells,
    rfl⟩ := (liquidate_ok hq).mp h
  apply Does.unguarded hfree
  -- the prices that gave the health factor are the witnesses of the effect
  obtain ⟨-, -, -, pp, sp, hpp, hsp, hpledge, hsettle, -, rfl⟩ :=
    (calculateHealthFactor_ok (w := w.guarded) hstate).mp hhealth
  have hs₂ := hsells.store hq
  obtain ⟨received, moves, fee, rfl, hsale, rfl, hfee, rfl, hchain⟩ := hsells.called hq
  refine ⟨_, ?_, hchain.then_same ⟨rfl, rfl⟩⟩
  simp only [World.mapStore_store, hs₂, Storage.setPool_setPool, Storage.setPool_pools,
    Storage.setPool_borrowers, ↓reduceIte]
  exact .liquidate hex hstate htime hpp hsp ⟨_, hpledge⟩ ⟨_, hsettle⟩ hbelow hsale hsells.covered hfee

/-- A transaction decodes its arguments, refuses ether unless its function is payable, and runs it. -/
theorem Call.transaction_ok {c : Call} :
    (c.transaction env).run w = .ok ((), w') ↔
      c.decodes ∧ (c.payable = true ∨ env.value = 0) ∧ (c.body env).run w = .ok ((), w') := by
  simp only [Call.transaction, Tx.bind_ok, Tx.require_ok, and_assoc, exists_and_left, exists_eq_left,
    exists_const]

/-- **Every successful transaction has its effect.** -/
theorem transaction_effect (hq : Quiet env) {c : Call}
    (h : (c.transaction env).run w = .ok ((), w')) : Does env c w w' := by
  -- a function that is not payable has checked that no ether came with the call
  obtain ⟨_, _, h⟩ := Call.transaction_ok.mp h
  cases c with
  | createPool settleToken pledgeToken borrowAmount interestRate pledgeRate liquidationRate endTime =>
      simp only [Call.body, Tx.bind_ok, Tx.pure_ok, true_and] at h
      obtain ⟨_, _, hcreate, rfl⟩ := h
      obtain ⟨_, -, rfl, heff⟩ := createPool_eq hcreate
      exact heff.does
  | createPoolInfo settleTime endTime interestRate maxSupply martgageRate lendToken borrowToken
      spToken jpToken autoLiquidateThreshold =>
      simp only [Call.body, Tx.bind_ok, Tx.pure_ok, true_and] at h
      obtain ⟨_, _, hcreate, rfl⟩ := h
      exact createPoolInfo_does hcreate
  | setPoolState p newState =>
      simp only [Call.body, setPoolState, validCall_ok, storage_rules, Tx.rules, and_assoc,
        exists_and_left, exists_eq_left, exists_const] at h
      obtain ⟨_, hex, rfl⟩ := h
      exact Effect.does (f := fun s => s.setPool p _) (.setPoolState hex)
  | setOracle oracle =>
      simp only [Call.body, setOracle, validCall_ok, storage_rules, Tx.rules, and_assoc,
        exists_and_left, exists_eq_left, exists_const] at h
      obtain ⟨_, hne, rfl⟩ := h
      exact (Effect.setOracle hne).does
  | setDebtToken debtToken =>
      simp only [Call.body, setDebtToken, validCall_ok, storage_rules, Tx.rules, and_assoc,
        exists_and_left, exists_eq_left, exists_const] at h
      obtain ⟨_, hne, rfl⟩ := h
      exact (Effect.setDebtToken hne).does
  | setPoolSpToken p spToken =>
      simp only [Call.body, setPoolSpToken, validCall_ok, storage_rules, Tx.rules, and_assoc,
        exists_and_left, exists_eq_left, exists_const] at h
      obtain ⟨_, hex, hne, rfl⟩ := h
      exact Effect.does (f := fun s => s.setPool p _) (.setPoolSpToken hex hne)
  | setPoolJpToken p jpToken =>
      simp only [Call.body, setPoolJpToken, validCall_ok, storage_rules, Tx.rules, and_assoc,
        exists_and_left, exists_eq_left, exists_const] at h
      obtain ⟨_, hex, hne, rfl⟩ := h
      exact Effect.does (f := fun s => s.setPool p _) (.setPoolJpToken hex hne)
  | setFee lendFee borrowFee =>
      simp only [Call.body, setFee, validCall_ok, storage_rules, Tx.rules, and_assoc,
        exists_and_left, exists_eq_left, exists_const] at h
      obtain ⟨_, hl, hb, rfl⟩ := h
      exact (Effect.setFee hl hb).does
  | setFeeAddress feeAddress =>
      simp only [Call.body, setFeeAddress, validCall_ok, storage_rules, Tx.rules, and_assoc,
        exists_and_left, exists_eq_left, exists_const] at h
      obtain ⟨_, hne, rfl⟩ := h
      exact (Effect.setFeeAddress hne).does
  | setMinAmount minAmount =>
      simp only [Call.body, setMinAmount, validCall_ok, storage_rules, Tx.rules, and_assoc,
        exists_and_left, exists_eq_left, exists_const] at h
      obtain ⟨_, rfl⟩ := h
      exact Effect.setMinAmount.does
  | setPause =>
      simp only [Call.body, setPause, validCall_ok, storage_rules, Tx.rules, and_assoc,
        exists_and_left, exists_eq_left, exists_const] at h
      obtain ⟨_, rfl⟩ := h
      exact Effect.setPause.does
  | setSwapRouterAddress swapRouter =>
      simp only [Call.body, setSwapRouterAddress, validCall_ok, storage_rules, Tx.rules, and_assoc,
        exists_and_left, exists_eq_left, exists_const] at h
      obtain ⟨_, hne, rfl⟩ := h
      exact (Effect.setSwapRouterAddress hne).does
  | depositLend p amount => exact depositLend_does hq h
  | refundLend p => exact refundLend_does hq h
  | claimLend p => exact claimLend_does hq h
  | withdrawLend p spAmount => exact withdrawLend_does hq h
  | emergencyLendWithdrawal p => exact emergencyLendWithdrawal_does hq h
  | depositBorrow p pledgeAmount => exact depositBorrow_does hq h
  | refundBorrow p => exact refundBorrow_does hq h
  | claimBorrow p => exact claimBorrow_does hq h
  | withdrawBorrow p jpAmount => exact withdrawBorrow_does hq h
  | emergencyBorrowWithdrawal p => exact emergencyBorrowWithdrawal_does hq h
  | settle p => exact settle_does h
  | finish p => exact finish_does hq h
  | liquidate p => exact liquidate_does hq h

/-- The functions with `validCall` start with it. -/
theorem transaction_approved {c : Call} (hc : c.administrative = true)
    (h : (c.transaction env).run w = .ok ((), w')) : Approved env w := by
  obtain ⟨-, -, h⟩ := Call.transaction_ok.mp h
  cases c with
  | createPool =>
      simp only [Call.body, createPool, Tx.bind_ok, validCall_ok] at h
      obtain ⟨_, _, ⟨_, _, ⟨happroved, -⟩, -⟩, -⟩ := h
      exact happroved
  | createPoolInfo =>
      simp only [Call.body, createPoolInfo, Tx.bind_ok, validCall_ok] at h
      obtain ⟨_, _, ⟨_, _, ⟨happroved, -⟩, -⟩, -⟩ := h
      exact happroved
  | setPoolState | setOracle | setDebtToken | setPoolSpToken | setPoolJpToken | setFee | setFeeAddress
  | setMinAmount | setPause | setSwapRouterAddress | settle | finish =>
      simp only [Call.body, setPoolState, setOracle, setDebtToken, setPoolSpToken, setPoolJpToken, setFee,
        setFeeAddress, setMinAmount, setPause, setSwapRouterAddress, settle, finish, Tx.bind_ok,
        validCall_ok] at h
      obtain ⟨_, _, ⟨happroved, -⟩, -⟩ := h
      exact happroved
  | _ => cases hc

end Functions

end Pledge.Contract
