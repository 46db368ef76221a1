import Pledge.Contract.Callees

/-!
# Well-behaved callees

A concrete environment: ERC20 tokens with balances and allowances, claim tokens the contract mints
and burns, an oracle with a price for each asset, and a router that quotes and fills at these prices
out of its own balance, rounding in its favour. It satisfies everything `Callees.lean` assumes
(`standard_exact`, `standard_debtToken`), so those assumptions can be met together, and it is
executable, so a sequence of transactions can be run (`World.play`).
-/

namespace Pledge.Contract

open Pledge.Evm

/-- Move `n` of `token` between accounts, or revert. -/
def moveToken (token source recipient : Address) (n : Nat) : Tx World Unit := do
  let balance ← Tx.reads fun w : World => w.ledger.balance
  Tx.require (n ≤ balance token source) "ERC20: transfer amount exceeds balance"
  Tx.modifies fun w : World =>
    { w with
      ledger :=
        { w.ledger with
          balance := Function.update w.ledger.balance token
            (Holdings.move (w.ledger.balance token) source recipient n) }
      transfers := w.transfers ++ [⟨token, source, recipient, n⟩] }

/-- Set what `spender` may take of `owner`'s tokens. -/
def setAllowance (token owner spender : Address) (n : Nat) : Tx World Unit :=
  Tx.modifies fun w : World =>
    { w with
      ledger :=
        { w.ledger with
          allowance := fun t a b =>
            if t = token ∧ a = owner ∧ b = spender then n else w.ledger.allowance t a b } }

/-- Create `n` of `token`. -/
def mintToken (token holder : Address) (n : Nat) : Tx World Unit :=
  Tx.modifies fun w : World =>
    { w with
      ledger :=
        { w.ledger with
          balance := Function.update w.ledger.balance token
            (Holdings.credit (w.ledger.balance token) holder n) }
      transfers := w.transfers ++ [⟨token, 0, holder, n⟩] }

/-- Destroy `n` of `token`, or revert. -/
def burnToken (token holder : Address) (n : Nat) : Tx World Unit := do
  let balance ← Tx.reads fun w : World => w.ledger.balance
  Tx.require (n ≤ balance token holder) "ERC20: burn amount exceeds balance"
  Tx.modifies fun w : World =>
    { w with
      ledger :=
        { w.ledger with
          balance := Function.update w.ledger.balance token
            (Holdings.debit (w.ledger.balance token) holder n) }
      transfers := w.transfers ++ [⟨token, holder, 0, n⟩] }

/-- Where and when a transaction is sent. -/
structure Setting where
  this : Address
  router : Address
  sender : Address
  timestamp : Nat
  price : Address → Nat
  /-- What `getValidSignature` answers. -/
  approval : Nat := 0

/-- The environment of a transaction without ETH in the setting. -/
def standardEnv (st : Setting) : Env where
  this := st.this
  sender := st.sender
  value := 0
  timestamp := st.timestamp
  -- the packed bytes themselves
  keccak a b := a * 2 ^ 160 + b
  getValidSignature _ _ _ _ := .ok st.approval
  getPrice _ asset _ := .ok (st.price asset)
  transfer token recipient n := do
    moveToken token st.this recipient n
    pure true
  transferFrom token source recipient n := do
    let allowance ← Tx.reads fun w : World => w.ledger.allowance token source st.this
    Tx.require (n ≤ allowance) "ERC20: insufficient allowance"
    setAllowance token source st.this (allowance - n)
    moveToken token source recipient n
    pure true
  approve token spender n := do
    setAllowance token st.this spender n
    pure (.returned true)
  sendEth _ _ := Tx.revert .call
  mint token holder n := do
    mintToken token holder n
    pure true
  burn token holder n := do
    burnToken token holder n
    pure true
  weth _ _ := .error .call
  getAmountsIn _ amountOut path _ :=
    match path with
    | [tokenIn, tokenOut] =>
        .ok [(amountOut * st.price tokenOut + st.price tokenIn - 1) / st.price tokenIn, amountOut]
    | _ => .error .call
  swapExactTokensForTokens _ amountIn _ path recipient _ :=
    match path with
    | [tokenIn, tokenOut] => do
        let amountOut := amountIn * st.price tokenIn / st.price tokenOut
        moveToken tokenIn st.this st.router amountIn
        moveToken tokenOut st.router recipient amountOut
        pure [amountIn, amountOut]
    | _ => Tx.revert .call
  swapExactETHForTokens _ _ _ _ _ _ := Tx.revert .call
  swapExactTokensForETH _ _ _ _ _ _ := Tx.revert .call

/-! ## They meet the assumptions

Every assumption about callees that a result makes is met by this instance, which is what the
witnesses need. -/

theorem moveToken_ok {token source recipient : Address} {n : Nat} {u : Unit} {w w' : World}
    (h : (moveToken token source recipient n).run w = .ok (u, w')) :
    w'.store = w.store ∧ Moved token source recipient n w w' := by
  simp only [moveToken, Tx.rules, and_assoc, exists_and_left, exists_eq_left, exists_const] at h
  obtain ⟨hn, rfl⟩ := h
  exact ⟨rfl, hn, rfl, rfl⟩

theorem moveToken_runs (recipient : Address) {token source : Address} {n : Nat} {w : World}
    (h : n ≤ w.ledger.balance token source) :
    ∃ w', (moveToken token source recipient n).run w = .ok ((), w') := by
  apply Exists.intro
  simp only [moveToken, Tx.rules, and_assoc, exists_and_left, exists_eq_left, exists_const]
  exact ⟨h, rfl⟩

theorem standard_transfer {st : Setting} {token recipient : Address} {n : Nat} {w w' : World}
    {b : Bool} (h : ((standardEnv st).transfer token recipient n).run w = .ok (b, w')) :
    w'.store = w.store ∧ b = true ∧ Moved token st.this recipient n w w' := by
  simp only [standardEnv, Tx.bind_ok, Tx.pure_ok] at h
  obtain ⟨_, w₁, hmove, rfl, rfl⟩ := h
  obtain ⟨hs, hm⟩ := moveToken_ok hmove
  exact ⟨hs, rfl, hm⟩

theorem standard_transferFrom {st : Setting} {token source recipient : Address} {n : Nat}
    {w w' : World} {b : Bool}
    (h : ((standardEnv st).transferFrom token source recipient n).run w = .ok (b, w')) :
    w'.store = w.store ∧ b = true ∧ Moved token source recipient n w w' := by
  simp only [standardEnv, setAllowance, Tx.rules, and_assoc, exists_and_left, exists_eq_left,
    exists_const] at h
  obtain ⟨_, _, w₁, hmove, rfl, rfl⟩ := h
  obtain ⟨hs, hm⟩ := moveToken_ok hmove
  exact ⟨hs, rfl, hm.enough, hm.balance, hm.transfers⟩

theorem standard_swap {st : Setting} {router recipient : Address} {n minOut deadline : Nat}
    {path : List Address} {w w' : World} {amounts : List Nat}
    (h : ((standardEnv st).swapExactTokensForTokens router n minOut path recipient deadline).run w =
      .ok (amounts, w')) :
    w'.store = w.store ∧ ∃ tokenIn tokenOut w₁ out, path = [tokenIn, tokenOut] ∧ amounts = [n, out] ∧
      Moved tokenIn st.this st.router n w w₁ ∧ Moved tokenOut st.router recipient out w₁ w' := by
  simp only [standardEnv] at h
  split at h
  · next tokenIn tokenOut =>
      simp only [Tx.bind_ok, Tx.pure_ok] at h
      obtain ⟨_, w₁, hin, _, w₂, hout, rfl, rfl⟩ := h
      obtain ⟨hs₁, hm₁⟩ := moveToken_ok hin
      obtain ⟨hs₂, hm₂⟩ := moveToken_ok hout
      exact ⟨hs₂.trans hs₁, tokenIn, tokenOut, w₁, _, rfl, rfl, hm₁, hm₂⟩
  · exact (Tx.revert_ok.mp h).elim

theorem standard_mint {st : Setting} {token holder : Address} {n : Nat} {w w' : World} {b : Bool}
    (h : ((standardEnv st).mint token holder n).run w = .ok (b, w')) :
    w' = { w with
      ledger :=
        { w.ledger with
          balance := Function.update w.ledger.balance token
            (Holdings.credit (w.ledger.balance token) holder n) }
      transfers := w.transfers ++ [⟨token, 0, holder, n⟩] } := by
  simp only [standardEnv, mintToken, Tx.rules, exists_and_left, exists_eq_left, exists_const] at h
  exact h.2

theorem standard_burn {st : Setting} {token holder : Address} {n : Nat} {w w' : World} {b : Bool}
    (h : ((standardEnv st).burn token holder n).run w = .ok (b, w')) :
    n ≤ w.ledger.balance token holder ∧ w' = { w with
      ledger :=
        { w.ledger with
          balance := Function.update w.ledger.balance token
            (Holdings.debit (w.ledger.balance token) holder n) }
      transfers := w.transfers ++ [⟨token, holder, 0, n⟩] } := by
  simp only [standardEnv, burnToken, Tx.rules, and_assoc, exists_and_left, exists_eq_left,
    exists_const] at h
  exact ⟨h.1, h.2.2⟩

/-- The standard token pays what the contract has. -/
theorem standard_pays {st : Setting} {token : Address} (recipient : Address) {n : Nat} {w : World}
    (h : n ≤ w.ledger.balance token st.this) :
    ∃ w', ((standardEnv st).transfer token recipient n).run w = .ok (true, w') := by
  obtain ⟨w', hmove⟩ := moveToken_runs recipient h
  refine ⟨w', ?_⟩
  simp only [standardEnv, Tx.bind_ok, Tx.pure_ok]
  exact ⟨(), w', hmove, trivial, rfl⟩

/-- The standard claim token burns what a holder has. -/
theorem standard_burns {st : Setting} {token holder : Address} {n : Nat} {w : World}
    (h : n ≤ w.ledger.balance token holder) :
    ∃ b w', ((standardEnv st).burn token holder n).run w = .ok (b, w') := by
  refine ⟨true, ?_⟩
  apply Exists.intro
  simp only [standardEnv, burnToken, Tx.rules, and_assoc, exists_and_left, exists_eq_left,
    exists_const]
  exact ⟨h, trivial, rfl⟩

/-- **The tokens move exactly, the router swaps exactly, and nobody calls back.** -/
theorem standard_exact {st : Setting} (hsender : st.sender ≠ st.this) (hrouter : st.router ≠ st.this) :
    Exact (standardEnv st) where
  external := hsender
  transfer h := (standard_transfer h).1
  transferFrom h := (standard_transferFrom h).1
  approve h := by
    simp only [standardEnv, setAllowance, Tx.rules, exists_and_left, exists_eq_left,
      exists_const] at h
    rw [h.2]
  sendEth h := (Tx.revert_ok.mp h).elim
  mint h := by rw [standard_mint h]
  burn h := by rw [(standard_burn h).2]
  swapExactTokensForTokens h := (standard_swap h).1
  swapExactETHForTokens h := (Tx.revert_ok.mp h).elim
  swapExactTokensForETH h := (Tx.revert_ok.mp h).elim
  transfer_moved h := (standard_transfer h).2
  transferFrom_moved h := (standard_transferFrom h).2
  approve_same h := by
    simp only [standardEnv, setAllowance, Tx.rules, exists_and_left, exists_eq_left,
      exists_const] at h
    rw [h.2]
    exact ⟨rfl, rfl⟩
  mint_touched h := by
    rw [standard_mint h]
    exact ⟨fun t ht => Function.update_of_ne ht _ _, _, rfl, by simp⟩
  burn_touched h := by
    rw [(standard_burn h).2]
    exact ⟨fun t ht => Function.update_of_ne ht _ _, _, rfl, by simp⟩
  swap_exact h := by
    obtain ⟨_, tokenIn, tokenOut, w₁, out, hpath, hamounts, hin, hout⟩ := standard_swap h
    cases hpath
    exact ⟨w₁, st.router, st.router, out, hrouter, hrouter, hamounts, hin, hout⟩

theorem standard_debtToken (st : Setting) (token : Address) : DebtToken (standardEnv st) token where
  mint h := by
    rw [standard_mint h]
    exact ⟨Function.update_self .., rfl⟩
  burn h := by
    obtain ⟨hn, rfl⟩ := standard_burn h
    exact ⟨hn, Function.update_self .., rfl⟩

/-! ## Playing a sequence of transactions

A list of calls as a function of the state, so that a run can be computed and its end be looked at.
-/

namespace World

/-- The transaction succeeds. -/
def succeeds (w : World) (env : Env) (c : Call) : Bool :=
  ((c.transaction env).run { w with transfers := [] }).isOk

/-- The world after a transaction, which is the same world when it reverts. -/
def next (w : World) (env : Env) (c : Call) : World :=
  match (c.transaction env).run { w with transfers := [] } with
  | .ok (_, w') => w'
  | .error _ => w

theorem next_step {w : World} {env : Env} {c : Call} (h : w.succeeds env c = true) :
    Step w (.call env c (w.next env c).transfers) (w.next env c) := by
  unfold succeeds at h
  cases hrun : (c.transaction env).run { w with transfers := [] } with
  | error e => rw [hrun] at h; cases h
  | ok r =>
      obtain ⟨_, w'⟩ := r
      have hnext : w.next env c = w' := by unfold next; rw [hrun]
      rw [hnext]
      exact .call env c hrun

/-- A transaction that succeeds in the standard environment is an honest step. -/
theorem next_honest {w : World} {st : Setting} {c : Call}
    (h : w.succeeds (standardEnv st) c = true) (hsender : st.sender ≠ st.this)
    (hrouter : st.router ≠ st.this) (hc : c.setsState = false) :
    HonestStep w (.call (standardEnv st) c (w.next (standardEnv st) c).transfers)
      (w.next (standardEnv st) c) :=
  ⟨next_step h, standard_exact hsender hrouter, hc⟩

/-- The world after a sequence of transactions. -/
def play (w : World) : List (Setting × Call) → World
  | [] => w
  | (st, c) :: rest => (w.next (standardEnv st) c).play rest

/-- Every transaction of the sequence succeeds, and none sets a state by hand. -/
def plays (w : World) : List (Setting × Call) → Bool
  | [] => true
  | (st, c) :: rest =>
      w.succeeds (standardEnv st) c &&
        decide (st.sender ≠ st.this ∧ st.router ≠ st.this ∧ c.setsState = false) &&
        (w.next (standardEnv st) c).plays rest

/-- The events of the sequence. -/
def events (w : World) : List (Setting × Call) → List Event
  | [] => []
  | (st, c) :: rest =>
      .call (standardEnv st) c (w.next (standardEnv st) c).transfers ::
        (w.next (standardEnv st) c).events rest

theorem play_cons (w : World) (head : Setting × Call) (rest : List (Setting × Call)) :
    w.play (head :: rest) = (w.next (standardEnv head.1) head.2).play rest := rfl

theorem events_cons (w : World) (head : Setting × Call) (rest : List (Setting × Call)) :
    w.events (head :: rest) =
      .call (standardEnv head.1) head.2 (w.next (standardEnv head.1) head.2).transfers ::
        (w.next (standardEnv head.1) head.2).events rest := rfl

theorem play_append (w : World) (script rest : List (Setting × Call)) :
    w.play (script ++ rest) = (w.play script).play rest := by
  induction script generalizing w with
  | nil => rfl
  | cons head script ih => exact ih _

theorem events_append (w : World) (script rest : List (Setting × Call)) :
    w.events (script ++ rest) = w.events script ++ (w.play script).events rest := by
  induction script generalizing w with
  | nil => rfl
  | cons head script ih => exact congrArg (_ :: ·) (ih _)

/-- A sequence that plays is a run. -/
theorem play_run {w : World} {script : List (Setting × Call)} (h : w.plays script = true) :
    Run HonestStep w (w.events script) (w.play script) := by
  induction script generalizing w with
  | nil => exact .start
  | cons head rest ih =>
      obtain ⟨st, c⟩ := head
      simp only [plays, Bool.and_eq_true, decide_eq_true_eq] at h
      obtain ⟨⟨hsucc, hsender, hrouter, hstate⟩, hrest⟩ := h
      have hstep := next_honest hsucc hsender hrouter hstate
      exact (Run.step .start hstep).append (ih hrest)

/-! The opening of a small pool: one lender with 1000 settle tokens (token `1`), one borrower with
2000 pledge tokens (token `2`), both priced at 10, settled at a pledge rate of 150 %. -/

/-- A transaction of `sender` at `timestamp`; the pledge token is at `pledgePrice`. -/
def setting (sender timestamp pledgePrice : Nat) : Setting where
  this := 100
  router := 200
  sender := sender
  timestamp := timestamp
  price asset := if asset = 2 then pledgePrice else 10
  approval := 1

/-- The lender `11`, the borrower `12` and the router hold tokens, and the contract may take them. -/
def openingLedger : Ledger where
  balance token a := if token ≤ 2 ∧ (a = 11 ∨ a = 12 ∨ a = 200) then 1000000 else 0
  allowance _ _ _ := 1000000

def setup : List (Setting × Call) :=
  [(setting 10 0 10, .setOracle 300), (setting 10 0 10, .setSwapRouterAddress 200)]

def creation : Setting × Call :=
  (setting 10 0 10, .createPoolInfo 100 1000 1000 1000000 15000 1 2 3 4 12000)

def supplies : List (Setting × Call) :=
  [(setting 11 10 10, .depositLend 1 1000),
    (setting 12 10 10, .depositBorrow 1 2000),
    (setting 10 100 10, .settle 1)]

def opening : List (Setting × Call) := setup ++ creation :: supplies

theorem opening_plays : (deployed 10 50 openingLedger).plays opening = true := by decide +kernel

/-- The world before the pool exists. -/
def afterSetup : World := (deployed 10 50 openingLedger).play setup

/-- The world with the new pool. -/
def afterCreation : World := afterSetup.next (standardEnv creation.1) creation.2

/-- The world after the opening. -/
def afterOpening : World := (deployed 10 50 openingLedger).play opening

theorem setup_honest : Run HonestStep (deployed 10 50 openingLedger)
    ((deployed 10 50 openingLedger).events setup) afterSetup :=
  play_run (by decide +kernel)

theorem creation_honest : HonestStep afterSetup
    (.call (standardEnv creation.1) creation.2 afterCreation.transfers) afterCreation :=
  next_honest (by decide +kernel) (by decide) (by decide) rfl

end World

end Pledge.Contract
