import Pledge.Contract.Effect

/-!
# What is assumed about the contracts that are called

* `Quiet`: no callee calls back into the contract, so its storage is the same after every call.
* `Exact`: ERC20 transfers move exactly the amount or revert, and the router takes exactly the
  `amountIn` it is given and delivers exactly the amount it reports.
* `DebtToken`: a claim token is minted and burned by the contract alone, exactly.

The last two also say what a call leaves alone: a token call touches that token's balances only.
-/

namespace Pledge.Contract

open Pledge.Evm

/-- Tokens and router do not call back. -/
structure Quiet (env : Env) : Prop where
  transfer {token recipient : Address} {n : Nat} {w w' : World} {b : Bool} :
    (env.transfer token recipient n).run w = .ok (b, w') → w'.store = w.store
  transferFrom {token source recipient : Address} {n : Nat} {w w' : World} {b : Bool} :
    (env.transferFrom token source recipient n).run w = .ok (b, w') → w'.store = w.store
  approve {token spender : Address} {n : Nat} {w w' : World} {r : CallResult} :
    (env.approve token spender n).run w = .ok (r, w') → w'.store = w.store
  sendEth {recipient : Address} {n : Nat} {w w' : World} :
    (env.sendEth recipient n).run w = .ok ((), w') → w'.store = w.store
  mint {token holder : Address} {n : Nat} {w w' : World} {b : Bool} :
    (env.mint token holder n).run w = .ok (b, w') → w'.store = w.store
  burn {token holder : Address} {n : Nat} {w w' : World} {b : Bool} :
    (env.burn token holder n).run w = .ok (b, w') → w'.store = w.store
  swapExactTokensForTokens {router recipient : Address} {n minOut deadline : Nat}
    {path : List Address} {w w' : World} {amounts : List Nat} :
    (env.swapExactTokensForTokens router n minOut path recipient deadline).run w =
      .ok (amounts, w') → w'.store = w.store
  swapExactETHForTokens {router recipient : Address} {n minOut deadline : Nat}
    {path : List Address} {w w' : World} {amounts : List Nat} :
    (env.swapExactETHForTokens router n minOut path recipient deadline).run w =
      .ok (amounts, w') → w'.store = w.store
  swapExactTokensForETH {router recipient : Address} {n minOut deadline : Nat}
    {path : List Address} {w w' : World} {amounts : List Nat} :
    (env.swapExactTokensForETH router n minOut path recipient deadline).run w =
      .ok (amounts, w') → w'.store = w.store

/-- `w'` is `w` after exactly `n` of `token` moved from `source` to `recipient`, with the event of
the move; the token had it to move. Allowances may have changed. -/
structure Moved (token source recipient : Address) (n : Nat) (w w' : World) : Prop where
  enough : n ≤ w.ledger.balance token source
  balance : w'.ledger.balance = Function.update w.ledger.balance token
    (Holdings.move (w.ledger.balance token) source recipient n)
  transfers : w'.transfers = w.transfers ++ [⟨token, source, recipient, n⟩]

/-- A call that concerned `token` left the balances and the events of other tokens alone. -/
structure Touched (token : Address) (w w' : World) : Prop where
  balance : ∀ t, t ≠ token → w'.ledger.balance t = w.ledger.balance t
  transfers : ∃ ts, w'.transfers = w.transfers ++ ts ∧ ∀ x ∈ ts, x.token = token

/-- Tokens move exactly or revert, the router swaps exactly, and nobody calls back; the contract does
not call itself either. -/
structure Exact (env : Env) : Prop extends Quiet env where
  external : env.sender ≠ env.this
  transfer_moved {token recipient : Address} {n : Nat} {w w' : World} {b : Bool} :
    (env.transfer token recipient n).run w = .ok (b, w') →
      b = true ∧ Moved token env.this recipient n w w'
  transferFrom_moved {token source recipient : Address} {n : Nat} {w w' : World} {b : Bool} :
    (env.transferFrom token source recipient n).run w = .ok (b, w') →
      b = true ∧ Moved token source recipient n w w'
  approve_same {token spender : Address} {n : Nat} {w w' : World} {r : CallResult} :
    (env.approve token spender n).run w = .ok (r, w') →
      w'.ledger.balance = w.ledger.balance ∧ w'.transfers = w.transfers
  mint_touched {token holder : Address} {n : Nat} {w w' : World} {b : Bool} :
    (env.mint token holder n).run w = .ok (b, w') → Touched token w w'
  burn_touched {token holder : Address} {n : Nat} {w w' : World} {b : Bool} :
    (env.burn token holder n).run w = .ok (b, w') → Touched token w w'
  swap_exact {router recipient tokenIn tokenOut : Address} {n minOut deadline : Nat}
    {w w' : World} {amounts : List Nat} :
    (env.swapExactTokensForTokens router n minOut [tokenIn, tokenOut] recipient deadline).run w =
      .ok (amounts, w') →
      ∃ w₁ sink source out, sink ≠ env.this ∧ source ≠ env.this ∧ amounts = [n, out] ∧
        Moved tokenIn env.this sink n w w₁ ∧ Moved tokenOut source recipient out w₁ w'

/-- `token` is a `DebtToken` for the contract: a mint creates and a burn destroys exactly the amount,
and nobody burns more than a balance. A mint comes from the zero address and a burn goes to it. -/
structure DebtToken (env : Env) (token : Address) : Prop where
  mint {holder : Address} {n : Nat} {w w' : World} {b : Bool} :
    (env.mint token holder n).run w = .ok (b, w') →
      w'.ledger.balance token = Holdings.credit (w.ledger.balance token) holder n ∧
        w'.transfers = w.transfers ++ [⟨token, 0, holder, n⟩]
  burn {holder : Address} {n : Nat} {w w' : World} {b : Bool} :
    (env.burn token holder n).run w = .ok (b, w') →
      n ≤ w.ledger.balance token holder ∧
        w'.ledger.balance token = Holdings.debit (w.ledger.balance token) holder n ∧
        w'.transfers = w.transfers ++ [⟨token, holder, 0, n⟩]

/-! ## Steps

The kinds of steps that results speak of: nobody calls back; no state is set by hand in addition;
all callees are exact in addition. -/

/-- Nobody calls back, and the state of a pool is not set by hand. -/
def Event.Regular : Event → Prop
  | .call env c _ => Quiet env ∧ c.setsState = false
  | .outside => True

/-- Steps of the contract that are regular. -/
abbrev RegularStep : World → Event → World → Prop := Restrict Step fun _ e _ => e.Regular

/-- Tokens and router are exact, nobody calls back, and no state is set by hand. -/
def Event.Honest : Event → Prop
  | .call env c _ => Exact env ∧ c.setsState = false
  | .outside => True

theorem Event.Honest.regular {e : Event} (h : e.Honest) : e.Regular := by
  cases e with
  | call env c ts => exact ⟨h.1.toQuiet, h.2⟩
  | outside => trivial

/-- Steps of the contract that are honest. -/
abbrev HonestStep : World → Event → World → Prop := Restrict Step fun _ e _ => e.Honest

theorem HonestStep.regular {w w' : World} {e : Event} (h : HonestStep w e w') : RegularStep w e w' :=
  ⟨h.1, h.2.regular⟩

/-- Nobody calls back. -/
def Event.Quiet : Event → Prop
  | .call env _ _ => Contract.Quiet env
  | .outside => True

/-- Steps of the contract without callbacks. -/
abbrev QuietStep : World → Event → World → Prop := Restrict Step fun _ e _ => e.Quiet

theorem HonestStep.quiet {w w' : World} {e : Event} (h : HonestStep w e w') : QuietStep w e w' := by
  refine ⟨h.1, ?_⟩
  cases e with
  | call => exact h.2.1.toQuiet
  | outside => trivial

/-- In this step `token` is minted and burned as a claim token of the contract. -/
def Event.Issues (token : Address) : Event → Prop
  | .call env _ _ => DebtToken env token
  | .outside => True

end Pledge.Contract
