import Pledge.Contract.Slots
import Pledge.Evm.Frame

/-!
# Claim tokens in the custody of their holders

What the backing of a claim token needs from the contracts that `PledgePool` calls: its mints and burns
are exact, and no other call does more to it than move it between its holders (`Custody`). The settle
token, the pledge token and the router may otherwise answer and transfer as they like.

For the moves of a transaction this is the same law that exact callees obey (`Move.Turns`), so the
count of the holdings follows the mints and burns here as well.
-/

namespace Pledge.Contract

open Pledge.Evm

/-- The holders of `token` traded it among themselves, and none of it was minted in the log. -/
structure World.Traded (token : Address) (w w' : World) : Prop where
  holdings : Holdings.Redistributed (w.ledger.balance token) (w'.ledger.balance token)
  transfers : ∃ ts, w'.transfers = w.transfers ++ ts ∧ ∀ x ∈ ts, x.token = token → x.src ≠ 0

theorem World.traded_framing (token : Address) : Framing (World.Traded token) where
  refl w := ⟨.refl, [], (List.append_nil _).symm, nofun⟩
  trans h h' := by
    obtain ⟨ts, hts, hsrc⟩ := h.transfers
    obtain ⟨ts', hts', hsrc'⟩ := h'.transfers
    refine ⟨h.holdings.trans h'.holdings, ts ++ ts', ?_, ?_⟩
    · rw [hts', hts, List.append_assoc]
    · intro x hx
      rcases List.mem_append.mp hx with hx | hx
      · exact hsrc x hx
      · exact hsrc' x hx

/-- `token` is a `DebtToken`, and whatever else the contract calls, `token` is at most traded. -/
structure Custody (env : Env) (token : Address) : Prop extends DebtToken env token where
  transfer (t recipient : Address) (n : Nat) :
    (env.transfer t recipient n).Keeps (World.Traded token)
  transferFrom (t : Address) (n : Nat) :
    (env.transferFrom t env.sender env.this n).Keeps (World.Traded token)
  approve (t spender : Address) (n : Nat) : (env.approve t spender n).Keeps (World.Traded token)
  sendEth (recipient : Address) (n : Nat) : (env.sendEth recipient n).Keeps (World.Traded token)
  mint_other {t : Address} (ht : t ≠ token) (holder : Address) (n : Nat) :
    (env.mint t holder n).Keeps (World.Traded token)
  burn_other {t : Address} (ht : t ≠ token) (holder : Address) (n : Nat) :
    (env.burn t holder n).Keeps (World.Traded token)
  swapExactTokensForTokens (router : Address) (n minOut : Nat) (path : List Address)
    (recipient : Address) (deadline : Nat) :
    (env.swapExactTokensForTokens router n minOut path recipient deadline).Keeps (World.Traded token)
  swapExactETHForTokens (router : Address) (n minOut : Nat) (path : List Address)
    (recipient : Address) (deadline : Nat) :
    (env.swapExactETHForTokens router n minOut path recipient deadline).Keeps (World.Traded token)
  swapExactTokensForETH (router : Address) (n minOut : Nat) (path : List Address)
    (recipient : Address) (deadline : Nat) :
    (env.swapExactTokensForETH router n minOut path recipient deadline).Keeps (World.Traded token)

/-- In this step `token` stays in the custody of its holders. -/
def Event.Guards (token : Address) : Event → Prop
  | .call env _ _ => Custody env token
  | .outside => True

/-! ## The moves of a transaction

One function after the other: what the contract asks of tokens other than the one in custody does
not move it. -/

section Moves

variable {env : Env} {token : Address}

theorem Custody.transferToken (h : Custody env token) (t recipient : Address) (n : Nat) :
    (transferToken env t recipient n).Keeps (World.Traded token) := by
  have hR := World.traded_framing token
  refine .ite (.pure hR ()) (.ite (h.sendEth recipient n) ?_)
  exact .bind hR (h.transfer t recipient n) fun _ => .pure hR ()

theorem Custody.safeApprove (h : Custody env token) (t spender : Address) (n : Nat) :
    (safeApprove env t spender n).Keeps (World.Traded token) := by
  have hR := World.traded_framing token
  exact .bind hR (h.approve t spender n) fun _ => .require hR _ _

/-- A swap approves, asks the router once and reads. -/
theorem Custody.swap (h : Custody env token) (t0 t1 : Address) (n : Nat) :
    (swap env t0 t1 n).Keeps (World.Traded token) := by
  have hR := World.traded_framing token
  have happrove (t : Address) (k : Nat) :
      (Tx.when (t ≠ 0) do
        let swapRouter ← load (·.swapRouter)
        Contract.safeApprove env t swapRouter k).Keeps (World.Traded token) :=
    .when hR (.bind hR (.reads hR _) fun router => h.safeApprove t router k)
  have hpath : (getSwapPath env t0 t1).Keeps (World.Traded token) := by
    refine .bind hR (.reads hR _) fun _ => .bind hR (.require hR _ _) fun _ => ?_
    refine .bind hR (.ite ?_ (.pure hR _)) fun _ => .bind hR (.ite ?_ (.pure hR _)) fun _ => .pure hR _
    · exact .of_same hR fun hview => (Tx.view_ok.mp hview).2
    · exact .of_same hR fun hview => (Tx.view_ok.mp hview).2
  refine .bind hR (.reads hR _) fun router => .bind hR (.require hR _ _) fun _ => ?_
  refine .ite (.pure hR 0) (.bind hR hpath fun path => ?_)
  refine .bind hR (happrove t0 n) fun _ => .bind hR (happrove t1 _) fun _ => ?_
  refine .bind hR (.uadd hR _ _) fun deadline => .bind hR (.ite ?_ (.ite ?_ ?_)) fun amounts => ?_
  · exact h.swapExactETHForTokens router n 0 path env.this deadline
  · exact h.swapExactTokensForETH router n 0 path env.this deadline
  · exact h.swapExactTokensForTokens router n 0 path env.this deadline
  · refine .bind hR (.usub hR _ _) fun last => .of_same hR ?_
    intro _ _ _ hindex
    exact (Tx.index_ok.mp hindex).2

/-- What a move pulls comes from the caller. -/
def Move.FromSender (env : Env) : Move → Prop
  | .pull _ source _ => source = env.sender
  | _ => True

/-- Any other move at most trades the token. -/
theorem Custody.traded (h : Custody env token) {m : Move} (hm : m.Keeps token)
    (hsender : m.FromSender env) {w w' : World} (hrun : m.Ran env w w') : World.Traded token w w' := by
  cases m with
  | pull t source n =>
      obtain rfl : source = env.sender := hsender
      obtain ⟨b, hrun⟩ := hrun
      exact h.transferFrom t n _ _ _ hrun
  | pay t recipient n => exact h.transferToken t recipient n _ _ _ hrun
  | mint t holder n =>
      obtain ⟨b, hrun⟩ := hrun
      exact h.mint_other hm holder n _ _ _ hrun
  | burn t holder n =>
      obtain ⟨b, hrun⟩ := hrun
      exact h.burn_other hm holder n _ _ _ hrun
  | swap t0 t1 n out => exact h.swap t0 t1 n _ _ _ hrun

theorem Custody.turns (h : Custody env token) {m : Move} (hsender : m.FromSender env) {w w' : World}
    (hrun : m.Ran env w w') : m.Turns token (w.ledger.balance token) (w'.ledger.balance token) := by
  by_cases hkeeps : m.Keeps token
  · exact hkeeps.turns (h.traded hkeeps hsender hrun).holdings
  · exact hrun.turns_issue h.toDebtToken hkeeps

/-- The log of mints, where nothing is burned. -/
theorem Custody.issued (h : Custody env token) {m : Move} (hsender : m.FromSender env)
    (hburn : ∀ holder n, m ≠ .burn token holder n) {w w' : World} (hrun : m.Ran env w w') :
    sentBy token 0 w'.transfers = sentBy token 0 w.transfers + m.minted token := by
  by_cases hkeeps : m.Keeps token
  · obtain ⟨ts, hts, hsrc⟩ := (h.traded hkeeps hsender hrun).transfers
    unfold sentBy
    rw [hts, volume_append, hkeeps.minted_burned.1]
    apply congrArg
    apply volume_eq_zero
    intro x hx
    simpa using hsrc x hx
  · exact hrun.issued_issue h.toDebtToken hkeeps hburn

/-! ## A transaction

What a transaction takes of the token in custody it takes from its sender, so the holders have what
they had but for this. -/

theorem feeMoves_fromSender (s : Storage) (t : Address) (fee : Nat) :
    ∀ m ∈ feeMoves s t fee, m.FromSender env := by
  unfold feeMoves
  split <;> simp [Move.FromSender]

theorem Received.fromSender {t : Address} {amount n : Nat} {moves : List Move}
    (h : Received env t amount n moves) : ∀ m ∈ moves, m.FromSender env := by
  cases h <;> simp [Move.FromSender]

theorem Sale.fromSender {s : Storage} {pool : Pool} {lend sold received : Nat} {moves : List Move}
    (h : Sale s pool lend sold received moves) : ∀ m ∈ moves, m.FromSender env := by
  cases h with
  | none => simp
  | some => exact List.forall_mem_cons.mpr ⟨trivial, feeMoves_fromSender s _ _⟩

theorem Effect.fromSender {s s' : Storage} {c : Call} {moves : List Move}
    (h : Effect env s c moves s') : ∀ m ∈ moves, m.FromSender env := by
  cases h with
  | depositLend hex hstate hend hrecv => exact hrecv.fromSender
  | depositBorrow hex hstate hend hrecv => exact hrecv.fromSender
  | finish hex htime hstate horder hsale =>
      exact List.forall_mem_append.mpr ⟨hsale.fromSender, feeMoves_fromSender s _ _⟩
  | liquidate hex hstate htime hpledge hsettle hpp hsp hhealth hsale =>
      exact List.forall_mem_append.mpr ⟨hsale.fromSender, feeMoves_fromSender s _ _⟩
  | claimBorrow | withdrawBorrow =>
      -- a mint or a burn when there is a token, a payment when there is an amount
      rw [List.forall_mem_append]
      constructor <;> split <;> simp [Move.FromSender]
  | _ => simp [Move.FromSender]

variable {s s' : Storage} {c : Call} {moves : List Move} {w w' : World}

/-- What circulates of a token in custody follows the mints and burns of a transaction. -/
theorem Custody.circulating (h : Custody env token) (heff : Effect env s c moves s')
    (hchain : Chain env w moves w') {n : Nat}
    (hn : Holdings.Circulating (w.ledger.balance token) n) :
    (moves.map (Move.burned token)).sum ≤ n + (moves.map (Move.minted token)).sum ∧
      Holdings.Circulating (w'.ledger.balance token)
        (n + (moves.map (Move.minted token)).sum - (moves.map (Move.burned token)).sum) :=
  hchain.tallied Holdings.circulating_tallied
    (fun m hm _ _ hrun => h.turns (heff.fromSender m hm) hrun) hn

/-- The receipt of a transaction that burns nothing shows what it minted. -/
theorem Custody.receipt (h : Custody env token) (heff : Effect env s c moves s')
    (hchain : Chain env w moves w') (hburn : ∀ m ∈ moves, ∀ holder n, m ≠ .burn token holder n) :
    sentBy token 0 w'.transfers =
      sentBy token 0 w.transfers + (moves.map (Move.minted token)).sum :=
  hchain.measure (f := fun w => sentBy token 0 w.transfers) (fun hsame => by rw [hsame.2])
    fun hm hrun => h.issued (heff.fromSender _ hm) (hburn _ hm) hrun

end Moves

/-! ## The standard tokens

The executable instance meets the assumption, so that it can be met. -/

theorem Moved.traded {t source recipient : Address} {n : Nat} {w w' : World}
    (h : Moved t source recipient n w w') (token : Address) (hsource : source ≠ 0) :
    World.Traded token w w' := by
  refine ⟨?_, _, h.transfers, by simp [hsource]⟩
  by_cases ht : token = t
  · subst ht
    rw [h.balance, Function.update_self]
    exact .single ⟨source, recipient, n, h.enough, rfl⟩
  · exact .of_eq (h.balance_ne ht)

theorem Touched.traded {t token : Address} {w w' : World} (h : Touched t w w') (ht : t ≠ token) :
    World.Traded token w w' := by
  obtain ⟨ts, hts, htok⟩ := h.transfers
  refine ⟨.of_eq (h.balance token (Ne.symm ht)), ts, hts, ?_⟩
  intro x hx hxt
  exact absurd ((htok x hx).symm.trans hxt) ht

/-- Every token of the standard environment is in custody. -/
theorem standard_custody {st : Setting} (hexternal : st.sender ≠ st.this)
    (hrouter : st.router ≠ st.this) (hthis : st.this ≠ 0) (hsender : st.sender ≠ 0)
    (hsource : st.router ≠ 0) (token : Address) : Custody (standardEnv st) token := by
  have hx : Exact (standardEnv st) := standard_exact hexternal hrouter
  refine { standard_debtToken st token with
    transfer := ?_, transferFrom := ?_, approve := ?_, sendEth := ?_, mint_other := ?_,
    burn_other := ?_, swapExactTokensForTokens := ?_, swapExactETHForTokens := ?_,
    swapExactTokensForETH := ?_ }
  · intro t recipient n w b w' hrun
    exact (hx.transfer_moved hrun).2.traded token hthis
  · intro t n w b w' hrun
    exact (hx.transferFrom_moved hrun).2.traded token hsender
  · intro t spender n w r w' hrun
    obtain ⟨hbalance, htransfers⟩ := hx.approve_same hrun
    exact ⟨.of_eq (congrFun hbalance token), [], by rw [htransfers, List.append_nil], nofun⟩
  · intro recipient n w u w' hrun
    exact (Tx.revert_ok.mp hrun).elim
  · intro t ht holder n w b w' hrun
    exact (hx.mint_touched hrun).traded ht
  · intro t ht holder n w b w' hrun
    exact (hx.burn_touched hrun).traded ht
  · intro router n minOut path recipient deadline w amounts w' hrun
    obtain ⟨-, tokenIn, tokenOut, w₁, out, -, -, hin, hout⟩ := standard_swap hrun
    exact (World.traded_framing token).trans (hin.traded token hthis) (hout.traded token hsource)
  · intro router n minOut path recipient deadline w amounts w' hrun
    exact (Tx.revert_ok.mp hrun).elim
  · intro router n minOut path recipient deadline w amounts w' hrun
    exact (Tx.revert_ok.mp hrun).elim

end Pledge.Contract
