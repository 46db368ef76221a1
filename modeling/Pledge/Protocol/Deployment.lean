import Pledge.Contract.Backing
import Pledge.Contract.PriceHistory
import Pledge.MultiSig.History
import Pledge.Token.DebtToken

/-!
# The contracts together

One `MultiSigWallet`, one `PledgePool`, one `Oracle` and any number of `DebtToken`s, which run each
other's code: `validCall` asks the wallet, the pool asks the oracle for prices, and it mints and
burns through the functions of the tokens, as the `msg.sender` that `onlyMinter` looks at. What is
not under `contracts/pledge` or `contracts/multiSignatureV2` stays an assumption: the other tokens,
the router and the feeds of the oracle. What runs in the middle of a transaction of the pool sends
no transaction to the other contracts.

The results about the single contracts assume something about the others. Here it is proved:
`Deployment.Lawful.exact` and `Deployment.Lawful.debtToken` say that the environment in which the
pool runs is one of exact tokens, and `run_onWallet` that the wallet has runs of its own in those of
the whole. -/

namespace Pledge.Protocol

open Pledge.Evm

variable {τ : Type}

/-! ## What is deployed

One state for all contracts. What the pool sees of the others is made out of their states, so that
it is no longer a parameter. -/

/-- The contracts and what they are built from. -/
structure Deployment (τ : Type) where
  /-- `keccak256(abi.encodePacked(a, b))` -/
  keccak : Address → Address → Nat
  /-- `PledgePool` -/
  pool : Address
  /-- `MultiSigWallet` -/
  wallet : Address
  /-- `Oracle` -/
  oracle : Address
  /-- The contracts `DebtToken`. -/
  claimTokens : List Address
  /-- The `ERC20` of each of them, on the ledger. -/
  erc20 : Address → Token.ERC20 Contract.World
  /-- `EnumerableSet.AddressSet` -/
  addressSet : Token.AddressSet τ

/-- The state of all contracts. The balances of the claim tokens are in the ledger of the world. -/
structure State (τ : Type) where
  wallet : MultiSig.Wallet
  oracle : Contract.OracleStorage
  world : Contract.World
  minters : Address → τ

/-- What the contracts meet outside: also how the aggregators of the oracle answer. -/
structure Surroundings extends Contract.Env where
  latestRoundData : Address → Except Revert (BitVec 256)
  feedDecimals : Address → Except Revert Nat

namespace Deployment

variable (D : Deployment τ)

/-- `IMultiSignature(account).getValidSignature(msghash, lastIndex)` -/
def getValidSignature (wallet : MultiSig.Wallet) (account msgHash lastIndex : Nat) :
    Except Revert Nat :=
  if account = D.wallet then .ok (wallet.getValidSignature msgHash lastIndex) else .error .call

/-- The oracle is asked for a price. -/
def quoting (s : State τ) (env : Surroundings) : Contract.OracleEnv where
  this := D.oracle
  sender := D.pool
  keccak := D.keccak
  getValidSignature := D.getValidSignature s.wallet
  latestRoundData := env.latestRoundData
  decimals := env.feedDecimals

/-- A transaction of `sender` to the oracle. What it writes depends on no feed. -/
def writing (s : State τ) (sender : Address) : Contract.OracleEnv where
  this := D.oracle
  sender := sender
  keccak := D.keccak
  getValidSignature := D.getValidSignature s.wallet
  latestRoundData _ := .error .call
  decimals _ := .error .call

/-- A transaction of `sender` to the claim token `token`. -/
def msg (wallet : MultiSig.Wallet) (token sender : Address) : Token.Msg where
  this := token
  sender := sender
  keccak := D.keccak
  getValidSignature := D.getValidSignature wallet

/-- A claim token as it stands in a world. -/
def tokenState (minters : τ) (world : Contract.World) : Token.DebtToken Contract.World τ :=
  ⟨world, minters, D.wallet⟩

/-- The pool calls a function of the claim token `token`. -/
def callToken (s : State τ) (token : Address) (c : Token.Call) : Tx Contract.World Bool :=
  Tx.zoom (D.tokenState (s.minters token)) (fun t _ => t.erc20)
    (c.body (D.erc20 token) D.addressSet (D.msg s.wallet token D.pool))

/-- A low-level call reports a revert of the callee. -/
def lowLevel (x : Tx Contract.World Bool) : Tx Contract.World Contract.CallResult := fun w =>
  match x.run w with
  | .ok (b, w') => .ok (.returned b, w')
  | .error _ => .ok (.failed, w)

/-- What the pool runs in: its wallet, its oracle and its claim tokens are the ones deployed, and
everything else is as in `env`. -/
def env (s : State τ) (env : Surroundings) : Contract.Env :=
  { env.toEnv with
    keccak := D.keccak
    getValidSignature := fun account msgHash lastIndex _ =>
      D.getValidSignature s.wallet account msgHash lastIndex
    getPrice := fun account asset w =>
      if account = D.oracle then s.oracle.price (D.quoting s env) asset
      else env.getPrice account asset w
    transfer := fun token recipient n =>
      if token ∈ D.claimTokens then D.callToken s token (.transfer recipient n)
      else env.transfer token recipient n
    transferFrom := fun token source recipient n =>
      if token ∈ D.claimTokens then D.callToken s token (.transferFrom source recipient n)
      else env.transferFrom token source recipient n
    approve := fun token spender n =>
      if token ∈ D.claimTokens then lowLevel (D.callToken s token (.approve spender n))
      else env.approve token spender n
    mint := fun token holder n =>
      if token ∈ D.claimTokens then D.callToken s token (.mint holder n)
      else env.mint token holder n
    burn := fun token holder n =>
      if token ∈ D.claimTokens then D.callToken s token (.burn holder n)
      else env.burn token holder n }

end Deployment

/-! ## Steps

A step is a transaction to one of the contracts. The tokens and the router that are not ours remain
arguments of the step. -/

/-- What can happen. -/
inductive Event where
  /-- A transaction of `sender` to the wallet. -/
  | wallet (sender : Address) (c : MultiSig.Call)
  /-- A transaction of `sender` to the oracle. -/
  | oracle (sender : Address) (c : Contract.Oracle.Call)
  /-- A transaction to the pool, with its receipt. -/
  | pool (env : Surroundings) (c : Contract.Call) (transfers : List Transfer)
  /-- A transaction of `sender` to the claim token `token`. -/
  | token (token sender : Address) (c : Token.Call)
  /-- Other tokens change hands. -/
  | outside

/-- One successful transaction. The pool sends no transactions of its own. -/
inductive Step (D : Deployment τ) : State τ → Event → State τ → Prop
  | wallet {s : State τ} {sender : Address} {c : MultiSig.Call} {wallet : MultiSig.Wallet}
      (h : MultiSig.Step D.keccak s.wallet (sender, c) wallet) :
      Step D s (.wallet sender c) { s with wallet := wallet }
  | oracle {s : State τ} {sender : Address} {c : Contract.Oracle.Call}
      {oracle : Contract.OracleStorage}
      (h : Contract.Oracle.Step s.oracle (D.writing s sender, c) oracle) :
      Step D s (.oracle sender c) { s with oracle := oracle }
  | pool {s : State τ} {env : Surroundings} {c : Contract.Call} {ts : List Transfer}
      {world : Contract.World} (hthis : env.this = D.pool)
      (h : Contract.Step s.world (.call (D.env s env) c ts) world) :
      Step D s (.pool env c ts) { s with world := world }
  | token {s : State τ} {token sender : Address} {c : Token.Call}
      {t : Token.DebtToken Contract.World τ} (htoken : token ∈ D.claimTokens)
      (hsender : sender ≠ D.pool)
      (h : Token.Step (D.erc20 token) D.addressSet (D.tokenState (s.minters token) s.world)
        (D.msg s.wallet token sender, c) t) :
      Step D s (.token token sender c)
        { s with
          world := { s.world with ledger := t.erc20.ledger, transfers := [] }
          minters := Function.update s.minters token t.minters }
  | outside {s : State τ} {ledger : Ledger}
      (h : ∀ token ∈ D.claimTokens, ledger.balance token = s.world.ledger.balance token) :
      Step D s .outside { s with world := { s.world with ledger := ledger, transfers := [] } }

/-- The transaction of the wallet in an event. -/
def Event.onWallet : Event → List (Address × MultiSig.Call)
  | .wallet sender c => [(sender, c)]
  | _ => []

/-- Nobody calls back into the pool. -/
def Event.Quiet : Event → Prop
  | .pool env _ _ => Contract.Quiet env.toEnv
  | _ => True

/-- The other tokens and the router are exact, and nobody calls back. -/
def Event.Exact : Event → Prop
  | .pool env _ _ => Contract.Exact env.toEnv
  | _ => True

theorem Event.Exact.quiet {e : Event} (h : e.Exact) : e.Quiet := by
  cases e with
  | pool env c ts => exact Contract.Exact.toQuiet h
  | _ => trivial

/-- Steps in which nobody calls back. -/
abbrev QuietStep (D : Deployment τ) : State τ → Event → State τ → Prop :=
  Restrict (Step D) fun _ e _ => e.Quiet

section Steps

variable {D : Deployment τ} {s₀ s s' : State τ} {e : Event} {es : List Event}

theorem Step.onWallet (h : Step D s e s') :
    Run (MultiSig.Step D.keccak) s.wallet e.onWallet s'.wallet := by
  cases h with
  | wallet h => exact Run.start.step h
  | oracle | pool | token | outside => exact .start

/-- The run of the wallet in a run of the whole. -/
theorem run_onWallet (hrun : Run (Step D) s₀ es s) :
    Run (MultiSig.Step D.keccak) s₀.wallet (es.flatMap Event.onWallet) s.wallet :=
  hrun.expand State.wallet Event.onWallet Step.onWallet

end Steps

/-! ## Lawful deployments

Of the library code it is assumed that it does what its documentation says, and that a token touches
its own row of the ledger only. -/

/-- A function of the token `token` emitted `ts` and touched nothing but the ledger of the token. -/
structure Local (token : Address) (ts : List Transfer) (w w' : Contract.World) : Prop where
  store : w'.store = w.store
  balance : ∀ t, t ≠ token → w'.ledger.balance t = w.ledger.balance t
  transfers : w'.transfers = w.transfers ++ ts

/-- `E` is the `ERC20` of `token`: its balances are in the ledger, it emits the `Transfer` events of
the standard, and it calls nobody. -/
structure Lodged (token : Address) (E : Token.ERC20 Contract.World) : Prop extends E.Lawful where
  balanceOf (w : Contract.World) : E.balanceOf w = w.ledger.balance token
  mint_local {a : Address} {n : Nat} {w w' : Contract.World} :
    (E.mint a n).run w = .ok ((), w') → Local token [⟨token, 0, a, n⟩] w w'
  burn_local {a : Address} {n : Nat} {w w' : Contract.World} :
    (E.burn a n).run w = .ok ((), w') → Local token [⟨token, a, 0, n⟩] w w'
  transfer_local {sender a : Address} {n : Nat} {w w' : Contract.World} {b : Bool} :
    (E.transfer sender a n).run w = .ok (b, w') →
      b = true ∧ Local token [⟨token, sender, a, n⟩] w w'
  transferFrom_local {sender source a : Address} {n : Nat} {w w' : Contract.World} {b : Bool} :
    (E.transferFrom sender source a n).run w = .ok (b, w') →
      b = true ∧ Local token [⟨token, source, a, n⟩] w w'
  approve_local {sender a : Address} {n : Nat} {w w' : Contract.World} {b : Bool} :
    (E.approve sender a n).run w = .ok (b, w') → Local token [] w w'

/-- The libraries behave as documented, and no token is at the zero address. -/
structure Deployment.Lawful (D : Deployment τ) : Prop where
  addressSet : D.addressSet.Lawful
  lodged : ∀ token ∈ D.claimTokens, Lodged token (D.erc20 token)
  nonzero : 0 ∉ D.claimTokens

section Calls

variable {D : Deployment τ} {s : State τ} {token : Address} {w w' : Contract.World} {b : Bool}

/-- The pool calls a function that `DebtToken` has from `ERC20`. -/
theorem callToken_erc20 {c : Token.Call} {x : Tx Contract.World Bool}
    (hc : c.body (D.erc20 token) D.addressSet (D.msg s.wallet token D.pool) = Token.onErc20 x) :
    (D.callToken s token c).run w = .ok (b, w') ↔ x.run w = .ok (b, w') := by
  unfold Deployment.callToken
  rw [hc, Tx.zoom_ok]
  simp only [Token.onErc20_ok]
  constructor
  · rintro ⟨t, ⟨w₁, hrun, rfl⟩, rfl⟩
    exact hrun
  · intro hrun
    exact ⟨_, ⟨w', hrun, rfl⟩, rfl⟩

/-- The pool mints or burns. -/
theorem callToken_issue {c : Token.Call} {x : Tx Contract.World Unit}
    (hc : c.body (D.erc20 token) D.addressSet (D.msg s.wallet token D.pool) =
      (do Token.onlyMinter D.addressSet (D.msg s.wallet token D.pool); Token.onErc20 x; pure true)) :
    (D.callToken s token c).run w = .ok (b, w') ↔
      D.addressSet.contains (s.minters token) D.pool = true ∧ b = true ∧
        x.run w = .ok ((), w') := by
  unfold Deployment.callToken
  rw [hc, Tx.zoom_ok]
  simp only [Token.issue_ok (E := D.erc20 token)]
  constructor
  · rintro ⟨t, ⟨hminter, rfl, w₁, hrun, rfl⟩, rfl⟩
    exact ⟨hminter, rfl, hrun⟩
  · rintro ⟨hminter, rfl, hrun⟩
    exact ⟨_, ⟨hminter, rfl, w', hrun, rfl⟩, rfl⟩

theorem callToken_mint {a : Address} {n : Nat} :
    (D.callToken s token (.mint a n)).run w = .ok (b, w') ↔
      D.addressSet.contains (s.minters token) D.pool = true ∧ b = true ∧
        ((D.erc20 token).mint a n).run w = .ok ((), w') := callToken_issue rfl

theorem callToken_burn {a : Address} {n : Nat} :
    (D.callToken s token (.burn a n)).run w = .ok (b, w') ↔
      D.addressSet.contains (s.minters token) D.pool = true ∧ b = true ∧
        ((D.erc20 token).burn a n).run w = .ok ((), w') := callToken_issue rfl

theorem callToken_transfer {a : Address} {n : Nat} :
    (D.callToken s token (.transfer a n)).run w = .ok (b, w') ↔
      ((D.erc20 token).transfer D.pool a n).run w = .ok (b, w') := callToken_erc20 rfl

theorem callToken_transferFrom {source a : Address} {n : Nat} :
    (D.callToken s token (.transferFrom source a n)).run w = .ok (b, w') ↔
      ((D.erc20 token).transferFrom D.pool source a n).run w = .ok (b, w') := callToken_erc20 rfl

theorem callToken_approve {spender : Address} {n : Nat} :
    (D.callToken s token (.approve spender n)).run w = .ok (b, w') ↔
      ((D.erc20 token).approve D.pool spender n).run w = .ok (b, w') := callToken_erc20 rfl

theorem lowLevel_ok {x : Tx Contract.World Bool} {r : Contract.CallResult}
    (h : (Deployment.lowLevel x).run w = .ok (r, w')) :
    (∃ b, x.run w = .ok (b, w')) ∨ w' = w := by
  have hmatch : (match x.run w with
    | .ok (b, w') => Except.ok (Contract.CallResult.returned b, w')
    | .error _ => Except.ok (Contract.CallResult.failed, w)) = Except.ok (r, w') := h
  split at hmatch
  · next b w₁ hrun =>
      cases hmatch
      exact .inl ⟨b, hrun⟩
  · cases hmatch
    exact .inr rfl

end Calls

namespace Lodged

variable {token : Address} {E : Token.ERC20 Contract.World} {w w' : Contract.World}

/-- The balances of the token are in its row of the ledger. -/
theorem row (hE : Lodged token E) {ts : List Transfer} (hlocal : Local token ts w w')
    {h : Holdings} (hbalance : E.balanceOf w' = h) :
    w'.ledger.balance = Function.update w.ledger.balance token h := by
  funext t
  by_cases ht : t = token
  · subst ht
    rw [Function.update_self, ← hE.balanceOf, hbalance]
  · rw [Function.update_of_ne ht, hlocal.balance t ht]

theorem transfer_moved (hE : Lodged token E) {sender a : Address} {n : Nat} {b : Bool}
    (h : (E.transfer sender a n).run w = .ok (b, w')) :
    b = true ∧ Contract.Moved token sender a n w w' := by
  obtain ⟨henough, -, hbalance⟩ := hE.transfer h
  obtain ⟨hb, hlocal⟩ := hE.transfer_local h
  rw [hE.balanceOf w] at henough hbalance
  exact ⟨hb, henough, hE.row hlocal hbalance, hlocal.transfers⟩

theorem transferFrom_moved (hE : Lodged token E) {sender source a : Address} {n : Nat} {b : Bool}
    (h : (E.transferFrom sender source a n).run w = .ok (b, w')) :
    b = true ∧ Contract.Moved token source a n w w' := by
  obtain ⟨henough, -, hbalance⟩ := hE.transferFrom h
  obtain ⟨hb, hlocal⟩ := hE.transferFrom_local h
  rw [hE.balanceOf w] at henough hbalance
  exact ⟨hb, henough, hE.row hlocal hbalance, hlocal.transfers⟩

theorem approve_same (hE : Lodged token E) {sender a : Address} {n : Nat} {b : Bool}
    (h : (E.approve sender a n).run w = .ok (b, w')) :
    w'.ledger.balance = w.ledger.balance ∧ w'.transfers = w.transfers := by
  obtain ⟨-, hbalance⟩ := hE.approve h
  have hlocal := hE.approve_local h
  rw [hE.balanceOf w] at hbalance
  constructor
  · rw [hE.row hlocal hbalance, Function.update_eq_self]
  · rw [hlocal.transfers, List.append_nil]

theorem mint_credits (hE : Lodged token E) {a : Address} {n : Nat}
    (h : (E.mint a n).run w = .ok ((), w')) :
    w'.ledger.balance token = Holdings.credit (w.ledger.balance token) a n := by
  rw [← hE.balanceOf, ← hE.balanceOf]
  exact (hE.mint h).2.2

theorem burn_debits (hE : Lodged token E) {a : Address} {n : Nat}
    (h : (E.burn a n).run w = .ok ((), w')) :
    n ≤ w.ledger.balance token a ∧
      w'.ledger.balance token = Holdings.debit (w.ledger.balance token) a n := by
  rw [← hE.balanceOf, ← hE.balanceOf]
  obtain ⟨henough, -, hbalance⟩ := hE.burn h
  exact ⟨henough, hbalance⟩

end Lodged

theorem Local.touched {token : Address} {ts : List Transfer} {w w' : Contract.World}
    (h : Local token ts w w') (hts : ∀ x ∈ ts, x.token = token) : Contract.Touched token w w' :=
  ⟨h.balance, ts, h.transfers, hts⟩

/-! ## The environment of the pool

The assumptions that results on the pool make about its callees hold of the ones that are deployed
with it. -/

section Environment

variable {D : Deployment τ} {s : State τ} {env : Surroundings}

/-- The claim tokens call nobody back. -/
theorem Deployment.Lawful.quiet (hD : D.Lawful) (hq : Contract.Quiet env.toEnv) :
    Contract.Quiet (D.env s env) where
  transfer h := by
    simp only [Deployment.env] at h
    split at h
    · next htoken =>
        exact ((hD.lodged _ htoken).transfer_local (callToken_transfer.mp h)).2.store
    · exact hq.transfer h
  transferFrom h := by
    simp only [Deployment.env] at h
    split at h
    · next htoken =>
        exact ((hD.lodged _ htoken).transferFrom_local (callToken_transferFrom.mp h)).2.store
    · exact hq.transferFrom h
  approve h := by
    simp only [Deployment.env] at h
    split at h
    · next htoken =>
        rcases lowLevel_ok h with ⟨b, hrun⟩ | rfl
        · exact ((hD.lodged _ htoken).approve_local (callToken_approve.mp hrun)).store
        · rfl
    · exact hq.approve h
  sendEth := hq.sendEth
  mint h := by
    simp only [Deployment.env] at h
    split at h
    · next htoken => exact ((hD.lodged _ htoken).mint_local (callToken_mint.mp h).2.2).store
    · exact hq.mint h
  burn h := by
    simp only [Deployment.env] at h
    split at h
    · next htoken => exact ((hD.lodged _ htoken).burn_local (callToken_burn.mp h).2.2).store
    · exact hq.burn h
  swapExactTokensForTokens := hq.swapExactTokensForTokens
  swapExactETHForTokens := hq.swapExactETHForTokens
  swapExactTokensForETH := hq.swapExactTokensForETH

/-- The claim tokens are exact, so an environment in which the other tokens are exact is one in which
all are. -/
theorem Deployment.Lawful.exact (hD : D.Lawful) (hx : Contract.Exact env.toEnv)
    (hthis : env.this = D.pool) : Contract.Exact (D.env s env) where
  toQuiet := hD.quiet hx.toQuiet
  external := hx.external
  transfer_moved h := by
    simp only [Deployment.env] at h ⊢
    split at h
    · next htoken =>
        rw [hthis]
        exact (hD.lodged _ htoken).transfer_moved (callToken_transfer.mp h)
    · exact hx.transfer_moved h
  transferFrom_moved h := by
    simp only [Deployment.env] at h
    split at h
    · next htoken => exact (hD.lodged _ htoken).transferFrom_moved (callToken_transferFrom.mp h)
    · exact hx.transferFrom_moved h
  approve_same h := by
    simp only [Deployment.env] at h
    split at h
    · next htoken =>
        -- a low-level call that fails is a call that moves nothing
        rcases lowLevel_ok h with ⟨b, hrun⟩ | rfl
        · exact (hD.lodged _ htoken).approve_same (callToken_approve.mp hrun)
        · exact ⟨rfl, rfl⟩
    · exact hx.approve_same h
  mint_touched h := by
    simp only [Deployment.env] at h
    split at h
    · next htoken =>
        exact ((hD.lodged _ htoken).mint_local (callToken_mint.mp h).2.2).touched (by simp)
    · exact hx.mint_touched h
  burn_touched h := by
    simp only [Deployment.env] at h
    split at h
    · next htoken =>
        exact ((hD.lodged _ htoken).burn_local (callToken_burn.mp h).2.2).touched (by simp)
    · exact hx.burn_touched h
  swap_exact := hx.swap_exact

/-- A claim token is minted and burned exactly. -/
theorem Deployment.Lawful.debtToken (hD : D.Lawful) {token : Address}
    (htoken : token ∈ D.claimTokens) : Contract.DebtToken (D.env s env) token where
  mint h := by
    simp only [Deployment.env, if_pos htoken] at h
    obtain ⟨-, -, hrun⟩ := callToken_mint.mp h
    have hE := hD.lodged token htoken
    exact ⟨hE.mint_credits hrun, (hE.mint_local hrun).transfers⟩
  burn h := by
    simp only [Deployment.env, if_pos htoken] at h
    obtain ⟨-, -, hrun⟩ := callToken_burn.mp h
    have hE := hD.lodged token htoken
    obtain ⟨henough, hdebit⟩ := hE.burn_debits hrun
    exact ⟨henough, hdebit, (hE.burn_local hrun).transfers⟩

/-- The pool mints and burns a claim token as one of its minters. -/
theorem issues_minter {token : Address} (htoken : token ∈ D.claimTokens) {a : Address} {n : Nat}
    {w w' : Contract.World} {b : Bool}
    (h : ((D.env s env).mint token a n).run w = .ok (b, w') ∨
      ((D.env s env).burn token a n).run w = .ok (b, w')) :
    D.addressSet.contains (s.minters token) D.pool = true := by
  simp only [Deployment.env, if_pos htoken] at h
  rcases h with hmint | hburn
  · exact (callToken_mint.mp hmint).1
  · exact (callToken_burn.mp hburn).1

end Environment

/-! ## A deployment to run

`Token.plainErc20` on the ledger. The supply is where the zero address would keep an allowance for
itself, which `approve` refuses. -/

/-- What the ledger has of `token`. -/
def row (token : Address) (w : Contract.World) : Token.Plain where
  balances := w.ledger.balance token
  supply := w.ledger.allowance token 0 0
  allowances := w.ledger.allowance token

/-- Write it back. -/
def putRow (token : Address) (r : Token.Plain) (w : Contract.World) : Contract.World :=
  { w with
    ledger :=
      { balance := Function.update w.ledger.balance token r.balances
        allowance := Function.update w.ledger.allowance token fun a b =>
          if a = 0 ∧ b = 0 then r.supply else r.allowances a b } }

/-- A function of `ERC20` that emits an event. -/
def emitting {α : Type} (token : Address) (x : Tx Token.Plain α) (t : Transfer) :
    Tx Contract.World Unit := do
  let _ ← Tx.zoom (row token) (putRow token) x
  Tx.modifies fun w : Contract.World => { w with transfers := w.transfers ++ [t] }

def ledgerErc20 (token : Address) : Token.ERC20 Contract.World where
  balanceOf w := (row token w).balances
  totalSupply w := (row token w).supply
  mint account value := emitting token (Token.plainErc20.mint account value) ⟨token, 0, account, value⟩
  burn account value := emitting token (Token.plainErc20.burn account value) ⟨token, account, 0, value⟩
  transfer sender recipient value := do
    emitting token (Token.plainErc20.transfer sender recipient value)
      ⟨token, sender, recipient, value⟩
    pure true
  transferFrom sender source recipient value := do
    emitting token (Token.plainErc20.transferFrom sender source recipient value)
      ⟨token, source, recipient, value⟩
    pure true
  approve sender spender value :=
    Tx.zoom (row token) (putRow token) (Token.plainErc20.approve sender spender value)

section Ledger

variable {token : Address} {w w' : Contract.World} {r : Token.Plain}

@[simp] theorem row_putRow_balances : (row token (putRow token r w)).balances = r.balances :=
  Function.update_self ..

@[simp] theorem row_putRow_supply : (row token (putRow token r w)).supply = r.supply := by
  show Function.update w.ledger.allowance token _ token 0 0 = r.supply
  rw [Function.update_self, if_pos ⟨rfl, rfl⟩]

theorem putRow_local : Local token [] w (putRow token r w) where
  store := rfl
  balance _ ht := Function.update_of_ne ht ..
  transfers := (List.append_nil _).symm

theorem emitting_ok {α : Type} {x : Tx Token.Plain α} {t : Transfer} {u : Unit}
    (h : (emitting token x t).run w = .ok (u, w')) :
    ∃ a r, x.run (row token w) = .ok (a, r) ∧ row token w' = row token (putRow token r w) ∧
      Local token [t] w w' := by
  simp only [emitting, Tx.bind_ok, Tx.zoom_ok, Tx.modifies_ok] at h
  obtain ⟨a, w₁, ⟨r, hrun, rfl⟩, rfl⟩ := h
  have hlocal : Local token [] w (putRow token r w) := putRow_local
  exact ⟨a, r, hrun, rfl, hlocal.store, hlocal.balance, rfl⟩

theorem ledgerErc20_lodged (token : Address) : Lodged token (ledgerErc20 token) where
  mint {a n w w'} h := by
    obtain ⟨_, r, hrun, hrow, -⟩ := emitting_ok h
    simpa [ledgerErc20, Token.plainErc20, hrow] using Token.plainErc20_lawful.mint hrun
  burn {a n w w'} h := by
    obtain ⟨_, r, hrun, hrow, -⟩ := emitting_ok h
    simpa [ledgerErc20, Token.plainErc20, hrow] using Token.plainErc20_lawful.burn hrun
  transfer {sender a n w w' b} h := by
    simp only [ledgerErc20, Tx.bind_ok, Tx.pure_ok] at h
    obtain ⟨_, _, h, -, rfl⟩ := h
    obtain ⟨_, r, hrun, hrow, -⟩ := emitting_ok h
    simpa [ledgerErc20, Token.plainErc20, hrow] using Token.plainErc20_lawful.transfer hrun
  transferFrom {sender source a n w w' b} h := by
    simp only [ledgerErc20, Tx.bind_ok, Tx.pure_ok] at h
    obtain ⟨_, _, h, -, rfl⟩ := h
    obtain ⟨_, r, hrun, hrow, -⟩ := emitting_ok h
    simpa [ledgerErc20, Token.plainErc20, hrow] using Token.plainErc20_lawful.transferFrom hrun
  approve {sender a n w w' b} h := by
    obtain ⟨r, hrun, rfl⟩ := Tx.zoom_ok.mp h
    simpa [ledgerErc20, Token.plainErc20] using Token.plainErc20_lawful.approve hrun
  balanceOf w := rfl
  mint_local h := by
    obtain ⟨_, _, _, _, hlocal⟩ := emitting_ok h
    exact hlocal
  burn_local h := by
    obtain ⟨_, _, _, _, hlocal⟩ := emitting_ok h
    exact hlocal
  transfer_local h := by
    simp only [ledgerErc20, Tx.bind_ok, Tx.pure_ok] at h
    obtain ⟨_, _, h, rfl, rfl⟩ := h
    obtain ⟨_, _, _, _, hlocal⟩ := emitting_ok h
    exact ⟨rfl, hlocal⟩
  transferFrom_local h := by
    simp only [ledgerErc20, Tx.bind_ok, Tx.pure_ok] at h
    obtain ⟨_, _, h, rfl, rfl⟩ := h
    obtain ⟨_, _, _, _, hlocal⟩ := emitting_ok h
    exact ⟨rfl, hlocal⟩
  approve_local h := by
    obtain ⟨r, -, rfl⟩ := Tx.zoom_ok.mp h
    exact putRow_local

end Ledger

/-- The pool at 100, the wallet at 50, the oracle at 300 and the claim tokens 3 and 4. -/
def sample : Deployment {list : List Address // list.Nodup} where
  keccak := MultiSig.packed
  pool := 100
  wallet := 50
  oracle := 300
  claimTokens := [3, 4]
  erc20 := ledgerErc20
  addressSet := Token.listSet

theorem sample_lawful : sample.Lawful where
  addressSet := Token.listSet_lawful
  lodged token _ := ledgerErc20_lodged token
  nonzero := by decide

/-- A transaction, when it succeeds with this receipt. -/
def Step.next (D : Deployment τ) (s : State τ) : Event → Option (State τ)
  | .wallet sender c =>
      match (c.body D.keccak sender).run s.wallet with
      | .ok (_, w) => some { s with wallet := w }
      | .error _ => none
  | .oracle sender c =>
      match (c.transaction (D.writing s sender)).run s.oracle with
      | .ok (_, o) => some { s with oracle := o }
      | .error _ => none
  | .pool env c ts =>
      match (c.transaction (D.env s env)).run { s.world with transfers := [] } with
      | .ok (_, w) =>
          if env.this = D.pool ∧ w.transfers = ts then some { s with world := w } else none
      | .error _ => none
  | .token t sender c =>
      match (c.body (D.erc20 t) D.addressSet (D.msg s.wallet t sender)).run
          (D.tokenState (s.minters t) s.world) with
      | .ok (_, state) =>
          if t ∈ D.claimTokens ∧ sender ≠ D.pool then
            some { s with
              world := { s.world with ledger := state.erc20.ledger, transfers := [] }
              minters := Function.update s.minters t state.minters }
          else none
      | .error _ => none
  | .outside => none

theorem Step.of_next {D : Deployment τ} {s s' : State τ} {e : Event}
    (h : Step.next D s e = some s') : Step D s e s' := by
  cases e with
  | wallet sender c =>
      dsimp only [Step.next] at h
      split at h
      · next wallet hrun =>
          obtain rfl := Option.some.inj h
          exact .wallet hrun
      · cases h
  | oracle sender c =>
      dsimp only [Step.next] at h
      split at h
      · next oracle hrun =>
          obtain rfl := Option.some.inj h
          exact .oracle hrun
      · cases h
  | pool env c ts =>
      dsimp only [Step.next] at h
      split at h
      · next u world hrun =>
          split at h
          · next hok =>
              obtain ⟨hthis, rfl⟩ := hok
              obtain rfl := Option.some.inj h
              exact .pool hthis (.call _ _ hrun)
          · cases h
      · cases h
  | token t sender c =>
      dsimp only [Step.next] at h
      split at h
      · next b state hrun =>
          split at h
          · next hok =>
              obtain rfl := Option.some.inj h
              exact .token hok.1 hok.2 ⟨b, hrun⟩
          · cases h
      · cases h
  | outside => cases h

/-! Two owners appoint the pool and create the pool 1, whose sp tokens change hands before they are
redeemed. -/

def sampleLedger : Ledger where
  balance token a := if token ≤ 2 ∧ (a = 11 ∨ a = 12 ∨ a = 200) then 1000000 else 0
  allowance token _ _ := if token ≤ 2 then 1000000 else 0

def sampleStart : State {list : List Address // list.Nodup} where
  wallet := MultiSig.twoOfThree
  oracle := Contract.Oracle.deployed 50
  world := Contract.deployed 10 50 sampleLedger
  minters _ := ⟨[], List.nodup_nil⟩

def sampleSurroundings (sender timestamp : Nat) : Surroundings where
  toEnv := Contract.standardEnv (Contract.World.setting sender timestamp 10)
  latestRoundData _ := .error .call
  feedDecimals _ := .error .call

/-- A transaction of `sender` to the pool. -/
def sampleCall (sender timestamp : Nat) (c : Contract.Call) (ts : List Transfer) : Event :=
  .pool (sampleSurroundings sender timestamp) c ts

/-- Two owners sign the application of the first for a contract. -/
def sampleSigning (account : Address) : List Event :=
  [.wallet 1 (.createApplication account), .wallet 1 (.signApplication (MultiSig.packed 1 account)),
    .wallet 2 (.signApplication (MultiSig.packed 1 account))]

def sampleSetup : List Event :=
  sampleSigning 3 ++ .token 3 1 (.addMinter 100) :: sampleSigning 300 ++
    .oracle 1 (.setPrices [1, 2] [10, 10]) :: sampleSigning 100 ++
      [sampleCall 1 0 (.setOracle 300) [], sampleCall 1 0 (.setSwapRouterAddress 200) []]

def sampleCreation : Event :=
  sampleCall 1 0 (.createPoolInfo 100 1000 1000 1000000 15000 1 2 3 4 12000) []

def sampleDeposits : List Event :=
  [sampleCall 11 10 (.depositLend 1 1000) [⟨1, 11, 100, 1000⟩],
    sampleCall 12 10 (.depositBorrow 1 2000) [⟨2, 12, 100, 2000⟩]]

def sampleSettlement : Event := sampleCall 1 100 (.settle 1) []

def sampleClaim : Event := sampleCall 11 110 (.claimLend 1) [⟨3, 0, 11, 1000⟩]

def sampleRepayment : List Event :=
  [.token 3 11 (.transfer 13 400),
    sampleCall 1 1000 (.finish 1) [⟨2, 100, 200, 1000⟩, ⟨1, 200, 100, 1000⟩],
    sampleCall 13 1001 (.withdrawLend 1 400) [⟨3, 13, 0, 400⟩, ⟨1, 100, 13, 400⟩]]

/-- Up to the deposits. -/
def sampleOffer : List Event := sampleSetup ++ sampleCreation :: sampleDeposits

/-- Up to the settlement. -/
def sampleLoan : List Event := sampleOffer ++ [sampleSettlement]

def sampleScript : List Event := sampleLoan ++ sampleClaim :: sampleRepayment

theorem sample_exact : ∀ e ∈ sampleScript, e.Exact := by
  have hcall {sender timestamp : Nat} {c : Contract.Call} {ts : List Transfer} (h : sender ≠ 100) :
      (sampleCall sender timestamp c ts).Exact :=
    Contract.standard_exact h (by show 200 ≠ 100; decide)
  have hwallet {sender : Address} {c : MultiSig.Call} : (Event.wallet sender c).Exact := trivial
  have htoken {token sender : Address} {c : Token.Call} : (Event.token token sender c).Exact := trivial
  have horacle {sender : Address} {c : Contract.Oracle.Call} : (Event.oracle sender c).Exact := trivial
  simp [sampleScript, sampleLoan, sampleOffer, sampleSetup, sampleSigning, sampleCreation, sampleDeposits,
    sampleSettlement, sampleClaim, sampleRepayment, hcall, hwallet, htoken, horacle]

/-- The state after these transactions, if all of them succeed. -/
def sampleAfter (es : List Event) : State {list : List Address // list.Nodup} :=
  (replay (Step.next sample) sampleStart es).getD sampleStart

theorem sample_run {es : List Event} (hes : es <+: sampleScript)
    (h : (replay (Step.next sample) sampleStart es).isSome = true) :
    Run (QuietStep sample) sampleStart es (sampleAfter es) := by
  obtain ⟨s, hs⟩ := Option.isSome_iff_exists.mp h
  rw [sampleAfter, hs]
  refine (Run.of_replay Step.of_next hs).within.mono ?_
  intro s e s' hstep
  exact ⟨hstep.1, (sample_exact e (hes.subset hstep.2)).quiet⟩

theorem sample_step (es : List Event) (e : Event) (he : e ∈ sampleScript)
    (h : (Step.next sample (sampleAfter es) e).isSome = true) :
    ∃ s', QuietStep sample (sampleAfter es) e s' := by
  obtain ⟨s', hs'⟩ := Option.isSome_iff_exists.mp h
  exact ⟨s', Step.of_next hs', (sample_exact e he).quiet⟩

end Pledge.Protocol
