import Pledge.Protocol.Deployment

/-!
# Who may change what

`validCall` guards the functions that configure the pool, settle or finish its pools, write to the
oracle and appoint the minters of the claim tokens. Its question goes to the wallet, which decides
it by the signatures it has collected. Over any order of transactions to all of the contracts:

* nothing of the configuration changes but in a transaction that passed `validCall`, at which at least
  `threshold` accounts stood by the application of the sender for that contract
  (`configuration_signed`);
* whoever mints or burns a claim token, the pool included, was appointed in such a transaction and has
  not been dismissed since (`issuance_signed`).
-/

namespace Pledge.Contract

open Pledge.Evm

/-! ## What the functions without `validCall` leave alone

The functions that users call write neither to the settings of the contract nor to the terms of a
pool. -/

/-- A pool but for what deposits and its liquidation write. -/
def Pool.agreed (pool : Pool) : Pool :=
  { pool with
    state := .matching
    lendSupply := 0
    borrowSupply := 0
    liquidationAmountLend := 0
    liquidationAmountBorrow := 0 }

/-- The storage but for the records of the users and what is left out of the pools. -/
def Storage.configuration (s : Storage) : Storage :=
  { s with
    pools := fun p => (s.pools p).agreed
    lendInfos := fun _ _ => {}
    borrowInfos := fun _ _ => {}
    lenders := fun _ => []
    borrowers := fun _ => [] }

/-- Pools are as they were, or liquidated. -/
def Storage.Held (s s' : Storage) : Prop :=
  ∀ p, (s'.pools p).state = (s.pools p).state ∨
    (s.pools p).state = .execution ∧ (s'.pools p).state = .liquidation

section Configuration

variable {env : Env} {s s' : Storage} {c : Call} {moves : List Move}

/-- A call without the approval of the wallet deposits into a pool or liquidates it, or leaves it. -/
theorem Effect.unapproved_pool (h : Effect env s c moves s') (hc : c.administrative = false)
    (q : Nat) : (s'.pools q).agreed = (s.pools q).agreed ∧
      ((s'.pools q).state = (s.pools q).state ∨
        (s.pools q).state = .execution ∧ (s'.pools q).state = .liquidation) := by
  have hbook {p : Nat} {b : Book} (hagreed : b.pool.agreed = (s.pools p).agreed)
      (hstate : b.pool.state = (s.pools p).state ∨
        (s.pools p).state = .execution ∧ b.pool.state = .liquidation)
      (h : s'.book q = if q = p then b else s.book q) :
      (s'.pools q).agreed = (s.pools q).agreed ∧
        ((s'.pools q).state = (s.pools q).state ∨
          (s.pools q).state = .execution ∧ (s'.pools q).state = .liquidation) := by
    rw [← Storage.book_pool s' q, h]
    split
    · next hp =>
        rw [hp]
        exact ⟨hagreed, hstate⟩
    · exact ⟨rfl, .inl rfl⟩
  cases h with
  | depositLend => exact hbook rfl (.inl rfl) (Storage.recordLend_book ..)
  | depositBorrow => exact hbook rfl (.inl rfl) (Storage.recordBorrow_book ..)
  | liquidate hex hstate => exact hbook rfl (.inr ⟨hstate, rfl⟩) (Storage.liquidated_book ..)
  | refundLend | claimLend | withdrawLend | emergencyLendWithdrawal | refundBorrow | claimBorrow
  | withdrawBorrow | emergencyBorrowWithdrawal => exact ⟨rfl, .inl rfl⟩
  | _ => cases hc

/-- It writes pools, records and lists only. -/
theorem Effect.unapproved_writes (h : Effect env s c moves s') (hc : c.administrative = false) :
    s' = { s with
      pools := s'.pools
      lendInfos := s'.lendInfos
      borrowInfos := s'.borrowInfos
      lenders := s'.lenders
      borrowers := s'.borrowers } := by
  cases h with
  | depositLend =>
      obtain ⟨_, _, _, heq⟩ := Storage.recordLend_writes ..
      rw [heq]
  | depositBorrow =>
      obtain ⟨_, _, _, heq⟩ := Storage.recordBorrow_writes ..
      rw [heq]
  | refundLend | claimLend | withdrawLend | emergencyLendWithdrawal | refundBorrow | claimBorrow
  | withdrawBorrow | emergencyBorrowWithdrawal | liquidate => rfl
  | _ => cases hc

/-- **Without the approval of the wallet** a call writes the records of the users, the supplies of a
pool that it deposits into and what the liquidation of a pool leaves. -/
theorem Effect.unapproved (h : Effect env s c moves s') (hc : c.administrative = false) :
    s'.configuration = s.configuration ∧ s.Held s' := by
  have hagreed : (fun q => (s'.pools q).agreed) = fun q => (s.pools q).agreed := by
    funext q
    exact (h.unapproved_pool hc q).1
  constructor
  · unfold Storage.configuration
    rw [hagreed, h.unapproved_writes hc]
  · intro q
    exact (h.unapproved_pool hc q).2

/-! ## What claims and redemptions ask of the claim tokens

A mint or a burn that the pool asks for is made in a claim or in a redemption. -/

/-- The call mints or burns a claim token of `p`: a claim, or a redemption. -/
def Call.issues (p : Nat) : Side → Call → Bool
  | .lend, .claimLend q | .lend, .withdrawLend q _ => q = p
  | .borrow, .claimBorrow q | .borrow, .withdrawBorrow q _ => q = p
  | _, _ => false

theorem Effect.issues (h : Effect env s c moves s') {p : Nat} {side : Side}
    (hc : c.issues p side = true) (hne : (s.pools p).claimToken side ≠ 0) :
    ∃ holder n, Move.mint ((s.pools p).claimToken side) holder n ∈ moves ∨
      Move.burn ((s.pools p).claimToken side) holder n ∈ moves := by
  cases side with
  | lend =>
      cases h with
      | claimLend =>
          obtain rfl := of_decide_eq_true hc
          exact ⟨_, _, .inl List.mem_cons_self⟩
      | withdrawLend =>
          obtain rfl := of_decide_eq_true hc
          exact ⟨_, _, .inr List.mem_cons_self⟩
      | _ => cases hc
  | borrow =>
      cases h with
      | @claimBorrow q =>
          obtain rfl := of_decide_eq_true hc
          have hjp : (s.pools q).jpToken ≠ 0 := hne
          rw [if_pos hjp]
          exact ⟨_, _, .inl List.mem_cons_self⟩
      | @withdrawBorrow q =>
          obtain rfl := of_decide_eq_true hc
          have hjp : (s.pools q).jpToken ≠ 0 := hne
          rw [if_pos hjp]
          exact ⟨_, _, .inr List.mem_cons_self⟩
      | _ => cases hc

/-- Each move of a chain ran. -/
theorem Chain.ran {w w' : World} {m : Move} (h : Chain env w moves w') (hm : m ∈ moves) :
    ∃ w₁ w₂, m.Ran env w₁ w₂ := by
  induction h with
  | done => cases hm
  | move _ hran _ ih =>
      rcases List.mem_cons.mp hm with rfl | hrest
      · exact ⟨_, _, hran⟩
      · exact ih hrest

end Configuration

end Pledge.Contract

namespace Pledge.Protocol

open Pledge.Evm

variable {τ : Type}

/-! ## Approvals

A guarded call that succeeds had an approval of the wallet, so enough accounts had signed for it by
then. -/

/-- The sender and the contract of a transaction that goes through `validCall`. -/
def Event.guarded (D : Deployment τ) : Event → Option (Address × Address)
  | .oracle sender _ => some (sender, D.oracle)
  | .pool env c _ => if c.administrative then some (env.sender, D.pool) else none
  | .token t sender (.addMinter _) | .token t sender (.delMinter _) => some (sender, t)
  | _ => none

/-- After these events at least `threshold` accounts stand by the application of an account for a
contract. -/
def Signed (D : Deployment τ) (threshold : Nat) (es : List Event) (x : Address × Address) : Prop :=
  (threshold : ℕ∞) ≤
    {a | MultiSig.Stands (D.keccak x.1 x.2) (es.flatMap Event.onWallet) a}.encard

/-- The contracts as their constructors leave them. -/
structure Founded (D : Deployment τ) (owners : List Address) (threshold : Nat) (s : State τ) :
    Prop where
  wallet : (MultiSig.constructor owners threshold).run {} = .ok ((), s.wallet)
  oracle : s.oracle = Contract.Oracle.deployed D.wallet
  pool : ∃ admin ledger, s.world = Contract.deployed admin D.wallet ledger
  minters : ∀ token ∈ D.claimTokens, ∀ a, D.addressSet.contains (s.minters token) a = false
  unissued : ∀ token ∈ D.claimTokens, ∀ a, s.world.ledger.balance token a = 0

theorem sample_founded : Founded sample [1, 2, 3] 2 sampleStart where
  wallet := rfl
  oracle := rfl
  pool := ⟨10, sampleLedger, rfl⟩
  minters _ _ _ := rfl
  unissued := by
    intro token htoken a
    have hmem : token = 3 ∨ token = 4 := by simpa [sample] using htoken
    rcases hmem with rfl | rfl <;> rfl

section Approvals

variable {D : Deployment τ} {owners : List Address} {threshold : Nat} {s₀ s s' : State τ}
  {e : Event} {es : List Event}

/-- What a transaction to the pool does. -/
theorem QuietStep.effect (hD : D.Lawful) {env : Surroundings} {c : Contract.Call}
    {ts : List Transfer} (h : QuietStep D s (.pool env c ts) s') :
    env.this = D.pool ∧ s' = { s with world := s'.world } ∧ ts = s'.world.transfers ∧ ∃ moves,
        Contract.Effect (D.env s env) s.world.store c moves s'.world.store ∧
        Contract.Chain (D.env s env) { s.world with transfers := [] } moves s'.world := by
  obtain ⟨hstep, hq⟩ := h
  cases hstep with
  | pool hthis hcall =>
      cases hcall with
      | call _ _ hrun =>
          obtain ⟨moves, heff, hchain⟩ := Contract.transaction_effect (hD.quiet hq) hrun
          exact ⟨hthis, rfl, rfl, moves, heff, hchain⟩

theorem getValidSignature_ok {wallet : MultiSig.Wallet} {account msgHash lastIndex n : Nat} :
    D.getValidSignature wallet account msgHash lastIndex = .ok n ↔
      account = D.wallet ∧ n = wallet.getValidSignature msgHash lastIndex := by
  unfold Deployment.getValidSignature
  split
  · next h => simp [h, eq_comm]
  · next h => simp [h]

/-- What `validCall` asked the wallet, and got. -/
theorem Step.guarded (h : Step D s e s') {x : Address × Address}
    (hx : e.guarded D = some x) : 0 < s.wallet.getValidSignature (D.keccak x.1 x.2) 0 := by
  cases h with
  | wallet => cases hx
  | outside => cases hx
  | oracle hcall =>
      cases hx
      obtain ⟨n, hn, hpos⟩ := hcall.wrote.1
      obtain ⟨-, rfl⟩ := getValidSignature_ok.mp hn
      exact hpos
  | @pool env c ts world hthis hcall =>
      simp only [Event.guarded, Option.ite_none_right_eq_some, Option.some.injEq] at hx
      obtain ⟨hadmin, rfl⟩ := hx
      cases hcall with
      | call _ _ hrun =>
          obtain ⟨n, hn, hpos⟩ := Contract.transaction_approved hadmin hrun
          obtain ⟨-, rfl⟩ := getValidSignature_ok.mp hn
          rw [← hthis]
          exact hpos
  | @token token sender c t htoken hsender hcall =>
      obtain ⟨b, hrun⟩ := hcall
      have happroved (h : (D.msg s.wallet token sender).Approved D.wallet) :
          0 < s.wallet.getValidSignature (D.keccak sender token) 0 := by
        obtain ⟨n, hn, hpos⟩ := h
        obtain ⟨-, rfl⟩ := getValidSignature_ok.mp hn
        exact hpos
      cases c with
      | addMinter minter =>
          cases hx
          exact happroved (Token.addMinter_ok.mp hrun).1
      | delMinter minter =>
          cases hx
          exact happroved (Token.delMinter_ok.mp hrun).1
      | _ => cases hx

/-- The signatures behind it. -/
theorem Step.signed (h₀ : Founded D owners threshold s₀) (hrun : Run (Step D) s₀ es s)
    (h : Step D s e s') {x : Address × Address} (hx : e.guarded D = some x) :
    Signed D threshold es x :=
  (MultiSig.run_finds h₀.wallet (run_onWallet hrun) _).mp (h.guarded hx)

/-! ## The configuration

Between two states that differ in their configuration there was a guarded call. -/

/-- Nothing is configured anew, and no pool is settled or finished. -/
structure State.SameConfiguration (s s' : State τ) : Prop where
  oracle : s'.oracle = s.oracle
  store : s'.world.store.configuration = s.world.store.configuration
  held : s.world.store.Held s'.world.store
  minters : s'.minters = s.minters

/-- A transaction that does not go through `validCall`. -/
theorem QuietStep.sameConfiguration (hD : D.Lawful) (h : QuietStep D s e s')
    (hx : e.guarded D = none) : s.SameConfiguration s' := by
  cases e with
  | pool env c ts =>
      obtain ⟨-, hrest, -, moves, heff, -⟩ := h.effect hD
      have hc : c.administrative = false := by simpa [Event.guarded] using hx
      obtain ⟨hstore, hheld⟩ := heff.unapproved hc
      rw [hrest]
      exact ⟨rfl, hstore, hheld, rfl⟩
  | oracle => cases hx
  | wallet | outside =>
      obtain ⟨hstep, -⟩ := h
      cases hstep
      exact ⟨rfl, rfl, fun _ => .inl rfl, rfl⟩
  | token token sender c =>
      obtain ⟨hstep, -⟩ := h
      cases hstep with
      | @token _ _ _ t htoken hsender hcall =>
          refine ⟨rfl, rfl, fun _ => .inl rfl, ?_⟩
          obtain ⟨b, hrun⟩ := hcall
          have hsame : t.minters = s.minters token := by
            cases c with
            | addMinter | delMinter => cases hx
            | mint | burn =>
                obtain ⟨-, -, _, -, rfl⟩ := (Token.issue_ok (E := D.erc20 token)).mp hrun
                rfl
            | transfer | transferFrom | approve =>
                obtain ⟨_, -, rfl⟩ := Token.onErc20_ok.mp hrun
                rfl
          show Function.update s.minters token t.minters = s.minters
          rw [hsame, Function.update_eq_self]

/-- **The configuration changes by signatures only.** In every run of the contracts from their
constructors, a transaction leaves the configuration as it is, or it went through `validCall` and at
least `threshold` accounts stood by the application of its sender for its contract. -/
theorem configuration_signed (hD : D.Lawful) (h₀ : Founded D owners threshold s₀)
    (hrun : Run (QuietStep D) s₀ es s) (hstep : QuietStep D s e s') :
    s.SameConfiguration s' ∨ ∃ x, e.guarded D = some x ∧ Signed D threshold es x := by
  cases hx : e.guarded D with
  | none => exact .inl (hstep.sameConfiguration hD hx)
  | some x => exact .inr ⟨x, rfl, hstep.1.signed h₀ (hrun.mono And.left) hx⟩

theorem configuration_signed_creation :
    ∃ s', QuietStep sample (sampleAfter sampleSetup) sampleCreation s' ∧
      ((sampleAfter sampleSetup).SameConfiguration s' ∨
        ∃ x, sampleCreation.guarded sample = some x ∧ Signed sample 2 sampleSetup x) := by
  have hrun : Run (QuietStep sample) sampleStart sampleSetup (sampleAfter sampleSetup) :=
    sample_run ⟨_, rfl⟩ (by decide +kernel)
  obtain ⟨s', hstep⟩ := sample_step sampleSetup sampleCreation
    (by simp [sampleScript, sampleLoan, sampleOffer]) (by decide +kernel)
  exact ⟨s', hstep, configuration_signed sample_lawful sample_founded hrun hstep⟩

/-! ## The minters

Who may mint is what the signed calls of `addMinter` and `delMinter` have left, and the pool is a
minter like any other. -/

/-- The transaction makes `a` a minter of `token`. -/
def Appoints (token a : Address) (e : Event) : Prop :=
  ∃ sender, e = .token token sender (.addMinter a)

/-- The transaction takes the role from `a`. -/
def Dismisses (token a : Address) (e : Event) : Prop :=
  ∃ sender, e = .token token sender (.delMinter a)

/-- In this transaction `issuer` mints or burns `token`: the pool, in a claim or a redemption of a
pool with this claim token, or an account. -/
def Event.Issues (D : Deployment τ) (token issuer : Address) (s : State τ) : Event → Prop
  | .pool _ c _ => issuer = D.pool ∧
      ∃ p side, (s.world.store.pools p).claimToken side = token ∧ c.issues p side = true
  | .token t sender c => t = token ∧ sender = issuer ∧ c.issues = true
  | _ => False

theorem Step.minters (hD : D.Lawful) (h : Step D s e s') (token a : Address) :
    D.addressSet.contains (s'.minters token) a = true ↔
      Appoints token a e ∨ D.addressSet.contains (s.minters token) a = true ∧ ¬ Dismisses token a e := by
  cases h with
  | wallet | oracle | pool | outside => simp [Appoints, Dismisses]
  | @token t sender c t' htoken hsender hcall =>
      by_cases ht : token = t
      · subst ht
        show D.addressSet.contains (Function.update s.minters token t'.minters token) a = true ↔ _
        rw [Function.update_self, hcall.minters hD.addressSet]
        simp [Appoints, Dismisses, Deployment.tokenState]
      · show D.addressSet.contains (Function.update s.minters t t'.minters token) a = true ↔ _
        rw [Function.update_of_ne ht]
        simp [Appoints, Dismisses, Ne.symm ht]

/-- Whoever mints or burns is a minter. -/
theorem QuietStep.issuer (hD : D.Lawful) (h : QuietStep D s e s') {token issuer : Address}
    (htoken : token ∈ D.claimTokens) (hissues : e.Issues D token issuer s) :
    D.addressSet.contains (s.minters token) issuer = true := by
  cases e with
  | wallet | oracle | outside => exact hissues.elim
  | token t sender c =>
      obtain ⟨rfl, rfl, hc⟩ := hissues
      obtain ⟨hstep, -⟩ := h
      cases hstep with
      | token _ _ hcall => exact hcall.issuer (E := D.erc20 t) hc
  | pool env c ts =>
      obtain ⟨rfl, p, side, rfl, hc⟩ := hissues
      obtain ⟨-, -, -, moves, heff, hchain⟩ := h.effect hD
      have hne : (s.world.store.pools p).claimToken side ≠ 0 := fun h0 => hD.nonzero (h0 ▸ htoken)
      obtain ⟨holder, n, hmint | hburn⟩ := heff.issues hc hne
      · obtain ⟨_, _, b, hran⟩ := hchain.ran hmint
        exact issues_minter htoken (.inl hran)
      · obtain ⟨_, _, b, hran⟩ := hchain.ran hburn
        exact issues_minter htoken (.inr hran)

/-- **Claim tokens are issued by signatures only.** In every run of the contracts from their
constructors, whoever mints or burns a claim token was made its minter before and not dismissed since,
by a sender for whose application at that time at least `threshold` accounts stood. -/
theorem issuance_signed (hD : D.Lawful) (h₀ : Founded D owners threshold s₀)
    (hrun : Run (QuietStep D) s₀ es s) (hstep : QuietStep D s e s') {token issuer : Address}
    (htoken : token ∈ D.claimTokens) (hissues : e.Issues D token issuer s) :
    ∃ before sender after, es = before ++ .token token sender (.addMinter issuer) :: after ∧
      (∀ e' ∈ after, ¬ Dismisses token issuer e') ∧ Signed D threshold before (sender, token) := by
  have hruns : Run (Step D) s₀ es s := hrun.mono And.left
  have hminter := hstep.issuer hD htoken hissues
  have hforce : InForce (Appoints token issuer) (Dismisses token issuer) es := by
    refine (hruns.inForce (P := fun s => D.addressSet.contains (s.minters token) issuer = true) ?_
      fun hs => hs.minters hD token issuer).mp hminter
    rw [h₀.minters token htoken issuer]
    exact Bool.false_ne_true
  obtain ⟨before, e', after, rfl, ⟨sender, rfl⟩, hafter⟩ := hforce
  obtain ⟨s₁, hbefore, hrest⟩ := hruns.split
  obtain ⟨s₂, happoint, -⟩ := hrest.uncons
  exact ⟨before, sender, after, rfl, hafter, happoint.signed h₀ hbefore rfl⟩

theorem issuance_signed_claim : ∃ before sender after,
    sampleLoan =
      before ++ .token 3 sender (.addMinter 100) :: after ∧
    (∀ e' ∈ after, ¬ Dismisses 3 100 e') ∧ Signed sample 2 before (sender, 3) := by
  have hrun : Run (QuietStep sample) sampleStart sampleLoan (sampleAfter sampleLoan) :=
    sample_run ⟨sampleClaim :: sampleRepayment, by simp [sampleScript, sampleLoan]⟩
      (by decide +kernel)
  obtain ⟨s', hstep⟩ := sample_step sampleLoan sampleClaim
    (by simp [sampleScript]) (by decide +kernel)
  exact issuance_signed sample_lawful sample_founded hrun hstep (by decide +kernel)
    ⟨rfl, 1, .lend, by decide +kernel, rfl⟩

end Approvals

end Pledge.Protocol
