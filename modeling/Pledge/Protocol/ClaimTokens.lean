import Pledge.Protocol.Authority

/-!
# The claim tokens of a pool

A `DebtToken` whose only minter is the pool, and which is the claim token of one side of one pool
and nothing else, is exactly what that pool owes: all accounts together hold what was minted in
claims less what was burned in redemptions, wherever the tokens went in between. It is never more
than the amount that redemptions are measured by (`claims_accounted`).

That the token is minted and burned by the pool only is not assumed here. It follows from `onlyMinter`
and from who was appointed.
-/

namespace Pledge.Contract

open Pledge.Evm

/-! ## A token with one place

The contract lets any token be put into any slot. What follows is about a token for which governance
keeps to one slot: only the pool `p` has it, on one side, and no pool has it as an asset.
`Call.Places` is what this asks of a call, and a call that respects it keeps the token in its place.
-/

/-- What a call respects so that `token` is the claim token of the pool `p` on this side, and nothing
else, when `counter` pools exist. -/
def Call.Places (counter p : Nat) (side : Side) (token : Address) : Call → Prop
  | .createPool settleToken pledgeToken _ _ _ _ _ => settleToken ≠ token ∧ pledgeToken ≠ token
  | .createPoolInfo _ _ _ _ _ lendToken borrowToken spToken jpToken _ =>
      lendToken ≠ token ∧ borrowToken ≠ token ∧
        (spToken = token ↔ p = counter + 1 ∧ side = .lend) ∧
        (jpToken = token ↔ p = counter + 1 ∧ side = .borrow)
  | .setPoolSpToken q spToken => spToken = token ↔ p = q ∧ side = .lend
  | .setPoolJpToken q jpToken => jpToken = token ↔ p = q ∧ side = .borrow
  | _ => True

instance (counter p : Nat) (side : Side) (token : Address) (c : Call) :
    Decidable (c.Places counter p side token) := by
  unfold Call.Places
  split <;> infer_instance

/-- `token` is in its place or nowhere, and nothing else is in its place. -/
structure Storage.Placed (s : Storage) (token : Address) (p : Nat) (side : Side) : Prop
    extends s.Exclusive token p side where
  own : (s.pools p).claimToken side = 0 ∨ (s.pools p).claimToken side = token

section Placed

variable {env : Env} {s s' : Storage} {c : Call} {moves : List Move} {p : Nat} {side : Side}
  {token : Address}

theorem Storage.Placed.blank (hne : token ≠ 0) (h : ∀ q, s.pools q = {}) :
    s.Placed token p side where
  slot q sd hq := by
    rw [h q] at hq
    cases sd <;> exact absurd hq.symm hne
  assets q := by
    rw [h q]
    exact ⟨hne.symm, hne.symm⟩
  own := by
    rw [h p]
    cases side <;> exact .inl rfl

/-- A slot keeps its token, or gets the one that belongs there. -/
theorem Effect.places (h : Effect env s c moves s') (hblank : s.Blank)
    (hc : c.Places s.poolCounter p side token) (q : Nat) (sd : Side) :
    (s'.pools q).claimToken sd = (s.pools q).claimToken sd ∨
      ((s'.pools q).claimToken sd = token ↔ p = q ∧ side = sd) := by
  rcases h.assigned hblank q sd with hsame | ⟨hassigns, -, -⟩
  · exact .inl hsame
  · right
    generalize (s'.pools q).claimToken sd = t at hassigns
    cases sd <;> cases c
    all_goals
      simp only [Call.assigns, reduceCtorEq, Option.ite_none_right_eq_some, Option.some.injEq]
        at hassigns
    all_goals
      obtain ⟨rfl, rfl⟩ := hassigns
      simp only [Call.Places] at hc
      tauto

/-- The assets of a pool are the ones it was created with. -/
theorem Effect.keeps_assets (h : Effect env s c moves s')
    (hc : c.Places s.poolCounter p side token)
    (hs : ∀ q, (s.pools q).settleToken ≠ token ∧ (s.pools q).pledgeToken ≠ token) (q : Nat) :
    (s'.pools q).settleToken ≠ token ∧ (s'.pools q).pledgeToken ≠ token := by
  -- no write changes the assets of a pool that is there, and a new one has others
  have hset {r : Nat} {pool : Pool}
      (hpool : pool.settleToken ≠ token ∧ pool.pledgeToken ≠ token) :
      ((s.setPool r pool).pools q).settleToken ≠ token ∧
        ((s.setPool r pool).pools q).pledgeToken ≠ token := by
    rw [Storage.setPool_pools]
    split
    · exact hpool
    · exact hs q
  have hadd {pool : Pool} (hpool : pool.settleToken ≠ token ∧ pool.pledgeToken ≠ token) :
      ((s.addPool pool).pools q).settleToken ≠ token ∧
        ((s.addPool pool).pools q).pledgeToken ≠ token := by
    rw [Storage.addPool_pools]
    split
    · exact hpool
    · exact hs q
  have hbook {r : Nat} {b : Book}
      (hpool : b.pool.settleToken ≠ token ∧ b.pool.pledgeToken ≠ token)
      (h : s'.book q = if q = r then b else s.book q) :
      (s'.pools q).settleToken ≠ token ∧ (s'.pools q).pledgeToken ≠ token := by
    rw [← Storage.book_pool s' q, h]
    split
    · exact hpool
    · exact hs q
  cases h with
  | createPool => exact hadd hc
  | createPoolInfo => exact hadd ⟨hc.1, hc.2.1⟩
  | @setPoolState r | @setPoolSpToken r | @setPoolJpToken r | @settleExecution r | @settleUndone r
  | @finish r => exact hset (hs r)
  | depositLend => exact hbook (hs _) (Storage.recordLend_book ..)
  | depositBorrow => exact hbook (hs _) (Storage.recordBorrow_book ..)
  | liquidate => exact hbook (hs _) (Storage.liquidated_book ..)
  | _ => exact hs q

/-- **A call that respects the place of the token keeps it there.** -/
theorem Effect.placed (h : Effect env s c moves s') (hblank : s.Blank)
    (hc : c.Places s.poolCounter p side token) (hs : s.Placed token p side) :
    s'.Placed token p side where
  slot q sd hq := by
    rcases h.places hblank hc q sd with hsame | hplace
    · rw [hsame] at hq
      exact hs.slot q sd hq
    · obtain ⟨rfl, rfl⟩ := hplace.mp hq
      exact ⟨rfl, rfl⟩
  assets q := h.keeps_assets hc hs.assets q
  own := by
    rcases h.places hblank hc p side with hsame | hplace
    · rw [hsame]
      exact hs.own
    · exact .inr (hplace.mpr ⟨rfl, rfl⟩)

end Placed

/-! ## What receipts show

A claim shows its mint as an event from the zero address. A burn from that address would show as one
too, and cannot happen, since what is burned was handed in by the sender. -/

section Logged

variable {env : Env} {w w' : World} {token : Address} {m : Move} {ms : List Move}

/-- The `Transfer` events from the zero address are the mints, when nobody burns from there. -/
theorem Move.Ran.logged (hx : Exact env) (hd : DebtToken env token) (hplain : m.Plain)
    (hspares : m.Spares token) (hholder : ∀ n, m ≠ .burn token 0 n) (h : m.Ran env w w') :
    Evm.sentBy token 0 w'.transfers = Evm.sentBy token 0 w.transfers + m.minted token := by
  by_cases hburn : ∃ holder n, m = .burn token holder n
  · obtain ⟨holder, n, rfl⟩ := hburn
    have hne : holder ≠ 0 := by
      rintro rfl
      exact hholder n rfl
    obtain ⟨b, h⟩ := h
    unfold Evm.sentBy
    rw [(hd.burn h).2.2, volume_append, volume_single]
    simp [Move.minted, hne]
  · push Not at hburn
    exact h.issued hx hd hplain hspares hburn

theorem Chain.logged (hx : Exact env) (hd : DebtToken env token) (hplain : ∀ m ∈ ms, m.Plain)
    (hspares : ∀ m ∈ ms, m.Spares token) (hholder : ∀ m ∈ ms, ∀ n, m ≠ .burn token 0 n)
    (hc : Chain env w ms w') :
    Evm.sentBy token 0 w'.transfers =
      Evm.sentBy token 0 w.transfers + (ms.map (Move.minted token)).sum :=
  hc.measure (f := fun w => Evm.sentBy token 0 w.transfers) (fun h => by rw [h.2])
    fun hm h => h.logged hx hd (hplain _ hm) (hspares _ hm) (hholder _ hm)

end Logged

/-! ## The slot and the action on the pool

The moves of a call are read off its receipt and its action off the pool. For a token in its place
the two agree: the moves mint and burn of it what the action does. -/

section Slot

variable {env : Env} {s s' : Storage} {c : Call} {moves : List Move} {p : Nat} {side : Side}
  {token : Address} {a : Act}

/-- A claim token that is in no slot is neither minted nor burned. -/
theorem Effect.neutral_unslotted (h : Effect env s c moves s') (hs : s.Alone token p side)
    (hslot : (s.pools p).claimToken side ≠ token) : Neutral token moves := by
  intro m hm
  obtain ⟨q, -, huses⟩ := h.uses hm
  have hother {t : Address} (ht : ∃ sd, t = (s.pools q).claimToken sd) : t ≠ token := by
    rintro rfl
    obtain ⟨sd, hsd⟩ := ht
    obtain ⟨rfl, rfl⟩ := hs.slot q sd hsd.symm
    exact hslot hsd.symm
  cases m with
  | mint t holder n => exact ⟨if_neg (hother huses.2), rfl⟩
  | burn t holder n => exact ⟨rfl, if_neg (hother huses.2)⟩
  | _ => exact ⟨rfl, rfl⟩

/-- What is burned was handed in by the sender. -/
theorem Effect.burns_sender (h : Effect env s c moves s') {t holder : Address} {n : Nat}
    (hm : Move.burn t holder n ∈ moves) : holder = env.sender := by
  have hfee {t' : Address} {fee : Nat} : Move.burn t holder n ∉ feeMoves s t' fee := by
    unfold feeMoves
    split <;> simp
  have hsells {pool : Pool} {lend sold received : Nat} {moves : List Move}
      (h : Sale s pool lend sold received moves) : Move.burn t holder n ∉ moves := by
    cases h with
    | none => simp
    | some => simpa using hfee
  have hreceived {t' : Address} {amount k : Nat} {moves : List Move}
      (h : Received env t' amount k moves) : Move.burn t holder n ∉ moves := by
    cases h <;> simp
  cases h with
  | depositLend hex hstate hend hrecv => exact absurd hm (hreceived hrecv)
  | depositBorrow hex hstate hend hrecv => exact absurd hm (hreceived hrecv)
  | finish hex htime hstate horder hsale => simp [hsells hsale, hfee] at hm
  | liquidate hex hstate htime hpledge hsettle hpp hsp hhealth hsale =>
      simp [hsells hsale, hfee] at hm
  | withdrawLend =>
      simp only [List.mem_cons, Move.burn.injEq, reduceCtorEq, List.not_mem_nil, or_false] at hm
      exact hm.2.1
  | withdrawBorrow =>
      simp only [List.mem_append, List.mem_ite_nil_right, List.mem_singleton, Move.burn.injEq,
        reduceCtorEq, and_false, or_false] at hm
      exact hm.2.2.1
  | _ => simp at hm

/-- The moves of a call mint and burn of a token in its place what the action on the pool does. -/
theorem Effect.placed_claims (h : Effect env s c moves s') (hstep : Book.Step (s.book p) a (s'.book p))
    (ha : a.Shown env s p c moves) (hs : s.Placed token p side) (hne : token ≠ 0)
    (hempty : (s.pools p).claimToken side = 0 → c.accepted p side = 0) :
    (moves.map (Move.minted token)).sum = a.minted side ∧
      (moves.map (Move.burned token)).sum = a.burned side := by
  rcases hs.own with hslot | hslot
  · have hminted : a.minted side = 0 := by
      cases side with
      | lend => exact hstep.spMinted_eq_zero hslot
      | borrow => exact hstep.jpMinted_eq_zero hslot
    have hburned : a.burned side = 0 := by rw [← ha.accepted, hempty hslot]
    rw [hminted, hburned]
    exact (h.neutral_unslotted hs.toAlone (hslot.trans_ne hne.symm)).sums
  · exact ha.claims h hs.toAlone hslot hne

/-- What redemptions of a claim token are measured by. -/
def Pool.redeemable (pool : Pool) : Side → Nat
  | .lend => pool.settleAmountLend
  | .borrow => pool.totalJpAmount

theorem minted_le_redeemable {acts : List Act} {b : Book} (hrun : Run Book.Step {} acts b)
    (side : Side) :
    (b.pool.state.Settled → total (Act.minted side) acts ≤ b.pool.redeemable side) ∧
      (¬ b.pool.state.Settled → total (Act.minted side) acts = 0) := by
  cases side with
  | lend => exact ⟨spClaims.le_budget hrun, spClaims.eq_zero hrun⟩
  | borrow => exact ⟨jpClaims.le_budget hrun, jpClaims.eq_zero hrun⟩

end Slot

end Pledge.Contract

namespace Pledge.Protocol

open Pledge.Evm

variable {τ : Type}

/-! ## Runs in which the token stays in its place

With the pool as its only minter the supply of the token changes through the pool alone, and by what
the pool is owed. -/

/-- What the pool minted of `token` in a transaction, by its receipt. -/
def Event.issued (token : Address) : Event → Nat
  | .pool _ _ ts => sentBy token 0 ts
  | _ => 0

/-- What a transaction redeemed from the pool `p`. -/
def Event.redeemed (p : Nat) (side : Contract.Side) : Event → Nat
  | .pool _ c _ => c.accepted p side
  | _ => 0

/-- What a transaction respects so that `token` is the claim token of `p` on this side and the pool
its only minter. -/
def Event.Places (D : Deployment τ) (p : Nat) (side : Contract.Side) (token : Address)
    (s : State τ) : Event → Prop
  | .pool env c _ => env.sender ≠ 0 ∧ c.setsState = false ∧
      c.Places s.world.store.poolCounter p side token ∧
      ((s.world.store.pools p).claimToken side = 0 → c.accepted p side = 0)
  | .token t _ (.addMinter minter) => t = token → minter = D.pool
  | _ => True

instance (D : Deployment τ) (p : Nat) (side : Contract.Side) (token : Address) (s : State τ)
    (e : Event) : Decidable (e.Places D p side token s) := by
  unfold Event.Places
  split <;> infer_instance

/-- Steps that respect it. -/
abbrev OrderlyStep (D : Deployment τ) (p : Nat) (side : Contract.Side) (token : Address) :
    State τ → Event → State τ → Prop :=
  Restrict (Step D) fun s e _ => e.Exact ∧ e.Places D p side token s

/-- What is known after a run: the token is where it belongs, no other account mints it, and its
holdings are what the life of the pool minted less what it burned. -/
structure Accounted (D : Deployment τ) (p : Nat) (side : Contract.Side) (token : Address)
    (es : List Event) (s : State τ) : Prop where
  inOrder : s.world.store.InOrder
  placed : s.world.store.Placed token p side
  minters : ∀ a, D.addressSet.contains (s.minters token) a = true → a = D.pool
  life : ∃ acts, Run Contract.Book.Step {} acts (s.world.store.book p) ∧
    total (Contract.Act.minted side) acts = total (Event.issued token) es ∧
    total (Contract.Act.burned side) acts = total (Event.redeemed p side) es
  covered : total (Event.redeemed p side) es ≤ total (Event.issued token) es
  holdings : Holdings.SumsTo (s.world.ledger.balance token)
    (total (Event.issued token) es - total (Event.redeemed p side) es)

section Runs

variable {D : Deployment τ} {owners : List Address} {threshold : Nat} {s₀ s s' : State τ}
  {e : Event} {es : List Event} {p : Nat} {side : Contract.Side} {token : Address}

/-- A transaction to a token concerns that token, and moves it among its holders unless it mints or
burns. -/
theorem Deployment.Lawful.token_effect (hD : D.Lawful) {t sender : Address} {c : Token.Call}
    {m : τ} {w : Contract.World} {state : Token.DebtToken Contract.World τ} {wallet : MultiSig.Wallet}
    (ht : t ∈ D.claimTokens)
    (h : Token.Step (D.erc20 t) D.addressSet (D.tokenState m w) (D.msg wallet t sender, c) state) :
    (∃ ts, Local t ts w state.erc20) ∧ (c.issues = false →
      ∀ n, Holdings.SumsTo (w.ledger.balance t) n →
        Holdings.SumsTo (state.erc20.ledger.balance t) n) := by
  have hE := hD.lodged t ht
  -- a move between two accounts keeps the sum of all
  have hmoved {source recipient : Address} {k n : Nat} {w' : Contract.World}
      (hm : Contract.Moved t source recipient k w w')
      (hn : Holdings.SumsTo (w.ledger.balance t) n) :
      Holdings.SumsTo (w'.ledger.balance t) n := by
    rw [hm.balance, Function.update_self]
    exact Holdings.sumsTo_tallied.move hn recipient hm.enough
  obtain ⟨b, hrun⟩ := h
  cases c with
  | addMinter =>
      obtain ⟨-, -, -, rfl⟩ := Token.addMinter_ok.mp hrun
      exact ⟨⟨[], rfl, fun _ _ => rfl, (List.append_nil _).symm⟩, fun _ _ => id⟩
  | delMinter =>
      obtain ⟨-, -, -, rfl⟩ := Token.delMinter_ok.mp hrun
      exact ⟨⟨[], rfl, fun _ _ => rfl, (List.append_nil _).symm⟩, fun _ _ => id⟩
  | mint =>
      obtain ⟨-, -, _, hmint, rfl⟩ := (Token.issue_ok (E := D.erc20 t)).mp hrun
      exact ⟨⟨_, hE.mint_local hmint⟩, fun hc => by cases hc⟩
  | burn =>
      obtain ⟨-, -, _, hburn, rfl⟩ := (Token.issue_ok (E := D.erc20 t)).mp hrun
      exact ⟨⟨_, hE.burn_local hburn⟩, fun hc => by cases hc⟩
  | transfer =>
      obtain ⟨_, htransfer, rfl⟩ := Token.onErc20_ok.mp hrun
      exact ⟨⟨_, (hE.transfer_local htransfer).2⟩, fun _ _ => hmoved (hE.transfer_moved htransfer).2⟩
  | transferFrom =>
      obtain ⟨_, htransfer, rfl⟩ := Token.onErc20_ok.mp hrun
      exact ⟨⟨_, (hE.transferFrom_local htransfer).2⟩,
        fun _ _ => hmoved (hE.transferFrom_moved htransfer).2⟩
  | approve =>
      obtain ⟨w', happrove, rfl⟩ := Token.onErc20_ok.mp hrun
      refine ⟨⟨_, hE.approve_local happrove⟩, ?_⟩
      intro _ n hn
      show Holdings.SumsTo (w'.ledger.balance t) n
      rwa [(hE.approve_same happrove).1]

/-- The contracts as their constructors leave them. -/
theorem Founded.accounted (hD : D.Lawful) (h₀ : Founded D owners threshold s₀)
    (htoken : token ∈ D.claimTokens) : Accounted D p side token [] s₀ := by
  have hne : token ≠ 0 := fun h0 => hD.nonzero (h0 ▸ htoken)
  obtain ⟨admin, ledger, hworld⟩ := h₀.pool
  refine ⟨?_, ?_, ?_, ⟨[], ?_, rfl, rfl⟩, Nat.le_refl _, .zero (h₀.unissued token htoken)⟩
  · rw [hworld]
    exact Contract.deployed_inOrder ..
  · rw [hworld]
    exact .blank hne fun _ => rfl
  · intro a ha
    rw [h₀.minters token htoken a] at ha
    cases ha
  · rw [hworld]
    exact .start

/-- A step that leaves the pool alone, issues nothing and keeps the sum of the holdings. -/
theorem Accounted.still (hI : Accounted D p side token es s)
    (hstore : s'.world.store = s.world.store)
    (hminters : ∀ a, D.addressSet.contains (s'.minters token) a = true → a = D.pool)
    (hholdings : ∀ n, Holdings.SumsTo (s.world.ledger.balance token) n →
      Holdings.SumsTo (s'.world.ledger.balance token) n)
    (hissued : e.issued token = 0) (hredeemed : e.redeemed p side = 0) :
    Accounted D p side token (es ++ [e]) s' := by
  obtain ⟨hin, hplaced, -, hlife, hcovered, hsum⟩ := hI
  refine ⟨?_, ?_, hminters, ?_, ?_, ?_⟩ <;>
    simp only [hstore, total_snoc, hissued, hredeemed, Nat.add_zero]
  · exact hin
  · exact hplaced
  · exact hlife
  · exact hcovered
  · exact hholdings _ hsum

/-- A transaction to the pool. -/
theorem Accounted.on_pool (hD : D.Lawful) (htoken : token ∈ D.claimTokens)
    (hI : Accounted D p side token es s) {env : Surroundings} {c : Contract.Call}
    {ts : List Transfer} (h : OrderlyStep D p side token s (.pool env c ts) s') :
    Accounted D p side token (es ++ [.pool env c ts]) s' := by
  obtain ⟨hin, hplaced, hminters, ⟨acts, hlife, hissued, hredeemed⟩, hcovered, hsum⟩ := hI
  have hne : token ≠ 0 := fun h0 => hD.nonzero (h0 ▸ htoken)
  obtain ⟨hstep, hx, hsender, hstate, hplaces, hempty⟩ := h
  obtain ⟨hthis, hrest, rfl, moves, heff, hchain⟩ :=
    QuietStep.effect hD (show QuietStep D s _ s' from ⟨hstep, hx.quiet⟩)
  have hsame : s'.minters = s.minters := by rw [hrest]
  have hx' : Contract.Exact (D.env s env) := hD.exact hx hthis
  have hd : Contract.DebtToken (D.env s env) token := hD.debtToken htoken
  -- the action on the pool of the token, and the moves of the call
  obtain ⟨a, ha, hshown⟩ := heff.lifecycle hin.blank hstate p
  obtain ⟨hminted, hburned⟩ := heff.placed_claims ha hshown hplaced hne hempty
  have hplain : ∀ m ∈ moves, m.Plain := by
    intro m hm
    obtain ⟨q, hq, huses⟩ := heff.uses hm
    exact huses.plain (hin.valid q (heff.exists hq))
  have hspares : ∀ m ∈ moves, m.Spares token := by
    intro m hm
    obtain ⟨q, -, huses⟩ := heff.uses hm
    exact huses.spares hplaced.toExclusive
  have hholder : ∀ m ∈ moves, ∀ n, m ≠ .burn token 0 n := by
    rintro m hm n rfl
    exact hsender (heff.burns_sender hm).symm
  have hreceipt : Event.issued token (.pool env c s'.world.transfers) = a.minted side := by
    rw [← hminted]
    exact (hchain.logged hx' hd hplain hspares hholder).trans (Nat.zero_add _)
  have haccepted : Event.redeemed p side (.pool env c s'.world.transfers) = a.burned side :=
    hshown.accepted
  obtain ⟨hle, hsum'⟩ := hchain.tallied Holdings.sumsTo_tallied
    (fun m hm _ _ hran => hran.turns hx' hd (hplain m hm) (hspares m hm)) hsum
  rw [hminted, hburned] at hle hsum'
  refine ⟨heff.inOrder hin hstate, heff.placed hin.blank hplaces hplaced, hsame ▸ hminters,
    ⟨acts ++ [a], hlife.step ha, ?_, ?_⟩, ?_, ?_⟩
  · rw [total_snoc, total_snoc, hissued, hreceipt]
  · rw [total_snoc, total_snoc, hredeemed, haccepted]
  · rw [total_snoc, total_snoc, hreceipt, haccepted]
    omega
  · rw [total_snoc, total_snoc, hreceipt, haccepted]
    rwa [show total (Event.issued token) es + a.minted side -
        (total (Event.redeemed p side) es + a.burned side) =
      total (Event.issued token) es - total (Event.redeemed p side) es + a.minted side -
        a.burned side by omega]

/-- A transaction to a claim token, which the pool did not send. -/
theorem Accounted.on_token (hD : D.Lawful) (htoken : token ∈ D.claimTokens)
    (hI : Accounted D p side token es s) {t sender : Address} {c : Token.Call}
    (h : OrderlyStep D p side token s (.token t sender c) s') :
    Accounted D p side token (es ++ [.token t sender c]) s' := by
  obtain ⟨hstep, -, happoints⟩ := h
  have hminters : ∀ a, D.addressSet.contains (s'.minters token) a = true → a = D.pool := by
    intro a ha
    rcases (hstep.minters hD token a).mp ha with ⟨_, happoint⟩ | ⟨hminter, -⟩
    · cases happoint
      exact happoints rfl
    · exact hI.minters a hminter
  cases hstep with
  | @token _ _ _ state ht hsender hcall =>
      refine hI.still rfl hminters ?_ rfl rfl
      obtain ⟨⟨ts, hlocal⟩, hheld⟩ := hD.token_effect ht hcall
      by_cases heq : t = token
      · subst heq
        -- who mints or burns is a minter, and the pool did not send the transaction
        refine hheld (Bool.eq_false_iff.mpr ?_)
        intro hissues
        exact hsender (hI.minters sender (hcall.issuer (E := D.erc20 t) hissues))
      · intro n hn
        show Holdings.SumsTo (state.erc20.ledger.balance token) n
        rwa [hlocal.balance token (Ne.symm heq)]

/-- **One step.** -/
theorem OrderlyStep.accounted (hD : D.Lawful) (htoken : token ∈ D.claimTokens)
    (hI : Accounted D p side token es s) (h : OrderlyStep D p side token s e s') :
    Accounted D p side token (es ++ [e]) s' := by
  cases e with
  | pool env c ts => exact hI.on_pool hD htoken h
  | token t sender c => exact hI.on_token hD htoken h
  | wallet | oracle =>
      obtain ⟨hstep, -⟩ := h
      cases hstep
      exact hI.still rfl hI.minters (fun _ => id) rfl rfl
  | outside =>
      obtain ⟨hstep, -⟩ := h
      cases hstep with
      | @outside ledger hsame =>
          refine hI.still rfl hI.minters ?_ rfl rfl
          intro n hn
          show Holdings.SumsTo (ledger.balance token) n
          rwa [hsame token htoken]

/-- **The claim tokens of a pool are what the pool owes.** In every orderly run of the contracts, in
which `token` is kept as the claim token of one side of the pool `p` and no other account is
appointed as its minter, all accounts together hold what the pool minted in claims less what it
burned in redemptions. Before settlement that is nothing, and afterwards no more was ever minted than
redemptions are measured by. -/
theorem claims_accounted (hD : D.Lawful) (h₀ : Founded D owners threshold s₀)
    (htoken : token ∈ D.claimTokens) (hrun : Run (OrderlyStep D p side token) s₀ es s) :
    ∃ n, Holdings.SumsTo (s.world.ledger.balance token) n ∧
      n + total (Event.redeemed p side) es = total (Event.issued token) es ∧
      ((s.world.store.pools p).state.Settled →
        total (Event.issued token) es ≤ (s.world.store.pools p).redeemable side) ∧
      (¬ (s.world.store.pools p).state.Settled → total (Event.issued token) es = 0) := by
  have hI : Accounted D p side token es s := by
    refine hrun.invariant (I := Accounted D p side token) ?_ fun h hs => hs.accounted hD htoken h
    exact h₀.accounted hD htoken
  obtain ⟨-, -, -, ⟨acts, hlife, hissued, -⟩, hcovered, hsum⟩ := hI
  obtain ⟨hsettled, hunsettled⟩ := Contract.minted_le_redeemable hlife side
  rw [hissued] at hsettled hunsettled
  exact ⟨_, hsum, Nat.sub_add_cancel hcovered, hsettled, hunsettled⟩

theorem claims_accounted_sample : ∃ s n, Run (OrderlyStep sample 1 .lend 3) sampleStart sampleScript s ∧
    Holdings.SumsTo (s.world.ledger.balance 3) n ∧
      n + total (Event.redeemed 1 .lend) sampleScript = total (Event.issued 3) sampleScript ∧
      ((s.world.store.pools 1).state.Settled →
        total (Event.issued 3) sampleScript ≤ (s.world.store.pools 1).redeemable .lend) ∧
      (¬ (s.world.store.pools 1).state.Settled → total (Event.issued 3) sampleScript = 0) := by
  have hreplay : (replay (fun s e => if e.Places sample 1 .lend 3 s then Step.next sample s e else none)
      sampleStart sampleScript).isSome = true := by decide +kernel
  obtain ⟨s, hs⟩ := Option.isSome_iff_exists.mp hreplay
  have hplaced : Run (Restrict (Step sample) fun s e _ => e.Places sample 1 .lend 3 s) sampleStart
      sampleScript s := by
    refine Run.of_replay ?_ hs
    intro s e s' h
    obtain ⟨hplaces, hnext⟩ := Option.ite_none_right_eq_some.mp h
    exact ⟨Step.of_next hnext, hplaces⟩
  have hrun : Run (OrderlyStep sample 1 .lend 3) sampleStart sampleScript s :=
    hplaced.within.mono fun h => ⟨h.1.1, sample_exact _ h.2, h.1.2⟩
  obtain ⟨n, hn⟩ := claims_accounted sample_lawful sample_founded (by decide +kernel) hrun
  exact ⟨s, n, hrun, hn⟩

end Runs

end Pledge.Protocol
