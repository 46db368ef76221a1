import Pledge.Contract.Backing

/-!
# Solvency of a pool

The receipts of the transactions about a pool against its life. What the contract sent and received
in them is what the actions on the pool say (`Act.Shown.settlePaid` and its siblings), so the
solvency of the abstract pool (`Book.solvent`) becomes one about tokens: a pool with dedicated claim
tokens never spends more of a token than it received.
-/

namespace Pledge.Contract

open Pledge.Evm

/-! ## Calls about a pool

What users are paid and what they bring in is read from the receipts of certain calls, selected by
their name and the pool. A receipt is a list of transfers; the amounts are counted from the
contract's side. -/

/-- The call pays settle tokens of `p` to a user: a refund, a loan, a redemption or an emergency
refund. -/
def Call.paysSettle (p : Nat) : Call → Bool
  | .refundLend q | .claimBorrow q | .withdrawLend q _ | .emergencyLendWithdrawal q => q = p
  | _ => false

/-- The call pays pledge tokens of `p` to a user. -/
def Call.paysPledge (p : Nat) : Call → Bool
  | .refundBorrow q | .withdrawBorrow q _ | .emergencyBorrowWithdrawal q => q = p
  | _ => false

/-- The call deposits settle tokens into `p`. -/
def Call.lends (p : Nat) : Call → Bool
  | .depositLend q _ => q = p
  | _ => false

/-- The call deposits pledge tokens into `p`. -/
def Call.pledges (p : Nat) : Call → Bool
  | .depositBorrow q _ => q = p
  | _ => false

/-- The call is about `p`. -/
def Call.concerns (p : Nat) (c : Call) : Bool := c.poolId = some p

/-- Which way tokens move, seen from the contract. -/
inductive Direction where
  | sent
  | received

/-- What a receipt shows. -/
def Direction.logged : Direction → Address → Address → List Transfer → Nat
  | .sent => sentBy
  | .received => receivedBy

/-- What a move asks for. -/
def Direction.asked : Direction → Address → Address → Move → Nat
  | .sent => Move.sent
  | .received => Move.received

/-- What the contract sent or received of a token in the selected calls. -/
def Event.tokens (dir : Direction) (sel : Call → Bool) (token : Address) : Event → Nat
  | .call env c ts => if sel c then dir.logged token env.this ts else 0
  | .outside => 0

/-! ## The moves of an action

Action by action: what the moves of its call send and receive is the amount that the action carries.
Then the flow of a whole call, which for a sale includes the router and both fees: what leaves the
contract is covered by what comes in and by what the pool had settled on for the sale. -/

section Moves

variable {env : Env} {s : Storage} {c : Call} {moves : List Move} {p : Nat} {a : Act}

/-- In a token, a deposit is one transfer. -/
theorem Received.moves_eq {token : Address} {amount n : Nat} (h : Received env token amount n moves)
    (ht : token ≠ 0) : moves = [.pull token env.sender n] := by
  cases h with
  | eth => exact absurd rfl ht
  | token => rfl

/-- A call that is not about `p` is none of these. -/
theorem Call.unrelated (h : c.poolId ≠ some p) :
    c.paysSettle p = false ∧ c.paysPledge p = false ∧ c.lends p = false ∧ c.pledges p = false := by
  have hne {q : Nat} (h : some q ≠ some p) : decide (q = p) = false :=
    decide_eq_false fun heq => h (heq ▸ rfl)
  cases c with
  | depositLend | refundLend | claimBorrow | withdrawLend | emergencyLendWithdrawal
  | depositBorrow | refundBorrow | withdrawBorrow | emergencyBorrowWithdrawal =>
      simp [Call.paysSettle, Call.paysPledge, Call.lends, Call.pledges, hne h]
  | _ => exact ⟨rfl, rfl, rfl, rfl⟩

/-- A call that is not about `p` deposits nothing into it and sells nothing for it. -/
theorem Act.Shown.unrelated (h : a.Shown env s p c moves) (hc : c.poolId ≠ some p) :
    a.lent = 0 ∧ a.raised = 0 ∧ a.pledged = 0 := by
  cases a with
  | lend | borrow =>
      obtain ⟨-, amount, rfl, -⟩ := h
      exact absurd rfl hc
  | finish | liquidate =>
      obtain ⟨rfl, -⟩ := h
      exact absurd rfl hc
  | _ => exact ⟨rfl, rfl, rfl⟩

/-- A creation is about no pool that exists. -/
theorem Act.Shown.create_poolId {pool : Pool} (h : (Act.create pool).Shown env s p c moves) :
    c.poolId ≠ some p := by
  rw [h.1]
  exact nofun

/-- What the call sent of the settle token is what the action paid. -/
theorem Act.Shown.settlePaid (h : a.Shown env s p c moves) :
    (if c.paysSettle p then (moves.map (Move.sent env.this (s.pools p).settleToken)).sum else 0) =
      a.settlePaid := by
  cases a with
  | idle =>
      rw [(Call.unrelated h).1]
      rfl
  | create =>
      rw [(Call.unrelated h.create_poolId).1]
      rfl
  | configure =>
      obtain ⟨⟨t, rfl | rfl⟩, -⟩ := h <;> rfl
  | lend | borrow =>
      obtain ⟨-, amount, rfl, -⟩ := h
      rfl
  | claimBorrow user paid minted =>
      obtain ⟨rfl, rfl⟩ := h
      simp only [Call.paysSettle, decide_true, if_true, List.map_append, List.sum_append]
      split <;> split <;>
        simp [Move.sent, Act.settlePaid, Act.lendRefunded, Act.loaned, Act.lendRedeemed,
          Act.emergencyLent]
      all_goals omega
  | refundLend | withdrawLend | emergencyLend =>
      obtain ⟨rfl, rfl⟩ := h
      simp [Call.paysSettle, Move.sent, Act.settlePaid, Act.lendRefunded, Act.loaned,
        Act.lendRedeemed, Act.emergencyLent]
  | _ =>
      obtain ⟨rfl, -⟩ := h
      rfl

/-- What it sent of the pledge token, likewise. -/
theorem Act.Shown.pledgePaid (h : a.Shown env s p c moves) :
    (if c.paysPledge p then (moves.map (Move.sent env.this (s.pools p).pledgeToken)).sum else 0) =
      a.pledgePaid := by
  cases a with
  | idle =>
      rw [(Call.unrelated h).2.1]
      rfl
  | create =>
      rw [(Call.unrelated h.create_poolId).2.1]
      rfl
  | configure =>
      obtain ⟨⟨t, rfl | rfl⟩, -⟩ := h <;> rfl
  | lend | borrow =>
      obtain ⟨-, amount, rfl, -⟩ := h
      rfl
  | withdrawBorrow burned paid =>
      obtain ⟨rfl, rfl⟩ := h
      simp only [Call.paysPledge, decide_true, if_true, List.map_append, List.sum_append]
      split <;> split <;>
        simp [Move.sent, Act.pledgePaid, Act.borrowRefunded, Act.borrowRedeemed,
          Act.emergencyBorrowed]
      all_goals omega
  | refundBorrow | emergencyBorrow =>
      obtain ⟨rfl, rfl⟩ := h
      simp [Call.paysPledge, Move.sent, Act.pledgePaid, Act.borrowRefunded, Act.borrowRedeemed,
        Act.emergencyBorrowed]
  | _ =>
      obtain ⟨rfl, -⟩ := h
      rfl

/-- What it received of the settle token is the deposit. -/
theorem Act.Shown.lent (h : a.Shown env s p c moves) (ht : (s.pools p).settleToken ≠ 0) :
    (if c.lends p then (moves.map (Move.received env.this (s.pools p).settleToken)).sum else 0) =
      a.lent := by
  cases a with
  | idle =>
      rw [(Call.unrelated h).2.2.1]
      rfl
  | create =>
      rw [(Call.unrelated h.create_poolId).2.2.1]
      rfl
  | configure =>
      obtain ⟨⟨t, rfl | rfl⟩, -⟩ := h <;> rfl
  | lend user n =>
      obtain ⟨rfl, amount, rfl, hrecv⟩ := h
      rw [hrecv.moves_eq ht]
      simp [Call.lends, Move.received, Act.lent]
  | borrow =>
      obtain ⟨-, amount, rfl, -⟩ := h
      rfl
  | _ =>
      obtain ⟨rfl, -⟩ := h
      rfl

/-- What it received of the pledge token, likewise. -/
theorem Act.Shown.pledged (h : a.Shown env s p c moves) (ht : (s.pools p).pledgeToken ≠ 0) :
    (if c.pledges p then (moves.map (Move.received env.this (s.pools p).pledgeToken)).sum else 0) =
      a.pledged := by
  cases a with
  | idle =>
      rw [(Call.unrelated h).2.2.2]
      rfl
  | create =>
      rw [(Call.unrelated h.create_poolId).2.2.2]
      rfl
  | configure =>
      obtain ⟨⟨t, rfl | rfl⟩, -⟩ := h <;> rfl
  | lend =>
      obtain ⟨-, amount, rfl, -⟩ := h
      rfl
  | borrow user n =>
      obtain ⟨rfl, amount, rfl, hrecv⟩ := h
      rw [hrecv.moves_eq ht]
      simp [Call.pledges, Move.received, Act.pledged]
  | _ =>
      obtain ⟨rfl, -⟩ := h
      rfl

/-- A sale and the fee on what was not sold: what leaves is within what the pool gives up and the
proceeds that exceed what it asked for. -/
theorem Sale.flow {pool : Pool} {lend sold received : Nat} {sale : List Move}
    (h : Sale s pool lend sold received sale) (this : Address) (fee : Nat) (token : Address) :
    ((sale ++ feeMoves s pool.pledgeToken fee).map (Move.sent this token)).sum +
        (if pool.settleToken = token then lend else 0) ≤
      ((sale ++ feeMoves s pool.pledgeToken fee).map (Move.received this token)).sum +
        (if pool.pledgeToken = token then sold + fee else 0) := by
  have hfee (t : Address) (n : Nat) :
      ((feeMoves s t n).map (Move.sent this token)).sum ≤ if t = token then n else 0 := by
    unfold feeMoves
    split
    · simp [Move.sent]
    · exact Nat.zero_le _
  rw [List.map_append, List.sum_append, List.map_append, List.sum_append]
  have hlast := hfee pool.pledgeToken fee
  cases h with
  | none =>
      rw [ite_self]
      simp only [List.map_nil, List.sum_nil, Nat.zero_add, Nat.add_zero]
      exact hlast.trans (Nat.le_add_left _ _)
  | some _ _ hle =>
      have hlend := hfee pool.settleToken (received - lend)
      simp only [List.map_cons, List.sum_cons, Move.sent, Move.received]
      split_ifs at hlast hlend ⊢ <;> omega

/-- **What an action sends is covered**: by what it receives and by what its pool gives up. -/
theorem Act.Shown.flow (h : a.Shown env s p c moves) (hc : c.poolId = some p)
    (hsender : env.sender ≠ env.this) (hvalid : (s.pools p).Valid) (token : Address) :
    (moves.map (Move.sent env.this token)).sum +
        (if (s.pools p).settleToken = token then a.lent + a.raised else 0) +
        (if (s.pools p).pledgeToken = token then a.pledged else 0) ≤
      (moves.map (Move.received env.this token)).sum +
        (if (s.pools p).settleToken = token then a.settlePaid else 0) +
        (if (s.pools p).pledgeToken = token then a.pledgePaid + a.sold else 0) := by
  cases a with
  | idle => exact absurd hc h
  | create =>
      rw [h.1] at hc
      cases hc
  | configure =>
      obtain ⟨-, rfl⟩ := h
      simp [Act.lent, Act.raised, Act.pledged]
  | lend user n =>
      obtain ⟨rfl, amount, rfl, hrecv⟩ := h
      -- a deposit takes the amount in from the sender, who is not the contract
      rw [hrecv.moves_eq hvalid.settleToken]
      simp [Move.sent, Move.received, hsender, Act.lent, Act.raised, Act.pledged]
      split_ifs <;> omega
  | borrow user n =>
      obtain ⟨rfl, amount, rfl, hrecv⟩ := h
      rw [hrecv.moves_eq hvalid.pledgeToken]
      simp [Move.sent, Move.received, hsender, Act.lent, Act.raised, Act.pledged]
      split_ifs <;> omega
  | finish raised sold fee =>
      obtain ⟨rfl, received, sale, hsale, rfl⟩ := h
      have hflow := hsale.flow env.this fee token
      simp only [Act.lent, Act.raised, Act.pledged, Act.sold]
      split_ifs at hflow ⊢ <;> omega
  | liquidate raised sold fee =>
      obtain ⟨rfl, received, sale, hsale, rfl⟩ := h
      have hflow := hsale.flow env.this fee token
      simp only [Act.lent, Act.raised, Act.pledged, Act.sold]
      split_ifs at hflow ⊢ <;> omega
  -- here and in the next case a move may be missing, of a claim token or of an amount of zero
  | claimBorrow user paid minted =>
      obtain ⟨rfl, rfl⟩ := h
      simp only [List.map_append, List.sum_append]
      split <;> split <;>
        simp [Move.sent, Act.lent, Act.raised, Act.pledged, Act.settlePaid, Act.lendRefunded,
          Act.loaned, Act.lendRedeemed, Act.emergencyLent]
      all_goals omega
  | withdrawBorrow burned paid =>
      obtain ⟨rfl, rfl⟩ := h
      simp only [List.map_append, List.sum_append]
      split <;> split <;>
        simp [Move.sent, Act.lent, Act.raised, Act.pledged, Act.pledgePaid, Act.borrowRefunded,
          Act.borrowRedeemed, Act.emergencyBorrowed, Act.sold]
  | _ =>
      obtain ⟨rfl, rfl⟩ := h
      simp [Move.sent, Act.lent, Act.raised, Act.pledged, Act.settlePaid, Act.lendRefunded,
          Act.loaned, Act.lendRedeemed, Act.emergencyLent, Act.pledgePaid, Act.borrowRefunded,
          Act.borrowRedeemed, Act.emergencyBorrowed, Act.sold]

end Moves

/-! ## The receipt of a step

From moves to receipts. Callees are exact, so each move shows as it was asked for; the claim tokens
are dedicated, so the mints and burns of the pool are in other tokens than its two assets and do not
disturb the count. -/

section Receipt

variable {p : Nat} {w w' : World} {env : Env} {c : Call} {ts : List Transfer} {a : Act}
  {token : Address}

/-- In a transaction about `p` the contract sends and receives of the assets of `p` what the moves
say: the claim tokens that are minted and burned are others. -/
theorem Acted.receipt (h : Acted p w (.call env c ts) a w') (hx : (Event.call env c ts).Honest)
    (hok : ∀ side, Dedicated p side w (.call env c ts) w') (hc : c.poolId = some p)
    (ht : token = (w.store.pools p).settleToken ∨ token = (w.store.pools p).pledgeToken) :
    ∃ moves, a.Shown env w.store p c moves ∧ ∀ dir : Direction,
      dir.logged token env.this ts = (moves.map (dir.asked env.this token)).sum := by
  obtain ⟨rfl, moves, heff, hchain, hshown⟩ := h.shown env c ts rfl
  -- an asset of the pool is never minted or burned: it would be a claim token
  have hkeeps : ∀ m ∈ moves, m.Keeps token := by
    intro m hm
    obtain ⟨q, hq, huses⟩ := heff.uses hm
    obtain rfl : p = q := by
      rw [hc] at hq
      exact Option.some.inj hq
    have hclaim {t : Address} (hne : t ≠ 0) (hside : ∃ side, t = (w.store.pools p).claimToken side) :
        t ≠ token := by
      obtain ⟨side, rfl⟩ := hside
      obtain ⟨hsettle, hpledge⟩ := ((hok side).exclusive hne).assets p
      rcases ht with rfl | rfl
      · exact Ne.symm hsettle
      · exact Ne.symm hpledge
    cases m with
    | mint t holder n => exact hclaim huses.1 huses.2
    | burn t holder n => exact hclaim huses.1 huses.2
    | _ => trivial
  refine ⟨moves, hshown, ?_⟩
  intro dir
  cases dir with
  | sent =>
      show sentBy token env.this w'.transfers = _
      rw [hchain.sentBy hx.1 (h.plain heff) hkeeps]
      exact Nat.zero_add _
  | received =>
      show receivedBy token env.this w'.transfers = _
      rw [hchain.receivedBy hx.1 (h.plain heff) hkeeps]
      exact Nat.zero_add _

/-- What the selected calls about `p` moved, when the moves of an action say so. -/
theorem Acted.tokens_eq {e : Event} (h : Acted p w e a w') (hx : e.Honest)
    (hok : ∀ side, Dedicated p side w e w')
    {dir : Direction} {sel : Call → Bool} {amount : Act → Nat}
    (ht : token = (w.store.pools p).settleToken ∨ token = (w.store.pools p).pledgeToken)
    (hsel : ∀ c, sel c = true → c.poolId = some p) (hidle : amount .idle = 0)
    (hmoves : ∀ {env c moves}, a.Shown env w.store p c moves →
      (if sel c then (moves.map (dir.asked env.this token)).sum else 0) = amount a) :
    e.tokens dir sel token = amount a := by
  cases e with
  | outside =>
      rw [h.outside rfl, hidle]
      rfl
  | call env c ts =>
      show (if sel c then dir.logged token env.this ts else 0) = _
      -- a call that is not selected has no receipt to speak of, and its action moves nothing
      by_cases hc : sel c = true
      · obtain ⟨moves, hshown, hlogged⟩ := h.receipt hx hok (hsel c hc) ht
        rw [hlogged]
        exact hmoves hshown
      · obtain ⟨-, moves, -, -, hshown⟩ := h.shown env c ts rfl
        have hnone := hmoves hshown
        rw [if_neg hc] at hnone ⊢
        exact hnone

/-- A call that is one of these is about `p`. -/
theorem Call.related (h : c.paysSettle p = true ∨ c.paysPledge p = true ∨ c.lends p = true ∨
    c.pledges p = true) : c.poolId = some p := by
  by_contra hp
  obtain ⟨h₁, h₂, h₃, h₄⟩ := Call.unrelated hp
  simp [h₁, h₂, h₃, h₄] at h

/-- What a step sends is covered, as the receipts show it. -/
theorem Acted.flow {e : Event} (h : Acted p w e a w') (hx : e.Honest)
    (hok : ∀ side, Dedicated p side w e w')
    (hvalid : (w.store.pools p).Valid)
    (ht : token = (w.store.pools p).settleToken ∨ token = (w.store.pools p).pledgeToken) :
    e.tokens .sent (Call.concerns p) token +
        (if (w.store.pools p).settleToken = token then a.lent + a.raised else 0) +
        (if (w.store.pools p).pledgeToken = token then a.pledged else 0) ≤
      e.tokens .received (Call.concerns p) token +
        (if (w.store.pools p).settleToken = token then a.settlePaid else 0) +
        (if (w.store.pools p).pledgeToken = token then a.pledgePaid + a.sold else 0) := by
  cases e with
  | outside =>
      rw [h.outside rfl]
      simp [Act.lent, Act.raised, Act.pledged, Event.tokens]
  | call env c ts =>
      by_cases hc : c.poolId = some p
      · obtain ⟨moves, hshown, hlogged⟩ := h.receipt hx hok hc ht
        have hsel : Call.concerns p c = true := decide_eq_true hc
        simp only [Event.tokens, hsel, if_true, hlogged]
        exact hshown.flow hc hx.1.external hvalid token
      · obtain ⟨-, moves, -, -, hshown⟩ := h.shown env c ts rfl
        obtain ⟨h₁, h₂, h₃⟩ := hshown.unrelated hc
        simp [Event.tokens, Call.concerns, hc, h₁, h₂, h₃]

end Receipt

/-! ## From creation on

A run of the contract is labelled with the actions on one pool, so that a sum over receipts becomes
a sum over actions. From there the bounds are those of the abstract pool (`Book.solvent`), with the
claim tokens backed by the slots (`SlotStep.backed`). -/

/-- What `createPoolInfo` leaves behind. -/
theorem Effect.created {env : Env} {s s' : Storage}
    {settleTime endTime interestRate maxSupply martgageRate : Nat}
    {lendToken borrowToken spToken jpToken : Address} {autoLiquidateThreshold : Nat}
    {moves : List Move}
    (h : Effect env s (.createPoolInfo settleTime endTime interestRate maxSupply martgageRate
      lendToken borrowToken spToken jpToken autoLiquidateThreshold) moves s') (hblank : s.Blank) :
    moves = [] ∧ s'.Exists (s.poolCounter + 1) ∧ ∃ pool : Pool, pool.Fresh ∧
      s'.book (s.poolCounter + 1) = { pool := pool } ∧ pool.settleToken = lendToken ∧
      pool.pledgeToken = borrowToken ∧ pool.spToken = spToken ∧ pool.jpToken = jpToken ∧
      jpToken ≠ 0 := by
  cases h with
  | createPoolInfo htime hsp hjp hsettle hpledge hborrow hinterest hrate hliq hend =>
      have hbook : s.book (s.poolCounter + 1) = {} :=
        hblank _ fun hex => absurd hex.2 (Nat.not_succ_le_self _)
      refine ⟨rfl, ⟨Nat.succ_pos _, Nat.le_refl _⟩,
        { newPool env.sender lendToken borrowToken maxSupply interestRate martgageRate
            autoLiquidateThreshold endTime with
          settleTime := settleTime, spToken := spToken, jpToken := jpToken },
        ?_, ?_, rfl, rfl, rfl, rfl, hjp⟩
      · exact ⟨⟨hsettle, hpledge, hborrow, hinterest, hrate, hliq, htime.le⟩, rfl, rfl, rfl, rfl, rfl,
          rfl, rfl, rfl, rfl⟩
      · rw [Storage.addPool_book, if_pos rfl, hbook]

/-- The assets of a pool are fixed at its creation. -/
theorem Book.Step.assets {b b' : Book} {a : Act} (h : Book.Step b a b')
    (hne : b.pool.settleToken ≠ 0) : b'.pool.settleToken = b.pool.settleToken ∧
      b'.pool.pledgeToken = b.pool.pledgeToken := by
  cases h with
  | create => exact absurd rfl hne
  | _ => exact ⟨rfl, rfl⟩

/-- What holds of a pool with these assets as long as it lives. -/
structure Alive (p : Nat) (lendToken borrowToken : Address) (w : World) : Prop where
  valid : (w.store.pools p).Valid
  settleToken : (w.store.pools p).settleToken = lendToken
  pledgeToken : (w.store.pools p).pledgeToken = borrowToken
  jpToken : (w.store.pools p).jpToken ≠ 0

/-- No action changes any of it. -/
theorem Alive.step {p : Nat} {lendToken borrowToken : Address} {w w' : World} {e : Event} {a : Act}
    (h : Alive p lendToken borrowToken w) (ha : Acted p w e a w') :
    Alive p lendToken borrowToken w' := by
  obtain ⟨hsettle, hpledge⟩ := ha.step.assets h.valid.settleToken
  constructor
  · exact ha.step.valid h.valid
  · exact hsettle.trans h.settleToken
  · exact hpledge.trans h.pledgeToken
  · have hside : (w.store.pools p).claimToken .borrow ≠ 0 := h.jpToken
    exact ha.claimToken_ne hside

/-- Honest steps of a pool with dedicated claim tokens, labelled with its actions. -/
abbrev DedicatedStep (p : Nat) (lendToken borrowToken : Address) (w : World) (l : Event × Act)
    (w' : World) : Prop :=
  Alive p lendToken borrowToken w ∧ (l.1.Honest ∧ ∀ side, Dedicated p side w l.1 w') ∧
    Acted p w l.1 l.2 w'

section Labelled

variable {p : Nat} {lendToken borrowToken : Address} {w₀ w : World} {ls : List (Event × Act)}

/-! Each total of receipts is a total of actions, by the lemma for one step. -/

theorem settlePaid_total (hrun : Run (DedicatedStep p lendToken borrowToken) w₀ ls w) :
    total (fun l => l.1.tokens .sent (Call.paysSettle p) lendToken) ls =
      total (fun l => l.2.settlePaid) ls := by
  apply hrun.total_eq
  rintro w ⟨e, a⟩ w' ⟨halive, ⟨hx, hok⟩, ha⟩
  have ht := halive.settleToken.symm
  apply ha.tokens_eq hx hok (.inl ht) (fun c hc => Call.related (.inl hc)) rfl
  intro env c moves hshown
  rw [ht]
  exact hshown.settlePaid

theorem pledgePaid_total (hrun : Run (DedicatedStep p lendToken borrowToken) w₀ ls w) :
    total (fun l => l.1.tokens .sent (Call.paysPledge p) borrowToken) ls =
      total (fun l => l.2.pledgePaid) ls := by
  apply hrun.total_eq
  rintro w ⟨e, a⟩ w' ⟨halive, ⟨hx, hok⟩, ha⟩
  have ht := halive.pledgeToken.symm
  apply ha.tokens_eq hx hok (.inr ht) (fun c hc => Call.related (.inr (.inl hc))) rfl
  intro env c moves hshown
  rw [ht]
  exact hshown.pledgePaid

theorem lent_total (hrun : Run (DedicatedStep p lendToken borrowToken) w₀ ls w) :
    total (fun l => l.1.tokens .received (Call.lends p) lendToken) ls =
      total (fun l => l.2.lent) ls := by
  apply hrun.total_eq
  rintro w ⟨e, a⟩ w' ⟨halive, ⟨hx, hok⟩, ha⟩
  have ht := halive.settleToken.symm
  apply ha.tokens_eq hx hok (.inl ht) (fun c hc => Call.related (.inr (.inr (.inl hc)))) rfl
  intro env c moves hshown
  rw [ht]
  exact hshown.lent halive.valid.settleToken

theorem pledged_total (hrun : Run (DedicatedStep p lendToken borrowToken) w₀ ls w) :
    total (fun l => l.1.tokens .received (Call.pledges p) borrowToken) ls =
      total (fun l => l.2.pledged) ls := by
  apply hrun.total_eq
  rintro w ⟨e, a⟩ w' ⟨halive, ⟨hx, hok⟩, ha⟩
  have ht := halive.pledgeToken.symm
  apply ha.tokens_eq hx hok (.inr ht) (fun c hc => Call.related (.inr (.inr (.inr hc)))) rfl
  intro env c moves hshown
  rw [ht]
  exact hshown.pledged halive.valid.pledgeToken

theorem flow_total (hrun : Run (DedicatedStep p lendToken borrowToken) w₀ ls w) {token : Address}
    (ht : token = lendToken ∨ token = borrowToken) :
    total (fun l => l.1.tokens .sent (Call.concerns p) token) ls +
        (if lendToken = token then
          total (fun l => l.2.lent) ls + total (fun l => l.2.raised) ls else 0) +
        (if borrowToken = token then total (fun l => l.2.pledged) ls else 0) ≤
      total (fun l => l.1.tokens .received (Call.concerns p) token) ls +
        (if lendToken = token then total (fun l => l.2.settlePaid) ls else 0) +
        (if borrowToken = token then
          total (fun l => l.2.pledgePaid) ls + total (fun l => l.2.sold) ls else 0) := by
  rw [← total_add, ← total_add, ← total_ite, ← total_ite, ← total_ite, ← total_ite, ← total_add,
    ← total_add, ← total_add, ← total_add]
  apply hrun.total_le
  rintro w ⟨e, a⟩ w' ⟨⟨hvalid, rfl, rfl, -⟩, ⟨hx, hok⟩, ha⟩
  exact ha.flow hx hok hvalid ht

end Labelled

/-- The world right after `createPoolInfo`. -/
theorem RegularStep.created {w₀ w₁ : World} {env : Env}
    {settleTime endTime interestRate maxSupply martgageRate : Nat}
    {lendToken borrowToken spToken jpToken : Address} {autoLiquidateThreshold : Nat}
    {ts : List Transfer} {p : Nat} (hin₀ : w₀.store.InOrder)
    (hcreate : RegularStep w₀ (.call env (.createPoolInfo settleTime endTime interestRate maxSupply
      martgageRate lendToken borrowToken spToken jpToken autoLiquidateThreshold) ts) w₁)
    (hp : p = w₀.store.poolCounter + 1) :
    w₁.ledger = w₀.ledger ∧ Alive p lendToken borrowToken w₁ ∧
      (w₁.store.pools p).claimToken .lend = spToken ∧
      (w₁.store.pools p).claimToken .borrow = jpToken ∧
      (w₁.store.pools p).Fresh ∧ w₁.store.book p = { pool := w₁.store.pools p } := by
  obtain ⟨a₀, hacted₀⟩ := hcreate.acted hin₀ p
  obtain ⟨-, moves, heff, hchain, -⟩ := hacted₀.shown env _ ts rfl
  obtain ⟨rfl, -, pool, hfresh, hbook, rfl, rfl, rfl, rfl, hjp⟩ := heff.created hin₀.blank
  rw [← hp] at hbook
  obtain rfl : pool = w₁.store.pools p := (congrArg Book.pool hbook).symm
  refine ⟨?_, ⟨hfresh.toValid, rfl, rfl, hjp⟩, rfl, rfl, hfresh, hbook⟩
  cases hchain with
  | done h => exact h.1

/-- Honest steps of a pool that respect its slot on one side, labelled with its actions. -/
abbrev SlotStep (p : Nat) (side : Side) (lendToken borrowToken : Address) (w : World)
    (l : Event × Act) (w' : World) : Prop :=
  Alive p lendToken borrowToken w ∧ (l.1.Honest ∧ Dedicated p side w l.1 w') ∧ Acted p w l.1 l.2 w'

/-- The claim tokens of a pool with a dedicated slot stay backed from its creation on. -/
theorem SlotStep.backed {p : Nat} {side : Side} {lendToken borrowToken : Address} {w₁ w : World}
    {ls : List (Event × Act)}
    (hempty : ∀ u, w₁.ledger.balance ((w₁.store.pools p).claimToken side) u = 0)
    (hrun : Run (SlotStep p side lendToken borrowToken) w₁ ls w) :
    Backed p side (total (fun l => l.2.minted side) ls) (total (fun l => l.2.burned side) ls) w := by
  refine run_backed ⟨Nat.le_refl _, fun _ => Holdings.Circulating.zero hempty⟩ (hrun.mono fun hs => ?_)
  obtain ⟨halive, ⟨hx, hok⟩, ha⟩ := hs
  -- a living pool has its jp token
  exact ha.conserves hx hok fun hnone => absurd hnone halive.jpToken

/-- The same run of the abstract pool. -/
theorem Acted.books {p : Nat} {w₁ w : World} {ls : List (Event × Act)}
    (hfresh : (w₁.store.pools p).Fresh) (hbook : w₁.store.book p = { pool := w₁.store.pools p })
    (hrun : Run (fun w l w' => Acted p w l.1 l.2 w') w₁ ls w) :
    Run Book.Step {} ([.create (w₁.store.pools p)] ++ ls.map Prod.snd) (w.store.book p) := by
  refine (Run.step .start (.create hfresh)).append ?_
  rw [← hbook]
  exact hrun.map (fun w => w.store.book p) Prod.snd fun hs => hs.step

/-- **Solvency of a pool.** From the creation of a pool by `createPoolInfo`, with claim tokens that
have no holdings then and are dedicated to it, on every honest run: the settle tokens paid to users
are within the lenders' deposits and the final amounts of the sale, the pledge tokens paid to users
are within the borrowers' deposits, and of either asset the transactions about the pool, with the
sale and all fees, send no more than they receive. -/
theorem pool_solvent {admin multiSignature : Address} {ledger : Ledger} {es₀ es : List Event}
    {w₀ w₁ w : World} {env : Env} {settleTime endTime interestRate maxSupply martgageRate : Nat}
    {lendToken borrowToken spToken jpToken : Address} {autoLiquidateThreshold : Nat}
    {ts : List Transfer} {p : Nat}
    (hreach : Run RegularStep (deployed admin multiSignature ledger) es₀ w₀)
    (hcreate : RegularStep w₀ (.call env (.createPoolInfo settleTime endTime interestRate maxSupply
      martgageRate lendToken borrowToken spToken jpToken autoLiquidateThreshold) ts) w₁)
    (hp : p = w₀.store.poolCounter + 1)
    (hsp : ∀ u, w₀.ledger.balance spToken u = 0) (hjp : ∀ u, w₀.ledger.balance jpToken u = 0)
    (hrun : Run (Restrict Step fun w e w' => e.Honest ∧ ∀ side, Dedicated p side w e w') w₁ es w) :
    total (Event.tokens .sent (Call.paysSettle p) lendToken) es ≤
        total (Event.tokens .received (Call.lends p) lendToken) es +
          (w.store.pools p).finishAmountLend + (w.store.pools p).liquidationAmountLend ∧
      total (Event.tokens .sent (Call.paysPledge p) borrowToken) es ≤
        total (Event.tokens .received (Call.pledges p) borrowToken) es ∧
      ∀ token, token = lendToken ∨ token = borrowToken →
        total (Event.tokens .sent (Call.concerns p) token) es ≤
          total (Event.tokens .received (Call.concerns p) token) es := by
  have hin₀ := reachable_inOrder hreach
  have hin₁ := hcreate.inOrder hin₀
  obtain ⟨hledger, halive₁, hspToken, hjpToken, hfresh, hbook⟩ := hcreate.created hin₀ hp
  -- the run, labelled with the actions on the pool
  obtain ⟨ls, rfl, hlabelled⟩ := run_acted (fun h => h.1.regular) hin₁ p hrun
  have halong : Run (DedicatedStep p lendToken borrowToken) w₁ ls w :=
    hlabelled.along halive₁ fun h hs => h.step hs.2
  have hbooks := Acted.books hfresh hbook (halong.mono fun hs => hs.2.2)
  have hin : w.store.InOrder :=
    run_inOrder hin₁ (hrun.mono fun hs => ⟨hs.1, hs.2.1.regular⟩)
  -- the creation itself moves nothing
  have hdrop (f : Act → Nat) (h0 : f (.create (w₁.store.pools p)) = 0) :
      total f ([.create (w₁.store.pools p)] ++ ls.map Prod.snd) = total (fun l => f l.2) ls := by
    simp [total, h0, Function.comp_def]
  have hcovered (side : Side)
      (hempty : ∀ u, w₀.ledger.balance ((w₁.store.pools p).claimToken side) u = 0) :
      total (Act.burned side) ([.create (w₁.store.pools p)] ++ ls.map Prod.snd) ≤
        total (Act.minted side) ([.create (w₁.store.pools p)] ++ ls.map Prod.snd) := by
    rw [hdrop _ (by cases side <;> rfl), hdrop _ (by cases side <;> rfl)]
    rw [← hledger] at hempty
    exact (SlotStep.backed hempty
      (halong.mono fun hs => ⟨hs.1, ⟨hs.2.1.1, hs.2.1.2 side⟩, hs.2.2⟩)).covered
  obtain ⟨hsettle, hpledge⟩ := Book.solvent hbooks (hin.settlement p)
    (hcovered .lend (by rwa [hspToken])) (hcovered .borrow (by rwa [hjpToken]))
  have hraised := (raised_total hbooks).1
  rw [hdrop _ rfl, hdrop _ rfl, hdrop _ rfl] at hsettle hpledge
  rw [hdrop _ rfl, Storage.book_pool] at hraised
  -- back to the receipts
  rw [total_map, total_map, total_map, total_map, settlePaid_total halong, pledgePaid_total halong,
    lent_total halong, pledged_total halong]
  refine ⟨by omega, by omega, ?_⟩
  intro token ht
  have hflow := flow_total halong ht
  rw [total_map, total_map]
  split_ifs at hflow <;> omega

theorem pool_solvent_closing :
    total (Event.tokens .sent (Call.paysSettle 1) 1)
          (World.afterCreation.events (World.supplies ++ World.closing)) ≤
        total (Event.tokens .received (Call.lends 1) 1)
            (World.afterCreation.events (World.supplies ++ World.closing)) +
          ((World.afterCreation.play (World.supplies ++ World.closing)).store.pools 1).finishAmountLend +
          ((World.afterCreation.play
            (World.supplies ++ World.closing)).store.pools 1).liquidationAmountLend ∧
      total (Event.tokens .sent (Call.paysPledge 1) 2)
          (World.afterCreation.events (World.supplies ++ World.closing)) ≤
        total (Event.tokens .received (Call.pledges 1) 2)
          (World.afterCreation.events (World.supplies ++ World.closing)) ∧
      ∀ token, token = 1 ∨ token = 2 →
        total (Event.tokens .sent (Call.concerns 1) token)
            (World.afterCreation.events (World.supplies ++ World.closing)) ≤
          total (Event.tokens .received (Call.concerns 1) token)
            (World.afterCreation.events (World.supplies ++ World.closing)) :=
  pool_solvent (World.setup_run.mono GuardedStep.regular) World.creation_honest.regular rfl
    (World.claim_tokens_fresh 3 (by decide)) (World.claim_tokens_fresh 4 (by decide))
    (World.closing_run.mono fun hs => ⟨hs.1, hs.2.1, hs.2.2.1⟩)

end Pledge.Contract
