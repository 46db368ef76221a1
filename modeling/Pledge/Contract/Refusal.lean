import Pledge.Contract.Bookkeeping

/-!
# Tokens that answer `false`

An ERC20 token may report that it did not move anything by returning `false`. `_transferToken` and
`_receiveToken` drop that answer. `money_followed` says what comes of it: the records and the claim
tokens of a successful call agree with the money exactly when the token accepted what it was asked for,
or when nothing was at stake.
-/

namespace Pledge.Contract

open Pledge.Evm

/-! ## What a token is asked, and what it answers

Every call that moves money asks the token for one transfer: a deposit for one to the contract, the
others for one to the caller. The answer of the token depends on the world in which it is asked, and
that is not the world before the call, since the source sets flags, mints or burns first. So the
request and its world are defined for each call, from the state before it, and `Call.Granted` says
that the token accepts there. -/

/-- The token answered `b` to the move. -/
def Move.Answered (env : Env) (w : World) (b : Bool) (w' : World) : Move → Prop
  | .pull token source amount =>
      (env.transferFrom token source env.this amount).run w = .ok (b, w')
  | .pay token recipient amount => (env.transfer token recipient amount).run w = .ok (b, w')
  | _ => False

/-- The answer of the token to a move asked for in `w`. -/
def Env.accepts (env : Env) (w : World) : Move → Bool
  | .pull token source amount =>
      match (env.transferFrom token source env.this amount).run w with
      | .ok (b, _) => b
      | .error _ => false
  | .pay token recipient amount =>
      match (env.transfer token recipient amount).run w with
      | .ok (b, _) => b
      | .error _ => false
  | _ => false

/-- What was answered is what the token accepts. -/
theorem Move.Answered.accepts {env : Env} {w w' : World} {b : Bool} {m : Move}
    (h : m.Answered env w b w') : env.accepts w m = b := by
  cases m with
  | pull token source amount =>
      have hrun : (env.transferFrom token source env.this amount).run w = .ok (b, w') := h
      simp only [Env.accepts, hrun]
  | pay token recipient amount =>
      have hrun : (env.transfer token recipient amount).run w = .ok (b, w') := h
      simp only [Env.accepts, hrun]
  | mint | burn | swap => exact absurd h id

/-- Tokens move exactly the amount and return `true`, or move nothing and return `false`. Minting and
burning touch one token only, nobody calls back, and the contract does not call itself. -/
structure Answering (env : Env) : Prop extends Quiet env where
  external : env.sender ≠ env.this
  deployed : env.this ≠ 0
  transfer_answer {token recipient : Address} {n : Nat} {w w' : World} {b : Bool} :
    (env.transfer token recipient n).run w = .ok (b, w') →
      b = true ∧ Moved token env.this recipient n w w' ∨ b = false ∧ w.SameTokens w'
  transferFrom_answer {token source recipient : Address} {n : Nat} {w w' : World} {b : Bool} :
    (env.transferFrom token source recipient n).run w = .ok (b, w') →
      b = true ∧ Moved token source recipient n w w' ∨ b = false ∧ w.SameTokens w'
  mint_touched {token holder : Address} {n : Nat} {w w' : World} {b : Bool} :
    (env.mint token holder n).run w = .ok (b, w') → Touched token w w'
  burn_touched {token holder : Address} {n : Nat} {w w' : World} {b : Bool} :
    (env.burn token holder n).run w = .ok (b, w') → Touched token w w'

/-- What a call is to pay its sender. -/
structure Payment where
  poolId : Nat
  token : Address
  amount : Nat

/-- The payment that a call computes. -/
def Call.payment (env : Env) (s : Storage) : Call → Option Payment
  | .refundLend p =>
      some ⟨p, (s.pools p).settleToken, (s.pools p).lendRefund (s.lendInfos p env.sender)⟩
  | .withdrawLend p spAmount => some ⟨p, (s.pools p).settleToken, (s.pools p).lendRedemption spAmount⟩
  | .emergencyLendWithdrawal p => some ⟨p, (s.pools p).settleToken, (s.lendInfos p env.sender).amount⟩
  | .refundBorrow p =>
      some ⟨p, (s.pools p).pledgeToken, (s.pools p).borrowRefund (s.borrowInfos p env.sender)⟩
  | .claimBorrow p => some ⟨p, (s.pools p).settleToken, (s.pools p).loan (s.borrowInfos p env.sender)⟩
  | .withdrawBorrow p jpAmount =>
      some ⟨p, (s.pools p).pledgeToken, (s.pools p).borrowRedemption jpAmount⟩
  | .emergencyBorrowWithdrawal p =>
      some ⟨p, (s.pools p).pledgeToken, (s.borrowInfos p env.sender).pledgeAmount⟩
  | _ => none

/-- The move that a call asks of a token: a deposit is pulled, a payment of more than nothing is
made. -/
def Call.request (env : Env) (s : Storage) (c : Call) : Option Move :=
  match c with
  | .depositLend p amount => some (.pull (s.pools p).settleToken env.sender amount)
  | .depositBorrow p amount => some (.pull (s.pools p).pledgeToken env.sender amount)
  | _ =>
      match c.payment env s with
      | some pay => if 0 < pay.amount then some (.pay pay.token env.sender pay.amount) else none
      | none => none

/-- The world after a call to a claim token, if it returned. -/
def World.after (w : World) (x : Tx World Bool) : Option World :=
  match x.run w with
  | .ok (_, w') => some w'
  | .error _ => none

/-- A call that returned leads to the world after it. -/
theorem World.after_eq {w w' : World} {x : Tx World Bool} {b : Bool} (h : x.run w = .ok (b, w')) :
    w.after x = some w' := by
  unfold World.after
  rw [h]

/-- A world after a call comes from one that returned. -/
theorem World.after_some {w w' : World} {x : Tx World Bool} (h : w.after x = some w') :
    ∃ b, x.run w = .ok (b, w') := by
  unfold World.after at h
  split at h
  · next b w₁ hrun =>
      cases h
      exact ⟨b, hrun⟩
  · cases h

/-- The world in which the request is made: the guard is up, and what the source does before the
transfer is done. The refunds of lenders and both emergency withdrawals set their flag first, a claim
of collateral mints first and the redemptions burn first. -/
def Call.requestWorld (env : Env) (w : World) : Call → Option World
  | .refundLend p | .emergencyLendWithdrawal p =>
      some (w.guarded.mapStore fun s =>
        s.setLendInfo p env.sender { s.lendInfos p env.sender with refunded := true })
  | .emergencyBorrowWithdrawal p =>
      some (w.guarded.mapStore fun s =>
        s.setBorrowInfo p env.sender { s.borrowInfos p env.sender with settled := true })
  | .withdrawLend p spAmount =>
      w.guarded.after (env.burn (w.store.pools p).spToken env.sender spAmount)
  | .claimBorrow p =>
      if (w.store.pools p).jpToken ≠ 0 then
        w.guarded.after (env.mint (w.store.pools p).jpToken env.sender
          ((w.store.pools p).jpShare (w.store.borrowInfos p env.sender)))
      else some w.guarded
  | .withdrawBorrow p jpAmount =>
      if (w.store.pools p).jpToken ≠ 0 then
        w.guarded.after (env.burn (w.store.pools p).jpToken env.sender jpAmount)
      else some w.guarded
  | _ => some w.guarded

/-- The token accepts what the call asks of it. -/
def Call.Granted (env : Env) (w : World) (c : Call) : Prop :=
  ∀ m w₁, c.request env w.store = some m → c.requestWorld env w = some w₁ → env.accepts w₁ m = true

/-- The call gives nothing up: a redemption in a pool without jp tokens burns nothing. -/
def Call.Unbacked (s : Storage) : Call → Prop
  | .withdrawBorrow p _ => (s.pools p).jpToken = 0
  | _ => False

/-! ## What the records owe to the money

The property itself, for one call. A deposit credits the record and the supply by what the balance
of the contract grew; any other call pays what it computes, or leaves flags, records and claim
tokens as they were. Claim tokens may have moved in between without harm, as long as nothing else
did (`ClaimsOnly`). -/

/-- Between `w` and `w'` only claim tokens of the pool changed, and the contract sent nothing. -/
structure ClaimsOnly (env : Env) (pool : Pool) (w w' : World) : Prop where
  balance : ∀ t, t ≠ pool.spToken → t ≠ pool.jpToken → w'.ledger.balance t = w.ledger.balance t
  transfers : ∃ ts, w'.transfers = w.transfers ++ ts ∧ ∀ x ∈ ts, x.src ≠ env.this

/-- The caller was paid `n` of the token, after the claim tokens were settled; nothing is owed for
zero. -/
def Paid (env : Env) (pool : Pool) (token : Address) (n : Nat) (w w' : World) : Prop :=
  n = 0 ∨ ∃ w₁, ClaimsOnly env pool w w₁ ∧ Moved token env.this env.sender n w₁ w'

/-- Every flag and record and the balances of the claim tokens are as before. -/
structure Unchanged (pool : Pool) (w w' : World) : Prop where
  store : w'.store = w.store
  spBalance : w'.ledger.balance pool.spToken = w.ledger.balance pool.spToken
  jpBalance : w'.ledger.balance pool.jpToken = w.ledger.balance pool.jpToken

/-- **The records follow the money.** A deposit credits what the contract received; any other call pays
its sender what it computes or changes nothing. -/
def Call.Follows (env : Env) (w w' : World) (c : Call) : Prop :=
  match c with
  | .depositLend p _ => ∃ n,
      w'.ledger.balance (w.store.pools p).settleToken env.this =
        w.ledger.balance (w.store.pools p).settleToken env.this + n ∧
      (w'.store.lendInfos p env.sender).amount = (w.store.lendInfos p env.sender).amount + n ∧
      (w'.store.pools p).lendSupply = (w.store.pools p).lendSupply + n
  | .depositBorrow p _ => ∃ n,
      w'.ledger.balance (w.store.pools p).pledgeToken env.this =
        w.ledger.balance (w.store.pools p).pledgeToken env.this + n ∧
      (w'.store.borrowInfos p env.sender).pledgeAmount =
        (w.store.borrowInfos p env.sender).pledgeAmount + n ∧
      (w'.store.pools p).borrowSupply = (w.store.pools p).borrowSupply + n
  | _ => ∀ pay, c.payment env w.store = some pay →
      Paid env (w.store.pools pay.poolId) pay.token pay.amount w w' ∨
        Unchanged (w.store.pools pay.poolId) w w'

/-! ## The request of a successful call

That a call succeeded says which request it made and that the token answered it, with `true` or with
`false`: the source does not look at the answer. One lemma for each of the nine functions; the
requests are as the source computes them. -/

section Requests

variable {env : Env} {w w' : World}

/-- A payment of something in a token asks for it, and goes on whatever the answer is. -/
theorem transferToken_answered {token recipient : Address} {n : Nat} (hn : 0 < n) (ht : token ≠ 0)
    (h : (transferToken env token recipient n).run w = .ok ((), w')) :
    ∃ b, (Move.pay token recipient n).Answered env w b w' := by
  simp only [transferToken, Tx.rules] at h
  rcases h with ⟨hzero, -⟩ | ⟨-, ⟨hzero, -⟩ | ⟨-, b, w₁, hcall, -, rfl⟩⟩
  · exact absurd hzero hn.ne'
  · exact absurd hzero ht
  · exact ⟨b, hcall⟩

/-- A deposit in a token asks for the amount, and credits it whatever the answer is. -/
theorem receiveToken_answered {token : Address} {amount n : Nat} (ht : token ≠ 0)
    (h : (receiveToken env token env.sender amount).run w = .ok (n, w')) :
    n = amount ∧ 0 < amount ∧ ∃ b, (Move.pull token env.sender amount).Answered env w b w' := by
  simp only [receiveToken, Tx.rules, and_assoc, exists_and_left, exists_eq_left, exists_const] at h
  rcases h with ⟨hzero, -⟩ | ⟨-, -, hpos, b, w₁, hcall, rfl, rfl⟩
  · exact absurd hzero ht
  · exact ⟨rfl, hpos, b, hcall⟩

/-- The call made the request in its world and the token answered `b`; afterwards the call only wrote
to its own storage. -/
def Asked (env : Env) (w : World) (c : Call) (m : Move) (b : Bool) (w' : World) : Prop :=
  ∃ w₁ w₂, c.requestWorld env w = some w₁ ∧ m.Answered env w₁ b w₂ ∧ w₂.SameTokens w'

/-- The tokens of the pool are not ETH. -/
def Pool.Assets (pool : Pool) : Prop := pool.settleToken ≠ 0 ∧ pool.pledgeToken ≠ 0

/-! The two deposits ask first and write afterwards. -/

theorem depositLend_asked {p amount : Nat} (ht : (w.store.pools p).settleToken ≠ 0)
    (h : (depositLend env p amount).run w = .ok ((), w')) :
    ∃ b, Asked env w (.depositLend p amount) (.pull (w.store.pools p).settleToken env.sender amount)
      b w' := by
  obtain ⟨-, w₃, hbody, rfl⟩ := nonReentrant_ok.mp h
  simp only [storage_rules, Tx.rules, and_assoc, exists_and_left, exists_eq_left,
    exists_const] at hbody
  obtain ⟨-, -, -, -, -, n, w₂, hrecv, -, -, -, w₄, hpush, -, rfl⟩ := hbody
  obtain ⟨-, -, b, hanswer⟩ := receiveToken_answered ht hrecv
  refine ⟨b, w.guarded, w₂, rfl, hanswer, ?_⟩
  rcases hpush with ⟨-, rfl⟩ | ⟨-, rfl⟩ <;> exact ⟨rfl, rfl⟩

theorem depositBorrow_asked {p amount : Nat} (ht : (w.store.pools p).pledgeToken ≠ 0)
    (h : (depositBorrow env p amount).run w = .ok ((), w')) :
    ∃ b, Asked env w (.depositBorrow p amount)
      (.pull (w.store.pools p).pledgeToken env.sender amount) b w' := by
  obtain ⟨-, w₃, hbody, rfl⟩ := nonReentrant_ok.mp h
  simp only [storage_rules, Tx.rules, and_assoc, exists_and_left, exists_eq_left,
    exists_const] at hbody
  obtain ⟨-, -, -, -, -, n, w₂, hrecv, w₄, hpush, -, -, rfl⟩ := hbody
  obtain ⟨-, -, b, hanswer⟩ := receiveToken_answered ht hrecv
  refine ⟨b, w.guarded, w₂, rfl, hanswer, ?_⟩
  rcases hpush with ⟨-, rfl⟩ | ⟨-, rfl⟩ <;> exact ⟨rfl, rfl⟩

/-! The payments to lenders: the flag is set, or the sp tokens are burned, before the token is
asked. -/

theorem refundLend_asked {p : Nat} (ht : (w.store.pools p).settleToken ≠ 0)
    (h : (refundLend env p).run w = .ok ((), w')) :
    ∃ b, Asked env w (.refundLend p) (.pay (w.store.pools p).settleToken env.sender
      ((w.store.pools p).lendRefund (w.store.lendInfos p env.sender))) b w' := by
  obtain ⟨-, w₃, hbody, rfl⟩ := nonReentrant_ok.mp h
  simp only [storage_rules, Tx.rules, and_assoc, exists_and_left, exists_eq_left,
    exists_const] at hbody
  obtain ⟨-, -, -, -, -, -, -, -, -, -, hpos, hpay⟩ := hbody
  obtain ⟨b, hanswer⟩ := transferToken_answered hpos ht hpay
  exact ⟨b, _, w₃, rfl, hanswer, rfl, rfl⟩

theorem withdrawLend_asked (hq : Quiet env) {p n : Nat} (ht : (w.store.pools p).settleToken ≠ 0)
    (h : (withdrawLend env p n).run w = .ok ((), w')) :
    ∃ b, Asked env w (.withdrawLend p n) (.pay (w.store.pools p).settleToken env.sender
      ((w.store.pools p).lendRedemption n)) b w' := by
  obtain ⟨-, w₃, hbody, rfl⟩ := nonReentrant_ok.mp h
  simp only [storage_rules, Tx.rules, and_assoc, exists_and_left, exists_eq_left,
    exists_const] at hbody
  obtain ⟨-, -, -, -, _, w₁, hburn, redeemed, w₂, hredeem, hpos, hpay⟩ := hbody
  rw [hq.burn hburn] at hredeem hpay
  obtain ⟨-, -, -, rfl, rfl⟩ := Pool.redeems_iff.mp hredeem
  obtain ⟨b, hanswer⟩ := transferToken_answered hpos ht hpay
  exact ⟨b, w₂, w₃, World.after_eq hburn, hanswer, rfl, rfl⟩

theorem emergencyLendWithdrawal_asked {p : Nat} (ht : (w.store.pools p).settleToken ≠ 0)
    (h : (emergencyLendWithdrawal env p).run w = .ok ((), w')) :
    ∃ b, Asked env w (.emergencyLendWithdrawal p) (.pay (w.store.pools p).settleToken env.sender
      (w.store.lendInfos p env.sender).amount) b w' := by
  obtain ⟨-, w₃, hbody, rfl⟩ := nonReentrant_ok.mp h
  simp only [storage_rules, Tx.rules, and_assoc, exists_and_left, exists_eq_left,
    exists_const] at hbody
  obtain ⟨-, -, -, -, hpos, -, hpay⟩ := hbody
  obtain ⟨b, hanswer⟩ := transferToken_answered hpos ht hpay
  exact ⟨b, _, w₃, rfl, hanswer, rfl, rfl⟩

/-! The payments to borrowers: the refund asks first and sets the flag afterwards; a claim mints and
a redemption burns jp tokens before. -/

theorem refundBorrow_asked {p : Nat} (ht : (w.store.pools p).pledgeToken ≠ 0)
    (h : (refundBorrow env p).run w = .ok ((), w')) :
    ∃ b, Asked env w (.refundBorrow p) (.pay (w.store.pools p).pledgeToken env.sender
      ((w.store.pools p).borrowRefund (w.store.borrowInfos p env.sender))) b w' := by
  obtain ⟨-, w₃, hbody, rfl⟩ := nonReentrant_ok.mp h
  simp only [storage_rules, Tx.rules, and_assoc, exists_and_left, exists_eq_left,
    exists_const] at hbody
  obtain ⟨-, -, -, -, -, -, -, -, -, -, hpos, _, w₂, hpay, rfl⟩ := hbody
  obtain ⟨b, hanswer⟩ := transferToken_answered hpos ht hpay
  exact ⟨b, w.guarded, w₂, rfl, hanswer, rfl, rfl⟩

theorem claimBorrow_asked (hq : Quiet env) {p : Nat} (ht : (w.store.pools p).settleToken ≠ 0)
    (hpos : 0 < (w.store.pools p).loan (w.store.borrowInfos p env.sender))
    (h : (claimBorrow env p).run w = .ok ((), w')) :
    ∃ b, Asked env w (.claimBorrow p) (.pay (w.store.pools p).settleToken env.sender
      ((w.store.pools p).loan (w.store.borrowInfos p env.sender))) b w' := by
  obtain ⟨-, w₃, hbody, rfl⟩ := nonReentrant_ok.mp h
  simp only [storage_rules, Tx.rules, and_assoc, exists_and_left, exists_eq_left,
    exists_const] at hbody
  obtain ⟨-, -, -, -, -, -, -, -, -, -, w₁, hmint, hrest⟩ := hbody
  obtain ⟨hworld, hs⟩ : Call.requestWorld env w (.claimBorrow p) = some w₁ ∧
      w₁.store = w.guarded.store := by
    simp only [Call.requestWorld]
    rcases hmint with ⟨hjp, _, _, hmint, -, rfl⟩ | ⟨hjp, rfl⟩
    · rw [if_pos (show (w.store.pools p).jpToken ≠ 0 from hjp)]
      exact ⟨World.after_eq hmint, hq.mint hmint⟩
    · rw [if_neg (show ¬ (w.store.pools p).jpToken ≠ 0 from hjp)]
      exact ⟨rfl, rfl⟩
  rw [hs] at hrest
  obtain ⟨-, -, w₂, hpay, rfl⟩ := hrest
  rcases hpay with ⟨-, hpay⟩ | ⟨hzero, -⟩
  · obtain ⟨b, hanswer⟩ := transferToken_answered hpos ht hpay
    exact ⟨b, w₁, w₂, hworld, hanswer, rfl, rfl⟩
  · exact absurd hpos hzero

theorem withdrawBorrow_asked (hq : Quiet env) {p n : Nat} (ht : (w.store.pools p).pledgeToken ≠ 0)
    (hpos : 0 < (w.store.pools p).borrowRedemption n)
    (h : (withdrawBorrow env p n).run w = .ok ((), w')) :
    ∃ b, Asked env w (.withdrawBorrow p n) (.pay (w.store.pools p).pledgeToken env.sender
      ((w.store.pools p).borrowRedemption n)) b w' := by
  obtain ⟨-, w₃, hbody, rfl⟩ := nonReentrant_ok.mp h
  simp only [storage_rules, Tx.rules, and_assoc, exists_and_left, exists_eq_left,
    exists_const] at hbody
  obtain ⟨-, -, -, -, w₁, hburn, hrest⟩ := hbody
  obtain ⟨hworld, hs⟩ : Call.requestWorld env w (.withdrawBorrow p n) = some w₁ ∧
      w₁.store = w.guarded.store := by
    simp only [Call.requestWorld]
    rcases hburn with ⟨hjp, _, _, hburn, -, rfl⟩ | ⟨hjp, rfl⟩
    · rw [if_pos (show (w.store.pools p).jpToken ≠ 0 from hjp)]
      exact ⟨World.after_eq hburn, hq.burn hburn⟩
    · rw [if_neg (show ¬ (w.store.pools p).jpToken ≠ 0 from hjp)]
      exact ⟨rfl, rfl⟩
  rw [hs] at hrest
  obtain ⟨-, -, redeemed, w₂, hredeem, hpay⟩ := hrest
  obtain ⟨-, -, -, rfl, rfl⟩ := Pool.redeems_iff.mp hredeem
  rcases hpay with ⟨-, hpay⟩ | ⟨hzero, -⟩
  · obtain ⟨b, hanswer⟩ := transferToken_answered hpos ht hpay
    exact ⟨b, w₂, w₃, hworld, hanswer, rfl, rfl⟩
  · exact absurd hpos hzero

theorem emergencyBorrowWithdrawal_asked {p : Nat} (ht : (w.store.pools p).pledgeToken ≠ 0)
    (h : (emergencyBorrowWithdrawal env p).run w = .ok ((), w')) :
    ∃ b, Asked env w (.emergencyBorrowWithdrawal p) (.pay (w.store.pools p).pledgeToken env.sender
      (w.store.borrowInfos p env.sender).pledgeAmount) b w' := by
  obtain ⟨-, w₃, hbody, rfl⟩ := nonReentrant_ok.mp h
  simp only [storage_rules, Tx.rules, and_assoc, exists_and_left, exists_eq_left,
    exists_const] at hbody
  obtain ⟨-, -, -, -, hpos, -, hpay⟩ := hbody
  obtain ⟨b, hanswer⟩ := transferToken_answered hpos ht hpay
  exact ⟨b, _, w₃, rfl, hanswer, rfl, rfl⟩

end Requests

/-! ## Payments

A token that answers `true` moved exactly the amount, one that answers `false` moved nothing. So the
payment was made exactly when the answer was `true`, and otherwise the question is what the call has
done already: it has set a flag or burned a claim token, and then it does not follow the money, or
it has burned nothing (`Call.Unbacked`). -/

section Payments

variable {env : Env} {w w₁ w' : World} {pool : Pool} {c : Call} {m : Move} {b : Bool}

/-- Nothing moved. -/
theorem ClaimsOnly.of_same (h : w.SameTokens w₁) : ClaimsOnly env pool w w₁ where
  balance t _ _ := by rw [h.1]
  transfers := ⟨[], by rw [h.2, List.append_nil], fun x hx => absurd hx List.not_mem_nil⟩

/-- A claim token is burned from the caller. -/
theorem ClaimsOnly.of_burn (ha : Answering env) {token : Address} {n : Nat} (hd : DebtToken env token)
    (hslot : token = pool.spToken ∨ token = pool.jpToken)
    (h : (env.burn token env.sender n).run w.guarded = .ok (b, w₁)) : ClaimsOnly env pool w w₁ where
  balance t hsp hjp := by
    apply (ha.burn_touched h).balance
    rcases hslot with rfl | rfl <;> assumption
  transfers := by
    refine ⟨_, (hd.burn h).2.2, ?_⟩
    intro x hx
    rw [List.mem_singleton.mp hx]
    exact ha.external

/-- A claim token is minted to the caller. -/
theorem ClaimsOnly.of_mint (ha : Answering env) {token : Address} {n : Nat} (hd : DebtToken env token)
    (hslot : token = pool.spToken ∨ token = pool.jpToken)
    (h : (env.mint token env.sender n).run w.guarded = .ok (b, w₁)) : ClaimsOnly env pool w w₁ where
  balance t hsp hjp := by
    apply (ha.mint_touched h).balance
    rcases hslot with rfl | rfl <;> assumption
  transfers := by
    refine ⟨_, (hd.mint h).2, ?_⟩
    intro x hx
    rw [List.mem_singleton.mp hx]
    exact ha.deployed.symm

/-- The answer is the one the token gives in the world of the request. -/
theorem granted_iff (hreq : c.request env w.store = some m) (h : Asked env w c m b w') :
    c.Granted env w ↔ b = true := by
  obtain ⟨w₁, w₂, hworld, hanswer, -⟩ := h
  constructor
  · intro hg
    rw [← hanswer.accepts]
    exact hg m w₁ hreq hworld
  · intro hb m' w₁' hreq' hworld'
    cases hreq.symm.trans hreq'
    cases hworld.symm.trans hworld'
    rw [hanswer.accepts, hb]

/-- A payment was made exactly when the token said so. -/
theorem paid_iff (ha : Answering env) {token : Address} {n : Nat} (hn : 0 < n)
    (hclaims : ∀ w₁, c.requestWorld env w = some w₁ → ClaimsOnly env pool w w₁)
    (h : Asked env w c (.pay token env.sender n) b w') : Paid env pool token n w w' ↔ b = true := by
  obtain ⟨w₁, w₂, hworld, hanswer, hledger, htransfers⟩ := h
  have hc := hclaims w₁ hworld
  rcases ha.transfer_answer hanswer with ⟨rfl, hm⟩ | ⟨rfl, hsame⟩
  · refine iff_of_true (.inr ⟨w₁, hc, hm.enough, ?_, ?_⟩) rfl
    · rw [hledger, hm.balance]
    · rw [htransfers, hm.transfers]
  · -- the receipt of a refused payment holds no transfer by the contract
    refine iff_of_false ?_ Bool.false_ne_true
    rintro (hzero | ⟨w₃, hc', hm⟩)
    · exact absurd hzero hn.ne'
    obtain ⟨ts, hts, hsrc⟩ := hc.transfers
    obtain ⟨ts', hts', -⟩ := hc'.transfers
    have hreceipt : ts' ++ [⟨token, env.this, env.sender, n⟩] = ts := by
      have hboth : w.transfers ++ (ts' ++ [⟨token, env.this, env.sender, n⟩]) = w.transfers ++ ts := by
        rw [← List.append_assoc, ← hts', ← hm.transfers, htransfers, hsame.2, hts]
      exact List.append_cancel_left hboth
    have hmem : (⟨token, env.this, env.sender, n⟩ : Transfer) ∈ ts := by
      rw [← hreceipt]
      exact List.mem_append_right _ (List.mem_singleton_self _)
    exact hsrc _ hmem rfl

/-- The outcomes of a payment against the token's answer. -/
theorem payment_iff (ha : Answering env) {pay : Payment} (hpay : c.payment env w.store = some pay)
    (hreq : c.request env w.store =
      if 0 < pay.amount then some (.pay pay.token env.sender pay.amount) else none)
    (hclaims : ∀ w₁, c.requestWorld env w = some w₁ → ClaimsOnly env (w.store.pools pay.poolId) w w₁)
    (hasked : 0 < pay.amount → ∃ b, Asked env w c (.pay pay.token env.sender pay.amount) b w')
    (hrefused : 0 < pay.amount → Asked env w c (.pay pay.token env.sender pay.amount) false w' →
      (Unchanged (w.store.pools pay.poolId) w w' ↔ c.Unbacked w.store)) :
    (∀ pay, c.payment env w.store = some pay →
        Paid env (w.store.pools pay.poolId) pay.token pay.amount w w' ∨
          Unchanged (w.store.pools pay.poolId) w w') ↔
      c.Granted env w ∨ c.Unbacked w.store := by
  simp only [hpay, Option.some.injEq, forall_eq']
  rcases Nat.eq_zero_or_pos pay.amount with hzero | hpos
  · have hgranted : c.Granted env w := by
      intro m w₁ hm
      rw [hreq, if_neg (Nat.not_lt.mpr hzero.le)] at hm
      cases hm
    exact iff_of_true (.inl (.inl hzero)) (.inl hgranted)
  · obtain ⟨b, hb⟩ := hasked hpos
    rw [if_pos hpos] at hreq
    have hpaid := paid_iff ha hpos hclaims hb
    have hgranted := granted_iff hreq hb
    cases b with
    | true => exact iff_of_true (.inl (hpaid.mpr rfl)) (.inl (hgranted.mpr rfl))
    | false =>
        have hnot : ¬ Paid env (w.store.pools pay.poolId) pay.token pay.amount w w' :=
          fun h => Bool.false_ne_true (hpaid.mp h)
        have hnot' : ¬ c.Granted env w := fun h => Bool.false_ne_true (hgranted.mp h)
        rw [or_iff_right hnot, or_iff_right hnot']
        exact hrefused hpos hb

/-- A refused call left the tokens as they were when it asked. -/
theorem Asked.refused (ha : Answering env) {token : Address} {n : Nat}
    (h : Asked env w c (.pay token env.sender n) false w') (hworld : c.requestWorld env w = some w₁) :
    w₁.SameTokens w' := by
  obtain ⟨w₃, w₂, hworld', hanswer, hsame⟩ := h
  cases hworld.symm.trans hworld'
  rcases ha.transfer_answer hanswer with ⟨hb, -⟩ | ⟨-, hkept⟩
  · exact absurd hb Bool.false_ne_true
  · exact hkept.trans hsame

/-- What was burned from a holder is missing. -/
theorem burned_ne {token holder : Address} {n : Nat} (hn : 0 < n) (hd : DebtToken env token)
    (h : (env.burn token holder n).run w = .ok (b, w₁)) :
    w₁.ledger.balance token ≠ w.ledger.balance token := by
  intro heq
  obtain ⟨hle, hbal, -⟩ := hd.burn h
  have hholder := congrFun (hbal.symm.trans heq) holder
  rw [Holdings.debit_apply, if_pos rfl] at hholder
  omega

end Payments

/-! ## Deposits

A deposit credits the amount it asks for, so it agrees with the money exactly when the token moved
it. -/

section Deposits

variable {env : Env} {w w' : World} {c : Call}

/-- The balance of the contract grew by the deposit exactly when the token said so. -/
theorem pulled (ha : Answering env) {token : Address} {amount : Nat} {b : Bool}
    (hworld : c.requestWorld env w = some w.guarded)
    (h : Asked env w c (.pull token env.sender amount) b w') :
    w'.ledger.balance token env.this =
      w.ledger.balance token env.this + if b = true then amount else 0 := by
  obtain ⟨w₁, w₂, hworld', hanswer, hledger, -⟩ := h
  cases hworld.symm.trans hworld'
  rw [hledger]
  rcases ha.transferFrom_answer hanswer with ⟨rfl, hm⟩ | ⟨rfl, hsame⟩
  · rw [hm.balance, Function.update_self, Holdings.move_dst _ ha.external.symm, if_pos rfl]
    rfl
  · rw [hsame.1, if_neg Bool.false_ne_true]
    rfl

/-- The credits of a deposit agree with the money exactly when the token moved it. -/
theorem deposit_iff {b : Bool} {amount balance balance' credit credit' supply supply' : Nat}
    (hpos : 0 < amount) (hbalance : balance' = balance + if b = true then amount else 0)
    (hcredit : credit' = credit + amount) (hsupply : supply' = supply + amount) :
    (∃ n, balance' = balance + n ∧ credit' = credit + n ∧ supply' = supply + n) ↔ b = true := by
  constructor
  · rintro ⟨n, hn, hn', -⟩
    by_contra hb
    rw [if_neg hb] at hbalance
    omega
  · intro hb
    rw [if_pos hb] at hbalance
    exact ⟨amount, hbalance, hcredit, hsupply⟩

/-- In a token, what is credited is what is asked for. -/
theorem Received.of_token {token : Address} {amount n : Nat} {moves : List Move}
    (h : Received env token amount n moves) (ht : token ≠ 0) : n = amount ∧ 0 < amount := by
  cases h with
  | eth => exact absurd rfl ht
  | token _ _ hpos => exact ⟨rfl, hpos⟩

/-- A deposit of a lender. -/
theorem depositLend_follows (ha : Answering env) {p amount : Nat}
    (hassets : (w.store.pools p).Assets) (h : (depositLend env p amount).run w = .ok ((), w')) :
    Call.Follows env w w' (.depositLend p amount) ↔ Call.Granted env w (.depositLend p amount) := by
  obtain ⟨b, hasked⟩ := depositLend_asked hassets.1 h
  obtain ⟨moves, heff, -⟩ := depositLend_does ha.toQuiet h
  rw [granted_iff rfl hasked]
  generalize hs : w'.store = s at heff
  cases heff with
  | depositLend hex hstate hend hrecv hmin hmax =>
      obtain ⟨hn, hpos⟩ := hrecv.of_token hassets.1
      have hbook : w'.store.book p = (w.store.book p).recordLend env.sender amount := by
        rw [hs, hn, Storage.recordLend_book, if_pos rfl]
      have hcredit := congrArg (fun b => (b.lendInfo env.sender).amount) hbook
      have hsupply := congrArg (fun b => b.pool.lendSupply) hbook
      simp only [Book.recordLend, Function.update_self] at hcredit
      exact deposit_iff hpos (pulled ha rfl hasked) hcredit hsupply

/-- A deposit of a borrower. -/
theorem depositBorrow_follows (ha : Answering env) {p amount : Nat}
    (hassets : (w.store.pools p).Assets) (h : (depositBorrow env p amount).run w = .ok ((), w')) :
    Call.Follows env w w' (.depositBorrow p amount) ↔
      Call.Granted env w (.depositBorrow p amount) := by
  obtain ⟨b, hasked⟩ := depositBorrow_asked hassets.2 h
  obtain ⟨moves, heff, -⟩ := depositBorrow_does ha.toQuiet h
  rw [granted_iff rfl hasked]
  generalize hs : w'.store = s at heff
  cases heff with
  | depositBorrow hex hstate hend hrecv =>
      obtain ⟨hn, hpos⟩ := hrecv.of_token hassets.2
      have hbook : w'.store.book p = (w.store.book p).recordBorrow env.sender amount := by
        rw [hs, hn, Storage.recordBorrow_book, if_pos rfl]
      have hcredit := congrArg (fun b => (b.borrowInfo env.sender).pledgeAmount) hbook
      have hsupply := congrArg (fun b => b.pool.borrowSupply) hbook
      simp only [Book.recordBorrow, Function.update_self] at hcredit
      exact deposit_iff hpos (pulled ha rfl hasked) hcredit hsupply

end Deposits

/-! ## One lemma for each payment

Each of the seven says in which world the token is asked and what the call has given up by then; the
rest is `payment_iff`. -/

section Calls

variable {env : Env} {w w' : World} {p n : Nat}

/-- A flag that a call sets has changed. -/
theorem changed_of_flag {pool : Pool} (flag : Storage → Bool) (hbefore : flag w.store = false)
    (hafter : flag w'.store = true) : ¬ Unchanged pool w w' := by
  intro hu
  rw [hu.store, hbefore] at hafter
  exact Bool.false_ne_true hafter

/-- The outcomes of a payment that nothing but a flag comes before, which is set, paid or not. -/
theorem payment_flag_iff (ha : Answering env) {c : Call} {pay : Payment}
    (hpay : c.payment env w.store = some pay)
    (hreq : c.request env w.store =
      if 0 < pay.amount then some (.pay pay.token env.sender pay.amount) else none)
    (hsame : ∀ w₁, c.requestWorld env w = some w₁ → w.SameTokens w₁)
    (hasked : ∃ b, Asked env w c (.pay pay.token env.sender pay.amount) b w')
    (flag : Storage → Bool) (hbefore : flag w.store = false) (hafter : flag w'.store = true)
    (hbacked : ¬ c.Unbacked w.store) :
    (∀ pay, c.payment env w.store = some pay →
        Paid env (w.store.pools pay.poolId) pay.token pay.amount w w' ∨
          Unchanged (w.store.pools pay.poolId) w w') ↔
      c.Granted env w ∨ c.Unbacked w.store := by
  apply payment_iff ha hpay hreq (fun w₁ hworld => .of_same (hsame w₁ hworld)) fun _ => hasked
  intro _ _
  exact iff_of_false (changed_of_flag flag hbefore hafter) hbacked

theorem refundLend_follows (ha : Answering env) (hassets : (w.store.pools p).Assets)
    (h : (refundLend env p).run w = .ok ((), w')) :
    Call.Follows env w w' (.refundLend p) ↔
      Call.Granted env w (.refundLend p) ∨ Call.Unbacked w.store (.refundLend p) := by
  obtain ⟨moves, heff, -⟩ := refundLend_does ha.toQuiet h
  generalize hs : w'.store = s at heff
  cases heff with
  | refundLend hex hstate htime hamount hflag hexcess hpos =>
      apply payment_flag_iff ha rfl rfl ?_ (refundLend_asked hassets.1 h)
        (fun s => (s.lendInfos p env.sender).refunded) hflag ?_ id
      · intro w₁ hworld
        cases hworld
        exact ⟨rfl, rfl⟩
      · simp [hs]

theorem withdrawLend_follows (ha : Answering env) (hassets : (w.store.pools p).Assets)
    (hclaim : ∀ token, token ≠ 0 → token = (w.store.pools p).spToken ∨
      token = (w.store.pools p).jpToken → DebtToken env token)
    (h : (withdrawLend env p n).run w = .ok ((), w')) :
    Call.Follows env w w' (.withdrawLend p n) ↔
      Call.Granted env w (.withdrawLend p n) ∨ Call.Unbacked w.store (.withdrawLend p n) := by
  obtain ⟨moves, heff, -⟩ := withdrawLend_does ha.toQuiet h
  generalize hs : w'.store = s at heff
  cases heff with
  | withdrawLend hex hstate hamount hsp htime hsettle hpos =>
      have hd := hclaim _ hsp (.inl rfl)
      refine payment_iff ha rfl rfl ?_ (fun _ => withdrawLend_asked ha.toQuiet hassets.1 h) ?_
      · intro w₁ hworld
        obtain ⟨b, hburn⟩ := World.after_some hworld
        exact .of_burn ha hd (.inl rfl) hburn
      · -- the sp tokens are burned, paid or not
        rintro - hasked
        refine iff_of_false (fun hu => ?_) id
        obtain ⟨w₁, -, hworld, -⟩ := id hasked
        obtain ⟨b, hburn⟩ := World.after_some hworld
        apply burned_ne hamount hd hburn
        rw [← (hasked.refused ha hworld).1]
        exact hu.spBalance

theorem emergencyLendWithdrawal_follows (ha : Answering env) (hassets : (w.store.pools p).Assets)
    (h : (emergencyLendWithdrawal env p).run w = .ok ((), w')) :
    Call.Follows env w w' (.emergencyLendWithdrawal p) ↔
      Call.Granted env w (.emergencyLendWithdrawal p) ∨
        Call.Unbacked w.store (.emergencyLendWithdrawal p) := by
  obtain ⟨moves, heff, -⟩ := emergencyLendWithdrawal_does ha.toQuiet h
  generalize hs : w'.store = s at heff
  cases heff with
  | emergencyLendWithdrawal hex hstate hamount hflag =>
      apply payment_flag_iff ha rfl rfl ?_ (emergencyLendWithdrawal_asked hassets.1 h)
        (fun s => (s.lendInfos p env.sender).refunded) hflag ?_ id
      · intro w₁ hworld
        cases hworld
        exact ⟨rfl, rfl⟩
      · simp [hs]

theorem refundBorrow_follows (ha : Answering env) (hassets : (w.store.pools p).Assets)
    (h : (refundBorrow env p).run w = .ok ((), w')) :
    Call.Follows env w w' (.refundBorrow p) ↔
      Call.Granted env w (.refundBorrow p) ∨ Call.Unbacked w.store (.refundBorrow p) := by
  obtain ⟨moves, heff, -⟩ := refundBorrow_does ha.toQuiet h
  generalize hs : w'.store = s at heff
  cases heff with
  | refundBorrow hex hamount hflag hstate hexcess htime hpos =>
      apply payment_flag_iff ha rfl rfl ?_ (refundBorrow_asked hassets.2 h)
        (fun s => (s.borrowInfos p env.sender).settled) hflag ?_ id
      · intro w₁ hworld
        cases hworld
        exact ⟨rfl, rfl⟩
      · simp [hs]

theorem claimBorrow_follows (ha : Answering env) (hassets : (w.store.pools p).Assets)
    (hclaim : ∀ token, token ≠ 0 → token = (w.store.pools p).spToken ∨
      token = (w.store.pools p).jpToken → DebtToken env token)
    (h : (claimBorrow env p).run w = .ok ((), w')) :
    Call.Follows env w w' (.claimBorrow p) ↔
      Call.Granted env w (.claimBorrow p) ∨ Call.Unbacked w.store (.claimBorrow p) := by
  obtain ⟨moves, heff, -⟩ := claimBorrow_does ha.toQuiet h
  generalize hs : w'.store = s at heff
  cases heff with
  | claimBorrow hex hamount hflag hstate htime hsupply =>
      refine payment_iff ha rfl rfl ?_ (fun hpos => claimBorrow_asked ha.toQuiet hassets.1 hpos h) ?_
      · intro w₁ hworld
        simp only [Call.requestWorld] at hworld
        split at hworld
        · next hjp =>
            obtain ⟨b, hmint⟩ := World.after_some hworld
            exact .of_mint ha (hclaim _ hjp (.inr rfl)) (.inr rfl) hmint
        · cases hworld
          exact .of_same ⟨rfl, rfl⟩
      · intro _ _
        refine iff_of_false (changed_of_flag (fun s => (s.borrowInfos p env.sender).settled) hflag ?_) id
        simp [hs]

theorem withdrawBorrow_follows (ha : Answering env) (hassets : (w.store.pools p).Assets)
    (hclaim : ∀ token, token ≠ 0 → token = (w.store.pools p).spToken ∨
      token = (w.store.pools p).jpToken → DebtToken env token)
    (h : (withdrawBorrow env p n).run w = .ok ((), w')) :
    Call.Follows env w w' (.withdrawBorrow p n) ↔
      Call.Granted env w (.withdrawBorrow p n) ∨ Call.Unbacked w.store (.withdrawBorrow p n) := by
  obtain ⟨moves, heff, -⟩ := withdrawBorrow_does ha.toQuiet h
  generalize hs : w'.store = s at heff
  cases heff with
  | withdrawBorrow hex hstate hamount htime htotal =>
      refine payment_iff ha rfl rfl ?_
        (fun hpos => withdrawBorrow_asked ha.toQuiet hassets.2 hpos h) ?_
      · intro w₁ hworld
        simp only [Call.requestWorld] at hworld
        split at hworld
        · next hjp =>
            obtain ⟨b, hburn⟩ := World.after_some hworld
            exact .of_burn ha (hclaim _ hjp (.inr rfl)) (.inr rfl) hburn
        · cases hworld
          exact .of_same ⟨rfl, rfl⟩
      · intro _ hasked
        show Unchanged (w.store.pools p) w w' ↔ (w.store.pools p).jpToken = 0
        obtain ⟨w₁, -, hworld, -⟩ := id hasked
        have hrefused := hasked.refused ha hworld
        simp only [Call.requestWorld] at hworld
        split at hworld
        · next hjp =>
            -- the jp tokens are burned, paid or not
            obtain ⟨b, hburn⟩ := World.after_some hworld
            refine iff_of_false (fun hu => ?_) hjp
            apply burned_ne hamount (hclaim _ hjp (.inr rfl)) hburn
            rw [← hrefused.1]
            exact hu.jpBalance
        · next hjp =>
            -- there are no jp tokens to give up
            cases hworld
            refine iff_of_true ⟨hs, ?_, ?_⟩ (not_not.mp hjp)
            · rw [hrefused.1]
              rfl
            · rw [hrefused.1]
              rfl

theorem emergencyBorrowWithdrawal_follows (ha : Answering env) (hassets : (w.store.pools p).Assets)
    (h : (emergencyBorrowWithdrawal env p).run w = .ok ((), w')) :
    Call.Follows env w w' (.emergencyBorrowWithdrawal p) ↔
      Call.Granted env w (.emergencyBorrowWithdrawal p) ∨
        Call.Unbacked w.store (.emergencyBorrowWithdrawal p) := by
  obtain ⟨moves, heff, -⟩ := emergencyBorrowWithdrawal_does ha.toQuiet h
  generalize hs : w'.store = s at heff
  cases heff with
  | emergencyBorrowWithdrawal hex hstate hamount hflag =>
      apply payment_flag_iff ha rfl rfl ?_ (emergencyBorrowWithdrawal_asked hassets.2 h)
        (fun s => (s.borrowInfos p env.sender).settled) hflag ?_ id
      · intro w₁ hworld
        cases hworld
        exact ⟨rfl, rfl⟩
      · simp [hs]

end Calls

/-! ## Reachable pools

`createPool` refuses the zero address for both assets, so that no pool has ETH for one. -/

/-- Every pool has two tokens. -/
def Storage.Listed (s : Storage) : Prop := ∀ p, s.Exists p → (s.pools p).Assets

section Listed

variable {s s' : Storage}

/-- A pool that exists keeps its tokens. -/
theorem Effect.same_tokens {env : Env} {c : Call} {moves : List Move} (h : Effect env s c moves s')
    {p : Nat} (hex : s.Exists p) : (s'.pools p).settleToken = (s.pools p).settleToken ∧
      (s'.pools p).pledgeToken = (s.pools p).pledgeToken := by
  show (s'.book p).pool.settleToken = _ ∧ (s'.book p).pool.pledgeToken = _
  by_cases hp : c.poolId = some p
  · cases h with
    | createPool | createPoolInfo | setOracle | setDebtToken | setFee | setFeeAddress | setMinAmount
    | setPause | setSwapRouterAddress => cases hp
    | setPoolState | setPoolSpToken | setPoolJpToken | settleExecution | settleUndone | finish =>
        cases hp
        rw [Storage.setPool_book, if_pos rfl]
        exact ⟨rfl, rfl⟩
    | depositLend =>
        cases hp
        rw [Storage.recordLend_book, if_pos rfl]
        exact ⟨rfl, rfl⟩
    | depositBorrow =>
        cases hp
        rw [Storage.recordBorrow_book, if_pos rfl]
        exact ⟨rfl, rfl⟩
    | liquidate =>
        cases hp
        rw [Storage.liquidated_book, if_pos rfl]
        exact ⟨rfl, rfl⟩
    | _ => exact ⟨rfl, rfl⟩
  · -- the next identifier is not one that exists
    rw [h.frame hp fun heq => absurd (heq ▸ hex.2) (Nat.not_succ_le_self _)]
    exact ⟨rfl, rfl⟩

theorem Effect.listed {env : Env} {c : Call} {moves : List Move} (h : Effect env s c moves s')
    (hs : s.Listed) : s'.Listed := by
  intro p hex
  by_cases hold : s.Exists p
  · obtain ⟨hsettle, hpledge⟩ := h.same_tokens hold
    unfold Pool.Assets
    rw [hsettle, hpledge]
    exact hs p hold
  · have hfresh := h.new_pool hold hex
    exact ⟨hfresh.settleToken, hfresh.pledgeToken⟩

theorem QuietStep.listed {w w' : World} {e : Event} (hw : w.store.Listed) (h : QuietStep w e w') :
    w'.store.Listed := by
  obtain ⟨hstep, hq⟩ := h
  cases hstep with
  | call env c hrun =>
      obtain ⟨moves, heff, -⟩ := transaction_effect hq hrun
      exact heff.listed hw
  | outside => exact hw

theorem reachable_listed {admin multiSignature : Address} {ledger : Ledger} {es : List Event}
    {w : World} (hrun : Run QuietStep (deployed admin multiSignature ledger) es w) :
    w.store.Listed := by
  apply Run.invariant (I := fun _ w => w.store.Listed) _ (fun hw h => QuietStep.listed hw h) hrun
  intro p hex
  exact absurd hex.2 (Nat.not_le.mpr hex.1)

end Listed

/-! ## Every call

The two deposits and the seven payments together. A call that asks nothing of a token follows the
money as it is. -/

/-- The world in which a transaction starts: no transfer is on its receipt. -/
def World.opened (w : World) : World := { w with transfers := [] }

section Claim

variable {admin multiSignature : Address} {ledger : Ledger} {es : List Event} {env : Env}
  {w w' : World} {c : Call}

/-- **The records follow the money exactly when no token refuses.** Of any successful call: the token
accepts the transfer it is asked for, or the call gives nothing up. -/
theorem money_followed (hrun : Run QuietStep (deployed admin multiSignature ledger) es w)
    (ha : Answering env)
    (hclaim : ∀ p token, c.poolId = some p → token ≠ 0 → token = (w.store.pools p).spToken ∨
      token = (w.store.pools p).jpToken → DebtToken env token)
    (h : (c.transaction env).run w.opened = .ok ((), w')) :
    c.Follows env w.opened w' ↔ c.Granted env w.opened ∨ c.Unbacked w.store := by
  have hlisted := reachable_listed hrun
  obtain ⟨moves, heff, -⟩ := transaction_effect ha.toQuiet h
  have hassets {p : Nat} (hp : c.poolId = some p) : (w.opened.store.pools p).Assets :=
    hlisted p (heff.exists hp)
  obtain ⟨-, -, hbody⟩ := Call.transaction_ok.mp h
  cases c with
  | depositLend p n =>
      rw [depositLend_follows ha (hassets rfl) hbody]
      exact (or_iff_left id).symm
  | depositBorrow p n =>
      rw [depositBorrow_follows ha (hassets rfl) hbody]
      exact (or_iff_left id).symm
  | refundLend p => exact refundLend_follows ha (hassets rfl) hbody
  | withdrawLend p n => exact withdrawLend_follows ha (hassets rfl) (hclaim p · rfl) hbody
  | emergencyLendWithdrawal p => exact emergencyLendWithdrawal_follows ha (hassets rfl) hbody
  | refundBorrow p => exact refundBorrow_follows ha (hassets rfl) hbody
  | claimBorrow p => exact claimBorrow_follows ha (hassets rfl) (hclaim p · rfl) hbody
  | withdrawBorrow p n => exact withdrawBorrow_follows ha (hassets rfl) (hclaim p · rfl) hbody
  | emergencyBorrowWithdrawal p => exact emergencyBorrowWithdrawal_follows ha (hassets rfl) hbody
  | _ =>
      apply iff_of_true
      · intro pay hpay
        cases hpay
      · left
        intro m w₁ hasked
        cases hasked

end Claim

/-! The lender of the small pool deposits 1000, at a token that takes them and at one that answers
`false`. -/

/-- The same environment, with tokens that refuse every transfer. -/
def Env.refusing (env : Env) : Env :=
  { env with
    transfer := fun _ _ _ => pure false
    transferFrom := fun _ _ _ _ => pure false }

theorem Exact.refusing {env : Env} (he : Exact env) (hthis : env.this ≠ 0) :
    Answering env.refusing where
  external := he.external
  deployed := hthis
  transfer h := by rw [(Tx.pure_ok.mp h).2]
  transferFrom h := by rw [(Tx.pure_ok.mp h).2]
  approve := he.approve
  sendEth := he.sendEth
  mint := he.mint
  burn := he.burn
  swapExactTokensForTokens := he.swapExactTokensForTokens
  swapExactETHForTokens := he.swapExactETHForTokens
  swapExactTokensForETH := he.swapExactTokensForETH
  transfer_answer h := by
    obtain ⟨rfl, rfl⟩ := Tx.pure_ok.mp h
    exact .inr ⟨rfl, .refl _⟩
  transferFrom_answer h := by
    obtain ⟨rfl, rfl⟩ := Tx.pure_ok.mp h
    exact .inr ⟨rfl, .refl _⟩
  mint_touched := he.mint_touched
  burn_touched := he.burn_touched

theorem Exact.answering {env : Env} (h : Exact env) (hthis : env.this ≠ 0) : Answering env where
  toQuiet := h.toQuiet
  external := h.external
  deployed := hthis
  transfer_answer hrun := .inl (h.transfer_moved hrun)
  transferFrom_answer hrun := .inl (h.transferFrom_moved hrun)
  mint_touched := h.mint_touched
  burn_touched := h.burn_touched

theorem World.next_ok {w : World} {env : Env} {c : Call} (h : w.succeeds env c = true) :
    (c.transaction env).run w.opened = .ok ((), w.next env c) := by
  obtain ⟨w', hrun⟩ := Tx.exists_of_isOk h
  unfold World.next
  rw [hrun]
  exact hrun

theorem afterCreation_quiet :
    ∃ es, Run QuietStep (deployed 10 50 World.openingLedger) es World.afterCreation := by
  have hplays : (deployed 10 50 World.openingLedger).plays (World.setup ++ [World.creation]) = true := by
    decide +kernel
  exact ⟨_, (World.play_run hplays).mono HonestStep.quiet⟩

theorem money_followed_deposit :
    Call.Follows (standardEnv (World.setting 11 10 10)) World.afterCreation.opened
        (World.afterCreation.next (standardEnv (World.setting 11 10 10)) (.depositLend 1 1000))
        (.depositLend 1 1000) ↔
      Call.Granted (standardEnv (World.setting 11 10 10)) World.afterCreation.opened
        (.depositLend 1 1000) ∨ Call.Unbacked World.afterCreation.store (.depositLend 1 1000) :=
  afterCreation_quiet.elim fun _ hrun =>
    money_followed hrun ((standard_exact (by decide) (by decide)).answering (by decide))
      (fun _ token _ _ _ => standard_debtToken _ token) (World.next_ok (by decide +kernel))

/-- The token refuses, nothing moves, and the lender is credited all the same. -/
theorem money_not_followed : ∃ (env : Env) (w w' : World),
    (∃ es, Run QuietStep (deployed 10 50 World.openingLedger) es w) ∧ Answering env ∧
    (∀ token, DebtToken env token) ∧
    (Call.transaction env (.depositLend 1 1000)).run w.opened = .ok ((), w') ∧
    (w'.store.lendInfos 1 env.sender).amount = 1000 ∧
    w'.ledger.balance (w.store.pools 1).settleToken env.this = 0 ∧
    ¬ Call.Follows env w.opened w' (.depositLend 1 1000) := by
  have hexact : Exact (standardEnv (World.setting 11 10 10)) :=
    standard_exact (by decide) (by decide)
  refine ⟨(standardEnv (World.setting 11 10 10)).refusing, _, _, afterCreation_quiet,
    hexact.refusing (by decide), fun token => ?_, World.next_ok (by decide +kernel),
    by decide +kernel, by decide +kernel, ?_⟩
  · have hd := standard_debtToken (World.setting 11 10 10) token
    exact ⟨hd.mint, hd.burn⟩
  · rintro ⟨n, hbalance, hcredit, -⟩
    have hzero : 0 = 0 + n := hbalance
    have hgrown : 1000 = 0 + n := hcredit
    omega

end Pledge.Contract
