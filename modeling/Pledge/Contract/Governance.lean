import Pledge.Arith.Rounding
import Pledge.Contract.Refusal

/-!
# Two ways out of a pool

A lender leaves a pool through `emergencyLendWithdrawal` where it is `UNDONE`, and through `claimLend`
and `refundLend` where it was settled. The flags keep the two apart as long as a pool never changes
between these states, but `setPoolState` moves it to any state. A borrower has one flag for all three
payouts. A lender has two, and each way out checks a different one; and a deposit clears the flags of
the account. And where a pool was settled again between the claim of a lender and its refund of the
excess, an amount can be part of both.

`exits_excluded` follows flags and amounts through runs with any calls of `setPoolState`: each amount
leaves once as long as no step is one of those that lose track of a payout (`Call.KeepsTrack`).
-/

namespace Pledge.Contract

open Pledge.Evm

/-! ## What an account was paid

Counted from the history alone, by who made which call with success, so that none of it depends on
the flags that are to be judged. -/

/-- The account `u` makes the call `k` in this step. -/
def Event.makes (k : Call) (u : Address) : Event → Nat
  | .call env c _ => if c = k ∧ env.sender = u then 1 else 0
  | .outside => 0

/-- What a lender gets by this call for its deposit, in sp tokens or in settle tokens. -/
def Call.lenderGets (s : Storage) (u : Address) : Call → Nat
  | .claimLend p => (s.pools p).spShare (s.lendInfos p u)
  | .refundLend p => (s.pools p).lendRefund (s.lendInfos p u)
  | .emergencyLendWithdrawal p => (s.lendInfos p u).amount
  | _ => 0

/-- What `u` gets in this step for what it lent to the pool `p`. -/
def Event.obtains (p : Nat) (u : Address) (w : World) : Event → Nat
  | .call env c _ => if c.poolId = some p ∧ env.sender = u then c.lenderGets w.store u else 0
  | .outside => 0

/-- The steps so far, each with the world it was made in. -/
abbrev History := List (World × Event)

/-- How often `u` made the call `k` with success. -/
def made (k : Call) (u : Address) (h : History) : Nat := total (Event.makes k u) (h.map Prod.snd)

/-- What `u` got so far for what it lent to the pool `p`. -/
def obtained (p : Nat) (u : Address) (h : History) : Nat := total (fun x => x.2.obtains p u x.1) h

/-- Every amount left the pool `p` at most once for the account `u`: as a lender by an emergency
refund, or by at most one claim and one refund of the excess, in all no more than the deposit; as a
borrower by one of three payouts. -/
structure ExitsOnce (p : Nat) (u : Address) (h : History) (w : World) : Prop where
  claims : made (.claimLend p) u h ≤ 1
  refunds : made (.refundLend p) u h + made (.emergencyLendWithdrawal p) u h ≤ 1
  emergency : made (.emergencyLendWithdrawal p) u h = 0 ∨ made (.claimLend p) u h = 0
  amounts : obtained p u h ≤ (w.store.lendInfos p u).amount
  payouts : made (.refundBorrow p) u h + made (.claimBorrow p) u h +
    made (.emergencyBorrowWithdrawal p) u h ≤ 1

/-- The part of its deposits that `pool` lends is no larger than the part that `pool'` lends. -/
def Pool.LendsAtMost (pool pool' : Pool) : Prop :=
  pool.settleAmountLend * pool'.lendSupply ≤ pool'.settleAmountLend * pool.lendSupply

/-- The flags still tell what was paid after this call, which comes after the steps `h`. A deposit
clears flags, so none may be set. The emergency refund does not look at `claimed`. When a pool leaves
`UNDONE`, an emergency refund looks like a refund of the excess, so there may have been none. Where a
pool was settled more than once, a claim and a refund of one lender may not overlap. -/
def Call.KeepsTrack (env : Env) (h : History) (s : Storage) : Call → Prop
  | .depositLend p _ => (s.lendInfos p env.sender).claimed = false ∧
      (s.lendInfos p env.sender).refunded = false
  | .depositBorrow p _ => (s.borrowInfos p env.sender).settled = false
  | .claimLend p => ∀ x ∈ h, x.2.makes (.refundLend p) env.sender = 1 →
      (s.pools p).LendsAtMost (x.1.store.pools p)
  | .refundLend p => ∀ x ∈ h, x.2.makes (.claimLend p) env.sender = 1 →
      (x.1.store.pools p).LendsAtMost (s.pools p)
  | .emergencyLendWithdrawal p => (s.lendInfos p env.sender).claimed = false
  | .setPoolState p newState => (s.pools p).state = .undone → newState ≠ .undone →
      ∀ u, made (.emergencyLendWithdrawal p) u h = 0
  | _ => True

/-- Nobody calls back, and the flags keep track. -/
def Event.KeepsTrack (h : History) (w : World) : Event → Prop
  | .call env c _ => Contract.Quiet env ∧ c.KeepsTrack env h w.store
  | .outside => True

/-- Steps of the contract, `setPoolState` included, after which the flags keep track. -/
abbrev TrackedStep : History × World → Event → History × World → Prop :=
  Restrict (Recorded Step) fun h e _ => e.KeepsTrack h.1 h.2

/-! ## Where an account stands

`Book.Lender` lists the places a lender may be in, each with its flags, how often it made each of
its calls, and what it got. A call leads from one place to another: a deposit stays with the first,
a claim and a refund of the excess lead on in either order, and an emergency refund leads to an end.
The borrower needs no such list, since one flag stands for its three calls. -/

section Tally

variable {env : Env} {s s' : Storage} {w : World} {b b' : Book} {c : Call} {moves : List Move}
  {p : Nat} {u : Address} {h : History} {e : Event} {ts : List Transfer}

@[simp] theorem made_nil (k : Call) (u : Address) : made k u [] = 0 := rfl

/-- One more step. -/
@[simp] theorem made_snoc (k : Call) (u : Address) (h : History) (x : World × Event) :
    made k u (h ++ [x]) = made k u h + x.2.makes k u := by
  rw [made, List.map_append]
  exact total_snoc ..

/-- One more step. -/
@[simp] theorem obtained_snoc (p : Nat) (u : Address) (h : History) (x : World × Event) :
    obtained p u (h ++ [x]) = obtained p u h + x.2.obtains p u x.1 := total_snoc ..

@[simp] theorem Event.makes_call (k : Call) (u : Address) (env : Env) (c : Call)
    (ts : List Transfer) :
    (Event.call env c ts).makes k u = if c = k ∧ env.sender = u then 1 else 0 := rfl

@[simp] theorem Event.obtains_call (p : Nat) (u : Address) (w : World) (env : Env) (c : Call)
    (ts : List Transfer) : (Event.call env c ts).obtains p u w =
      if c.poolId = some p ∧ env.sender = u then c.lenderGets w.store u else 0 := rfl

/-- The calls that pay a lender of the pool `p` out. -/
def lenderExits (p : Nat) : List Call := [.claimLend p, .refundLend p, .emergencyLendWithdrawal p]

/-- The calls that pay a borrower of the pool `p` out. -/
def borrowerExits (p : Nat) : List Call :=
  [.refundBorrow p, .claimBorrow p, .emergencyBorrowWithdrawal p]

/-- How often `u` made each of these calls. -/
def counts (ks : List Call) (u : Address) (h : History) : List Nat := ks.map (made · u h)

/-- A step that is none of these calls of the account. -/
theorem counts_snoc {ks : List Call} {x : World × Event} (hnone : ∀ k ∈ ks, x.2.makes k u = 0) :
    counts ks u (h ++ [x]) = counts ks u h := by
  refine List.map_congr_left fun k hk => ?_
  rw [made_snoc, hnone k hk, Nat.add_zero]

/-- Nobody gets anything without one of the calls. -/
theorem obtains_none (hnone : ∀ k ∈ lenderExits p, e.makes k u = 0) : e.obtains p u w = 0 := by
  cases e with
  | outside => rfl
  | call env c ts =>
      rw [Event.obtains_call]
      split
      · next hown =>
          obtain ⟨hp, hu⟩ := hown
          have hout {k : Call} (hk : k ∈ lenderExits p) : c ≠ k := by
            rintro rfl
            simpa [hu] using hnone c hk
          cases c with
          | claimLend q => cases hp; exact absurd rfl (hout (by simp [lenderExits]))
          | refundLend q => cases hp; exact absurd rfl (hout (by simp [lenderExits]))
          | emergencyLendWithdrawal q => cases hp; exact absurd rfl (hout (by simp [lenderExits]))
          | _ => rfl
      · rfl

/-- Where the lender `u` of the pool `p` stands after the steps `h`, by the flags of its record. -/
inductive Book.Lender (b : Book) (p : Nat) (u : Address) (h : History) : Prop
  | waits (hclaimed : (b.lendInfo u).claimed = false) (hrefunded : (b.lendInfo u).refunded = false)
      (hcounts : counts (lenderExits p) u h = [0, 0, 0]) (hobtained : obtained p u h = 0)
  | claimed {w : World} {e : Event} (hclaimed : (b.lendInfo u).claimed = true)
      (hrefunded : (b.lendInfo u).refunded = false)
      (hcounts : counts (lenderExits p) u h = [1, 0, 0])
      (hmem : (w, e) ∈ h) (hmade : e.makes (.claimLend p) u = 1)
      (hsupply : 0 < (w.store.pools p).lendSupply)
      (hlent : (w.store.pools p).settleAmountLend ≤ (w.store.pools p).lendSupply)
      (hobtained : obtained p u h = (w.store.pools p).spShare (b.lendInfo u))
  | refunded {w : World} {e : Event} (hclaimed : (b.lendInfo u).claimed = false)
      (hrefunded : (b.lendInfo u).refunded = true)
      (hcounts : counts (lenderExits p) u h = [0, 1, 0])
      (hmem : (w, e) ∈ h) (hmade : e.makes (.refundLend p) u = 1)
      (hexcess : (w.store.pools p).settleAmountLend < (w.store.pools p).lendSupply)
      (hobtained : obtained p u h = (w.store.pools p).lendRefund (b.lendInfo u))
  | both (hclaimed : (b.lendInfo u).claimed = true) (hrefunded : (b.lendInfo u).refunded = true)
      (hcounts : counts (lenderExits p) u h = [1, 1, 0])
      (hobtained : obtained p u h ≤ (b.lendInfo u).amount)
  | emergency (hclaimed : (b.lendInfo u).claimed = false) (hrefunded : (b.lendInfo u).refunded = true)
      (hcounts : counts (lenderExits p) u h = [0, 0, 1]) (hstate : b.pool.state = .undone)
      (hobtained : obtained p u h = (b.lendInfo u).amount)

/-- The borrower has one flag for its three ways out. -/
def Book.Borrower (b : Book) (p : Nat) (u : Address) (h : History) : Prop :=
  (counts (borrowerExits p) u h).sum ≤ (b.borrowInfo u).settled.toNat

/-- What the flags of an account in the book of the pool `p` say about its payouts so far. -/
structure Book.Tally (b : Book) (p : Nat) (u : Address) (h : History) : Prop where
  lender : b.Lender p u h
  borrower : b.Borrower p u h

/-- A share of the deposits is no more than the deposit. -/
theorem Pool.spShare_le {pool : Pool} (hlent : pool.settleAmountLend ≤ pool.lendSupply)
    (info : LendInfo) : pool.spShare info ≤ info.amount :=
  Nat.div_le_of_le_mul (Nat.mul_le_mul_right info.amount hlent)

/-- A share of the excess is no more than the deposit. -/
theorem Pool.lendRefund_le (pool : Pool) (info : LendInfo) : pool.lendRefund info ≤ info.amount :=
  Nat.div_le_of_le_mul (Nat.mul_le_mul_right info.amount (Nat.sub_le _ _))

/-- What was lent and what was in excess do not overlap. -/
theorem Pool.LendsAtMost.share_le {pool pool' : Pool} (hless : pool.LendsAtMost pool')
    (hsupply : 0 < pool.lendSupply) (hexcess : pool'.settleAmountLend < pool'.lendSupply)
    (info : LendInfo) : pool.spShare info + pool'.lendRefund info ≤ info.amount :=
  Arith.share_add_rest_le hsupply (Nat.zero_lt_of_lt hexcess) hexcess.le hless info.amount

/-- Every place allows this. -/
theorem Book.Tally.exitsOnce (ht : (w.store.book p).Tally p u h) : ExitsOnce p u h w := by
  have hamounts : obtained p u h ≤ (w.store.lendInfos p u).amount := by
    cases ht.lender with
    | waits _ _ _ hobtained => exact hobtained.trans_le (Nat.zero_le _)
    | claimed _ _ _ _ _ _ hlent hobtained => exact hobtained.trans_le (Pool.spShare_le hlent _)
    | refunded _ _ _ _ _ _ hobtained => exact hobtained.trans_le (Pool.lendRefund_le _ _)
    | both _ _ _ hobtained => exact hobtained
    | emergency _ _ _ _ hobtained => exact hobtained.le
  have hpayouts : (counts (borrowerExits p) u h).sum ≤ 1 := ht.borrower.trans (Bool.toNat_le _)
  cases ht.lender with
  | waits _ _ hcounts | claimed _ _ hcounts | refunded _ _ hcounts | both _ _ hcounts
  | emergency _ _ hcounts =>
      simp only [counts, lenderExits, List.map_cons, List.map_nil, List.cons.injEq, and_true]
        at hcounts
      obtain ⟨hclaims, hrefunds, hemergency⟩ := hcounts
      constructor
      · omega
      · omega
      · omega
      · exact hamounts
      · simpa [counts, borrowerExits, Nat.add_assoc] using hpayouts

/-- A step that pays the lender nothing leaves its position alone, if it leaves its record alone and
keeps an undone pool undone after an emergency refund. -/
theorem Book.Lender.keep {x : World × Event} (hl : b.Lender p u h)
    (hnone : ∀ k ∈ lenderExits p, x.2.makes k u = 0) (hinfo : b'.lendInfo u = b.lendInfo u)
    (hstate : b.pool.state = .undone → made (.emergencyLendWithdrawal p) u h ≠ 0 →
      b'.pool.state = .undone) : b'.Lender p u (h ++ [x]) := by
  have hobtains : obtained p u (h ++ [x]) = obtained p u h := by
    rw [obtained_snoc, obtains_none hnone, Nat.add_zero]
  have hsame := counts_snoc (h := h) hnone
  cases hl with
  | waits hclaimed hrefunded hcounts hobtained =>
      rw [← hinfo] at hclaimed hrefunded
      exact .waits hclaimed hrefunded (hsame.trans hcounts) (hobtains.trans hobtained)
  | claimed hclaimed hrefunded hcounts hmem hmade hsupply hlent hobtained =>
      rw [← hinfo] at hclaimed hrefunded hobtained
      exact .claimed hclaimed hrefunded (hsame.trans hcounts) (List.mem_append_left _ hmem) hmade
        hsupply hlent (hobtains.trans hobtained)
  | refunded hclaimed hrefunded hcounts hmem hmade hexcess hobtained =>
      rw [← hinfo] at hclaimed hrefunded hobtained
      exact .refunded hclaimed hrefunded (hsame.trans hcounts) (List.mem_append_left _ hmem) hmade
        hexcess (hobtains.trans hobtained)
  | both hclaimed hrefunded hcounts hobtained =>
      rw [← hinfo] at hclaimed hrefunded hobtained
      exact .both hclaimed hrefunded (hsame.trans hcounts) (hobtains.trans_le hobtained)
  | emergency hclaimed hrefunded hcounts hundone hobtained =>
      rw [← hinfo] at hclaimed hrefunded hobtained
      refine .emergency hclaimed hrefunded (hsame.trans hcounts) ?_ (hobtains.trans hobtained)
      simp only [counts, lenderExits, List.map_cons, List.map_nil, List.cons.injEq, and_true]
        at hcounts
      apply hstate hundone
      rw [hcounts.2.2]
      exact Nat.one_ne_zero

/-- A lender without flags may deposit more. -/
theorem Book.Lender.deposit {x : World × Event} (hl : b.Lender p u h)
    (hclaimed : (b.lendInfo u).claimed = false) (hrefunded : (b.lendInfo u).refunded = false)
    (hnone : ∀ k ∈ lenderExits p, x.2.makes k u = 0)
    (hflags : (b'.lendInfo u).claimed = false ∧ (b'.lendInfo u).refunded = false) :
    b'.Lender p u (h ++ [x]) := by
  cases hl with
  | waits _ _ hcounts hobtained =>
      refine .waits hflags.1 hflags.2 ((counts_snoc hnone).trans hcounts) ?_
      rw [obtained_snoc, obtains_none hnone, hobtained]
  | claimed hc | both hc => exact absurd (hc.symm.trans hclaimed) Bool.noConfusion
  | refunded _ hr | emergency _ hr => exact absurd (hr.symm.trans hrefunded) Bool.noConfusion

/-- A claim in a settled pool, by a lender that has not claimed. -/
theorem Book.Lender.claimLend (hl : (w.store.book p).Lender p env.sender h)
    (hstate : (w.store.pools p).state ≠ .undone)
    (hflag : (w.store.lendInfos p env.sender).claimed = false)
    (hsupply : 0 < (w.store.pools p).lendSupply)
    (hlent : (w.store.pools p).settleAmountLend ≤ (w.store.pools p).lendSupply)
    (htrack : (Call.claimLend p).KeepsTrack env h w.store) {n : Nat} :
    ((w.store.book p).setLendInfo env.sender
      { w.store.lendInfos p env.sender with claimed := true, lendAmount := n }).Lender p env.sender
        (h ++ [(w, .call env (.claimLend p) ts)]) := by
  have hgets : (Event.call env (.claimLend p) ts).obtains p env.sender w =
      (w.store.pools p).spShare (w.store.lendInfos p env.sender) := by
    simp [Call.poolId, Call.lenderGets]
  cases hl with
  | waits hclaimed hrefunded hcounts hobtained =>
      refine .claimed (w := w) (e := .call env (.claimLend p) ts) ?_ ?_ ?_ (by simp) (by simp) hsupply
        hlent ?_
      · simp [Book.setLendInfo]
      · simpa [Book.setLendInfo] using hrefunded
      · simpa [counts, lenderExits] using hcounts
      · rw [obtained_snoc, hobtained, Nat.zero_add, hgets]
        simp [Book.setLendInfo, Pool.spShare]
  | claimed hc | both hc => exact absurd (hc.symm.trans hflag) Bool.noConfusion
  | refunded hclaimed hrefunded hcounts hmem hmade hexcess hobtained =>
      refine .both ?_ ?_ ?_ ?_
      · simp [Book.setLendInfo]
      · simpa [Book.setLendInfo] using hrefunded
      · simpa [counts, lenderExits] using hcounts
      · have hle := (htrack _ hmem hmade).share_le hsupply hexcess (w.store.lendInfos p env.sender)
        rw [obtained_snoc, hobtained, hgets, Nat.add_comm]
        simpa [Book.setLendInfo] using hle
  | emergency _ _ _ hundone => exact absurd hundone hstate

/-- A refund of the excess in a settled pool, by a lender without a refund. -/
theorem Book.Lender.refundLend (hl : (w.store.book p).Lender p env.sender h)
    (hflag : (w.store.lendInfos p env.sender).refunded = false)
    (hexcess : (w.store.pools p).settleAmountLend < (w.store.pools p).lendSupply)
    (htrack : (Call.refundLend p).KeepsTrack env h w.store) :
    ((w.store.book p).setLendInfo env.sender
      { w.store.lendInfos p env.sender with refunded := true }).Lender p env.sender
        (h ++ [(w, .call env (.refundLend p) ts)]) := by
  have hgets : (Event.call env (.refundLend p) ts).obtains p env.sender w =
      (w.store.pools p).lendRefund (w.store.lendInfos p env.sender) := by
    simp [Call.poolId, Call.lenderGets]
  cases hl with
  | waits hclaimed hrefunded hcounts hobtained =>
      refine .refunded (w := w) (e := .call env (.refundLend p) ts) ?_ ?_ ?_ (by simp) (by simp)
        hexcess ?_
      · simpa [Book.setLendInfo] using hclaimed
      · simp [Book.setLendInfo]
      · simpa [counts, lenderExits] using hcounts
      · rw [obtained_snoc, hobtained, Nat.zero_add, hgets]
        simp [Book.setLendInfo, Pool.lendRefund]
  | claimed hclaimed hrefunded hcounts hmem hmade hsupply hlent hobtained =>
      refine .both ?_ ?_ ?_ ?_
      · simpa [Book.setLendInfo] using hclaimed
      · simp [Book.setLendInfo]
      · simpa [counts, lenderExits] using hcounts
      · have hle := (htrack _ hmem hmade).share_le hsupply hexcess (w.store.lendInfos p env.sender)
        rw [obtained_snoc, hobtained, hgets]
        simpa [Book.setLendInfo] using hle
  | refunded _ hr | both _ hr | emergency _ hr =>
      exact absurd (hr.symm.trans hflag) Bool.noConfusion

/-- An emergency refund, by a lender without flags. -/
theorem Book.Lender.emergencyLendWithdrawal (hl : (w.store.book p).Lender p env.sender h)
    (hstate : (w.store.pools p).state = .undone)
    (hflag : (w.store.lendInfos p env.sender).refunded = false)
    (htrack : (Call.emergencyLendWithdrawal p).KeepsTrack env h w.store) :
    ((w.store.book p).setLendInfo env.sender
      { w.store.lendInfos p env.sender with refunded := true }).Lender p env.sender
        (h ++ [(w, .call env (.emergencyLendWithdrawal p) ts)]) := by
  cases hl with
  | waits hclaimed hrefunded hcounts hobtained =>
      refine .emergency ?_ ?_ ?_ hstate ?_
      · simpa [Book.setLendInfo] using hclaimed
      · simp [Book.setLendInfo]
      · simpa [counts, lenderExits] using hcounts
      · simp [hobtained, Book.setLendInfo, Call.poolId, Call.lenderGets]
  | claimed hc | both hc => exact absurd (hc.symm.trans htrack) Bool.noConfusion
  | refunded _ hr | emergency _ hr => exact absurd (hr.symm.trans hflag) Bool.noConfusion

theorem Book.Borrower.keep {x : World × Event} (hb : b.Borrower p u h)
    (hnone : ∀ k ∈ borrowerExits p, x.2.makes k u = 0)
    (hsettled : (b'.borrowInfo u).settled = (b.borrowInfo u).settled) :
    b'.Borrower p u (h ++ [x]) := by
  rw [Book.Borrower, counts_snoc hnone, hsettled]
  exact hb

/-- A payout to a borrower: all three need the flag clear and leave it set. -/
theorem Book.Borrower.pay (hb : b.Borrower p env.sender h) (hc : c ∈ borrowerExits p)
    (hflag : (b.borrowInfo env.sender).settled = false) {info : BorrowInfo}
    (hinfo : info.settled = true) :
    (b.setBorrowInfo env.sender info).Borrower p env.sender (h ++ [(w, .call env c ts)]) := by
  rw [Book.Borrower, hflag, Bool.toNat_false, Nat.le_zero] at hb
  simp only [borrowerExits, List.mem_cons, List.not_mem_nil, or_false] at hc
  simp only [Book.Borrower, counts, borrowerExits, List.map_cons, List.map_nil, List.sum_cons,
    List.sum_nil] at hb ⊢
  rcases hc with rfl | rfl | rfl <;> simp [Book.setBorrowInfo, hinfo] <;> omega

/-- A step that is no exit of the account. -/
theorem Book.Tally.keep {x : World × Event} (ht : b.Tally p u h)
    (hnone : ∀ k ∈ lenderExits p ++ borrowerExits p, x.2.makes k u = 0)
    (hinfo : b'.lendInfo u = b.lendInfo u)
    (hsettled : (b'.borrowInfo u).settled = (b.borrowInfo u).settled)
    (hstate : b.pool.state = .undone → made (.emergencyLendWithdrawal p) u h ≠ 0 →
      b'.pool.state = .undone) : b'.Tally p u (h ++ [x]) where
  lender := ht.lender.keep (fun k hk => hnone k (List.mem_append_left _ hk)) hinfo hstate
  borrower := ht.borrower.keep (fun k hk => hnone k (List.mem_append_right _ hk)) hsettled

/-- A call about another pool is no exit of this one. -/
theorem makes_none (hp : c.poolId ≠ some p) :
    ∀ k ∈ lenderExits p ++ borrowerExits p, (Event.call env c ts).makes k u = 0 := by
  intro k hk
  rw [Event.makes_call, if_neg]
  rintro ⟨rfl, -⟩
  simp only [lenderExits, borrowerExits, List.cons_append, List.nil_append, List.mem_cons,
    List.not_mem_nil, or_false] at hk
  rcases hk with rfl | rfl | rfl | rfl | rfl | rfl <;> exact hp rfl

/-- A call that writes to the records of its sender only is not seen by another account. -/
theorem Book.Tally.of_own (ht : b.Tally p u h) (hpool : b'.pool.state = b.pool.state)
    (hlend : ∀ v ≠ env.sender, b'.lendInfo v = b.lendInfo v)
    (hborrow : ∀ v ≠ env.sender, b'.borrowInfo v = b.borrowInfo v)
    (hown : env.sender = u → b'.Tally p u (h ++ [(w, .call env c ts)])) :
    b'.Tally p u (h ++ [(w, .call env c ts)]) := by
  by_cases hu : env.sender = u
  · exact hown hu
  · refine ht.keep (fun k _ => ?_) (hlend u (Ne.symm hu)) ?_ fun hundone _ => hpool.trans hundone
    · rw [Event.makes_call, if_neg]
      exact fun h => hu h.2
    · rw [hborrow u (Ne.symm hu)]

/-- Of every pool no more was lent than was supplied. -/
def Storage.Lent (s : Storage) : Prop := ∀ p, (s.pools p).settleAmountLend ≤ (s.pools p).lendSupply

theorem Book.Step.lent {a : Act} (hs : Step b a b')
    (hb : b.pool.settleAmountLend ≤ b.pool.lendSupply) :
    b'.pool.settleAmountLend ≤ b'.pool.lendSupply := by
  cases hs with
  | create hfresh => rw [hfresh.settleAmountLend]; exact Nat.zero_le _
  | lend => exact hb.trans (Nat.le_add_right _ _)
  | settle _ hlend => exact (b.pool.settlement_le hlend _ _).1
  | undo => exact Nat.le_refl _
  | _ => exact hb

theorem Effect.lent (heff : Effect env s c moves s') (hblank : s.Blank) (hs : s.Lent) : s'.Lent := by
  intro p
  cases hc : c.setsState with
  | false =>
      obtain ⟨a, ha, -⟩ := heff.lifecycle hblank hc p
      exact ha.lent (hs p)
  | true =>
      cases heff with
      | @setPoolState q =>
          by_cases hp : p = q
          · subst hp
            simpa using hs p
          · simpa [hp] using hs p
      | _ => cases hc

/-- **Every tracked call keeps the tally.** -/
theorem Effect.tally (heff : Effect env w.store c moves s') (hblank : w.store.Blank)
    (hlent : w.store.Lent) (htrack : c.KeepsTrack env h w.store)
    (ht : (w.store.book p).Tally p u h) : (s'.book p).Tally p u (h ++ [(w, .call env c ts)]) := by
  by_cases hp : c.poolId = some p
  · cases heff with
    | createPool | createPoolInfo | setOracle | setDebtToken | setFee | setFeeAddress | setMinAmount
    | setPause | setSwapRouterAddress => cases hp
    | setPoolState hex =>
        cases hp
        rw [Storage.setPool_book, if_pos rfl]
        refine ht.keep (by simp [lenderExits, borrowerExits]) rfl rfl fun hundone hrefunded => ?_
        by_contra hne
        exact hrefunded (htrack hundone hne u)
    | setPoolSpToken | setPoolJpToken =>
        cases hp
        rw [Storage.setPool_book, if_pos rfl]
        exact ht.keep (by simp [lenderExits, borrowerExits]) rfl rfl fun hundone _ => hundone
    | withdrawLend | withdrawBorrow =>
        exact ht.keep (by simp [lenderExits, borrowerExits]) rfl rfl fun hundone _ => hundone
    | settleExecution hex htime hstate | settleUndone hex htime hstate | finish hex htime hstate =>
        cases hp
        rw [Storage.setPool_book, if_pos rfl]
        refine ht.keep (by simp [lenderExits, borrowerExits]) rfl rfl fun hundone _ => ?_
        exact absurd (hundone.symm.trans hstate) (by decide)
    | liquidate hex hstate =>
        cases hp
        rw [Storage.liquidated_book, if_pos rfl]
        refine ht.keep (by simp [lenderExits, borrowerExits]) rfl ?_ fun hundone _ => ?_
        · simp only [Book.markLiquidated]
          split <;> rfl
        · exact absurd (hundone.symm.trans hstate) (by decide)
    | depositLend hex hstate =>
        cases hp
        rw [Storage.recordLend_book, if_pos rfl]
        refine ht.of_own rfl (fun v hv => by simp [Book.recordLend, hv]) (fun _ _ => rfl) ?_
        rintro rfl
        refine ⟨ht.lender.deposit htrack.1 htrack.2 (by simp [lenderExits]) ?_,
          ht.borrower.keep (by simp [borrowerExits]) rfl⟩
        simp [Book.recordLend]
    | depositBorrow hex hstate =>
        cases hp
        rw [Storage.recordBorrow_book, if_pos rfl]
        refine ht.of_own rfl (fun _ _ => rfl) (fun v hv => by simp [Book.recordBorrow, hv]) ?_
        rintro rfl
        refine ⟨ht.lender.keep (by simp [lenderExits]) rfl fun hundone _ => hundone,
          ht.borrower.keep (by simp [borrowerExits]) ?_⟩
        simpa [Book.recordBorrow] using htrack.symm
    | @claimLend p hex hstate hamount hflag hsp hsupply =>
        cases hp
        rw [Storage.setLendInfo_book, if_pos rfl]
        refine ht.of_own rfl (fun v hv => by simp [Book.setLendInfo, hv]) (fun _ _ => rfl) ?_
        rintro rfl
        exact ⟨ht.lender.claimLend hstate.ne_undone hflag hsupply (hlent p) htrack,
          ht.borrower.keep (by simp [borrowerExits]) rfl⟩
    | refundLend hex hstate htime hamount hflag hexcess =>
        cases hp
        rw [Storage.setLendInfo_book, if_pos rfl]
        refine ht.of_own rfl (fun v hv => by simp [Book.setLendInfo, hv]) (fun _ _ => rfl) ?_
        rintro rfl
        exact ⟨ht.lender.refundLend hflag hexcess htrack,
          ht.borrower.keep (by simp [borrowerExits]) rfl⟩
    | emergencyLendWithdrawal hex hstate hamount hflag =>
        cases hp
        rw [Storage.setLendInfo_book, if_pos rfl]
        refine ht.of_own rfl (fun v hv => by simp [Book.setLendInfo, hv]) (fun _ _ => rfl) ?_
        rintro rfl
        exact ⟨ht.lender.emergencyLendWithdrawal hstate hflag htrack,
          ht.borrower.keep (by simp [borrowerExits]) rfl⟩
    | refundBorrow hex hamount hflag | claimBorrow hex hamount hflag
    | emergencyBorrowWithdrawal hex hstate hamount hflag =>
        cases hp
        rw [Storage.setBorrowInfo_book, if_pos rfl]
        refine ht.of_own rfl (fun _ _ => rfl) (fun v hv => by simp [Book.setBorrowInfo, hv]) ?_
        rintro rfl
        exact ⟨ht.lender.keep (by simp [lenderExits]) rfl fun hundone _ => hundone,
          ht.borrower.pay (by simp [borrowerExits]) hflag rfl⟩
  · by_cases hnew : p = w.store.poolCounter + 1 → s'.poolCounter = w.store.poolCounter
    · rw [heff.frame hp hnew]
      exact ht.keep (makes_none hp) rfl rfl fun hundone _ => hundone
    · -- the pool is created by this call, so its book was blank and in `MATCH`
      push Not at hnew
      obtain ⟨rfl, hnew⟩ := hnew
      obtain ⟨-, -, -, pool, -, hbook⟩ := heff.creates hnew
      rw [hbook]
      refine ht.keep (makes_none hp) rfl rfl fun hundone _ => ?_
      rw [hblank _ fun hex => absurd hex.2 (Nat.not_succ_le_self _)] at hundone
      cases hundone

end Tally
/-! ## Runs -/

section Runs

variable {admin multiSignature : Address} {ledger : Ledger} {es : List Event} {w w' : World}
  {h : History} {e : Event}

/-- In a pool that was undone nobody has claimed. -/
def Book.Unclaimed (b : Book) : Prop := b.pool.state = .undone → ∀ u, (b.lendInfo u).claimed = false

/-- No action leads out of `UNDONE`, and claims are made in settled pools. -/
theorem Book.Unclaimed.step {b b' : Book} {a : Act} (hs : Step b a b') (hb : b.Sound)
    (h : b.Unclaimed) : b'.Unclaimed := by
  intro hundone u
  cases hs with
  | undo hstate => exact ((hb.untouched hstate).lend u).1
  | lend hstate => exact absurd (hundone.symm.trans hstate) (by decide)
  | claimLend hstate => exact absurd hundone hstate.ne_undone
  | create hfresh => exact absurd (hundone.symm.trans hfresh.state) (by decide)
  | emergencyLend | refundLend =>
      simp only [Book.setLendInfo, Function.update_apply]
      split
      · exact h hundone _
      · exact h hundone u
  | settle | finish | liquidate => cases hundone
  | _ => exact h hundone u

/-- What holds of the steps so far while no state is set by hand: every pool only went on from where
it was then, and the claims and refunds on record were made after its settlement. -/
def History.Regular (h : History) (w : World) : Prop :=
  ∀ x ∈ h, ∀ p, (x.1.store.pools p).Progress (w.store.pools p) ∧
    ∀ u, x.2.makes (.claimLend p) u = 1 ∨ x.2.makes (.refundLend p) u = 1 →
      (x.1.store.pools p).state ≠ .matching

/-- Between a claim and a refund the settlement of the pool stays as it is. -/
theorem History.Regular.same (hh : History.Regular h w) {x : World × Event} (hx : x ∈ h) {p : Nat}
    {u : Address} (hmade : x.2.makes (.claimLend p) u = 1 ∨ x.2.makes (.refundLend p) u = 1) :
    (x.1.store.pools p).LendsAtMost (w.store.pools p) ∧
      (w.store.pools p).LendsAtMost (x.1.store.pools p) := by
  obtain ⟨hprogress, hstate⟩ := hh x hx p
  obtain ⟨hsupply, -, hlent, -⟩ := hprogress.settled (hstate u hmade)
  rw [Pool.LendsAtMost, Pool.LendsAtMost, hsupply, hlent]
  exact ⟨Nat.le_refl _, Nat.le_refl _⟩

/-- While no state is set by hand, a call that succeeds keeps track. -/
theorem Effect.keepsTrack {env : Env} {s' : Storage} {c : Call} {moves : List Move}
    (heff : Effect env w.store c moves s') (hs : w.store.InOrder)
    (hunclaimed : ∀ p, (w.store.book p).Unclaimed) (hh : History.Regular h w)
    (hc : c.setsState = false) : c.KeepsTrack env h w.store := by
  cases heff with
  | @depositLend p _ _ _ _ hstate =>
      have hclear := ((hs.sound p).untouched hstate).lend env.sender
      exact ⟨hclear.1, hclear.2.2⟩
  | @depositBorrow p _ _ _ _ hstate => exact (((hs.sound p).untouched hstate).borrow env.sender).1
  | claimLend => exact fun x hx hmade => (hh.same hx (.inr hmade)).2
  | refundLend => exact fun x hx hmade => (hh.same hx (.inl hmade)).1
  | @emergencyLendWithdrawal p _ hstate => exact hunclaimed p hstate env.sender
  | setPoolState => cases hc
  | _ => trivial

theorem RegularStep.unclaimed (hs : RegularStep w e w') (hw : w.store.InOrder)
    (hunclaimed : ∀ p, (w.store.book p).Unclaimed) (p : Nat) : (w'.store.book p).Unclaimed := by
  obtain ⟨a, ha⟩ := hs.lifecycle hw p
  exact (hunclaimed p).step ha (hw.sound p)

/-- Claims and refunds are made in settled pools. -/
theorem RegularStep.settled (hs : RegularStep w e w') {p : Nat} {u : Address}
    (hmade : e.makes (.claimLend p) u = 1 ∨ e.makes (.refundLend p) u = 1) :
    (w.store.pools p).state ≠ .matching := by
  obtain ⟨hstep, hreg⟩ := hs
  cases hstep with
  | outside => rcases hmade with h | h <;> cases h
  | call env c h =>
      obtain ⟨moves, heff, -⟩ := transaction_effect hreg.1 h
      have hc : c = .claimLend p ∨ c = .refundLend p := by
        simp only [Event.makes_call, ite_eq_left_iff, zero_ne_one, imp_false, not_not] at hmade
        exact hmade.imp And.left And.left
      generalize w'.store = s' at heff
      rcases hc with rfl | rfl
      · cases heff with
        | claimLend hex hstate => exact hstate.ne_matching
      · cases heff with
        | refundLend hex hstate => exact hstate.ne_matching

theorem History.Regular.step (hh : History.Regular h w) (hs : RegularStep w e w')
    (hw : w.store.InOrder) : History.Regular (h ++ [(w, e)]) w' := by
  have hprogress (p : Nat) : (w.store.pools p).Progress (w'.store.pools p) := by
    obtain ⟨a, ha⟩ := hs.lifecycle hw p
    exact ha.progress
  intro x hx p
  rcases List.mem_append.mp hx with hold | hnew
  · obtain ⟨hbefore, hstate⟩ := hh x hold p
    exact ⟨hbefore.trans (hprogress p), hstate⟩
  · obtain rfl : x = (w, e) := List.mem_singleton.mp hnew
    exact ⟨hprogress p, fun u hmade => hs.settled hmade⟩

/-- **As long as no state is set by hand, the flags keep track.** -/
theorem run_tracked (hrun : Run RegularStep (deployed admin multiSignature ledger) es w) :
    ∃ h, h.map Prod.snd = es ∧
      Run TrackedStep ([], deployed admin multiSignature ledger) es (h, w) := by
  obtain ⟨h, hes, hrecorded⟩ := hrun.recorded
  refine ⟨h, hes, ?_⟩
  have halong := hrecorded.along
    (J := fun h => h.2.store.InOrder ∧ (∀ p, (h.2.store.book p).Unclaimed) ∧ History.Regular h.1 h.2)
    ⟨deployed_inOrder .., fun _ hundone => PoolState.noConfusion hundone,
      fun _ hx => absurd hx List.not_mem_nil⟩ ?_
  · refine halong.mono ?_
    rintro ⟨h, w⟩ e ⟨h', w'⟩ ⟨⟨hw, hunclaimed, hh⟩, hrecord, hstep, hreg⟩
    refine ⟨⟨hrecord, hstep⟩, ?_⟩
    cases hstep with
    | call env c hc =>
        obtain ⟨moves, heff, -⟩ := transaction_effect hreg.1 hc
        exact ⟨hreg.1, heff.keepsTrack hw hunclaimed hh hreg.2⟩
    | outside => trivial
  · rintro ⟨h, w⟩ e ⟨h', w'⟩ ⟨hw, hunclaimed, hh⟩ ⟨hrecord, hs⟩
    obtain rfl : h' = h ++ [(w, e)] := hrecord
    exact ⟨hs.inOrder hw, hs.unclaimed hw hunclaimed, hh.step hs hw⟩

/-- What every tracked step keeps: the flags of the account say what it was paid. -/
structure World.Tallied (p : Nat) (u : Address) (h : History) (w : World) : Prop where
  blank : w.store.Blank
  lent : w.store.Lent
  tally : (w.store.book p).Tally p u h

/-- One step, by the place that each party of the call is in. -/
theorem TrackedStep.tallied {x x' : History × World} (hs : TrackedStep x e x') {p : Nat}
    {u : Address} (ht : x.2.Tallied p u x.1) : x'.2.Tallied p u x'.1 := by
  obtain ⟨h, w⟩ := x
  obtain ⟨h', w'⟩ := x'
  obtain ⟨⟨hrecord, hstep⟩, htrack⟩ := hs
  obtain rfl : h' = h ++ [(w, e)] := hrecord
  replace hstep : Step w e w' := hstep
  cases hstep with
  | call env c hc =>
      obtain ⟨moves, heff, -⟩ := transaction_effect htrack.1 hc
      exact ⟨heff.blank ht.blank, heff.lent ht.blank ht.lent,
        heff.tally (w := w) ht.blank ht.lent htrack.2 ht.tally⟩
  | outside =>
      exact ⟨ht.blank, ht.lent,
        ht.tally.keep (fun _ _ => rfl) rfl rfl fun hundone _ => hundone⟩

/-- **Every amount leaves once**, on every run whose steps keep track, for every pool and account. -/
theorem exits_excluded
    (hrun : Run TrackedStep ([], deployed admin multiSignature ledger) es (h, w)) (p : Nat)
    (u : Address) : ExitsOnce p u h w := by
  have htallied : World.Tallied p u h w := by
    refine hrun.invariant (I := fun _ x => x.2.Tallied p u x.1) ?_ fun ht hs => hs.tallied ht
    refine ⟨fun _ _ => rfl, fun _ => Nat.le_refl _, .waits rfl rfl rfl rfl, ?_⟩
    simp [Book.Borrower, counts, borrowerExits]
  exact htallied.tally.exitsOnce

end Runs

namespace World

/-- Governance cancels the settled pool of the opening. -/
def cancelled : World :=
  afterOpening.next (standardEnv (setting 10 110 10)) (.setPoolState 1 .undone)

/-- The lender of the opening takes the emergency refund. -/
def afterRefund : World :=
  cancelled.next (standardEnv (setting 11 120 10)) (.emergencyLendWithdrawal 1)

/-- Governance moves the pool back. -/
def resumed : World :=
  afterRefund.next (standardEnv (setting 10 130 10)) (.setPoolState 1 .execution)

/-- The lender claims. -/
def afterBothExits : World := resumed.next (standardEnv (setting 11 140 10)) (.claimLend 1)

theorem setting_quiet {sender : Address} (timestamp : Nat) (hsender : sender ≠ 100) :
    Quiet (standardEnv (setting sender timestamp 10)) :=
  (standard_exact hsender (show 200 ≠ 100 by decide)).toQuiet

theorem next_tracked {h : History} {w : World} (env : Env) (c : Call)
    (hc : w.succeeds env c = true) (hq : Quiet env) (htrack : c.KeepsTrack env h w.store) :
    TrackedStep (h, w) (.call env c (w.next env c).transfers)
      (h ++ [(w, .call env c (w.next env c).transfers)], w.next env c) :=
  ⟨⟨rfl, next_step hc⟩, hq, htrack⟩

theorem refund_tracked : ∃ es h,
    Run TrackedStep ([], deployed 10 50 openingLedger) es (h, afterRefund) ∧
    made (.emergencyLendWithdrawal 1) 11 h = 1 := by
  obtain ⟨h, hes, hopening⟩ := run_tracked ((play_run opening_plays).mono HonestStep.regular)
  have hunclaimed : (cancelled.store.lendInfos 1 11).claimed = false := by decide +kernel
  have hsettled : (afterOpening.store.pools 1).state ≠ .undone := by decide +kernel
  have hcancelled := hopening.step (next_tracked (standardEnv (setting 10 110 10))
    (.setPoolState 1 .undone) (by decide +kernel) (setting_quiet 110 (by decide))
    fun hundone => absurd hundone hsettled)
  have hrefunded := hcancelled.step (next_tracked (standardEnv (setting 11 120 10))
    (.emergencyLendWithdrawal 1) (by decide +kernel) (setting_quiet 120 (by decide)) hunclaimed)
  refine ⟨_, _, hrefunded, ?_⟩
  rw [made_snoc, made_snoc, made, hes]
  decide +kernel

end World

/-- Governance cancels a settled pool, and the lender leaves once. -/
theorem exits_excluded_cancelled : ∃ es h,
    Run TrackedStep ([], deployed 10 50 World.openingLedger) es (h, World.afterRefund) ∧
    made (.emergencyLendWithdrawal 1) 11 h = 1 ∧ ∀ p u, ExitsOnce p u h World.afterRefund := by
  obtain ⟨es, h, hrun, hmade⟩ := World.refund_tracked
  exact ⟨es, h, hrun, hmade, exits_excluded hrun⟩

/-- Governance cancels a settled pool and later resumes it. The lender takes the deposit of 1000 back
in between, and then gets sp tokens for it as well. -/
theorem exits_combined : ∃ es h,
    Run (Recorded QuietStep) ([], deployed 10 50 World.openingLedger) es (h, World.afterBothExits) ∧
    made (.emergencyLendWithdrawal 1) 11 h = 1 ∧ made (.claimLend 1) 11 h = 1 ∧
    World.afterRefund.ledger.balance 1 11 = World.cancelled.ledger.balance 1 11 + 1000 ∧
    World.afterBothExits.ledger.balance 3 11 = World.resumed.ledger.balance 3 11 + 1000 ∧
    ¬ ExitsOnce 1 11 h World.afterBothExits := by
  have hopening : Run QuietStep (deployed 10 50 World.openingLedger) _ World.afterOpening :=
    (World.play_run World.opening_plays).mono HonestStep.quiet
  have hcancel : QuietStep World.afterOpening _ World.cancelled :=
    ⟨World.next_step (by decide +kernel), World.setting_quiet 110 (by decide)⟩
  have hrefund : QuietStep World.cancelled _ World.afterRefund :=
    ⟨World.next_step (by decide +kernel), World.setting_quiet 120 (by decide)⟩
  have hresume : QuietStep World.afterRefund _ World.resumed :=
    ⟨World.next_step (by decide +kernel), World.setting_quiet 130 (by decide)⟩
  have hclaim : QuietStep World.resumed _ World.afterBothExits :=
    ⟨World.next_step (by decide +kernel), World.setting_quiet 140 (by decide)⟩
  have hrun := (((hopening.step hcancel).step hrefund).step hresume).step hclaim
  obtain ⟨h, hes, hrun⟩ := hrun.recorded
  have hemergency : made (.emergencyLendWithdrawal 1) 11 h = 1 := by
    rw [made, hes]
    decide +kernel
  have hclaims : made (.claimLend 1) 11 h = 1 := by
    rw [made, hes]
    decide +kernel
  refine ⟨_, h, hrun, hemergency, hclaims, by decide +kernel, by decide +kernel, ?_⟩
  intro honce
  have hexclusive := honce.emergency
  rw [hemergency, hclaims] at hexclusive
  exact absurd hexclusive (by decide)

end Pledge.Contract
