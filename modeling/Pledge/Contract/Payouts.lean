import Pledge.Contract.Market
import Pledge.Contract.Refusal
import Pledge.Contract.Slots
import Pledge.Contract.Standard
import Pledge.Evm.Reorder

/-!
# Payouts in any order

Six functions pay an account what a settled pool owes it: refunds, claims and redemptions. Each reads
the pool, which none of them writes, and the records and claim tokens of its caller, so two calls of
different accounts do not disturb each other (`Till.swaps`). Any interleaving of the same calls leads
to the same records and balances and gives everyone the same receipts (`payouts_order_free`).

The one thing that calls share is the room in the supply of a claim token, which is a `uint256`: a
redemption makes room that a later claim may need. With room for all that the calls mint, the order is
free; without it, a claim that comes before the redemption reverts (`payouts_supply_full`).

The proof goes through an abstract till, which has the records of the accounts, the balances and the
receipts and nothing else of the contract. Calls are swapped there, and `World.Shows` ties the till to
the contract in both directions: what the contract did, the till does, and what the till can do, the
contract does.
-/

namespace Pledge.Contract

open Pledge.Evm

/-! ## What a pool owes to an account

A payout is described three times, always in the terms of the source: when it is due (`Pool.Due`),
what it writes into the records of the caller (`Pool.collect`) and which tokens move (`Pool.flows`).
All three read the pool and the caller's records and nothing else, and this is the whole reason why
the order does not matter: no payout writes a pool, and nobody's payout writes the records of
another account. -/

/-- The call asks the pool `p` for a payout. -/
def Call.collects (p : Nat) : Call → Bool
  | .refundLend q | .claimLend q | .withdrawLend q _ | .refundBorrow q | .claimBorrow q
  | .withdrawBorrow q _ => q = p
  | _ => false

/-- The records of an account with a pool. -/
structure Stake where
  lend : LendInfo
  borrow : BorrowInfo

namespace Pool

variable (pool : Pool)

/-- All time gates are open. -/
def Open (timestamp : Nat) : Prop :=
  pool.settleTime ≤ timestamp ∧ (pool.state.Closed → pool.redeemTime < timestamp)

/-- What a payout checks besides the time: the state, the caller's records, the range of the products
and that there is something to pay. -/
def Due (paused : Bool) (st : Stake) : Call → Prop
  | .refundLend _ => paused = false ∧ pool.state.Settled ∧ 0 < st.lend.amount ∧
      st.lend.refunded = false ∧ pool.settleAmountLend < pool.lendSupply ∧
      (pool.lendSupply - pool.settleAmountLend) * st.lend.amount < Tx.uint256 ∧
      0 < pool.lendRefund st.lend
  | .claimLend _ => pool.state.Settled ∧ 0 < st.lend.amount ∧ st.lend.claimed = false ∧
      pool.spToken ≠ 0 ∧ 0 < pool.lendSupply ∧ pool.settleAmountLend * st.lend.amount < Tx.uint256
  | .withdrawLend _ spAmount => pool.state.Closed ∧ 0 < spAmount ∧ pool.spToken ≠ 0 ∧
      pool.lendPot * spAmount < Tx.uint256 ∧ pool.settleAmountLend ≠ 0 ∧
      0 < pool.lendRedemption spAmount
  | .refundBorrow _ => paused = false ∧ pool.state.Settled ∧ 0 < st.borrow.pledgeAmount ∧
      st.borrow.settled = false ∧ pool.settleAmountBorrow < pool.borrowSupply ∧
      (pool.borrowSupply - pool.settleAmountBorrow) * st.borrow.pledgeAmount < Tx.uint256 ∧
      0 < pool.borrowRefund st.borrow
  | .claimBorrow _ => paused = false ∧ pool.state.Settled ∧ 0 < st.borrow.pledgeAmount ∧
      st.borrow.settled = false ∧ pool.settleAmountLend * pool.pledgeRate < Tx.uint256 ∧
      pool.settleAmountLend * pool.pledgeRate * st.borrow.pledgeAmount < Tx.uint256 ∧
      RATE_BASE * pool.borrowSupply < Tx.uint256 ∧ pool.borrowSupply ≠ 0 ∧
      pool.settleAmountLend * st.borrow.pledgeAmount < Tx.uint256
  | .withdrawBorrow _ jpAmount => paused = false ∧ pool.state.Closed ∧ 0 < jpAmount ∧
      pool.settleAmountLend * pool.pledgeRate < Tx.uint256 ∧
      pool.borrowPot * jpAmount < Tx.uint256 ∧ pool.totalJpAmount ≠ 0
  | _ => False

/-- The records of the caller after a payout. -/
def collect (st : Stake) : Call → Stake
  | .refundLend _ => { st with lend := { st.lend with refunded := true } }
  | .claimLend _ =>
      { st with lend := { st.lend with claimed := true, lendAmount := pool.spShare st.lend } }
  | .refundBorrow _ => { st with borrow := { st.borrow with settled := true } }
  | .claimBorrow _ =>
      { st with borrow := { st.borrow with borrowAmount := pool.loan st.borrow, settled := true } }
  | _ => st

/-- The tokens that move in a payout. -/
def flows (this user : Address) (st : Stake) : Call → List Flow
  | .refundLend _ => [⟨pool.settleToken, some this, some user, pool.lendRefund st.lend⟩]
  | .claimLend _ => [⟨pool.spToken, none, some user, pool.spShare st.lend⟩]
  | .withdrawLend _ spAmount =>
      [⟨pool.spToken, some user, none, spAmount⟩,
        ⟨pool.settleToken, some this, some user, pool.lendRedemption spAmount⟩]
  | .refundBorrow _ => [⟨pool.pledgeToken, some this, some user, pool.borrowRefund st.borrow⟩]
  | .claimBorrow _ =>
      (if pool.jpToken ≠ 0 then [⟨pool.jpToken, none, some user, pool.jpShare st.borrow⟩] else []) ++
        if 0 < pool.loan st.borrow then
          [⟨pool.settleToken, some this, some user, pool.loan st.borrow⟩]
        else []
  | .withdrawBorrow _ jpAmount =>
      (if pool.jpToken ≠ 0 then [⟨pool.jpToken, some user, none, jpAmount⟩] else []) ++
        if 0 < pool.borrowRedemption jpAmount then
          [⟨pool.pledgeToken, some this, some user, pool.borrowRedemption jpAmount⟩]
        else []
  | _ => []

/-- Every flow is between the contract and the caller, or concerns the caller alone. -/
theorem flows_serve (this user : Address) (st : Stake) (c : Call) {f : Flow}
    (hf : f ∈ pool.flows this user st c) : f.Serves this user := by
  -- the only kinds of flow: the contract pays, a token is minted to the caller, the caller burns
  -- one
  have hpay (t : Address) (n : Nat) : Flow.Serves this user ⟨t, some this, some user, n⟩ := by
    constructor
    · intro a ha
      exact .inl (Option.some.inj ha).symm
    · intro a ha
      exact (Option.some.inj ha).symm
  have hmint (t : Address) (n : Nat) : Flow.Serves this user ⟨t, none, some user, n⟩ := by
    constructor
    · intro a ha
      cases ha
    · intro a ha
      exact (Option.some.inj ha).symm
  have hburn (t : Address) (n : Nat) : Flow.Serves this user ⟨t, some user, none, n⟩ := by
    constructor
    · intro a ha
      exact .inr (Option.some.inj ha).symm
    · intro a ha
      cases ha
  -- the two functions for borrowers leave a move out when there is no jp token or nothing to pay
  have hoptional {c : Prop} [Decidable c] {g : Flow} (hg : g.Serves this user)
      (h : f ∈ if c then [g] else []) : f.Serves this user := by
    split at h
    · rw [List.mem_singleton.mp h]
      exact hg
    · cases h
  cases c with
  | refundLend | refundBorrow =>
      rw [List.mem_singleton.mp hf]
      exact hpay _ _
  | claimLend =>
      rw [List.mem_singleton.mp hf]
      exact hmint _ _
  | withdrawLend =>
      rcases List.mem_cons.mp hf with rfl | hf
      · exact hburn _ _
      · rw [List.mem_singleton.mp hf]
        exact hpay _ _
  | claimBorrow =>
      rcases List.mem_append.mp hf with h | h
      · exact hoptional (hmint _ _) h
      · exact hoptional (hpay _ _) h
  | withdrawBorrow =>
      rcases List.mem_append.mp hf with h | h
      · exact hoptional (hburn _ _) h
      · exact hoptional (hpay _ _) h
  | _ => cases hf

end Pool

/-! ## The till of a pool

The till forgets the contract and keeps what payouts change. Its step is the payout of one account
for one call, and two such steps commute when the accounts differ: the updates of the records and of
the receipts are at different accounts (`Till.paid_comm`), and the flows serve one account each, so
that a balance is never short because of the other payout (`Till.swap_flows`). -/

/-- What payouts can change: the records of the accounts with the pool, the balances, what has been
minted of each token so far, and the receipts each account has got. -/
structure Till where
  stakes : Address → Stake
  balance : Address → Holdings
  issued : Address → Nat
  receipts : Address → List Transfer

namespace Till

variable (pool : Pool) (paused : Bool) (this : Address)

/-- The tokens that move when `l.1` makes the call `l.2`. -/
def flows (x : Till) (l : Address × Call) : List Flow := pool.flows this l.1 (x.stakes l.1) l.2

/-- The till after that, with the balances `b`. -/
def paid (x : Till) (l : Address × Call) (b : Address → Holdings) : Till where
  stakes := Function.update x.stakes l.1 (pool.collect (x.stakes l.1) l.2)
  balance := b
  issued t := x.issued t + Flow.minted t (x.flows pool this l)
  receipts := Function.update x.receipts l.1
    (x.receipts l.1 ++ (x.flows pool this l).map Flow.transfer)

/-- A payout of `l.1` for the call `l.2`. -/
inductive Step (x : Till) (l : Address × Call) : Till → Prop
  | pay {b : Address → Holdings} (decodes : l.2.decodes) (outside : l.1 ≠ this)
      (due : pool.Due paused (x.stakes l.1) l.2)
      (flows : Run Flow.Step x.balance (x.flows pool this l) b) : Step x l (x.paid pool this l b)

variable {pool paused this} {x x₁ x₂ : Till} {l k : Address × Call} {b b₁ b₂ : Address → Holdings}

/-- A payout does not touch the records of another account. -/
theorem paid_stakes (hne : l.1 ≠ k.1) (b : Address → Holdings) :
    (x.paid pool this l b).stakes k.1 = x.stakes k.1 :=
  Function.update_of_ne hne.symm _ _

/-- Hence the other one is owed the same before and after. -/
theorem paid_flows (hne : l.1 ≠ k.1) (b : Address → Holdings) :
    (x.paid pool this l b).flows pool this k = x.flows pool this k := by
  unfold flows
  rw [paid_stakes hne]

/-- Two payouts leave the same till in either order, whatever balances were passed on the way. -/
theorem paid_comm (hne : l.1 ≠ k.1) (b b₁ b₂ : Address → Holdings) :
    (x.paid pool this l b₁).paid pool this k b = (x.paid pool this k b₂).paid pool this l b := by
  have hstakes : Function.update (x.paid pool this l b₁).stakes k.1
        (pool.collect ((x.paid pool this l b₁).stakes k.1) k.2) =
      Function.update (x.paid pool this k b₂).stakes l.1
        (pool.collect ((x.paid pool this k b₂).stakes l.1) l.2) := by
    rw [paid_stakes hne, paid_stakes hne.symm]
    exact Function.update_comm hne _ _ _
  have hreceipts : Function.update (x.paid pool this l b₁).receipts k.1
        ((x.paid pool this l b₁).receipts k.1 ++
          ((x.paid pool this l b₁).flows pool this k).map Flow.transfer) =
      Function.update (x.paid pool this k b₂).receipts l.1
        ((x.paid pool this k b₂).receipts l.1 ++
          ((x.paid pool this k b₂).flows pool this l).map Flow.transfer) := by
    have hk : (x.paid pool this l b₁).receipts k.1 = x.receipts k.1 :=
      Function.update_of_ne hne.symm _ _
    have hl : (x.paid pool this k b₂).receipts l.1 = x.receipts l.1 := Function.update_of_ne hne _ _
    rw [paid_flows hne, paid_flows hne.symm, hk, hl]
    exact Function.update_comm hne _ _ _
  have hissued (t : Address) :
      x.issued t + Flow.minted t (x.flows pool this l) +
          Flow.minted t ((x.paid pool this l b₁).flows pool this k) =
        x.issued t + Flow.minted t (x.flows pool this k) +
          Flow.minted t ((x.paid pool this k b₂).flows pool this l) := by
    rw [paid_flows hne, paid_flows hne.symm]
    exact Nat.add_right_comm _ _ _
  unfold paid at hstakes hreceipts hissued ⊢
  rw [Till.mk.injEq]
  exact ⟨hstakes, rfl, funext hissued, hreceipts⟩

/-- Flows that serve different accounts can be swapped as a whole. -/
theorem swap_flows {u v : Address} (hu : u ≠ this) (hv : v ≠ this) (hne : u ≠ v) {fs gs : List Flow}
    (hfs : ∀ f ∈ fs, f.Serves this u) (hgs : ∀ g ∈ gs, g.Serves this v) {b b₁ b₂ : Address → Holdings}
    (h₁ : Run Flow.Step b fs b₁) (h₂ : Run Flow.Step b₁ gs b₂) :
    ∃ b₁', Run Flow.Step b gs b₁' ∧ Run Flow.Step b₁' fs b₂ := by
  -- name the account that each flow serves, so that the runs can be reordered by account
  have hserved {w : Address} (hw : w ≠ this) {fs : List Flow} (hfs : ∀ f ∈ fs, f.Serves this w)
      {b b' : Address → Holdings} (h : Run Flow.Step b fs b') :
      Run (Served this) b (fs.map fun f => (w, f)) b' := by
    induction h with
    | start => exact .start
    | @step es m m' f _ hs ih =>
        rw [List.map_append]
        refine (ih fun f hf => hfs f (List.mem_append_left _ hf)).step ?_
        exact ⟨hw, hfs f (List.mem_append_right _ (List.mem_singleton_self f)), hs⟩
  -- and forget the names again
  have hplain {w : Address} {fs : List Flow} {b b' : Address → Holdings}
      (h : Run (Served this) b (fs.map fun f => (w, f)) b') : Run Flow.Step b fs b' := by
    have hmap := h.map id Prod.snd fun hs => hs.2.2
    rwa [List.map_map, Function.comp_def, List.map_id'] at hmap
  have howned {w w' : Address} {fs : List Flow} :
      ownedBy Prod.fst w' (fs.map fun f => (w, f)) =
        if w = w' then fs.map fun f => (w, f) else [] := by
    by_cases hw : w = w'
    · rw [if_pos hw]
      exact List.filter_eq_self.mpr fun l hl => by
        obtain ⟨f, -, rfl⟩ := List.mem_map.mp hl
        exact decide_eq_true hw
    · rw [if_neg hw]
      exact List.filter_eq_nil_iff.mpr fun l hl => by
        obtain ⟨f, -, rfl⟩ := List.mem_map.mp hl
        simpa using hw
  -- the flows for `v` before those for `u`: either order has the same flows of each account
  have hswapped : Run (Served this) b ((gs.map fun g => (v, g)) ++ fs.map fun f => (u, f)) b₂ := by
    apply Run.reorder (Served.swaps this) ((hserved hu hfs h₁).append (hserved hv hgs h₂))
    intro w
    rw [ownedBy_append, ownedBy_append, howned, howned]
    by_cases h : u = w
    · rw [if_pos h, if_neg fun h' => hne (h.trans h'.symm), List.append_nil, List.nil_append]
    · rw [if_neg h, List.append_nil, List.nil_append]
  obtain ⟨b₁', hg, hf⟩ := hswapped.split
  exact ⟨b₁', hplain hg, hplain hf⟩

/-- **Payouts of different accounts can be swapped**: the records and the receipts of one are no
concern of the other, and the flows serve one account each. -/
theorem swaps : Swaps (Till.Step pool paused this) Prod.fst := by
  intro x x₁ x₂ l k hl hk hne
  cases hl with
  | @pay b₁ hldecodes hloutside hldue hlflows =>
    cases hk with
    | @pay b₂ hkdecodes hkoutside hkdue hkflows =>
      rw [paid_stakes hne] at hkdue
      rw [paid_flows hne] at hkflows
      obtain ⟨b₁', hkflows', hlflows'⟩ := swap_flows hloutside hkoutside hne
        (fun f hf => pool.flows_serve this l.1 _ l.2 hf)
        (fun f hf => pool.flows_serve this k.1 _ k.2 hf) hlflows hkflows
      -- `k` is paid first, from the records it finds untouched by `l`
      refine ⟨x.paid pool this k b₁', .pay hkdecodes hkoutside hkdue hkflows', ?_⟩
      -- and `l` second: the till is the same, and `l` is owed what it was owed before
      rw [paid_comm hne b₂ b₁ b₁']
      rw [← paid_stakes hne.symm b₁'] at hldue
      have hflows : Run Flow.Step b₁' (x.flows pool this l) b₂ := hlflows'
      rw [← paid_flows hne.symm b₁'] at hflows
      exact .pay hldecodes hloutside hldue hflows

/-! What a till counts as minted covers what its holdings grow by. -/

theorem Step.issued_le (h : x.Step pool paused this l x₁) (t : Address) : x.issued t ≤ x₁.issued t := by
  cases h with
  | pay => exact Nat.le_add_right _ _

/-- A step adds to the sum of the holdings of a token at most what it adds to the count of mints. -/
theorem Step.tallied (h : x.Step pool paused this l x₁) {t : Address} {n : Nat}
    (hn : (x.balance t).SumsTo n) :
    ∃ n', n' + x.issued t ≤ n + x₁.issued t ∧ (x₁.balance t).SumsTo n' := by
  cases h with
  | pay _ _ _ hflows =>
      obtain ⟨n', hle, hn'⟩ := Flow.run_tallied Holdings.sumsTo_tallied hn hflows
      refine ⟨n', ?_, hn'⟩
      have hsum := Nat.add_le_add_right hle (x.issued t)
      rwa [Nat.add_assoc, Nat.add_comm (Flow.minted t _)] at hsum

/-- So does a run: one invariant, the sum of the holdings against the count of mints. -/
theorem run_tallied {ls : List (Address × Call)} (h : Run (Till.Step pool paused this) x ls x₁)
    {t : Address} {n : Nat} (hn : (x.balance t).SumsTo n) :
    ∃ n', n' + x.issued t ≤ n + x₁.issued t ∧ (x₁.balance t).SumsTo n' := by
  induction h with
  | start => exact ⟨n, Nat.le_refl _, hn⟩
  | @step ls x₁ x₂ l _ hs ih =>
      obtain ⟨n₁, hle₁, hn₁⟩ := ih
      obtain ⟨n₂, hle₂, hn₂⟩ := hs.tallied hn₁
      refine ⟨n₂, ?_, hn₂⟩
      omega

end Till

/-! ## Tokens that pay

Two directions have to be kept apart. That a payout which went through moved what it says follows from
the tokens being exact (`Moves`). That a payout goes through needs more of them: that they do not fail
when the funds, and the room in the supply, are there (`Performs`). -/

/-- The claim token of the pool on one of its sides. -/
def Pool.ClaimToken (pool : Pool) (token : Address) : Prop :=
  token ≠ 0 ∧ ∃ side, pool.claimToken side = token

/-- The supplies of the claim tokens have room for what the flows mint. -/
def Pool.Fits (pool : Pool) : (Address → Holdings) → List Flow → Prop :=
  Flow.Room Tx.uint256 pool.ClaimToken

/-- Whenever the transaction returns, the flows are all that happened. -/
structure Moves {α : Type} (x : Tx World α) (fs : List Flow) : Prop where
  moved {w w' : World} {a : α} : x.run w = .ok (a, w') → w'.store = w.store ∧
    Run Flow.Step w.ledger.balance fs w'.ledger.balance ∧
      w'.transfers = w.transfers ++ fs.map Flow.transfer

/-- It returns when the flows can take place and what they mint fits. -/
structure Performs {α : Type} (pool : Pool) (x : Tx World α) (fs : List Flow) : Prop
    extends Moves x fs where
  returns {w : World} {b : Address → Holdings} : Run Flow.Step w.ledger.balance fs b →
    pool.Fits w.ledger.balance fs → ∃ a w', x.run w = .ok (a, w')

/-- The tokens of a pool do exactly what they report. -/
structure Accurate (env : Env) (pool : Pool) : Prop extends Exact env where
  claim : ∀ side, DebtToken env (pool.claimToken side)

/-- The side whose claim token the call mints. -/
def Call.minting : Call → Option Side
  | .claimLend _ => some .lend
  | .claimBorrow _ => some .borrow
  | _ => none

/-- The side whose claim token the call burns. -/
def Call.burning : Call → Option Side
  | .withdrawLend _ _ => some .lend
  | .withdrawBorrow _ _ => some .borrow
  | _ => none

/-- The tokens of a pool do not fail in the payout `c` to the sender: a transfer of what the contract has
goes through, a mint does when the total supply stays a `uint256`, and a burn does when the sender has
the amount. -/
structure Paying (env : Env) (pool : Pool) (c : Call) : Prop extends Accurate env pool where
  value : env.value = 0
  pays : ∀ token, pool.Asset token → ∀ n w, n ≤ w.ledger.balance token env.this →
    ∃ w', (env.transfer token env.sender n).run w = .ok (true, w')
  mints : ∀ side, c.minting = some side → pool.claimToken side ≠ 0 → ∀ n w supply,
    Holdings.SumsTo (w.ledger.balance (pool.claimToken side)) supply → supply + n < Tx.uint256 →
      ∃ b w', (env.mint (pool.claimToken side) env.sender n).run w = .ok (b, w')
  burns : ∀ side, c.burning = some side → pool.claimToken side ≠ 0 → ∀ n w,
    n ≤ w.ledger.balance (pool.claimToken side) env.sender →
      ∃ b w', (env.burn (pool.claimToken side) env.sender n).run w = .ok (b, w')

section Tokens

variable {env : Env} {pool : Pool} {c : Call} {α : Type} {x : Tx World α} {fs : List Flow} {f : Flow}

/-- A run of one flow is a step. -/
theorem Flow.single {b b' : Address → Holdings} : Run Flow.Step b [f] b' ↔ Flow.Step b f b' := by
  constructor
  · intro h
    obtain ⟨m, hs, hm⟩ := h.uncons
    rwa [hm.nil_eq]
  · intro h
    exact Run.step .start h

/-- A transaction that moves one flow. -/
theorem Moves.single
    (hmoved : ∀ {w a w'}, x.run w = .ok (a, w') → w'.store = w.store ∧
      Flow.Step w.ledger.balance f w'.ledger.balance ∧ w'.transfers = w.transfers ++ [f.transfer]) :
    Moves x [f] where
  moved h := by
    obtain ⟨hs, hf, ht⟩ := hmoved h
    exact ⟨hs, Flow.single.mpr hf, ht⟩

/-- The answer does not matter. -/
theorem Moves.drop (h : Moves x fs) : Moves (do let _ ← x; pure ()) fs where
  moved hrun := by
    simp only [Tx.rules] at hrun
    obtain ⟨a, w₁, hx, -, rfl⟩ := hrun
    exact h.moved hx

theorem Performs.drop (h : Performs pool x fs) : Performs pool (do let _ ← x; pure ()) fs where
  toMoves := h.toMoves.drop
  returns hfs hfits := by
    obtain ⟨a, w', hx⟩ := h.returns hfs hfits
    refine ⟨(), w', ?_⟩
    simp only [Tx.rules]
    exact ⟨a, w', hx, trivial, rfl⟩

/-- Nothing happens without the condition. -/
theorem Moves.when {x : Tx World Unit} {c : Prop} [Decidable c] (h : c → Moves x fs) :
    Moves (Tx.when c x) (if c then fs else []) := by
  -- without the condition nothing runs and there is no flow
  by_cases hc : c
  · unfold Tx.when
    rw [if_pos hc, if_pos hc]
    exact h hc
  · unfold Tx.when
    rw [if_neg hc, if_neg hc]
    constructor
    intro w w' a hrun
    rw [(Tx.pure_ok.mp hrun).2]
    exact ⟨rfl, .start, (List.append_nil _).symm⟩

theorem Performs.when {x : Tx World Unit} {c : Prop} [Decidable c] (h : c → Performs pool x fs) :
    Performs pool (Tx.when c x) (if c then fs else []) where
  toMoves := Moves.when fun hc => (h hc).toMoves
  returns {w _} hfs hfits := by
    by_cases hc : c
    · rw [if_pos hc] at hfs hfits
      unfold Tx.when
      rw [if_pos hc]
      exact (h hc).returns hfs hfits
    · unfold Tx.when
      rw [if_neg hc]
      exact ⟨(), w, Tx.pure_ok.mpr ⟨rfl, rfl⟩⟩

/-- A payment of something in a token. -/
theorem Accurate.moves_pay (h : Accurate env pool) {token : Address} (ht : token ≠ 0) {n : Nat}
    (hn : 0 < n) (u : Address) :
    Moves (transferToken env token u n) [⟨token, some env.this, some u, n⟩] := by
  apply Moves.single
  intro w a w' hrun
  have hstore := (transferToken_called h.toQuiet hrun).2
  -- a payment of nothing returns early, and here there is something to pay
  rcases transferToken_moved h.toExact ht hrun with ⟨h0, -⟩ | hmoved
  · exact absurd h0 hn.ne'
  · refine ⟨hstore, ⟨?_, ?_⟩, hmoved.transfers⟩
    · intro a' ha
      cases ha
      exact hmoved.enough
    · rw [Flow.apply_move]
      exact hmoved.balance

/-- Only the balances of one token changed, and they are as the flow says. -/
theorem Touched.flow {w w' : World} (h : Touched f.token w w') {b : Holdings}
    (hb : w'.ledger.balance f.token = b)
    (hf : f.apply w.ledger.balance = Function.update w.ledger.balance f.token b) :
    w'.ledger.balance = f.apply w.ledger.balance := by
  rw [hf]
  funext t
  by_cases ht : t = f.token
  · rw [ht, Function.update_self, hb]
  · rw [Function.update_of_ne ht, h.balance t ht]

/-- A mint of a claim token. -/
theorem Accurate.moves_mint (h : Accurate env pool) (side : Side) (u : Address) (n : Nat) :
    Moves (env.mint (pool.claimToken side) u n) [⟨pool.claimToken side, none, some u, n⟩] := by
  apply Moves.single
  intro w a w' hrun
  obtain ⟨hbalance, htransfers⟩ := (h.claim side).mint hrun
  refine ⟨h.toQuiet.mint hrun, ⟨?_, ?_⟩, htransfers⟩
  · intro a' ha
    cases ha
  · exact Touched.flow (h.mint_touched hrun) hbalance (Flow.apply_credit ..)

/-- A burn of a claim token. -/
theorem Accurate.moves_burn (h : Accurate env pool) (side : Side) (u : Address) (n : Nat) :
    Moves (env.burn (pool.claimToken side) u n) [⟨pool.claimToken side, some u, none, n⟩] := by
  apply Moves.single
  intro w a w' hrun
  obtain ⟨hle, hbalance, htransfers⟩ := (h.claim side).burn hrun
  refine ⟨h.toQuiet.burn hrun, ⟨?_, ?_⟩, htransfers⟩
  · intro a' ha
    cases ha
    exact hle
  · exact Touched.flow (h.burn_touched hrun) hbalance (Flow.apply_debit ..)

/-! With tokens that do not fail, the three return as well. -/

theorem Paying.performs_pay (h : Paying env pool c) {token : Address} (hasset : pool.Asset token)
    (ht : token ≠ 0) {n : Nat} (hn : 0 < n) :
    Performs pool (transferToken env token env.sender n)
      [⟨token, some env.this, some env.sender, n⟩] where
  toMoves := h.toAccurate.moves_pay ht hn env.sender
  returns {w _} hflows _ := by
    have henough : n ≤ w.ledger.balance token env.this := (Flow.single.mp hflows).1 _ rfl
    obtain ⟨w', hpay⟩ := h.pays token hasset n w henough
    refine ⟨(), w', ?_⟩
    simp only [transferToken, Tx.rules]
    exact .inr ⟨hn.ne', .inr ⟨ht, true, w', hpay, trivial, rfl⟩⟩

theorem Paying.performs_mint (h : Paying env pool c) {side : Side} (hc : c.minting = some side)
    (ht : pool.claimToken side ≠ 0) (n : Nat) :
    Performs pool (env.mint (pool.claimToken side) env.sender n)
      [⟨pool.claimToken side, none, some env.sender, n⟩] where
  toMoves := h.toAccurate.moves_mint side env.sender n
  returns {w _} _ hfits := by
    obtain ⟨supply, hsupply, hroom⟩ := hfits _ ⟨ht, side, rfl⟩
    have hminted : Flow.minted (pool.claimToken side)
        [⟨pool.claimToken side, none, some env.sender, n⟩] = n := by simp [Flow.minted]
    rw [hminted] at hroom
    exact h.mints side hc ht n w supply hsupply hroom

theorem Paying.performs_burn (h : Paying env pool c) {side : Side} (hc : c.burning = some side)
    (ht : pool.claimToken side ≠ 0) (n : Nat) :
    Performs pool (env.burn (pool.claimToken side) env.sender n)
      [⟨pool.claimToken side, some env.sender, none, n⟩] where
  toMoves := h.toAccurate.moves_burn side env.sender n
  returns {w _} hflows _ := h.burns side hc ht n w ((Flow.single.mp hflows).1 _ rfl)

/-- Two transactions one after the other. The first takes its part of the room, and leaves the rest to the
second. -/
theorem Performs.returns_two {β : Type} {y : Tx World β} {gs : List Flow}
    (hx : Performs pool x fs) (hy : Performs pool y gs) {b : Address → Holdings} {w : World}
    (h : Run Flow.Step w.ledger.balance (fs ++ gs) b) (hfits : pool.Fits w.ledger.balance (fs ++ gs)) :
    ∃ a w₁, x.run w = .ok (a, w₁) ∧ w₁.store = w.store ∧ ∃ a' w', y.run w₁ = .ok (a', w') := by
  obtain ⟨b₁, hfirst, hrest⟩ := h.split
  -- what the first one moved is determined, so the second one finds the balances that the flows say
  obtain ⟨a, w₁, hrun⟩ := hx.returns hfirst hfits.left
  obtain ⟨hs, hmoved, -⟩ := hx.moved hrun
  have hbalance : b₁ = w₁.ledger.balance := hmoved.unique (fun h h' => h.unique h') hfirst
  rw [hbalance] at hrest
  exact ⟨a, w₁, hrun, hs, hy.returns hrest (hfits.right hmoved)⟩

end Tokens

/-! ## The six functions

For each of the six there are two lemmas. The first reads the function backwards: when it returned,
the payout was due, the records are the collected ones and the flows took place (`Collected`). The
second reads it forwards: when the payout is due, the gates are open and the flows can take place
with room for what they mint, it returns. Both open the body with the rules for transactions, which
turn it into the list of its checks in the order of the source; the names of the hypotheses follow
that order.

Two things recur. The guard of `nonReentrant` is raised and lowered around the body and is not seen
afterwards. And the functions that call a claim token first read the pool again after that call,
which is why the storage after the mint or the burn has to be known (`hs₁`). -/

namespace Storage

/-- The records of all accounts with the pool `p`. -/
def stakes (s : Storage) (p : Nat) (u : Address) : Stake := ⟨s.lendInfos p u, s.borrowInfos p u⟩

/-- The storage with other records. -/
def withStakes (s : Storage) (p : Nat) (stakes : Address → Stake) : Storage :=
  { s with
    lendInfos := Function.update s.lendInfos p fun u => (stakes u).lend
    borrowInfos := Function.update s.borrowInfos p fun u => (stakes u).borrow }

variable (s : Storage) (p : Nat) (u : Address)

@[simp] theorem withStakes_stakes (stakes : Address → Stake) :
    (s.withStakes p stakes).stakes p = stakes := by
  funext u
  simp [Storage.stakes, withStakes]

@[simp] theorem withStakes_withStakes (stakes stakes' : Address → Stake) :
    (s.withStakes p stakes).withStakes p stakes' = s.withStakes p stakes' := by
  simp [withStakes]

theorem withStakes_self : s.withStakes p (s.stakes p) = s := by
  simp [withStakes, Storage.stakes]

theorem setLendInfo_eq_withStakes (info : LendInfo) : s.setLendInfo p u info =
    s.withStakes p (Function.update (s.stakes p) u { s.stakes p u with lend := info }) := by
  have hlend : (fun v => (Function.update (s.stakes p) u { s.stakes p u with lend := info } v).lend) =
      Function.update (s.lendInfos p) u info := by
    funext v
    by_cases hv : v = u
    · subst hv; simp
    · simp [hv, Storage.stakes]
  have hborrow : (fun v => (Function.update (s.stakes p) u
      { s.stakes p u with lend := info } v).borrow) = s.borrowInfos p := by
    funext v
    by_cases hv : v = u
    · subst hv; simp [Storage.stakes]
    · simp [hv, Storage.stakes]
  unfold withStakes setLendInfo
  rw [hlend, hborrow, Function.update_eq_self]

theorem setBorrowInfo_eq_withStakes (info : BorrowInfo) : s.setBorrowInfo p u info =
    s.withStakes p (Function.update (s.stakes p) u { s.stakes p u with borrow := info }) := by
  have hlend : (fun v => (Function.update (s.stakes p) u
      { s.stakes p u with borrow := info } v).lend) = s.lendInfos p := by
    funext v
    by_cases hv : v = u
    · subst hv; simp [Storage.stakes]
    · simp [hv, Storage.stakes]
  have hborrow : (fun v => (Function.update (s.stakes p) u
      { s.stakes p u with borrow := info } v).borrow) = Function.update (s.borrowInfos p) u info := by
    funext v
    by_cases hv : v = u
    · subst hv; simp
    · simp [hv, Storage.stakes]
  unfold withStakes setBorrowInfo
  rw [hlend, hborrow, Function.update_eq_self]

end Storage

/-- The call paid the caller what the pool owes it, and did nothing else. -/
structure Collected (env : Env) (p : Nat) (c : Call) (w w' : World) : Prop where
  due : (w.store.pools p).Due w.store.globalPaused (w.store.stakes p env.sender) c
  store : w'.store = w.store.withStakes p (Function.update (w.store.stakes p) env.sender
    ((w.store.pools p).collect (w.store.stakes p env.sender) c))
  flows : Run Flow.Step w.ledger.balance
    ((w.store.pools p).flows env.this env.sender (w.store.stakes p env.sender) c) w'.ledger.balance
  transfers : w'.transfers = w.transfers ++
    ((w.store.pools p).flows env.this env.sender (w.store.stakes p env.sender) c).map Flow.transfer

section Functions

variable {env : Env} {w w' : World} {p n : Nat} {c : Call}

/-- The guard of `nonReentrant` is not seen afterwards. -/
theorem nonReentrant_collected {body : Tx World Unit} (hrun : (nonReentrant body).run w = .ok ((), w'))
    (hbody : ∀ {v v'}, v.store.pools p = w.store.pools p → body.run v = .ok ((), v') →
      Collected env p c v v') : Collected env p c w w' := by
  obtain ⟨hfree, w₁, hinner, rfl⟩ := nonReentrant_ok.mp hrun
  obtain ⟨hdue, hstore, hflows, hts⟩ := hbody (v := w.mapStore (·.setEntered true)) rfl hinner
  refine ⟨hdue, ?_, hflows, hts⟩
  rw [World.mapStore_store, hstore]
  exact Storage.setEntered_of_eq (w.store.withStakes p _) hfree

theorem nonReentrant_returns {body : Tx World Unit} (hfree : w.store.entered = false)
    (hbody : ∃ w', body.run (w.mapStore (·.setEntered true)) = .ok ((), w')) :
    ∃ w', (nonReentrant body).run w = .ok ((), w') := by
  obtain ⟨w₁, hrun⟩ := hbody
  exact ⟨_, nonReentrant_ok.mpr ⟨hfree, w₁, hrun, rfl⟩⟩

/-- Records that are written back change nothing. -/
theorem Storage.eq_withStakes (s : Storage) (p : Nat) (u : Address) :
    s = s.withStakes p (Function.update (s.stakes p) u (s.stakes p u)) := by
  rw [Function.update_eq_self, Storage.withStakes_self]

/-! The lenders' side: a refund of what was not lent, the sp tokens for what was, and their
redemption. -/

theorem refundLend_collected (h : Accurate env (w.store.pools p))
    (ht : (w.store.pools p).settleToken ≠ 0) (hrun : (refundLend env p).run w = .ok ((), w')) :
    Collected env p (.refundLend p) w w' := by
  apply nonReentrant_collected hrun
  intro v v' hpool hrun
  rw [← hpool] at h ht
  simp only [storage_rules, Tx.rules, and_assoc, exists_and_left, exists_eq_left,
    exists_const] at hrun
  obtain ⟨hpaused, -, hstate, -, hamount, hflag, hexcess, -, hfits, -, hpos, hpay⟩ := hrun
  obtain ⟨hs, hflows, hts⟩ := (h.moves_pay ht hpos env.sender).moved hpay
  refine ⟨⟨hpaused, hstate, hamount, hflag, hexcess, hfits, hpos⟩, ?_, hflows, hts⟩
  rw [hs]
  exact Storage.setLendInfo_eq_withStakes ..

theorem refundLend_returns (h : Paying env (w.store.pools p) (.refundLend p))
    (ht : (w.store.pools p).settleToken ≠ 0) (hfree : w.store.entered = false)
    (hex : w.store.Exists p) (hopen : (w.store.pools p).Open env.timestamp)
    (hdue : (w.store.pools p).Due w.store.globalPaused (w.store.stakes p env.sender) (.refundLend p))
    {b : Address → Holdings} (hflows : Run Flow.Step w.ledger.balance ((w.store.pools p).flows env.this
      env.sender (w.store.stakes p env.sender) (.refundLend p)) b)
    (hroom : (w.store.pools p).Fits w.ledger.balance ((w.store.pools p).flows env.this env.sender
      (w.store.stakes p env.sender) (.refundLend p))) :
    ∃ w', (refundLend env p).run w = .ok ((), w') := by
  obtain ⟨hpaused, hstate, hamount, hflag, hexcess, hfits, hpos⟩ := hdue
  -- there is an excess, so the supply that the source divides by is not zero
  have hsupply : (w.store.pools p).lendSupply ≠ 0 := (Nat.zero_lt_of_lt hexcess).ne'
  obtain ⟨_, w₁, hpay⟩ := (h.performs_pay (.inl rfl) ht hpos).returns
    (w := (w.mapStore (·.setEntered true)).mapStore fun s => s.setLendInfo p env.sender
      { s.lendInfos p env.sender with refunded := true }) hflows hroom
  apply nonReentrant_returns hfree
  refine ⟨w₁, ?_⟩
  simp only [storage_rules, Tx.rules, and_assoc, exists_and_left, exists_eq_left, exists_const]
  exact ⟨hpaused, hex, hstate, hopen.1, hamount, hflag, hexcess, hexcess.le, hfits, hsupply, hpos,
    hpay⟩

theorem claimLend_collected (h : Accurate env (w.store.pools p))
    (hrun : (claimLend env p).run w = .ok ((), w')) : Collected env p (.claimLend p) w w' := by
  apply nonReentrant_collected hrun
  intro v v' hpool hrun
  rw [← hpool] at h
  simp only [storage_rules, Tx.rules, and_assoc, exists_and_left, exists_eq_left,
    exists_const] at hrun
  obtain ⟨-, hstate, hamount, hflag, hsp, hsupply, hfits, -, b, w₁, hmint, rfl⟩ := hrun
  obtain ⟨hs, hflows, hts⟩ := (h.moves_mint .lend env.sender _).moved hmint
  refine ⟨⟨hstate, hamount, hflag, hsp, hsupply, hfits⟩, ?_, hflows, hts⟩
  rw [World.mapStore_store, hs]
  exact Storage.setLendInfo_eq_withStakes ..

theorem claimLend_returns (h : Paying env (w.store.pools p) (.claimLend p))
    (hfree : w.store.entered = false) (hex : w.store.Exists p)
    (hdue : (w.store.pools p).Due w.store.globalPaused (w.store.stakes p env.sender) (.claimLend p))
    {b : Address → Holdings} (hflows : Run Flow.Step w.ledger.balance ((w.store.pools p).flows env.this
      env.sender (w.store.stakes p env.sender) (.claimLend p)) b)
    (hroom : (w.store.pools p).Fits w.ledger.balance ((w.store.pools p).flows env.this env.sender
      (w.store.stakes p env.sender) (.claimLend p))) :
    ∃ w', (claimLend env p).run w = .ok ((), w') := by
  obtain ⟨hstate, hamount, hflag, hsp, hsupply, hfits⟩ := hdue
  obtain ⟨a, w₁, hmint⟩ := (h.performs_mint rfl hsp _).returns
    (w := w.mapStore (·.setEntered true)) hflows hroom
  apply nonReentrant_returns hfree
  apply Exists.intro
  simp only [storage_rules, Tx.rules, and_assoc, exists_and_left, exists_eq_left, exists_const]
  exact ⟨hex, hstate, hamount, hflag, hsp, hsupply, hfits, hsupply.ne', a, w₁, hmint, rfl⟩

theorem withdrawLend_collected (h : Accurate env (w.store.pools p))
    (ht : (w.store.pools p).settleToken ≠ 0) (hrun : (withdrawLend env p n).run w = .ok ((), w')) :
    Collected env p (.withdrawLend p n) w w' := by
  apply nonReentrant_collected hrun
  intro v v' hpool hrun
  rw [← hpool] at h ht
  simp only [storage_rules, Tx.rules, and_assoc, exists_and_left, exists_eq_left,
    exists_const] at hrun
  obtain ⟨-, hn, hstate, hsp, b, w₁, hburn, redeemed, w₂, hredeem, hpos, hpay⟩ := hrun
  obtain ⟨hs₁, hflows₁, hts₁⟩ := (h.moves_burn .lend env.sender n).moved hburn
  -- the burn comes first, and the pool that the redemption reads is the one before it
  rw [hs₁] at hredeem hpay
  obtain ⟨-, hfits, hsettle, rfl, rfl⟩ := Pool.redeems_iff.mp hredeem
  obtain ⟨hs₂, hflows₂, hts₂⟩ := (h.moves_pay ht hpos env.sender).moved hpay
  refine ⟨⟨hstate, hn, hsp, hfits, hsettle, hpos⟩, ?_, hflows₁.append hflows₂, ?_⟩
  · rw [hs₂, hs₁]
    exact Storage.eq_withStakes ..
  · rw [hts₂, hts₁, List.append_assoc]
    rfl

theorem withdrawLend_returns (h : Paying env (w.store.pools p) (.withdrawLend p n))
    (ht : (w.store.pools p).settleToken ≠ 0) (hfree : w.store.entered = false)
    (hex : w.store.Exists p) (hopen : (w.store.pools p).Open env.timestamp)
    (hdue : (w.store.pools p).Due w.store.globalPaused (w.store.stakes p env.sender)
      (.withdrawLend p n))
    {b : Address → Holdings} (hflows : Run Flow.Step w.ledger.balance ((w.store.pools p).flows env.this
      env.sender (w.store.stakes p env.sender) (.withdrawLend p n)) b)
    (hroom : (w.store.pools p).Fits w.ledger.balance ((w.store.pools p).flows env.this env.sender
      (w.store.stakes p env.sender) (.withdrawLend p n))) :
    ∃ w', (withdrawLend env p n).run w = .ok ((), w') := by
  obtain ⟨hstate, hn, hsp, hfits, hsettle, hpos⟩ := hdue
  have htime := hopen.2 hstate
  obtain ⟨a, w₁, hburn, hs, _, w₂, hpay⟩ := Performs.returns_two (w := w.mapStore (·.setEntered true))
    (h.performs_burn rfl hsp n) (h.performs_pay (.inl rfl) ht hpos) hflows hroom
  apply nonReentrant_returns hfree
  refine ⟨w₂, ?_⟩
  simp only [storage_rules, Tx.rules, and_assoc, exists_and_left, exists_eq_left, exists_const]
  refine ⟨hex, hn, hstate, hsp, a, w₁, hburn, (w.store.pools p).lendRedemption n, w₁, ?_, hpos, ?_⟩
  · rw [hs]
    exact Pool.redeems_iff.mpr ⟨htime, hfits, hsettle, rfl, rfl⟩
  · rw [hs]
    exact hpay

/-! The borrowers' side: a refund of the excess collateral, the jp tokens together with the loan,
and the redemption of jp tokens. A jp token need not be set, and then nothing is minted or burned.
-/

theorem refundBorrow_collected (h : Accurate env (w.store.pools p))
    (ht : (w.store.pools p).pledgeToken ≠ 0) (hrun : (refundBorrow env p).run w = .ok ((), w')) :
    Collected env p (.refundBorrow p) w w' := by
  apply nonReentrant_collected hrun
  intro v v' hpool hrun
  rw [← hpool] at h ht
  simp only [storage_rules, Tx.rules, and_assoc, exists_and_left, exists_eq_left,
    exists_const] at hrun
  obtain ⟨hpaused, -, hamount, hflag, hstate, hexcess, -, -, hfits, -, hpos, _, w₁, hpay, rfl⟩ :=
    hrun
  obtain ⟨hs, hflows, hts⟩ := (h.moves_pay ht hpos env.sender).moved hpay
  refine ⟨⟨hpaused, hstate, hamount, hflag, hexcess, hfits, hpos⟩, ?_, hflows, hts⟩
  rw [World.mapStore_store, hs]
  exact Storage.setBorrowInfo_eq_withStakes ..

theorem refundBorrow_returns (h : Paying env (w.store.pools p) (.refundBorrow p))
    (ht : (w.store.pools p).pledgeToken ≠ 0) (hfree : w.store.entered = false)
    (hex : w.store.Exists p) (hopen : (w.store.pools p).Open env.timestamp)
    (hdue : (w.store.pools p).Due w.store.globalPaused (w.store.stakes p env.sender)
      (.refundBorrow p))
    {b : Address → Holdings} (hflows : Run Flow.Step w.ledger.balance ((w.store.pools p).flows env.this
      env.sender (w.store.stakes p env.sender) (.refundBorrow p)) b)
    (hroom : (w.store.pools p).Fits w.ledger.balance ((w.store.pools p).flows env.this env.sender
      (w.store.stakes p env.sender) (.refundBorrow p))) :
    ∃ w', (refundBorrow env p).run w = .ok ((), w') := by
  obtain ⟨hpaused, hstate, hamount, hflag, hexcess, hfits, hpos⟩ := hdue
  -- there is an excess, so the supply that the source divides by is not zero
  have hsupply : (w.store.pools p).borrowSupply ≠ 0 := (Nat.zero_lt_of_lt hexcess).ne'
  obtain ⟨_, w₁, hpay⟩ := (h.performs_pay (.inr rfl) ht hpos).returns
    (w := w.mapStore (·.setEntered true)) hflows hroom
  apply nonReentrant_returns hfree
  apply Exists.intro
  simp only [storage_rules, Tx.rules, and_assoc, exists_and_left, exists_eq_left, exists_const]
  exact ⟨hpaused, hex, hamount, hflag, hstate, hexcess, hopen.1, hexcess.le, hfits, hsupply, hpos, (),
    w₁, hpay, rfl⟩

theorem claimBorrow_collected (h : Accurate env (w.store.pools p))
    (ht : (w.store.pools p).settleToken ≠ 0) (hrun : (claimBorrow env p).run w = .ok ((), w')) :
    Collected env p (.claimBorrow p) w w' := by
  apply nonReentrant_collected hrun
  intro v v' hpool hrun
  rw [← hpool] at h ht
  simp only [storage_rules, Tx.bind_ok, Tx.require_ok, Tx.umul_ok, Tx.udiv_ok, and_assoc,
    exists_and_left, exists_eq_left, exists_const] at hrun
  obtain ⟨hpaused, -, hamount, hflag, hstate, -, hrated, hproduct, hbase, hsupply, _, w₁, hmint, hfits,
    -, _, w₂, hpay, rfl⟩ := hrun
  have hsupply' : (v.store.pools p).borrowSupply ≠ 0 := 
    fun h0 => hsupply (by rw [h0, Nat.mul_zero])
  -- the pool and the record are read again after the mint, and are the same
  obtain ⟨hs₁, hflows₁, hts₁⟩ :=
    (Moves.when fun _ => (h.moves_mint .borrow env.sender _).drop).moved hmint
  rw [hs₁] at hfits hpay
  obtain ⟨hs₂, hflows₂, hts₂⟩ :=
    (Moves.when fun hpos => h.moves_pay ht hpos env.sender).moved hpay
  refine ⟨⟨hpaused, hstate, hamount, hflag, hrated, hproduct, hbase, hsupply', hfits⟩, ?_,
    hflows₁.append hflows₂, ?_⟩
  · rw [World.mapStore_store, hs₂, hs₁]
    exact Storage.setBorrowInfo_eq_withStakes ..
  · rw [World.mapStore_transfers, hts₂, hts₁, List.append_assoc, ← List.map_append]
    rfl

theorem claimBorrow_returns (h : Paying env (w.store.pools p) (.claimBorrow p))
    (ht : (w.store.pools p).settleToken ≠ 0) (hfree : w.store.entered = false)
    (hex : w.store.Exists p) (hopen : (w.store.pools p).Open env.timestamp)
    (hdue : (w.store.pools p).Due w.store.globalPaused (w.store.stakes p env.sender)
      (.claimBorrow p))
    {b : Address → Holdings} (hflows : Run Flow.Step w.ledger.balance ((w.store.pools p).flows env.this
      env.sender (w.store.stakes p env.sender) (.claimBorrow p)) b)
    (hroom : (w.store.pools p).Fits w.ledger.balance ((w.store.pools p).flows env.this env.sender
      (w.store.stakes p env.sender) (.claimBorrow p))) :
    ∃ w', (claimBorrow env p).run w = .ok ((), w') := by
  obtain ⟨hpaused, hstate, hamount, hflag, hrated, hproduct, hbase, hsupply, hfits⟩ := hdue
  -- the source divides by this product in the jp share
  have hbase0 : RATE_BASE * (w.store.pools p).borrowSupply ≠ 0 :=
    Nat.mul_ne_zero (by decide) hsupply
  obtain ⟨_, w₁, hmint, hs, _, w₂, hpay⟩ := Performs.returns_two
    (w := w.mapStore (·.setEntered true))
    (Performs.when fun hjp => (h.performs_mint rfl hjp _).drop)
    (Performs.when fun hpos => h.performs_pay (.inl rfl) ht hpos) hflows hroom
  apply nonReentrant_returns hfree
  apply Exists.intro
  simp only [storage_rules, Tx.bind_ok, Tx.require_ok, Tx.umul_ok, Tx.udiv_ok, and_assoc,
    exists_and_left, exists_eq_left, exists_const]
  refine ⟨hpaused, hex, hamount, hflag, hstate, hopen.1, hrated, hproduct, hbase, hbase0, (), w₁, hmint,
    ?_, ?_, (), w₂, ?_, rfl⟩
  all_goals rw [hs]
  · exact hfits
  · exact hsupply
  · exact hpay

theorem withdrawBorrow_collected (h : Accurate env (w.store.pools p))
    (ht : (w.store.pools p).pledgeToken ≠ 0) (hrun : (withdrawBorrow env p n).run w = .ok ((), w')) :
    Collected env p (.withdrawBorrow p n) w w' := by
  apply nonReentrant_collected hrun
  intro v v' hpool hrun
  rw [← hpool] at h ht
  simp only [storage_rules, Tx.bind_ok, Tx.require_ok, Tx.umul_ok, Tx.udiv_ok, Tx.ite_ok, and_assoc,
    exists_and_left, exists_eq_left, exists_const] at hrun
  obtain ⟨hpaused, -, hn, hstate, _, w₁, hburn, hrated, -, redeemed, w₂, hredeem, hpay⟩ := hrun
  obtain ⟨hs₁, hflows₁, hts₁⟩ :=
    (Moves.when fun _ => (h.moves_burn .borrow env.sender n).drop).moved hburn
  -- as for lenders, but the burn is left out without a jp token
  rw [hs₁] at hrated hredeem hpay
  obtain ⟨-, hfits, htotal, rfl, rfl⟩ := Pool.redeems_iff.mp hredeem
  obtain ⟨hs₂, hflows₂, hts₂⟩ :=
    (Moves.when fun hpos => h.moves_pay ht hpos env.sender).moved hpay
  refine ⟨⟨hpaused, hstate, hn, hrated, hfits, htotal⟩, ?_, hflows₁.append hflows₂, ?_⟩
  · rw [hs₂, hs₁]
    exact Storage.eq_withStakes ..
  · rw [hts₂, hts₁, List.append_assoc, ← List.map_append]
    rfl

theorem withdrawBorrow_returns (h : Paying env (w.store.pools p) (.withdrawBorrow p n))
    (ht : (w.store.pools p).pledgeToken ≠ 0) (hfree : w.store.entered = false)
    (hex : w.store.Exists p) (hopen : (w.store.pools p).Open env.timestamp)
    (hdue : (w.store.pools p).Due w.store.globalPaused (w.store.stakes p env.sender)
      (.withdrawBorrow p n))
    {b : Address → Holdings} (hflows : Run Flow.Step w.ledger.balance ((w.store.pools p).flows env.this
      env.sender (w.store.stakes p env.sender) (.withdrawBorrow p n)) b)
    (hroom : (w.store.pools p).Fits w.ledger.balance ((w.store.pools p).flows env.this env.sender
      (w.store.stakes p env.sender) (.withdrawBorrow p n))) :
    ∃ w', (withdrawBorrow env p n).run w = .ok ((), w') := by
  obtain ⟨hpaused, hstate, hn, hrated, hfits, htotal⟩ := hdue
  have htime := hopen.2 hstate
  obtain ⟨_, w₁, hburn, hs, _, w₂, hpay⟩ := Performs.returns_two
    (w := w.mapStore (·.setEntered true))
    (Performs.when fun hjp => (h.performs_burn rfl hjp n).drop)
    (Performs.when fun hpos => h.performs_pay (.inr rfl) ht hpos) hflows hroom
  apply nonReentrant_returns hfree
  refine ⟨w₂, ?_⟩
  simp only [storage_rules, Tx.bind_ok, Tx.require_ok, Tx.umul_ok, Tx.udiv_ok, Tx.ite_ok, and_assoc,
    exists_and_left, exists_eq_left, exists_const]
  refine ⟨hpaused, hex, hn, hstate, (), w₁, hburn, ?_, by decide,
    (w.store.pools p).borrowRedemption n, w₁, ?_, ?_⟩
  all_goals rw [hs]
  · exact hrated
  · exact Pool.redeems_iff.mpr ⟨htime, hfits, htotal, rfl, rfl⟩
  · exact hpay

end Functions

/-- **A payout that succeeds pays what is due**, by its function. -/
theorem Accurate.collected {env : Env} {w w' : World} {p : Nat} {c : Call}
    (h : Accurate env (w.store.pools p)) (hassets : (w.store.pools p).Assets) (hc : c.collects p = true)
    (hrun : (c.body env).run w = .ok ((), w')) : Collected env p c w w' := by
  cases c with
  | refundLend q =>
      obtain rfl : q = p := of_decide_eq_true hc
      exact refundLend_collected h hassets.1 hrun
  | claimLend q =>
      obtain rfl : q = p := of_decide_eq_true hc
      exact claimLend_collected h hrun
  | withdrawLend q n =>
      obtain rfl : q = p := of_decide_eq_true hc
      exact withdrawLend_collected h hassets.1 hrun
  | refundBorrow q =>
      obtain rfl : q = p := of_decide_eq_true hc
      exact refundBorrow_collected h hassets.2 hrun
  | claimBorrow q =>
      obtain rfl : q = p := of_decide_eq_true hc
      exact claimBorrow_collected h hassets.1 hrun
  | withdrawBorrow q n =>
      obtain rfl : q = p := of_decide_eq_true hc
      exact withdrawBorrow_collected h hassets.2 hrun
  | _ => cases hc

/-- **What is due is paid**, when the gates are open, the flows can take place and what they mint fits. -/
theorem Paying.returns {env : Env} {w : World} {p : Nat} {c : Call}
    (h : Paying env (w.store.pools p) c) (hassets : (w.store.pools p).Assets) (hc : c.collects p = true)
    (hfree : w.store.entered = false) (hex : w.store.Exists p)
    (hopen : (w.store.pools p).Open env.timestamp)
    (hdue : (w.store.pools p).Due w.store.globalPaused (w.store.stakes p env.sender) c)
    {b : Address → Holdings} (hflows : Run Flow.Step w.ledger.balance ((w.store.pools p).flows env.this
      env.sender (w.store.stakes p env.sender) c) b)
    (hroom : (w.store.pools p).Fits w.ledger.balance ((w.store.pools p).flows env.this env.sender
      (w.store.stakes p env.sender) c)) : ∃ w', (c.body env).run w = .ok ((), w') := by
  cases c with
  | refundLend q =>
      obtain rfl : q = p := of_decide_eq_true hc
      exact refundLend_returns h hassets.1 hfree hex hopen hdue hflows hroom
  | claimLend q =>
      obtain rfl : q = p := of_decide_eq_true hc
      exact claimLend_returns h hfree hex hdue hflows hroom
  | withdrawLend q n =>
      obtain rfl : q = p := of_decide_eq_true hc
      exact withdrawLend_returns h hassets.1 hfree hex hopen hdue hflows hroom
  | refundBorrow q =>
      obtain rfl : q = p := of_decide_eq_true hc
      exact refundBorrow_returns h hassets.2 hfree hex hopen hdue hflows hroom
  | claimBorrow q =>
      obtain rfl : q = p := of_decide_eq_true hc
      exact claimBorrow_returns h hassets.1 hfree hex hopen hdue hflows hroom
  | withdrawBorrow q n =>
      obtain rfl : q = p := of_decide_eq_true hc
      exact withdrawBorrow_returns h hassets.2 hfree hex hopen hdue hflows hroom
  | _ => cases hc

/-! ## The contract works the till

`World.Shows` relates the contract to the till in the middle of a sequence of payouts: the storage
is the one at the start but for the records, and the balances agree. From the contract to the till
this is a simulation step by step (`World.Shows.step`, `World.Shows.run`); back again it also needs
the tokens to pay and the supply to have room (`World.Shows.pay`, `World.Shows.run_back`). The
theorem goes down with the one order, swaps in the till, and comes up again with the other. -/

/-- `x` is the till of the pool `p` in `w`; all else in storage is as in `s`. -/
structure World.Shows (s : Storage) (p : Nat) (w : World) (x : Till) : Prop where
  store : w.store = s.withStakes p x.stakes
  balance : w.ledger.balance = x.balance

/-- What a transaction asked for. -/
def Event.asked : Event → Option (Env × Call)
  | .call env c _ => some (env, c)
  | .outside => none

/-- Who asked for what. -/
def request (y : Env × Call) : Address × Call := (y.1.sender, y.2)

/-- The receipt of a transaction, when `u` sent it. -/
def Event.receipt (u : Address) : Event → List Transfer
  | .call env _ ts => if env.sender = u then ts else []
  | .outside => []

/-- What a transaction minted of a token. -/
def Event.mints (token : Address) : Event → Nat
  | .call _ _ ts => sentBy token 0 ts
  | .outside => 0

/-- A payout of `p` by the contract `this`, with tokens that do what they report. -/
def Event.Collects (p : Nat) (this : Address) (pool : Pool) : Event → Prop
  | .call env c _ => c.collects p = true ∧ Accurate env pool ∧ env.this = this
  | .outside => False

/-- What the flows mint is what their events say was minted, or less. -/
theorem Flow.minted_le (t : Address) (fs : List Flow) :
    Flow.minted t fs ≤ sentBy t 0 (fs.map Flow.transfer) := by
  induction fs with
  | nil => exact Nat.zero_le _
  | cons f fs ih =>
      have hhead : (if f.token = t ∧ f.src = none then f.amount else 0) ≤ sentBy t 0 [f.transfer] := by
        split
        · next h =>
            unfold sentBy
            rw [volume_single, if_pos]
            · exact Nat.le_refl _
            · simp [Flow.transfer, h.1, h.2]
        · exact Nat.zero_le _
      have htail : sentBy t 0 ((f :: fs).map Flow.transfer) =
          sentBy t 0 [f.transfer] + sentBy t 0 (fs.map Flow.transfer) := volume_append _ [f.transfer] _
      rw [htail]
      exact Nat.add_le_add hhead ih

section Simulation

variable {s : Storage} {p : Nat} {this : Address} {w w' : World} {x x' : Till} {env : Env} {c : Call}

/-- **A payout works the till.** -/
theorem World.Shows.step (h : w.Shows s p x) (hassets : (s.pools p).Assets) {ts : List Transfer}
    (hs : Step w (.call env c ts) w')
    (hc : Event.Collects p this (s.pools p) (.call env c ts)) :
    ∃ x', x.Step (s.pools p) s.globalPaused this (env.sender, c) x' ∧ w'.Shows s p x' ∧
      (∀ t, x'.issued t ≤ x.issued t + sentBy t 0 ts) ∧
      x'.receipts = Function.update x.receipts env.sender (x.receipts env.sender ++ ts) := by
  obtain ⟨hc, haccurate, rfl⟩ := hc
  obtain ⟨hstore, hbalance⟩ := h
  cases hs with
  | call env c hrun =>
      obtain ⟨hdecodes, -, hbody⟩ := Call.transaction_ok.mp hrun
      -- only the records differ from `s`: the pool and the pause are the ones at the start
      have hpool : w.store.pools p = s.pools p := by rw [hstore]; rfl
      have hstakes : w.store.stakes p = x.stakes := by rw [hstore, Storage.withStakes_stakes]
      have hpaused : w.store.globalPaused = s.globalPaused := by rw [hstore]; rfl
      have hcollected : Collected env p c { w with transfers := [] } w' :=
        Accurate.collected (by rwa [hpool]) (by rwa [hpool]) hc hbody
      have hdue : (w.store.pools p).Due w.store.globalPaused (w.store.stakes p env.sender) c :=
        hcollected.due
      have hstore' : w'.store = w.store.withStakes p (Function.update (w.store.stakes p) env.sender
          ((w.store.pools p).collect (w.store.stakes p env.sender) c)) := hcollected.store
      have hflows : Run Flow.Step w.ledger.balance ((w.store.pools p).flows env.this env.sender
          (w.store.stakes p env.sender) c) w'.ledger.balance := hcollected.flows
      have hts : w'.transfers = ((w.store.pools p).flows env.this env.sender
          (w.store.stakes p env.sender) c).map Flow.transfer := hcollected.transfers
      rw [hpool, hpaused, hstakes] at hdue
      rw [hpool, hstakes, hstore, Storage.withStakes_withStakes] at hstore'
      rw [hpool, hstakes, hbalance] at hflows
      rw [hpool, hstakes] at hts
      -- the till is paid by the same flows
      refine ⟨x.paid (s.pools p) env.this (env.sender, c) w'.ledger.balance,
        .pay hdecodes haccurate.external hdue hflows, ⟨hstore', rfl⟩, ?_, ?_⟩
      · intro t
        rw [hts]
        exact Nat.add_le_add_left (Flow.minted_le t _) _
      · rw [hts]
        rfl

/-- The till after a payout is determined, since the balances after its flows are. -/
theorem Till.Step.unique {pool : Pool} {paused : Bool} {l : Address × Call} {x₁ x₂ : Till}
    (h₁ : x.Step pool paused this l x₁) (h₂ : x.Step pool paused this l x₂) : x₁ = x₂ := by
  cases h₁ with
  | pay _ _ _ hflows₁ =>
    cases h₂ with
    | pay _ _ _ hflows₂ => rw [hflows₂.unique (fun h h' => h.unique h') hflows₁]

/-- The claim tokens have room for what is minted from `x` to `x'`. -/
def Pool.Holds (pool : Pool) (x x' : Till) : Prop :=
  ∀ t, pool.ClaimToken t →
    ∃ supply, (x.balance t).SumsTo supply ∧ supply + x'.issued t < Tx.uint256 + x.issued t

/-- **What the till can do, the contract does**, when what it mints fits. -/
theorem World.Shows.pay (h : w.Shows s p x) (hassets : (s.pools p).Assets) (hfree : s.entered = false)
    (hex : s.Exists p) (hpaying : Paying env (s.pools p) c) (hopen : (s.pools p).Open env.timestamp)
    (hc : c.collects p = true)
    (hs : x.Step (s.pools p) s.globalPaused env.this (env.sender, c) x')
    (hroom : (s.pools p).Holds x x') :
    ∃ ts w', Step w (.call env c ts) w' ∧ w'.Shows s p x' ∧
      x'.receipts = Function.update x.receipts env.sender (x.receipts env.sender ++ ts) := by
  have hpool : w.store.pools p = s.pools p := by rw [h.store]; rfl
  have hstakes : w.store.stakes p = x.stakes := by rw [h.store, Storage.withStakes_stakes]
  have hpaused : w.store.globalPaused = s.globalPaused := by rw [h.store]; rfl
  have hrun : ∃ w', (c.transaction env).run { w with transfers := [] } = .ok ((), w') := by
    cases hs with
    | pay hdecodes _ hdue hflows =>
        have hbody : ∃ w', (c.body env).run { w with transfers := [] } = .ok ((), w') := by
          apply Paying.returns (w := { w with transfers := [] }) (p := p)
          · rwa [hpool]
          · rwa [hpool]
          · exact hc
          · rw [h.store]
            exact hfree
          · rw [h.store]
            exact hex
          · rwa [hpool]
          · rwa [hpool, hpaused, hstakes]
          · rw [hpool, hstakes, h.balance]
            exact hflows
          · rw [hpool, hstakes, h.balance]
            intro t ht
            obtain ⟨supply, hsupply, hlt⟩ := hroom t ht
            refine ⟨supply, hsupply, ?_⟩
            have hissued : supply + (x.issued t + Flow.minted t ((s.pools p).flows env.this env.sender
                (x.stakes env.sender) c)) < Tx.uint256 + x.issued t := hlt
            omega
        obtain ⟨w', hbody⟩ := hbody
        exact ⟨w', Call.transaction_ok.mpr ⟨hdecodes, .inr hpaying.value, hbody⟩⟩
  obtain ⟨w', hrun⟩ := hrun
  have hstep : Step w (.call env c w'.transfers) w' := .call env c hrun
  -- the transaction works the till in turn, and the till has one way to go
  obtain ⟨x'', hs'', hshows, -, hreceipts⟩ := h.step hassets hstep ⟨hc, hpaying.toAccurate, rfl⟩
  rw [hs''.unique hs] at hshows hreceipts
  exact ⟨w'.transfers, w', hstep, hshows, hreceipts⟩

/-- A receipt goes to the account that sent the transaction. -/
theorem receipts_snoc {before after : Address → List Transfer} {start : Address → List Transfer}
    {es : List Event} {ts : List Transfer}
    (hbefore : ∀ u, before u = start u ++ es.flatMap (Event.receipt u))
    (hafter : after = Function.update before env.sender (before env.sender ++ ts)) (u : Address) :
    after u = start u ++ (es ++ [Event.call env c ts]).flatMap (Event.receipt u) := by
  rw [hafter, List.flatMap_append, ← List.append_assoc, ← hbefore]
  by_cases hu : env.sender = u
  · subst hu
    rw [Function.update_self]
    simp [Event.receipt]
  · rw [Function.update_of_ne (Ne.symm hu)]
    simp [Event.receipt, hu]

/-- A run of payouts works the till: the receipts are the till's, and so is what it counts as minted. -/
theorem World.Shows.run (h : w.Shows s p x) (hassets : (s.pools p).Assets) {es : List Event}
    (hes : ∀ e ∈ es, e.Collects p this (s.pools p)) (hrun : Run Pledge.Contract.Step w es w') :
    ∃ x', Run (Till.Step (s.pools p) s.globalPaused this) x ((es.filterMap Event.asked).map request)
        x' ∧ w'.Shows s p x' ∧ (∀ t, x'.issued t ≤ x.issued t + (es.map (Event.mints t)).sum) ∧
      ∀ u, x'.receipts u = x.receipts u ++ es.flatMap (Event.receipt u) := by
  induction hrun with
  | start =>
      exact ⟨x, .start, h, fun t => Nat.le_add_right _ _, fun u => (List.append_nil _).symm⟩
  | @step es w₁ w₂ e hrun hs ih =>
      obtain ⟨x₁, hrun₁, hshows₁, hissued₁, hreceipts₁⟩ :=
        ih fun e he => hes e (List.mem_append_left _ he)
      have he := hes e (List.mem_append_right _ (List.mem_singleton_self e))
      cases e with
      | outside => exact he.elim
      | call env c ts =>
          obtain ⟨x₂, hs₂, hshows₂, hissued₂, hreceipts₂⟩ := hshows₁.step hassets hs he
          refine ⟨x₂, ?_, hshows₂, ?_, receipts_snoc hreceipts₁ hreceipts₂⟩
          · rw [List.filterMap_append, List.map_append]
            exact hrun₁.step hs₂
          · intro t
            rw [List.map_append, List.sum_append, ← Nat.add_assoc]
            exact Nat.le_trans (hissued₂ t) (Nat.add_le_add_right (hissued₁ t) _)

/-- Room for all that a run mints is room for the first part of it, and what is left afterwards is room
for the last step. -/
theorem Pool.Holds.snoc {pool : Pool} {paused : Bool} {x₁ x₂ : Till} {ls : List (Address × Call)}
    {l : Address × Call} (h : pool.Holds x x₂) (hrun : Run (Till.Step pool paused this) x ls x₁)
    (hs : x₁.Step pool paused this l x₂) : pool.Holds x x₁ ∧ pool.Holds x₁ x₂ := by
  constructor
  · intro t ht
    obtain ⟨supply, hsupply, hlt⟩ := h t ht
    have hmore := hs.issued_le t
    exact ⟨supply, hsupply, by omega⟩
  · intro t ht
    obtain ⟨supply, hsupply, hlt⟩ := h t ht
    obtain ⟨supply', hle, hsupply'⟩ := Till.run_tallied hrun hsupply
    exact ⟨supply', hsupply', by omega⟩

/-- What the till does in a run, the contract does, when all that the run mints fits. -/
theorem World.Shows.run_back (h : w.Shows s p x) (hassets : (s.pools p).Assets)
    (hfree : s.entered = false) (hex : s.Exists p) {ys : List (Env × Call)}
    (hys : ∀ y ∈ ys, y.2.collects p = true ∧ Paying y.1 (s.pools p) y.2 ∧ y.1.this = this ∧
      (s.pools p).Open y.1.timestamp)
    (hrun : Run (Till.Step (s.pools p) s.globalPaused this) x (ys.map request) x')
    (hroom : (s.pools p).Holds x x') :
    ∃ es w', Run Pledge.Contract.Step w es w' ∧ es.map Event.asked = ys.map some ∧ w'.Shows s p x' ∧
      ∀ u, x'.receipts u = x.receipts u ++ es.flatMap (Event.receipt u) := by
  induction ys using List.reverseRecOn generalizing x' with
  | nil =>
      rw [hrun.nil_eq]
      exact ⟨[], w, .start, rfl, h, fun u => (List.append_nil _).symm⟩
  | append_singleton ys y ih =>
      rw [List.map_append] at hrun
      obtain ⟨x₁, hrun₁, hs⟩ := Run.snoc hrun
      -- the room for all is room for the first part, and what that leaves is room for the last call
      obtain ⟨hroom₁, hroom₂⟩ := hroom.snoc hrun₁ hs
      obtain ⟨es, w₁, hes, hasked, hshows₁, hreceipts₁⟩ :=
        ih (fun y hy => hys y (List.mem_append_left _ hy)) hrun₁ hroom₁
      obtain ⟨env, c⟩ := y
      obtain ⟨hc, hpaying, rfl, hopen⟩ :=
        hys _ (List.mem_append_right _ (List.mem_singleton_self (env, c)))
      obtain ⟨ts, w₂, hstep, hshows₂, hreceipts₂⟩ :=
        hshows₁.pay hassets hfree hex hpaying hopen hc hs hroom₂
      refine ⟨es ++ [.call env c ts], w₂, hes.step hstep, ?_, hshows₂,
        receipts_snoc hreceipts₁ hreceipts₂⟩
      rw [List.map_append, List.map_append, hasked]
      rfl

end Simulation

/-- Between transactions the guard of `nonReentrant` is down. -/
theorem reachable_free {admin multiSignature : Address} {ledger : Ledger} {es : List Event} {w : World}
    (hrun : Run QuietStep (deployed admin multiSignature ledger) es w) : w.store.entered = false := by
  apply Run.invariant (I := fun _ w => w.store.entered = false) rfl _ hrun
  intro es w e w' hfree h
  obtain ⟨hstep, hq⟩ := h
  cases hstep with
  | call env c hrun =>
      obtain ⟨moves, heff, -⟩ := transaction_effect hq hrun
      exact heff.entered.trans hfree
  | outside => exact hfree

/-- **Payouts do not depend on who comes first.** From any reachable state, for every
sequence of payouts of a pool that succeeds, and for which the supply of the claim tokens has room
for all that it mints: any other sequence of the same calls in which each account keeps the order of its
own, sent when the time gates are open, succeeds as well, ends in the same storage with the same
balances, and gives every account the same receipts. -/
theorem payouts_order_free {admin multiSignature : Address} {ledger : Ledger} {es₀ es : List Event}
    {w w' : World} {p : Nat} {this : Address}
    (hreach : Run QuietStep (deployed admin multiSignature ledger) es₀ w) (hex : w.store.Exists p)
    (hes : ∀ e ∈ es, e.Collects p this (w.store.pools p)) (hrun : Run Step w es w')
    (hroom : ∀ t, (w.store.pools p).ClaimToken t → ∃ supply,
      Holdings.SumsTo (w.ledger.balance t) supply ∧
        supply + (es.map (Event.mints t)).sum < Tx.uint256)
    {ys : List (Env × Call)}
    (hys : ∀ y ∈ ys, Paying y.1 (w.store.pools p) y.2 ∧ y.1.this = this ∧
      (w.store.pools p).Open y.1.timestamp)
    (hsame : ∀ u, ownedBy Prod.fst u (ys.map request) =
      ownedBy Prod.fst u ((es.filterMap Event.asked).map request)) :
    ∃ es' w'', Run Step w es' w'' ∧ es'.map Event.asked = ys.map some ∧ w''.store = w'.store ∧
      w''.ledger.balance = w'.ledger.balance ∧
      ∀ u, es'.flatMap (Event.receipt u) = es.flatMap (Event.receipt u) := by
  -- an existing pool has two assets that are not the zero address
  have hassets : (w.store.pools p).Assets := reachable_listed hreach p hex
  -- the till at the start, with nothing minted and no receipts yet
  have hstart : w.Shows w.store p ⟨w.store.stakes p, w.ledger.balance, fun _ => 0, fun _ => []⟩ :=
    ⟨(Storage.withStakes_self w.store p).symm, rfl⟩
  obtain ⟨x, hworked, hshows, hissued, hreceipts⟩ := hstart.run hassets hes hrun
  -- both orders end in the till `x`, so they mint the same
  have hreordered := hworked.reorder Till.swaps hsame
  -- the supply has room for the whole sequence, so it has room in every order
  have hholds : (w.store.pools p).Holds
      ⟨w.store.stakes p, w.ledger.balance, fun _ => 0, fun _ => []⟩ x := by
    intro t ht
    obtain ⟨supply, hsupply, hlt⟩ := hroom t ht
    have hle : x.issued t ≤ 0 + (es.map (Event.mints t)).sum := hissued t
    refine ⟨supply, hsupply, ?_⟩
    show supply + x.issued t < Tx.uint256 + 0
    omega
  -- every call of the new sequence is one of the old ones
  have hcollects : ∀ y ∈ ys, y.2.collects p = true := by
    intro y hy
    have hmem : request y ∈ ownedBy Prod.fst y.1.sender (ys.map request) :=
      List.mem_filter.mpr ⟨List.mem_map_of_mem hy, decide_eq_true rfl⟩
    rw [hsame] at hmem
    obtain ⟨y', hy', heq⟩ := List.mem_map.mp (List.mem_filter.mp hmem).1
    obtain ⟨e, he, hasked⟩ := List.mem_filterMap.mp hy'
    have hcall : (request y').2 = (request y).2 := congrArg Prod.snd heq
    cases e with
    | outside => cases hasked
    | call env c ts =>
        obtain rfl := Option.some.inj hasked
        have hsame : c = y.2 := hcall
        rw [← hsame]
        exact (hes _ he).1
  obtain ⟨es', w'', hrun', hasked, hshows', hreceipts'⟩ := hstart.run_back hassets
    (reachable_free hreach) hex (fun y hy => ⟨hcollects y hy, hys y hy⟩) hreordered hholds
  refine ⟨es', w'', hrun', hasked, hshows'.store.trans hshows.store.symm,
    hshows'.balance.trans hshows.balance.symm, ?_⟩
  intro u
  have hgot := (hreceipts' u).symm.trans (hreceipts u)
  exact hgot

/-! The small pool is finished before anyone has taken anything. The lender and the borrower then take
turns, or the borrower goes first. -/

namespace World

theorem standard_accurate {st : Setting} (hsender : st.sender ≠ st.this) (hrouter : st.router ≠ st.this)
    (pool : Pool) : Accurate (standardEnv st) pool where
  toExact := standard_exact hsender hrouter
  claim _ := standard_debtToken st _

theorem standard_paying {st : Setting} (hsender : st.sender ≠ st.this) (hrouter : st.router ≠ st.this)
    (pool : Pool) (c : Call) : Paying (standardEnv st) pool c where
  toAccurate := standard_accurate hsender hrouter pool
  value := rfl
  pays _ _ _ _ h := standard_pays _ h
  mints _ _ _ n w _ _ _ := by
    refine ⟨true, ?_⟩
    apply Exists.intro
    simp only [standardEnv, mintToken, Tx.rules, exists_and_left, exists_eq_left, exists_const]
    exact ⟨trivial, rfl⟩
  burns _ _ _ _ _ h := standard_burns h

def ending : List (Setting × Call) := opening ++ [(setting 10 1000 10, .finish 1)]

def afterEnding : World := (deployed 10 50 openingLedger).play ending

theorem ending_run : Run HonestStep (deployed 10 50 openingLedger)
    ((deployed 10 50 openingLedger).events ending) afterEnding := play_run (by decide +kernel)

def inTurns : List (Setting × Call) :=
  [(setting 11 1001 10, .claimLend 1),
    (setting 12 1001 10, .claimBorrow 1),
    (setting 11 1001 10, .withdrawLend 1 1000),
    (setting 12 1001 10, .withdrawBorrow 1 1500)]

def borrowerFirst : List (Setting × Call) :=
  [(setting 12 1001 10, .claimBorrow 1),
    (setting 12 1001 10, .withdrawBorrow 1 1500),
    (setting 11 1001 10, .claimLend 1),
    (setting 11 1001 10, .withdrawLend 1 1000)]

/-- The transactions of a script. -/
def transactions (script : List (Setting × Call)) : List (Env × Call) :=
  script.map fun x => (standardEnv x.1, x.2)

/-- A script of payouts. -/
def collecting (p : Nat) (script : List (Setting × Call)) : Bool :=
  script.all fun x =>
    decide (x.2.collects p = true ∧ x.1.sender ≠ x.1.this ∧ x.1.router ≠ x.1.this ∧ x.1.this = 100)

theorem collecting_events {p : Nat} {pool : Pool} {script : List (Setting × Call)} {w : World}
    (h : collecting p script = true) : ∀ e ∈ w.events script, e.Collects p 100 pool := by
  induction script generalizing w with
  | nil =>
      intro e he
      cases he
  | cons head rest ih =>
      obtain ⟨st, c⟩ := head
      simp only [collecting, List.all_cons, Bool.and_eq_true, decide_eq_true_eq] at h
      obtain ⟨⟨hc, hsender, hrouter, hthis⟩, hrest⟩ := h
      intro e he
      rcases List.mem_cons.mp he with rfl | he
      · exact ⟨hc, standard_accurate hsender hrouter pool, hthis⟩
      · exact ih hrest e he

/-- Nobody has a claim token yet. -/
theorem ending_supply {t : Address} (ht : (afterEnding.store.pools 1).ClaimToken t) :
    Holdings.SumsTo (afterEnding.ledger.balance t) 0 := by
  obtain ⟨-, side, rfl⟩ := ht
  apply Holdings.SumsTo.zero
  intro a
  cases side with
  | lend => rfl
  | borrow => rfl

/-- Both mint well below `2^256`. -/
theorem inTurns_mints {t : Address} (ht : (afterEnding.store.pools 1).ClaimToken t) :
    0 + ((afterEnding.events inTurns).map (Event.mints t)).sum < Tx.uint256 := by
  obtain ⟨-, side, rfl⟩ := ht
  cases side with
  | lend => decide +kernel
  | borrow => decide +kernel

end World

theorem payouts_order_free_ending :
    ∃ es' w'', Run Step World.afterEnding es' w'' ∧
      es'.map Event.asked = (World.transactions World.borrowerFirst).map some ∧
      w''.store = (World.afterEnding.play World.inTurns).store ∧
      w''.ledger.balance = (World.afterEnding.play World.inTurns).ledger.balance ∧
      ∀ u, es'.flatMap (Event.receipt u) =
        (World.afterEnding.events World.inTurns).flatMap (Event.receipt u) := by
  have hrun : Run Step World.afterEnding (World.afterEnding.events World.inTurns)
      (World.afterEnding.play World.inTurns) :=
    (World.play_run (by decide +kernel)).mono fun hs => hs.1
  refine payouts_order_free (p := 1) (World.ending_run.mono HonestStep.quiet) (by decide +kernel)
    (World.collecting_events (by decide)) hrun ?_ ?_ ?_
  · intro t ht
    exact ⟨0, World.ending_supply ht, World.inTurns_mints ht⟩
  · intro y hy
    obtain ⟨x, hx, rfl⟩ := List.mem_map.mp hy
    have hopen : (World.afterEnding.store.pools 1).Open 1001 := by
      refine ⟨by decide +kernel, fun _ => ?_⟩
      decide +kernel
    simp only [World.borrowerFirst, List.mem_cons, List.not_mem_nil, or_false] at hx
    rcases hx with rfl | rfl | rfl | rfl <;>
      exact ⟨World.standard_paying (by decide) (by decide) _ _, rfl, hopen⟩
  · intro u
    show ownedBy Prod.fst u
        ([(12, Call.claimBorrow 1), (12, Call.withdrawBorrow 1 1500), (11, Call.claimLend 1),
          (11, Call.withdrawLend 1 1000)] : List (Address × Call)) =
      ownedBy Prod.fst u
        ([(11, Call.claimLend 1), (12, Call.claimBorrow 1), (11, Call.withdrawLend 1 1000),
          (12, Call.withdrawBorrow 1 1500)] : List (Address × Call))
    by_cases h₁ : 11 = u <;> by_cases h₂ : 12 = u
    · exact absurd (h₁.trans h₂.symm) (by decide)
    all_goals simp [ownedBy, h₁, h₂]

/-! ## A supply without room

The total supply of a claim token is a `uint256`, and a mint that would take it to `2^256` reverts. The
account `13` holds nearly all that there can be of the sp token. One lender has claimed, and the supply
is full: the other lender can claim when the first one has redeemed, and not before. -/

/-- A mint that fails more often is as exact. -/
theorem Exact.withMint {env : Env} (hx : Exact env) {mint : Address → Address → Nat → Tx World Bool}
    (hmint : ∀ {token holder n w b w'}, (mint token holder n).run w = .ok (b, w') →
      (env.mint token holder n).run w = .ok (b, w')) : Exact { env with mint := mint } where
  external := hx.external
  transfer h := hx.transfer h
  transferFrom h := hx.transferFrom h
  approve h := hx.approve h
  sendEth h := hx.sendEth h
  mint h := hx.mint (hmint h)
  burn h := hx.burn h
  swapExactTokensForTokens h := hx.swapExactTokensForTokens h
  swapExactETHForTokens h := hx.swapExactETHForTokens h
  swapExactTokensForETH h := hx.swapExactTokensForETH h
  transfer_moved h := hx.transfer_moved h
  transferFrom_moved h := hx.transferFrom_moved h
  approve_same h := hx.approve_same h
  mint_touched h := hx.mint_touched (hmint h)
  burn_touched h := hx.burn_touched h
  swap_exact h := hx.swap_exact h

namespace World

/-- The standard environment, with claim tokens that add to their total supply as a `uint256`. -/
def cappedEnv (holders : Finset Address) (st : Setting) : Env :=
  { standardEnv st with
    mint token holder n := do
      let balance ← Tx.reads fun w : World => w.ledger.balance
      let _ ← Tx.uadd (∑ a ∈ holders, balance token a) n
      mintToken token holder n
      pure true }

section Capped

variable {holders : Finset Address} {st : Setting}

/-- A mint that fits is a standard one. -/
theorem capped_mint {token holder : Address} {n : Nat} {w : World} {r : Bool × World} :
    ((cappedEnv holders st).mint token holder n).run w = .ok r ↔
      ∑ a ∈ holders, w.ledger.balance token a + n < Tx.uint256 ∧
        ((standardEnv st).mint token holder n).run w = .ok r := by
  obtain ⟨b, w'⟩ := r
  simp only [cappedEnv, standardEnv, Tx.bind_ok, Tx.reads_ok, Tx.uadd_ok]
  constructor
  · rintro ⟨_, _, ⟨rfl, rfl⟩, _, _, ⟨hfits, -, rfl⟩, hmint⟩
    exact ⟨hfits, hmint⟩
  · rintro ⟨hfits, hmint⟩
    exact ⟨_, w, ⟨rfl, rfl⟩, _, w, ⟨hfits, rfl, rfl⟩, hmint⟩

theorem capped_paying (hsender : st.sender ≠ st.this) (hrouter : st.router ≠ st.this) (pool : Pool)
    (c : Call) : Paying (cappedEnv holders st) pool c := by
  have hstandard := standard_paying hsender hrouter pool c
  have hexact : Exact (cappedEnv holders st) :=
    hstandard.toExact.withMint fun h => (capped_mint.mp h).2
  refine ⟨⟨hexact, fun side => ⟨?_, ?_⟩⟩, rfl, ?_, ?_, ?_⟩
  · exact fun h => (hstandard.claim side).mint (capped_mint.mp h).2
  · exact (hstandard.claim side).burn
  · exact hstandard.pays
  · intro side hc ht n w supply hsupply hfits
    obtain ⟨b, w', hmint⟩ := hstandard.mints side hc ht n w supply hsupply hfits
    have hle := hsupply.sum_le holders
    exact ⟨b, w', capped_mint.mpr ⟨by omega, hmint⟩⟩
  · exact hstandard.burns

end Capped

def crowdedLedger : Ledger where
  balance token a :=
    if token = 3 ∧ a = 13 then 2 ^ 256 - 601
    else if token ≤ 2 ∧ (a = 11 ∨ a = 12 ∨ a = 14 ∨ a = 200) then 1000000
    else 0
  allowance _ _ _ := 1000000

/-- Two lenders; the first one claims before the pool is finished. -/
def crowding : List (Setting × Call) :=
  setup ++ creation ::
    [(setting 11 10 10, .depositLend 1 600),
      (setting 14 10 10, .depositLend 1 400),
      (setting 12 10 10, .depositBorrow 1 2000),
      (setting 10 100 10, .settle 1),
      (setting 11 110 10, .claimLend 1),
      (setting 10 1000 10, .finish 1)]

def afterCrowding : World := (deployed 10 50 crowdedLedger).play crowding

theorem crowding_run : Run HonestStep (deployed 10 50 crowdedLedger)
    ((deployed 10 50 crowdedLedger).events crowding) afterCrowding := play_run (by decide +kernel)

/-- A transaction of `sender` when these accounts hold sp tokens. -/
def crowdedEnv (sender : Address) : Env := cappedEnv {11, 13, 14} (setting sender 1001 10)

def afterRedemption : World := afterCrowding.next (crowdedEnv 11) (.withdrawLend 1 600)

/-- Nothing that begins with a call that fails is a run. -/
theorem fails_run {w : World} {env : Env} {c : Call} (h : w.succeeds env c = false)
    (rest : List (Option (Env × Call))) :
    ¬ ∃ es w', Run Step w es w' ∧ es.map Event.asked = some (env, c) :: rest := by
  rintro ⟨es, w', hrun, hasked⟩
  cases es with
  | nil => cases hasked
  | cons e es =>
      rw [List.map_cons, List.cons.injEq] at hasked
      obtain ⟨m, hs, -⟩ := hrun.uncons
      cases hs with
      | outside => cases hasked.1
      | call env' c' hok =>
          cases hasked.1
          unfold succeeds at h
          rw [hok] at h
          cases h

end World

/-- The redemption of one lender and then the claim of the other succeed; the claim first does not. -/
theorem payouts_supply_full : ∃ es₀ es w', ∃ ys : List (Env × Call),
    Run HonestStep (deployed 10 50 World.crowdedLedger) es₀ World.afterCrowding ∧
    (World.afterCrowding.store.pools 1).state.Settled ∧
    (∀ e ∈ es, e.Collects 1 100 (World.afterCrowding.store.pools 1)) ∧
    Run Step World.afterCrowding es w' ∧
    (∀ y ∈ ys, Paying y.1 (World.afterCrowding.store.pools 1) y.2 ∧ y.1.this = 100 ∧
      (World.afterCrowding.store.pools 1).Open y.1.timestamp) ∧
    (∀ u, ownedBy Prod.fst u (ys.map request) =
      ownedBy Prod.fst u ((es.filterMap Event.asked).map request)) ∧
    ¬ ∃ es' w'', Run Step World.afterCrowding es' w'' ∧ es'.map Event.asked = ys.map some := by
  have hfirst : World.afterCrowding.succeeds (World.crowdedEnv 11) (.withdrawLend 1 600) = true := by
    decide +kernel
  have hsecond : World.afterRedemption.succeeds (World.crowdedEnv 14) (.claimLend 1) = true := by
    decide +kernel
  have hopen : (World.afterCrowding.store.pools 1).Open 1001 := by
    refine ⟨by decide +kernel, fun _ => ?_⟩
    decide +kernel
  refine ⟨_, [_, _], _,
    [(World.crowdedEnv 14, .claimLend 1), (World.crowdedEnv 11, .withdrawLend 1 600)],
    World.crowding_run, by decide +kernel, ?_,
    (Run.step .start (World.next_step hfirst)).step (World.next_step hsecond), ?_, ?_, ?_⟩
  · intro e he
    simp only [List.mem_cons, List.not_mem_nil, or_false] at he
    rcases he with rfl | rfl
    · exact ⟨rfl, (World.capped_paying (by decide) (by decide) _ (.withdrawLend 1 600)).toAccurate, rfl⟩
    · exact ⟨rfl, (World.capped_paying (by decide) (by decide) _ (.claimLend 1)).toAccurate, rfl⟩
  · intro y hy
    simp only [List.mem_cons, List.not_mem_nil, or_false] at hy
    rcases hy with rfl | rfl
    · exact ⟨World.capped_paying (by decide) (by decide) _ _, rfl, hopen⟩
    · exact ⟨World.capped_paying (by decide) (by decide) _ _, rfl, hopen⟩
  · intro u
    show ownedBy Prod.fst u ([(14, Call.claimLend 1), (11, Call.withdrawLend 1 600)] :
        List (Address × Call)) =
      ownedBy Prod.fst u ([(11, Call.withdrawLend 1 600), (14, Call.claimLend 1)] :
        List (Address × Call))
    by_cases h₁ : 11 = u <;> by_cases h₂ : 14 = u
    · exact absurd (h₁.trans h₂.symm) (by decide)
    all_goals simp [ownedBy, h₁, h₂]
  -- in the other order the claim comes first, and the supply has no room for its mint
  · exact World.fails_run (by decide +kernel) _

end Pledge.Contract
