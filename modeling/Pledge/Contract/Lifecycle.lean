import Pledge.Contract.Inversion

/-!
# The life of one pool

An abstract model of a single pool, without tokens, oracle or callers: a `Book` is everything stored
about the pool, and `Book.Step` says how one action changes it and which amounts the action moves.
The contract refines it, pool by pool: `Effect.lifecycle` shows that whatever a transaction does, it
does one of these actions to each pool (for most pools none).

`setPoolState` is outside the model: it moves a pool to any state, as its name says.
-/

namespace Pledge.Contract

open Pledge.Evm

/-! ## Books and actions

`create` begins a book, and from there the state of the pool leads from `MATCH` to `EXECUTION` or
`UNDONE` and from `EXECUTION` to `FINISH` or `LIQUIDATION`. There is no action for `setPoolState`. What a
sale raises is an argument of its action, of which the step says no more than the bounds. -/

/-- Everything stored about one pool. -/
structure Book where
  pool : Pool := {}
  lenders : List Address := []
  borrowers : List Address := []
  lendInfo : Address → LendInfo := fun _ => {}
  borrowInfo : Address → BorrowInfo := fun _ => {}

/-- What can happen to one pool, with the amounts that move. -/
inductive Act where
  | idle
  | create (pool : Pool)
  | configure (spToken jpToken : Address)
  | lend (user : Address) (amount : Nat)
  | borrow (user : Address) (amount : Nat)
  | settle (settleAmountLend settleAmountBorrow : Nat)
  | undo
  | refundLend (user : Address) (paid : Nat)
  | claimLend (user : Address) (minted : Nat)
  | withdrawLend (burned paid : Nat)
  | emergencyLend (user : Address) (paid : Nat)
  | refundBorrow (user : Address) (paid : Nat)
  | claimBorrow (user : Address) (paid minted : Nat)
  | withdrawBorrow (burned paid : Nat)
  | emergencyBorrow (user : Address) (paid : Nat)
  | finish (raised sold fee : Nat)
  | liquidate (raised sold fee : Nat)

/-- The parameters `createPool` and `createPoolInfo` accept. -/
structure Pool.Valid (pool : Pool) : Prop where
  settleToken : pool.settleToken ≠ 0
  pledgeToken : pool.pledgeToken ≠ 0
  maxSupply : 0 < pool.maxSupply
  interestRate : 0 < pool.interestRate ∧ pool.interestRate ≤ MAX_INTEREST_RATE
  pledgeRate : MIN_PLEDGE_RATE ≤ pool.pledgeRate ∧ pool.pledgeRate ≤ MAX_PLEDGE_RATE
  liquidationRate : RATE_BASE < pool.liquidationRate ∧ pool.liquidationRate < pool.pledgeRate
  times : pool.settleTime ≤ pool.endTime

/-- A pool as it is created: valid, in `MATCH` and with nothing in it. -/
structure Pool.Fresh (pool : Pool) : Prop extends pool.Valid where
  state : pool.state = .matching
  lendSupply : pool.lendSupply = 0
  borrowSupply : pool.borrowSupply = 0
  settleAmountLend : pool.settleAmountLend = 0
  settleAmountBorrow : pool.settleAmountBorrow = 0
  finishAmountLend : pool.finishAmountLend = 0
  finishAmountBorrow : pool.finishAmountBorrow = 0
  liquidationAmountLend : pool.liquidationAmountLend = 0
  liquidationAmountBorrow : pool.liquidationAmountBorrow = 0

namespace Book

variable (b : Book)

/-- The book after a deposit of `n` by the lender `user`. -/
def recordLend (user : Address) (n : Nat) : Book :=
  { b with
    pool := { b.pool with lendSupply := b.pool.lendSupply + n }
    lenders := if (b.lendInfo user).amount = 0 then b.lenders ++ [user] else b.lenders
    lendInfo := Function.update b.lendInfo user
      { b.lendInfo user with
        amount := (b.lendInfo user).amount + n, claimed := false, refunded := false } }

/-- The book after a deposit of `n` by the borrower `user`. -/
def recordBorrow (user : Address) (n : Nat) : Book :=
  { b with
    pool := { b.pool with borrowSupply := b.pool.borrowSupply + n }
    borrowers :=
      if (b.borrowInfo user).pledgeAmount = 0 then b.borrowers ++ [user] else b.borrowers
    borrowInfo := Function.update b.borrowInfo user
      { b.borrowInfo user with
        pledgeAmount := (b.borrowInfo user).pledgeAmount + n, settled := false, liquidated := false } }

def setLendInfo (user : Address) (info : LendInfo) : Book :=
  { b with lendInfo := Function.update b.lendInfo user info }

def setBorrowInfo (user : Address) (info : BorrowInfo) : Book :=
  { b with borrowInfo := Function.update b.borrowInfo user info }

/-- A borrower the health factor counts. -/
def Counted (user : Address) : Prop :=
  (b.borrowInfo user).settled = true ∧ (b.borrowInfo user).liquidated = false

instance (user : Address) : Decidable (b.Counted user) := inferInstanceAs (Decidable (_ ∧ _))

/-- Every counted borrower in the list becomes liquidated. -/
def markLiquidated : Book :=
  { b with
    borrowInfo := fun user =>
      if user ∈ b.borrowers ∧ b.Counted user then
        { b.borrowInfo user with liquidated := true }
      else b.borrowInfo user }

/-- One action on the pool. -/
inductive Step : Book → Act → Book → Prop
  | idle {b : Book} : Step b .idle b
  | create {pool : Pool} (h : pool.Fresh) : Step {} (.create pool) { pool := pool }
  | configure {b : Book} {spToken jpToken : Address} :
      Step b (.configure spToken jpToken)
        { b with pool := { b.pool with spToken := spToken, jpToken := jpToken } }
  | lend {b : Book} {user : Address} {n : Nat} (hstate : b.pool.state = .matching) (hn : 0 < n)
      (hmax : b.pool.lendSupply + n ≤ b.pool.maxSupply) : Step b (.lend user n) (b.recordLend user n)
  | borrow {b : Book} {user : Address} {n : Nat} (hstate : b.pool.state = .matching) (hn : 0 < n) :
      Step b (.borrow user n) (b.recordBorrow user n)
  | settle {b : Book} {pledgePrice settlePrice : Nat} (hstate : b.pool.state = .matching)
      (hlend : 0 < b.pool.lendSupply) (hborrow : 0 < b.pool.borrowSupply)
      (hpledge : 0 < pledgePrice) (hsettle : 0 < settlePrice) :
      Step b
        (.settle (b.pool.settlement pledgePrice settlePrice).1
          (b.pool.settlement pledgePrice settlePrice).2)
        { b with
          pool := { b.pool with
            settleAmountLend := (b.pool.settlement pledgePrice settlePrice).1
            settleAmountBorrow := (b.pool.settlement pledgePrice settlePrice).2
            state := .execution } }
  | undo {b : Book} (hstate : b.pool.state = .matching)
      (hempty : ¬ (0 < b.pool.lendSupply ∧ 0 < b.pool.borrowSupply)) :
      Step b .undo
        { b with
          pool := { b.pool with
            settleAmountLend := b.pool.lendSupply
            settleAmountBorrow := b.pool.borrowSupply
            state := .undone } }
  | refundLend {b : Book} {user : Address} (hstate : b.pool.state.Settled)
      (hamount : 0 < (b.lendInfo user).amount) (hflag : (b.lendInfo user).refunded = false)
      (hexcess : b.pool.settleAmountLend < b.pool.lendSupply) :
      Step b (.refundLend user (b.pool.lendRefund (b.lendInfo user)))
        (b.setLendInfo user { b.lendInfo user with refunded := true })
  | claimLend {b : Book} {user : Address} (hstate : b.pool.state.Settled)
      (hamount : 0 < (b.lendInfo user).amount) (hflag : (b.lendInfo user).claimed = false)
      (hsp : b.pool.spToken ≠ 0) :
      Step b (.claimLend user (b.pool.spShare (b.lendInfo user)))
        (b.setLendInfo user
          { b.lendInfo user with
            claimed := true, lendAmount := b.pool.spShare (b.lendInfo user) })
  | withdrawLend {b : Book} {burned : Nat} (hstate : b.pool.state.Closed)
      (hsp : b.pool.spToken ≠ 0) (hsettle : b.pool.settleAmountLend ≠ 0) :
      Step b (.withdrawLend burned (b.pool.lendRedemption burned)) b
  | emergencyLend {b : Book} {user : Address} (hstate : b.pool.state = .undone)
      (hamount : 0 < (b.lendInfo user).amount) (hflag : (b.lendInfo user).refunded = false) :
      Step b (.emergencyLend user (b.lendInfo user).amount)
        (b.setLendInfo user { b.lendInfo user with refunded := true })
  | refundBorrow {b : Book} {user : Address} (hstate : b.pool.state.Settled)
      (hamount : 0 < (b.borrowInfo user).pledgeAmount)
      (hflag : (b.borrowInfo user).settled = false)
      (hexcess : b.pool.settleAmountBorrow < b.pool.borrowSupply) :
      Step b (.refundBorrow user (b.pool.borrowRefund (b.borrowInfo user)))
        (b.setBorrowInfo user { b.borrowInfo user with settled := true })
  | claimBorrow {b : Book} {user : Address} (hstate : b.pool.state.Settled)
      (hamount : 0 < (b.borrowInfo user).pledgeAmount)
      (hflag : (b.borrowInfo user).settled = false) :
      Step b
        (.claimBorrow user (b.pool.loan (b.borrowInfo user))
          (if b.pool.jpToken ≠ 0 then b.pool.jpShare (b.borrowInfo user) else 0))
        (b.setBorrowInfo user
          { b.borrowInfo user with
            borrowAmount := b.pool.loan (b.borrowInfo user), settled := true })
  | withdrawBorrow {b : Book} {burned : Nat} (hstate : b.pool.state.Closed)
      (htotal : b.pool.totalJpAmount ≠ 0) :
      Step b (.withdrawBorrow burned (b.pool.borrowRedemption burned)) b
  | emergencyBorrow {b : Book} {user : Address} (hstate : b.pool.state = .undone)
      (hamount : 0 < (b.borrowInfo user).pledgeAmount)
      (hflag : (b.borrowInfo user).settled = false) :
      Step b (.emergencyBorrow user (b.borrowInfo user).pledgeAmount)
        (b.setBorrowInfo user { b.borrowInfo user with settled := true })
  | finish {b : Book} {raised sold fee : Nat} (hstate : b.pool.state = .execution)
      (hraised : b.pool.settleAmountLend ≤ raised) (hsold : sold ≤ b.pool.settleAmountBorrow)
      (hfee : fee ≤ b.pool.settleAmountBorrow - sold) :
      Step b (.finish raised sold fee)
        { b with
          pool := { b.pool with
            finishAmountLend := raised
            finishAmountBorrow := b.pool.settleAmountBorrow - sold - fee
            state := .finish } }
  | liquidate {b : Book} {raised sold fee : Nat} (hstate : b.pool.state = .execution)
      (hraised : b.pool.settleAmountLend ≤ raised) (hsold : sold ≤ b.pool.settleAmountBorrow)
      (hfee : fee ≤ b.pool.settleAmountBorrow - sold) :
      Step b (.liquidate raised sold fee)
        (markLiquidated { b with
          pool := { b.pool with
            liquidationAmountLend := raised
            liquidationAmountBorrow := b.pool.settleAmountBorrow - sold - fee
            state := .liquidation } })

end Book

/-! ## The book of a pool in storage

The book of `p` collects what the mappings of the contract hold under `p`. A write for one pool
changes the book of that pool as its action does and leaves the others alone; the lemmas below say
so for each of the writes. -/

namespace Storage

/-- What the storage holds about the pool `p`. -/
def book (s : Storage) (p : Nat) : Book where
  pool := s.pools p
  lenders := s.lenders p
  borrowers := s.borrowers p
  lendInfo := s.lendInfos p
  borrowInfo := s.borrowInfos p

variable (s : Storage) (p q : Nat) (u : Address)

@[simp] theorem book_pool : (s.book p).pool = s.pools p := rfl
@[simp] theorem book_lenders : (s.book p).lenders = s.lenders p := rfl
@[simp] theorem book_borrowers : (s.book p).borrowers = s.borrowers p := rfl
@[simp] theorem book_lendInfo : (s.book p).lendInfo = s.lendInfos p := rfl
@[simp] theorem book_borrowInfo : (s.book p).borrowInfo = s.borrowInfos p := rfl

theorem setPool_book (pool : Pool) :
    (s.setPool p pool).book q = if q = p then { s.book p with pool := pool } else s.book q := by
  by_cases h : q = p
  · subst h; simp [book]
  · simp [book, h]

theorem setLendInfo_book (info : LendInfo) :
    (s.setLendInfo p u info).book q = if q = p then (s.book p).setLendInfo u info else s.book q := by
  by_cases h : q = p
  · subst h; simp [book, Book.setLendInfo, setLendInfo]
  · simp [book, setLendInfo, h]

theorem setBorrowInfo_book (info : BorrowInfo) :
    (s.setBorrowInfo p u info).book q =
      if q = p then (s.book p).setBorrowInfo u info else s.book q := by
  by_cases h : q = p
  · subst h; simp [book, Book.setBorrowInfo, setBorrowInfo]
  · simp [book, setBorrowInfo, h]

theorem recordLend_book (n : Nat) :
    (s.recordLend p u n).book q = if q = p then (s.book p).recordLend u n else s.book q := by
  by_cases h : q = p
  · subst h
    by_cases h0 : (s.lendInfos q u).amount = 0 <;>
      simp [book, recordLend, Book.recordLend, setLendInfo, h0]
  · by_cases h0 : (s.lendInfos p u).amount = 0 <;>
      simp [book, recordLend, setLendInfo, h0, h]

theorem recordBorrow_book (n : Nat) :
    (s.recordBorrow p u n).book q = if q = p then (s.book p).recordBorrow u n else s.book q := by
  by_cases h : q = p
  · subst h
    by_cases h0 : (s.borrowInfos q u).pledgeAmount = 0 <;>
      simp [book, recordBorrow, Book.recordBorrow, setBorrowInfo, h0]
  · by_cases h0 : (s.borrowInfos p u).pledgeAmount = 0 <;>
      simp [book, recordBorrow, setBorrowInfo, h0, h]

theorem liquidated_book (pool : Pool) :
    ((s.setPool p pool).markLiquidated p (s.borrowers p)).book q =
      if q = p then ({ s.book p with pool := pool } : Book).markLiquidated else s.book q := by
  by_cases h : q = p
  · subst h; simp [book, markLiquidated, Book.markLiquidated, Counted, Book.Counted]; rfl
  · simp [book, markLiquidated, h]

theorem addPool_book (pool : Pool) :
    (s.addPool pool).book q =
      if q = s.poolCounter + 1 then { s.book q with pool := pool } else s.book q := by
  by_cases h : q = s.poolCounter + 1
  · subst h; simp [book]
  · simp [book, h]

/-- An identifier that was not given out has nothing stored. -/
def Blank : Prop := ∀ p, ¬ s.Exists p → s.book p = {}

end Storage

/-! ## The contract refines it

The simulation has one side only: every effect is an action on each pool's book, most often `idle`.
The action carries amounts that the call does not name, so `Act.Shown` says how they show in the
call and in the moves it made; this is what ties the sums over a life to the transfers of a run. -/

/-- The interest is not negative. -/
theorem Pool.le_repayment (pool : Pool) (duration : Nat) :
    pool.settleAmountLend ≤ pool.repayment duration := Nat.le_add_right _ _

/-- What a call asked for, when it did `a` to the pool `p`. -/
def Act.Shown (env : Env) (s : Storage) (p : Nat) (c : Call) (moves : List Move) : Act → Prop
  | .idle => c.poolId ≠ some p
  | .create _ => c.poolId = none ∧ moves = []
  | .configure _ _ => (∃ t, c = .setPoolSpToken p t ∨ c = .setPoolJpToken p t) ∧ moves = []
  | .lend user n => user = env.sender ∧
      ∃ amount, c = .depositLend p amount ∧ Received env (s.pools p).settleToken amount n moves
  | .borrow user n => user = env.sender ∧
      ∃ amount, c = .depositBorrow p amount ∧ Received env (s.pools p).pledgeToken amount n moves
  | .settle _ _ | .undo => c = .settle p ∧ moves = []
  | .refundLend user n => c = .refundLend p ∧ moves = [.pay (s.pools p).settleToken user n]
  | .claimLend user n => c = .claimLend p ∧ moves = [.mint (s.pools p).spToken user n]
  | .withdrawLend burned paid => c = .withdrawLend p burned ∧
      moves = [.burn (s.pools p).spToken env.sender burned, .pay (s.pools p).settleToken env.sender paid]
  | .emergencyLend user n =>
      c = .emergencyLendWithdrawal p ∧ moves = [.pay (s.pools p).settleToken user n]
  | .refundBorrow user n => c = .refundBorrow p ∧ moves = [.pay (s.pools p).pledgeToken user n]
  | .claimBorrow user paid minted => c = .claimBorrow p ∧
      moves =
        (if (s.pools p).jpToken ≠ 0 then [.mint (s.pools p).jpToken user minted] else []) ++
          if 0 < paid then [.pay (s.pools p).settleToken user paid] else []
  | .withdrawBorrow burned paid => c = .withdrawBorrow p burned ∧
      moves =
        (if (s.pools p).jpToken ≠ 0 then [.burn (s.pools p).jpToken env.sender burned] else []) ++
          if 0 < paid then [.pay (s.pools p).pledgeToken env.sender paid] else []
  | .emergencyBorrow user n =>
      c = .emergencyBorrowWithdrawal p ∧ moves = [.pay (s.pools p).pledgeToken user n]
  | .finish raised sold fee => c = .finish p ∧ ∃ received sale,
      Sale s (s.pools p) raised sold received sale ∧
        moves = sale ++ feeMoves s (s.pools p).pledgeToken fee
  | .liquidate raised sold fee => c = .liquidate p ∧ ∃ received sale,
      Sale s (s.pools p) raised sold received sale ∧
        moves = sale ++ feeMoves s (s.pools p).pledgeToken fee

/-- A call about another pool leaves the book alone. -/
theorem Effect.frame {env : Env} {s s' : Storage} {c : Call} {moves : List Move}
    (h : Effect env s c moves s') {p : Nat} (hp : c.poolId ≠ some p)
    (hnew : p = s.poolCounter + 1 → s'.poolCounter = s.poolCounter) : s'.book p = s.book p := by
  have hne {q : Nat} (h : some q ≠ some p) : p ≠ q := fun e => h (e ▸ rfl)
  cases h with
  | createPool | createPoolInfo =>
      -- a creation writes the next identifier only
      rw [Storage.addPool_book, if_neg]
      intro heq
      exact absurd (hnew heq) (Nat.succ_ne_self _)
  | setPoolState | setPoolSpToken | setPoolJpToken | settleExecution | settleUndone | finish =>
      rw [Storage.setPool_book, if_neg (hne hp)]
  | depositLend => rw [Storage.recordLend_book, if_neg (hne hp)]
  | depositBorrow => rw [Storage.recordBorrow_book, if_neg (hne hp)]
  | refundLend | claimLend | emergencyLendWithdrawal =>
      rw [Storage.setLendInfo_book, if_neg (hne hp)]
  | refundBorrow | claimBorrow | emergencyBorrowWithdrawal =>
      rw [Storage.setBorrowInfo_book, if_neg (hne hp)]
  | liquidate => rw [Storage.liquidated_book, if_neg (hne hp)]
  | setOracle | setDebtToken | setFee | setFeeAddress | setMinAmount | setPause
  | setSwapRouterAddress | withdrawLend | withdrawBorrow => rfl

/-- A creation adds a fresh pool that ends later. -/
theorem Effect.adds_pool {env : Env} {s s' : Storage} {c : Call} {moves : List Move}
    (h : Effect env s c moves s') (hc : c.creates = true) :
    ∃ pool : Pool, pool.Fresh ∧ env.timestamp < pool.endTime ∧ s' = s.addPool pool := by
  cases h with
  | createPool hsettle hpledge hborrow hinterest hrate hliq hend =>
      refine ⟨_, ?_, hend, rfl⟩
      exact ⟨⟨hsettle, hpledge, hborrow, hinterest, hrate, hliq, Nat.zero_le _⟩, rfl, rfl, rfl, rfl,
        rfl, rfl, rfl, rfl, rfl⟩
  | createPoolInfo htime hsp hjp hsettle hpledge hborrow hinterest hrate hliq hend =>
      refine ⟨_, ?_, hend, rfl⟩
      exact ⟨⟨hsettle, hpledge, hborrow, hinterest, hrate, hliq, htime.le⟩, rfl, rfl, rfl, rfl, rfl,
        rfl, rfl, rfl, rfl⟩
  | _ => cases hc

/-- Only a creation moves the counter, and it gives the next identifier a fresh pool. -/
theorem Effect.creates {env : Env} {s s' : Storage} {c : Call} {moves : List Move}
    (h : Effect env s c moves s') (hnew : s'.poolCounter ≠ s.poolCounter) :
    c.poolId = none ∧ moves = [] ∧ s'.poolCounter = s.poolCounter + 1 ∧
      ∃ pool : Pool, pool.Fresh ∧
        s'.book (s.poolCounter + 1) = { s.book (s.poolCounter + 1) with pool := pool } := by
  have hcreated (hc : c.creates = true) : s'.poolCounter = s.poolCounter + 1 ∧
      ∃ pool : Pool, pool.Fresh ∧
        s'.book (s.poolCounter + 1) = { s.book (s.poolCounter + 1) with pool := pool } := by
    obtain ⟨pool, hfresh, -, rfl⟩ := h.adds_pool hc
    exact ⟨rfl, pool, hfresh, by rw [Storage.addPool_book, if_pos rfl]⟩
  cases h with
  | createPool | createPoolInfo => exact ⟨rfl, rfl, hcreated rfl⟩
  | depositLend =>
      obtain ⟨_, _, _, heq⟩ := Storage.recordLend_writes ..
      exact absurd (congrArg Storage.poolCounter heq) hnew
  | depositBorrow =>
      obtain ⟨_, _, _, heq⟩ := Storage.recordBorrow_writes ..
      exact absurd (congrArg Storage.poolCounter heq) hnew
  | _ => exact absurd rfl hnew

/-- A call about a pool passed `poolExists`. -/
theorem Effect.exists {env : Env} {s s' : Storage} {c : Call} {moves : List Move}
    (h : Effect env s c moves s') {p : Nat} (hp : c.poolId = some p) : s.Exists p := by
  cases h with
  | createPool | createPoolInfo | setOracle | setDebtToken | setFee | setFeeAddress | setMinAmount
  | setPause | setSwapRouterAddress => cases hp
  | _ =>
      cases hp
      assumption

/-- A pool that did not exist before is fresh. -/
theorem Effect.new_pool {env : Env} {s s' : Storage} {c : Call} {moves : List Move}
    (h : Effect env s c moves s') {p : Nat} (hold : ¬ s.Exists p) (hex : s'.Exists p) :
    (s'.pools p).Fresh := by
  have hnew : s'.poolCounter ≠ s.poolCounter := fun heq => hold ⟨hex.1, heq ▸ hex.2⟩
  obtain ⟨-, -, hcounter, pool, hfresh, hbook⟩ := h.creates hnew
  obtain rfl : p = s.poolCounter + 1 :=
    Nat.le_antisymm (hcounter ▸ hex.2) (Nat.not_le.mp fun hle => hold ⟨hex.1, hle⟩)
  have hpool : s'.pools (s.poolCounter + 1) = pool := congrArg Book.pool hbook
  rw [hpool]
  exact hfresh

/-- A pool that exists stays. -/
theorem Effect.exists_mono {env : Env} {s s' : Storage} {c : Call} {moves : List Move}
    (h : Effect env s c moves s') {p : Nat} (hex : s.Exists p) : s'.Exists p := by
  refine ⟨hex.1, hex.2.trans ?_⟩
  by_cases hnew : s'.poolCounter = s.poolCounter
  · exact hnew.ge
  · rw [(h.creates hnew).2.2.1]
    exact Nat.le_succ _

/-- Identifiers are given out in order, so what was not given out stays blank. -/
theorem Effect.blank {env : Env} {s s' : Storage} {c : Call} {moves : List Move}
    (h : Effect env s c moves s') (hblank : s.Blank) : s'.Blank := by
  intro p hp
  -- an identifier free afterwards was free before, so no call was about it
  have hout : ¬ s.Exists p := fun hex => hp (h.exists_mono hex)
  rw [h.frame (fun hc => hout (h.exists hc)) ?_]
  · exact hblank p hout
  · rintro rfl
    by_contra hnew
    exact hp ⟨Nat.succ_pos _, (h.creates hnew).2.2.1.ge⟩

/-- **The contract refines the life of each pool.** -/
theorem Effect.lifecycle {env : Env} {s s' : Storage} {c : Call} {moves : List Move}
    (h : Effect env s c moves s') (hblank : s.Blank) (hc : c.setsState = false) (p : Nat) :
    ∃ a, Book.Step (s.book p) a (s'.book p) ∧ a.Shown env s p c moves := by
  by_cases hp : c.poolId = some p
  · -- the call is about `p`: one action for each function
    cases h with
    | createPool | createPoolInfo | setOracle | setDebtToken | setFee | setFeeAddress | setMinAmount
    | setPause | setSwapRouterAddress => cases hp
    | setPoolState => cases hc
    | @setPoolSpToken q spToken hex h =>
        cases hp
        refine ⟨.configure spToken (s.pools p).jpToken, ?_, ⟨_, .inl rfl⟩, rfl⟩
        rw [Storage.setPool_book, if_pos rfl]
        exact .configure
    | @setPoolJpToken q jpToken hex h =>
        cases hp
        refine ⟨.configure (s.pools p).spToken jpToken, ?_, ⟨_, .inr rfl⟩, rfl⟩
        rw [Storage.setPool_book, if_pos rfl]
        exact .configure
    | @depositLend q amount n moves hex hstate hend hrecv hmin hmax =>
        cases hp
        refine ⟨.lend env.sender n, ?_, rfl, amount, rfl, hrecv⟩
        rw [Storage.recordLend_book, if_pos rfl]
        exact .lend hstate hrecv.pos hmax
    | refundLend hex hstate htime hamount hflag hexcess hpos =>
        cases hp
        refine ⟨.refundLend env.sender _, ?_, rfl, rfl⟩
        rw [Storage.setLendInfo_book, if_pos rfl]
        exact .refundLend hstate hamount hflag hexcess
    | claimLend hex hstate hamount hflag hsp hsupply =>
        cases hp
        refine ⟨.claimLend env.sender _, ?_, rfl, rfl⟩
        rw [Storage.setLendInfo_book, if_pos rfl]
        exact .claimLend hstate hamount hflag hsp
    | withdrawLend hex hstate hamount hsp htime hsettle hpos =>
        cases hp
        -- a redemption writes nothing: what is handed in are tokens
        exact ⟨.withdrawLend _ _, .withdrawLend hstate hsp hsettle, rfl, rfl⟩
    | emergencyLendWithdrawal hex hstate hamount hflag =>
        cases hp
        refine ⟨.emergencyLend env.sender _, ?_, rfl, rfl⟩
        rw [Storage.setLendInfo_book, if_pos rfl]
        exact .emergencyLend hstate hamount hflag
    | @depositBorrow q amount n moves hex hstate hend hrecv =>
        cases hp
        refine ⟨.borrow env.sender n, ?_, rfl, amount, rfl, hrecv⟩
        rw [Storage.recordBorrow_book, if_pos rfl]
        exact .borrow hstate hrecv.pos
    | refundBorrow hex hamount hflag hstate hexcess htime hpos =>
        cases hp
        refine ⟨.refundBorrow env.sender _, ?_, rfl, rfl⟩
        rw [Storage.setBorrowInfo_book, if_pos rfl]
        exact .refundBorrow hstate hamount hflag hexcess
    | claimBorrow hex hamount hflag hstate htime hsupply =>
        cases hp
        -- without a jp token the claim is made all the same, and nothing is minted
        let minted :=
          if (s.pools p).jpToken ≠ 0 then (s.pools p).jpShare (s.borrowInfos p env.sender) else 0
        refine ⟨.claimBorrow env.sender ((s.pools p).loan (s.borrowInfos p env.sender)) minted, ?_,
          rfl, ?_⟩
        · rw [Storage.setBorrowInfo_book, if_pos rfl]
          exact .claimBorrow hstate hamount hflag
        · by_cases hjp : (s.pools p).jpToken = 0 <;> simp [minted, hjp]
    | withdrawBorrow hex hstate hamount htime htotal =>
        cases hp
        exact ⟨.withdrawBorrow _ _, .withdrawBorrow hstate htotal, rfl, rfl⟩
    | emergencyBorrowWithdrawal hex hstate hamount hflag =>
        cases hp
        refine ⟨.emergencyBorrow env.sender _, ?_, rfl, rfl⟩
        rw [Storage.setBorrowInfo_book, if_pos rfl]
        exact .emergencyBorrow hstate hamount hflag
    | @settleExecution q pp sp hex htime hstate hlend hborrow hpledge hsettle =>
        cases hp
        -- the prices are the ones this transaction saw; the action keeps their outcome
        let settled := (s.pools p).settlement pp sp
        refine ⟨.settle settled.1 settled.2, ?_, rfl, rfl⟩
        rw [Storage.setPool_book, if_pos rfl]
        exact .settle hstate hlend hborrow hpledge hsettle
    | settleUndone hex htime hstate hempty =>
        cases hp
        refine ⟨.undo, ?_, rfl, rfl⟩
        rw [Storage.setPool_book, if_pos rfl]
        exact .undo hstate hempty
    | @finish q sold received moves hex htime hstate horder hsale hsold hfee =>
        cases hp
        let fee := feeOf s.borrowFee ((s.pools p).settleAmountBorrow - sold)
        -- the lenders get principal and interest to the unit, and the fee comes out of the rest
        let raised := (s.pools p).repayment ((s.pools p).endTime - (s.pools p).settleTime)
        refine ⟨.finish raised sold fee, ?_, rfl, received, moves, hsale, rfl⟩
        rw [Storage.setPool_book, if_pos rfl]
        exact .finish hstate (Pool.le_repayment _ _) hsold hfee
    | @liquidate q sold received pp sp moves hex hstate htime hpledge hsettle hpp hsp hhealth hsale
        hsold hfee =>
        cases hp
        let fee := feeOf s.borrowFee ((s.pools p).settleAmountBorrow - sold)
        let raised := (s.pools p).repayment (env.timestamp - (s.pools p).settleTime)
        refine ⟨.liquidate raised sold fee, ?_, rfl, received, moves, hsale, rfl⟩
        rw [Storage.liquidated_book, if_pos rfl]
        exact .liquidate hstate (Pool.le_repayment _ _) hsold hfee
  · -- the call is about another pool or about none, and may have created `p`
    by_cases hnew : p = s.poolCounter + 1 ∧ s'.poolCounter ≠ s.poolCounter
    · obtain ⟨rfl, hnew⟩ := hnew
      -- a creation, and nothing was stored under the new identifier
      obtain ⟨hnone, hmoves, _, pool, hfresh, hbook⟩ := h.creates hnew
      refine ⟨.create pool, ?_, hnone, hmoves⟩
      rw [hbook, hblank _ fun hex => absurd hex.2 (Nat.not_succ_le_self _)]
      exact .create hfresh
    · have hsame := h.frame hp fun heq => by_contra fun hne => hnew ⟨heq, hne⟩
      exact ⟨.idle, hsame ▸ .idle, hp⟩

end Pledge.Contract
