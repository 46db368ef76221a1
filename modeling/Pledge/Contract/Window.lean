import Pledge.Contract.Bookkeeping

/-!
# The matching window

Lenders and borrowers join a pool in `MATCH`. The front end shows them the settle time as the end of
the window and refuses a deposit after it ("Over time"). The contract compares with `endTime` instead,
and `settle` is not executed the moment it is due, so between the two a deposit can still be made, at
known prices, and changes what settlement divides (`window_closes_iff`).
-/

namespace Pledge.Contract

open Pledge.Evm

/-! ## Time

Timestamps are those of the transactions, and they do not go back. -/

/-- The block time of a transaction. -/
def Event.time? : Event → Option Nat
  | .call env _ _ => some env.timestamp
  | .outside => none

/-- The block times of a sequence of events. -/
def times (es : List Event) : List Nat := es.filterMap Event.time?

/-- From `start` on, block times do not decrease. -/
def Chronological (start : Nat) (es : List Event) : Prop := (start :: times es).Pairwise (· ≤ ·)

instance (start : Nat) (es : List Event) : Decidable (Chronological start es) :=
  inferInstanceAs (Decidable (List.Pairwise _ _))

/-- The call deposits into the pool `p`. -/
def Call.DepositsInto (p : Nat) (c : Call) : Prop :=
  ∃ amount, c = .depositLend p amount ∨ c = .depositBorrow p amount

/-- The window of the pool `p`, created at `created`, closes at its settle time: on every run with
non-decreasing block times no deposit succeeds later, and what `settle` divides are the supplies as
they stood after the last transaction that was not later. -/
structure World.WindowCloses (w₁ : World) (p created : Nat) : Prop where
  deposits : ∀ es w env c ts w', Run RegularStep w₁ es w → RegularStep w (.call env c ts) w' →
    Chronological created (es ++ [.call env c ts]) → c.DepositsInto p →
    env.timestamp ≤ (w₁.store.pools p).settleTime
  supplies : ∀ es w es' w' env ts w'', Run RegularStep w₁ es w → Run RegularStep w es' w' →
    RegularStep w' (.call env (.settle p) ts) w'' →
    Chronological created (es ++ es' ++ [.call env (.settle p) ts]) →
    (∀ t ∈ times es', (w₁.store.pools p).settleTime < t) →
    (w'.store.pools p).lendSupply = (w.store.pools p).lendSupply ∧
      (w'.store.pools p).borrowSupply = (w.store.pools p).borrowSupply

section Deposits

variable {w w' : World} {env : Env} {c : Call} {ts : List Transfer} {e : Event} {p : Nat}

/-- What the contract checks of a deposit. -/
theorem RegularStep.deposit_time (h : RegularStep w (.call env c ts) w') (hc : c.DepositsInto p) :
    env.timestamp < (w.store.pools p).endTime := by
  obtain ⟨hstep, hreg⟩ := h
  cases hstep with
  | call env c hrun =>
      obtain ⟨moves, heff, -⟩ := transaction_effect hreg.1 hrun
      generalize w'.store = s' at heff
      obtain ⟨amount, rfl | rfl⟩ := hc
      · cases heff with
        | depositLend hex hstate hend => exact hend
      · cases heff with
        | depositBorrow hex hstate hend => exact hend

/-- Only a deposit changes the supplies of a pool that exists. -/
theorem Book.Step.supplies {b b' : Book} {a : Act} (hs : Book.Step b a b') (h : b.pool.Valid)
    (hlend : ∀ u n, a ≠ .lend u n) (hborrow : ∀ u n, a ≠ .borrow u n) :
    b'.pool.lendSupply = b.pool.lendSupply ∧ b'.pool.borrowSupply = b.pool.borrowSupply := by
  cases hs with
  | create => exact absurd rfl h.settleToken
  | lend => exact absurd rfl (hlend _ _)
  | borrow => exact absurd rfl (hborrow _ _)
  | _ => exact ⟨rfl, rfl⟩

/-- A step after the end time leaves the supplies alone. -/
theorem RegularStep.supplies (h : RegularStep w e w') (hw : w.store.InOrder)
    (hvalid : (w.store.pools p).Valid) (htime : ∀ t ∈ e.time?, (w.store.pools p).endTime ≤ t) :
    (w'.store.pools p).lendSupply = (w.store.pools p).lendSupply ∧
      (w'.store.pools p).borrowSupply = (w.store.pools p).borrowSupply := by
  have hlate {env : Env} {c : Call} {ts : List Transfer} (he : e = .call env c ts) :
      ¬ c.DepositsInto p := by
    rintro hc
    subst he
    exact absurd (h.deposit_time hc) (Nat.not_lt.mpr (htime _ rfl))
  obtain ⟨hstep, hreg⟩ := h
  cases hstep with
  | call env c hrun =>
      obtain ⟨moves, heff, -⟩ := transaction_effect hreg.1 hrun
      obtain ⟨a, ha, hshown⟩ := heff.lifecycle hw.blank hreg.2 p
      refine ha.supplies hvalid ?_ ?_
      · rintro u n rfl
        obtain ⟨-, amount, rfl, -⟩ := hshown
        exact hlate rfl ⟨amount, .inl rfl⟩
      · rintro u n rfl
        obtain ⟨-, amount, rfl, -⟩ := hshown
        exact hlate rfl ⟨amount, .inr rfl⟩
  | outside => exact ⟨rfl, rfl⟩

/-- So does a run. -/
theorem run_supplies {es : List Event} (hw : w.store.InOrder) (hvalid : (w.store.pools p).Valid)
    (hrun : Run RegularStep w es w') (htime : ∀ t ∈ times es, (w.store.pools p).endTime ≤ t) :
    (w'.store.pools p).lendSupply = (w.store.pools p).lendSupply ∧
      (w'.store.pools p).borrowSupply = (w.store.pools p).borrowSupply := by
  induction hrun with
  | start => exact ⟨rfl, rfl⟩
  | @step es w₁ w₂ e hrun hs ih =>
      have hpart : times (es ++ [e]) = times es ++ e.time?.toList := by
        unfold times
        rw [List.filterMap_append]
        cases he : e.time? <;> simp [he]
      rw [hpart] at htime
      obtain ⟨hlend, hborrow⟩ := ih fun t ht => htime t (List.mem_append_left _ ht)
      obtain ⟨hvalid₁, hterms⟩ := run_kept hw hvalid hrun
      have hlate : ∀ t ∈ e.time?, (w₁.store.pools p).endTime ≤ t := by
        intro t ht
        rw [hterms.endTime]
        exact htime t (List.mem_append_right _ (by simpa using ht))
      have hlast := hs.supplies (run_inOrder hw hrun) hvalid₁ hlate
      exact ⟨hlast.1.trans hlend, hlast.2.trans hborrow⟩

end Deposits

/-! ## A late deposit

A borrower can deposit until the end time of the pool as long as it is in `MATCH`. The deposit does
not look at the settle time. -/

theorem receiveToken_runs {st : Setting} {token : Address} {w : World} {n : Nat} (htoken : token ≠ 0)
    (hn : 0 < n) (hallowed : n ≤ w.ledger.allowance token st.sender st.this)
    (hfunds : n ≤ w.ledger.balance token st.sender) :
    ∃ w', (receiveToken (standardEnv st) token st.sender n).run w = .ok (n, w') ∧
      w'.store = w.store := by
  have hvalue : (standardEnv st).value = 0 := rfl
  obtain ⟨w', hpull⟩ : ∃ w',
      ((standardEnv st).transferFrom token st.sender st.this n).run w = .ok (true, w') := by
    apply Exists.intro
    simp only [standardEnv, setAllowance, moveToken, Tx.rules, and_assoc, exists_and_left,
      exists_eq_left, exists_const]
    exact ⟨hallowed, hfunds, trivial, rfl⟩
  refine ⟨w', ?_, (standard_transferFrom hpull).1⟩
  simp only [receiveToken, hvalue, htoken, hn, Tx.rules, and_assoc, exists_and_left, exists_eq_left,
    exists_const, true_and, false_and, false_or, not_false_eq_true]
  exact ⟨true, w', hpull, rfl⟩

/-- A deposit of collateral that nothing stands against. -/
theorem depositBorrow_runs {st : Setting} {w : World} {p n : Nat} (hfree : w.store.entered = false)
    (hopen : w.store.globalPaused = false) (hex : w.store.Exists p)
    (hstate : (w.store.pools p).state = .matching) (htime : st.timestamp < (w.store.pools p).endTime)
    (htoken : (w.store.pools p).pledgeToken ≠ 0) (hn : 0 < n)
    (hallowed : n ≤ w.ledger.allowance (w.store.pools p).pledgeToken st.sender st.this)
    (hfunds : n ≤ w.ledger.balance (w.store.pools p).pledgeToken st.sender)
    (hown : (w.store.borrowInfos p st.sender).pledgeAmount + n < Tx.uint256)
    (hsupply : (w.store.pools p).borrowSupply + n < Tx.uint256) :
    ∃ w', (depositBorrow (standardEnv st) p n).run w = .ok ((), w') := by
  obtain ⟨w₁, hrecv, hstore⟩ :=
    receiveToken_runs (w := w.mapStore (·.setEntered true)) htoken hn hallowed hfunds
  simp only [depositBorrow, nonReentrant_ok, storage_rules, Tx.rules, and_assoc, exists_and_left,
    exists_eq_left, exists_const]
  have hown₁ : (w₁.store.borrowInfos p st.sender).pledgeAmount + n < Tx.uint256 := by
    rw [hstore]
    exact hown
  have hsupply₁ : (w₁.store.pools p).borrowSupply + n < Tx.uint256 := by
    rw [hstore]
    exact hsupply
  by_cases hnew : (w₁.store.borrowInfos p st.sender).pledgeAmount = 0
  · exact ⟨hfree, hopen, hex, hstate, htime, .inl hn, _, _,
      ⟨n, w₁, hrecv, _, .inl ⟨hnew, rfl⟩, hown₁, hsupply₁, rfl⟩, rfl⟩
  · exact ⟨hfree, hopen, hex, hstate, htime, .inl hn, _, _,
      ⟨n, w₁, hrecv, _, .inr ⟨hnew, rfl⟩, hown₁, hsupply₁, rfl⟩, rfl⟩

/-- Every account holds something of every token, and the contract may take it. -/
def World.funded (w : World) : World :=
  { w with ledger := ⟨fun _ _ => 1, fun _ _ _ => 1⟩, transfers := [] }

/-- The pause is lifted. -/
def World.unpaused (w : World) : World := w.mapStore fun s => { s with globalPaused := false }

theorem World.unpaused_of_eq {w : World} (h : w.store.globalPaused = false) : w.unpaused = w := by
  unfold World.unpaused World.mapStore
  rw [← h]

/-- The administrator lifts it. -/
theorem setPause_unpauses {w : World} (hpaused : w.store.globalPaused = true) (t : Nat) :
    RegularStep w.funded (.call (standardEnv (World.setting 10 t 10)) .setPause [])
      w.funded.unpaused := by
  have hstep : Step w.funded (.call (standardEnv (World.setting 10 t 10)) .setPause
      w.funded.unpaused.transfers) w.funded.unpaused := by
    refine .call _ _ (Call.transaction_ok.mpr
      ⟨⟨by simp [Call.words], by simp [Call.words64]⟩, .inr rfl, ?_⟩)
    simp only [Call.body, setPause, validCall_ok, storage_rules, Tx.rules, and_assoc, exists_and_left,
      exists_eq_left, exists_const]
    refine ⟨⟨1, rfl, by decide⟩, ?_⟩
    simp [World.unpaused, World.mapStore, World.funded, hpaused]
  have hrouter : (World.setting 10 t 10).router ≠ (World.setting 10 t 10).this :=
    show (200 : Nat) ≠ 100 by decide
  exact ⟨hstep, (standard_exact (show (10 : Nat) ≠ 100 by decide) hrouter).toQuiet, rfl⟩

/-- A borrower's first unit, in a pool that has not ended. -/
theorem depositBorrow_first {w : World} {p t : Nat} (hfree : w.store.entered = false)
    (hex : w.store.Exists p) (hword : p < Tx.uint256) (hfresh : (w.store.pools p).Fresh)
    (hblank : ∀ u, (w.store.borrowInfos p u).pledgeAmount = 0)
    (htime : t < (w.store.pools p).endTime) :
    ∃ w', RegularStep w.funded.unpaused
      (.call (standardEnv (World.setting 12 t 10)) (.depositBorrow p 1) w'.transfers) w' := by
  have hrouter : (World.setting 12 t 10).router ≠ (World.setting 12 t 10).this :=
    show (200 : Nat) ≠ 100 by decide
  have hown : (w.store.borrowInfos p 12).pledgeAmount + 1 < Tx.uint256 := by
    rw [hblank]
    decide
  have hsupply : (w.store.pools p).borrowSupply + 1 < Tx.uint256 := by
    rw [hfresh.borrowSupply]
    decide
  obtain ⟨w', hrun⟩ : ∃ w',
      (depositBorrow (standardEnv (World.setting 12 t 10)) p 1).run w.funded.unpaused = .ok ((), w') :=
    depositBorrow_runs hfree rfl hex hfresh.state htime hfresh.pledgeToken Nat.one_pos (Nat.le_refl 1)
      (Nat.le_refl 1) hown hsupply
  refine ⟨w', .call _ _ ?_, (standard_exact (show (12 : Nat) ≠ 100 by decide) hrouter).toQuiet, rfl⟩
  exact Call.transaction_ok.mpr
    ⟨⟨by simpa [Call.words] using ⟨hword, by decide⟩, by simp [Call.words64]⟩, .inl rfl, hrun⟩

/-- Transactions in one block are in order. -/
theorem Chronological.of_block {created t : Nat} {es : List Event} (hcreated : created ≤ t)
    (hes : ∀ x ∈ times es, x = t) : Chronological created es := by
  refine List.pairwise_cons.mpr ⟨fun x hx => ?_, List.pairwise_of_forall_mem_list fun x hx y hy => ?_⟩
  · rw [hes x hx]
    exact hcreated
  · rw [hes x hx, hes y hy]

/-- **Until a new pool ends, a deposit can be made.** -/
theorem late_deposit {w₁ : World} {p created t : Nat} (hin : w₁.store.InOrder)
    (hex : w₁.store.Exists p) (hword : p < Tx.uint256) (hfresh : (w₁.store.pools p).Fresh)
    (hblank : ∀ u, (w₁.store.borrowInfos p u).pledgeAmount = 0) (hcreated : created ≤ t)
    (htime : t < (w₁.store.pools p).endTime) :
    ∃ es w env c ts w', Run RegularStep w₁ es w ∧ RegularStep w (.call env c ts) w' ∧
      Chronological created (es ++ [.call env c ts]) ∧ c.DepositsInto p ∧ env.timestamp = t := by
  obtain ⟨w', hstep⟩ := depositBorrow_first hin.free hex hword hfresh hblank htime
  have hfunded : RegularStep w₁ .outside w₁.funded := ⟨.outside _, trivial⟩
  cases hpaused : w₁.store.globalPaused with
  | false =>
      rw [World.unpaused_of_eq (w := w₁.funded) hpaused] at hstep
      refine ⟨_, _, _, _, _, w', .step .start hfunded, hstep, .of_block hcreated ?_, ⟨1, .inr rfl⟩, rfl⟩
      simp [times, Event.time?, standardEnv, World.setting]
  | true =>
      refine ⟨_, _, _, _, _, w', .step (.step .start hfunded) (setPause_unpauses hpaused t), hstep,
        .of_block hcreated ?_, ⟨1, .inr rfl⟩, rfl⟩
      simp [times, Event.time?, standardEnv, World.setting]

/-! ## When the window closes

In one direction a deposit that is too late is constructed for every pool that leaves room for it;
in the other the checks of the deposits say that there is none. -/

/-- The number of a new pool is a word. -/
theorem createPoolInfo_word {env : Env} {w w' : World}
    {settleTime endTime interestRate maxSupply martgageRate : Nat}
    {lendToken borrowToken spToken jpToken : Address} {autoLiquidateThreshold p : Nat}
    (h : (createPoolInfo env settleTime endTime interestRate maxSupply martgageRate lendToken
      borrowToken spToken jpToken autoLiquidateThreshold).run w = .ok (p, w')) :
    w.store.poolCounter + 1 < Tx.uint256 := by
  simp only [createPoolInfo, setPoolSpToken, setPoolJpToken, validCall_ok, storage_rules, Tx.rules,
    and_assoc, exists_and_left, exists_eq_left, exists_const] at h
  obtain ⟨-, -, -, -, q, w₁, hcreate, -⟩ := h
  exact (createPool_eq hcreate).2.1

section Creation

variable {admin multiSignature : Address} {ledger : Ledger} {es : List Event} {w₀ w₁ : World}
  {env : Env} {settleTime endTime interestRate maxSupply martgageRate : Nat}
  {lendToken borrowToken spToken jpToken : Address} {autoLiquidateThreshold : Nat}
  {ts : List Transfer}

/-- The world right after `createPoolInfo`. -/
structure World.NewPool (w : World) (created settleTime endTime : Nat) : Prop where
  inOrder : w.store.InOrder
  exist : w.store.Exists w.store.poolCounter
  word : w.store.poolCounter < Tx.uint256
  fresh : (w.store.pools w.store.poolCounter).Fresh
  blank : ∀ u, (w.store.borrowInfos w.store.poolCounter u).pledgeAmount = 0
  settles : (w.store.pools w.store.poolCounter).settleTime = settleTime
  ends : (w.store.pools w.store.poolCounter).endTime = endTime
  later : created < endTime

theorem Effect.adds_fresh {s s' : Storage} {moves : List Move}
    (h : Effect env s (.createPoolInfo settleTime endTime interestRate maxSupply martgageRate
      lendToken borrowToken spToken jpToken autoLiquidateThreshold) moves s') :
    ∃ pool : Pool, pool.Fresh ∧ pool.settleTime = settleTime ∧ pool.endTime = endTime ∧
      env.timestamp < endTime ∧ s' = s.addPool pool := by
  cases h with
  | createPoolInfo htime hsp hjp hsettle hpledge hborrow hinterest hrate hliq hend =>
      refine ⟨_, ?_, rfl, rfl, hend, rfl⟩
      exact ⟨⟨hsettle, hpledge, hborrow, hinterest, hrate, hliq, htime.le⟩, rfl, rfl, rfl, rfl, rfl,
        rfl, rfl, rfl, rfl⟩

theorem RegularStep.new_pool (hin : w₀.store.InOrder)
    (h : RegularStep w₀ (.call env (.createPoolInfo settleTime endTime interestRate maxSupply
      martgageRate lendToken borrowToken spToken jpToken autoLiquidateThreshold) ts) w₁) :
    w₁.NewPool env.timestamp settleTime endTime := by
  have hin₁ := h.inOrder hin
  obtain ⟨hstep, hreg⟩ := h
  cases hstep with
  | call env c hrun =>
      obtain ⟨moves, heff, -⟩ := transaction_effect hreg.1 hrun
      -- the counter is a machine word, so the number of the pool is one
      have hword : w₀.store.poolCounter + 1 < Tx.uint256 := by
        obtain ⟨-, -, hbody⟩ := Call.transaction_ok.mp hrun
        obtain ⟨p, w₂, hcreate, -⟩ := Tx.bind_ok.mp hbody
        have hcounter := createPoolInfo_word hcreate
        exact hcounter
      -- nobody has pledged to a pool that did not exist
      have hblank : ∀ u, (w₀.store.borrowInfos (w₀.store.poolCounter + 1) u).pledgeAmount = 0 := by
        intro u
        have hbook : w₀.store.book (w₀.store.poolCounter + 1) = {} :=
          hin.blank _ fun hex => absurd hex.2 (Nat.not_succ_le_self _)
        have hinfo : w₀.store.borrowInfos (w₀.store.poolCounter + 1) = fun _ => {} :=
          congrArg Book.borrowInfo hbook
        rw [hinfo]
      obtain ⟨pool, hfresh, hsettles, hends, hlater, hstore⟩ := heff.adds_fresh
      have hcounter : w₁.store.poolCounter = w₀.store.poolCounter + 1 := by rw [hstore]; rfl
      have hpool : w₁.store.pools w₁.store.poolCounter = pool := by
        rw [hcounter, hstore, Storage.addPool_pools, if_pos rfl]
      refine ⟨hin₁, ⟨?_, Nat.le_refl _⟩, ?_, ?_, ?_, ?_, ?_, hlater⟩
      · rw [hcounter]
        exact Nat.succ_pos _
      · rw [hcounter]
        exact hword
      · rw [hpool]
        exact hfresh
      · rw [hcounter, hstore]
        exact hblank
      · rw [hpool, hsettles]
      · rw [hpool, hends]

/-- **When the matching window closes at the settle time**: when the pool ends in the next second. -/
theorem window_closes_iff (hrun : Run RegularStep (deployed admin multiSignature ledger) es w₀)
    (hcreate : RegularStep w₀ (.call env (.createPoolInfo settleTime endTime interestRate maxSupply
      martgageRate lendToken borrowToken spToken jpToken autoLiquidateThreshold) ts) w₁) :
    w₁.WindowCloses w₁.store.poolCounter env.timestamp ↔ endTime ≤ settleTime + 1 := by
  have hnew := hcreate.new_pool (reachable_inOrder hrun)
  constructor
  · intro hcloses
    by_contra hlong
    have hcreated := hnew.later
    -- the last second of the pool is after its settle time
    obtain ⟨es', w, env', c, ts', w', hbefore, hdeposit, hordered, hc, htime⟩ :=
      late_deposit (t := endTime - 1) hnew.inOrder hnew.exist hnew.word hnew.fresh hnew.blank
        (Nat.le_sub_one_of_lt hcreated) (by rw [hnew.ends]; omega)
    have hle := hcloses.deposits es' w env' c ts' w' hbefore hdeposit hordered hc
    rw [htime, hnew.settles] at hle
    omega
  · intro hshort
    have hkept {es : List Event} {w : World} (h : Run RegularStep w₁ es w) :=
      run_kept hnew.inOrder hnew.fresh.toValid h
    constructor
    · intro es' w env' c ts' w' hbefore hdeposit hordered hc
      have htime := hdeposit.deposit_time hc
      rw [(hkept hbefore).2.endTime, hnew.ends] at htime
      rw [hnew.settles]
      omega
    · intro es' w es'' w' env' ts' w'' hbefore hafter hsettle hordered hlate
      obtain ⟨hvalid, hterms⟩ := hkept hbefore
      refine run_supplies (run_inOrder hnew.inOrder hbefore) hvalid hafter ?_
      intro t ht
      have hdue := hlate t ht
      rw [hnew.settles] at hdue
      rw [hterms.endTime, hnew.ends]
      omega

end Creation

theorem window_closes_iff_creation :
    World.afterCreation.WindowCloses World.afterCreation.store.poolCounter 0 ↔ 1000 ≤ 100 + 1 :=
  window_closes_iff (World.setup_honest.mono HonestStep.regular) World.creation_honest.regular

namespace World

/-- Both sides deposit in time. -/
def timely : List (Setting × Call) :=
  [(setting 11 10 10, .depositLend 1 1000), (setting 12 10 10, .depositBorrow 1 2000)]

/-- The settle time 100 has passed, the prices are known, and the borrower adds collateral. -/
def late : Setting × Call := (setting 12 500 10, .depositBorrow 1 3000)

/-- The world when the settlement is due. -/
def due : World := afterCreation.play timely

/-- The world when it is executed. -/
def overdue : World := due.next (standardEnv late.1) late.2

end World

/-- The borrower deposits 400 seconds after the settle time, and the settlement divides 5000 pledge
tokens instead of the 2000 that were there when it was due. -/
theorem deposit_after_settle_time :
    (∃ es, Run HonestStep (deployed 10 50 World.openingLedger) es World.afterCreation) ∧
    (∃ ts, HonestStep World.due (.call (standardEnv World.late.1) World.late.2 ts) World.overdue) ∧
    (World.afterCreation.store.pools 1).settleTime = 100 ∧ World.late.1.timestamp = 500 ∧
    (∃ ts, HonestStep World.overdue (.call (standardEnv (World.setting 10 600 10)) (.settle 1) ts)
      (World.overdue.next (standardEnv (World.setting 10 600 10)) (.settle 1))) ∧
    (World.due.store.pools 1).borrowSupply = 2000 ∧
    (World.overdue.store.pools 1).borrowSupply = 5000 ∧
    ¬ World.afterCreation.WindowCloses 1 0 := by
  have hlate : HonestStep World.due (.call (standardEnv World.late.1) World.late.2
      World.overdue.transfers) World.overdue :=
    World.next_honest (by decide +kernel) (by decide) (by decide) rfl
  have hbefore : Run HonestStep World.afterCreation (World.afterCreation.events World.timely)
      World.due :=
    World.play_run (by decide +kernel)
  refine ⟨⟨_, World.setup_honest.step World.creation_honest⟩, ⟨_, hlate⟩, by decide +kernel, rfl,
    ⟨_, World.next_honest (by decide +kernel) (by decide) (by decide) rfl⟩, by decide +kernel,
    by decide +kernel, ?_⟩
  intro hcloses
  have hle := hcloses.deposits _ _ _ _ _ _ (hbefore.mono HonestStep.regular) hlate.regular
    (by decide +kernel) ⟨3000, .inr rfl⟩
  have hsettle : (World.afterCreation.store.pools 1).settleTime = 100 := by decide +kernel
  rw [hsettle] at hle
  exact absurd hle (by decide)

end Pledge.Contract
