import Pledge.Contract.Custody

/-!
# Redemption is backed by minting

As long as the token in a slot is in no other slot, starts with no holdings and is not replaced by a
token in use, what circulates of it is what the pool minted less what the pool burned, so the pool
never redeems more than it minted (`redemption_backed`). This needs nothing of the settle token, the
pledge token and the router but that they do not call back, and it survives `setPoolState`.

The contract does not enforce any of this: a pool of `createPool` starts with empty slots, the setters
replace tokens and accept tokens in use, and `withdrawBorrow` skips the burn when the slot is empty.

The argument is in two layers. `Conserves` says what one step may do to the slot, in terms of the
amounts it mints and burns, and `run_backed` follows it through a run. Below it there are two kinds of
steps that conserve: those that leave the token in custody (`Reserved.conserves`), and honest steps for
which the token is dedicated to its slot (`Acted.conserves`), on which the solvency of a pool rests.
-/

namespace Pledge.Contract

open Pledge.Evm

/-! ## The slots

Each pool has a slot for a token of each side. A slot is filled by `createPoolInfo` or by one of the
setters and by nothing else, and is never emptied again. -/

/-- `withdrawLend` insists on an sp token; `withdrawBorrow` has no such check. -/
theorem Book.Step.spBurned_eq_zero {b b' : Book} {a : Act} (h : Book.Step b a b')
    (hsp : b.pool.spToken = 0) : a.spBurned = 0 := by
  cases h with
  | withdrawLend _ hne => exact absurd hsp hne
  | _ => rfl

/-- Nothing is minted from an empty slot. -/
theorem Book.Step.spMinted_eq_zero {b b' : Book} {a : Act} (h : Book.Step b a b')
    (hsp : b.pool.spToken = 0) : a.spMinted = 0 := by
  cases h with
  | claimLend _ _ _ hne => exact absurd hsp hne
  | _ => rfl

/-- On the other side it is the mint that is skipped, and the loan is paid. -/
theorem Book.Step.jpMinted_eq_zero {b b' : Book} {a : Act} (h : Book.Step b a b')
    (hjp : b.pool.jpToken = 0) : a.jpMinted = 0 := by
  cases h with
  | claimBorrow => exact if_neg (not_not.mpr hjp)
  | _ => rfl

theorem Book.Step.idle_eq {b b' : Book} (h : Book.Step b .idle b') : b' = b := by
  cases h
  rfl

/-- The token that a call puts into the slot of `p`, when `counter` pools exist. -/
def Call.assigns (counter p : Nat) : Side → Call → Option Address
  | .lend, .createPoolInfo _ _ _ _ _ _ _ spToken _ _ => if p = counter + 1 then some spToken else none
  | .borrow, .createPoolInfo _ _ _ _ _ _ _ _ jpToken _ => if p = counter + 1 then some jpToken else none
  | .lend, .setPoolSpToken q spToken => if p = q then some spToken else none
  | .borrow, .setPoolJpToken q jpToken => if p = q then some jpToken else none
  | _, _ => none

/-- Only such a call changes the slot. It fills it, and moves no tokens. -/
theorem Effect.assigned {env : Env} {s s' : Storage} {c : Call} {moves : List Move}
    (h : Effect env s c moves s') (hblank : s.Blank) (p : Nat) (side : Side) :
    (s'.pools p).claimToken side = (s.pools p).claimToken side ∨
      c.assigns s.poolCounter p side = some ((s'.pools p).claimToken side) ∧
        (s'.pools p).claimToken side ≠ 0 ∧ moves = [] := by
  have hset {q : Nat} {pool : Pool} (hsame : pool.claimToken side = (s.pools q).claimToken side) :
      ((s.setPool q pool).pools p).claimToken side = (s.pools p).claimToken side := by
    rw [Storage.setPool_pools]
    split
    · next hp => rw [hp, hsame]
    · rfl
  have hbook {q : Nat} {b : Book} (hsame : b.pool.claimToken side = (s.pools q).claimToken side)
      (h : s'.book p = if p = q then b else s.book p) :
      (s'.pools p).claimToken side = (s.pools p).claimToken side := by
    rw [← Storage.book_pool, h]
    split
    · next hp => rw [hp, hsame]
    · rfl
  cases h with
  | createPool =>
      -- the slots of a new pool are empty, and so were those of the unused identifier
      left
      rw [Storage.addPool_pools]
      split
      · next hp =>
          have hb : s.book p = {} := hblank p fun hex => by
            have := hex.2
            omega
          rw [← Storage.book_pool s p, hb]
          cases side <;> rfl
      · rfl
  | createPoolInfo htime hsp hjp =>
      by_cases hp : p = s.poolCounter + 1
      · right
        rw [Storage.addPool_pools, if_pos hp]
        cases side with
        | lend => exact ⟨if_pos hp, hsp, rfl⟩
        | borrow => exact ⟨if_pos hp, hjp, rfl⟩
      · left
        rw [Storage.addPool_pools, if_neg hp]
  | @setPoolSpToken q spToken hex hne =>
      cases side with
      | borrow => exact .inl (hset rfl)
      | lend =>
          by_cases hp : p = q
          · right
            rw [Storage.setPool_pools, if_pos hp]
            exact ⟨if_pos hp, hne, rfl⟩
          · left
            rw [Storage.setPool_pools, if_neg hp]
  | @setPoolJpToken q jpToken hex hne =>
      cases side with
      | lend => exact .inl (hset rfl)
      | borrow =>
          by_cases hp : p = q
          · right
            rw [Storage.setPool_pools, if_pos hp]
            exact ⟨if_pos hp, hne, rfl⟩
          · left
            rw [Storage.setPool_pools, if_neg hp]
  | setPoolState | settleExecution | settleUndone | finish =>
      exact .inl (hset (by cases side <;> rfl))
  | depositLend => exact .inl (hbook (by cases side <;> rfl) (Storage.recordLend_book ..))
  | depositBorrow => exact .inl (hbook (by cases side <;> rfl) (Storage.recordBorrow_book ..))
  | liquidate => exact .inl (hbook (by cases side <;> rfl) (Storage.liquidated_book ..))
  | _ => exact .inl rfl

/-- Setting a state moves no tokens. -/
theorem Effect.setsState_moves {env : Env} {s s' : Storage} {c : Call} {moves : List Move}
    (h : Effect env s c moves s') (hc : c.setsState = true) : moves = [] := by
  cases h <;> first | rfl | cases hc

/-- Without moves the ledger stays. -/
theorem Chain.ledger_eq {env : Env} {w w' : World} (h : Chain env w [] w') : w'.ledger = w.ledger := by
  cases h with
  | done h => exact h.1

/-- A token that enters the slot without holdings has none after the call. -/
theorem Effect.enters {env : Env} {w w' : World} {c : Call} {moves : List Move} {p : Nat} {side : Side}
    (h : Effect env w.store c moves w'.store)
    (hchain : Chain env { w with transfers := [] } moves w') (hblank : w.store.Blank)
    (hfresh : ∀ token, c.assigns w.store.poolCounter p side = some token →
      token = (w.store.pools p).claimToken side ∨ ∀ a, w.ledger.balance token a = 0) :
    (w'.store.pools p).claimToken side = (w.store.pools p).claimToken side ∨
      ∀ b, w'.ledger.balance ((w'.store.pools p).claimToken side) b = 0 := by
  rcases h.assigned hblank p side with hsame | ⟨hassigns, -, rfl⟩
  · exact .inl hsame
  · rcases hfresh _ hassigns with hsame | hnone
    · exact .inl hsame
    · right
      rw [hchain.ledger_eq]
      exact hnone

/-! ## What a slot conserves -/

/-- A step that mints and burns these amounts of the token in the slot of `p`: nothing is burned while
the slot is empty, what circulates follows the amounts, and a token that enters has no holdings. -/
structure Conserves (p : Nat) (side : Side) (w : World) (minted burned : Nat) (w' : World) : Prop where
  empty : (w.store.pools p).claimToken side = 0 → burned = 0
  circulating : (w.store.pools p).claimToken side ≠ 0 → ∀ n,
    Holdings.Circulating (w.ledger.balance ((w.store.pools p).claimToken side)) n →
      burned ≤ n + minted ∧
        Holdings.Circulating (w'.ledger.balance ((w.store.pools p).claimToken side))
          (n + minted - burned)
  enters : (w'.store.pools p).claimToken side = (w.store.pools p).claimToken side ∨
    ∀ b, w'.ledger.balance ((w'.store.pools p).claimToken side) b = 0

/-- Burns are covered by mints, and what circulates is the difference. -/
structure Backed (p : Nat) (side : Side) (minted burned : Nat) (w : World) : Prop where
  covered : burned ≤ minted
  circulating : (w.store.pools p).claimToken side ≠ 0 →
    Holdings.Circulating (w.ledger.balance ((w.store.pools p).claimToken side)) (minted - burned)

/-- What is counted as minted may be more than was minted. -/
theorem Conserves.mono {p : Nat} {side : Side} {minted minted' burned : Nat} {w w' : World}
    (h : Conserves p side w minted burned w') (hle : minted ≤ minted') :
    Conserves p side w minted' burned w' where
  empty := h.empty
  circulating hT n hn := by
    obtain ⟨hburned, hcirc⟩ := h.circulating hT n hn
    exact ⟨by omega, hcirc.mono (by omega)⟩
  enters := h.enters

/-- **A step keeps the slot backed.** -/
theorem Backed.step {p : Nat} {side : Side} {minted burned minted' burned' : Nat} {w w' : World}
    (h : Backed p side minted burned w) (hs : Conserves p side w minted' burned' w') :
    Backed p side (minted + minted') (burned + burned') w' := by
  have hcov := h.covered
  by_cases hT : (w.store.pools p).claimToken side = 0
  · have hnone : burned' = 0 := hs.empty hT
    refine ⟨by omega, ?_⟩
    -- a token that enters the slot comes without holdings
    intro hT'
    rcases hs.enters with hsame | hfresh
    · exact absurd (hsame.trans hT) hT'
    · exact (Holdings.Circulating.zero hfresh).mono (Nat.zero_le _)
  · obtain ⟨hburn, hcirc⟩ := hs.circulating hT _ (h.circulating hT)
    refine ⟨by omega, ?_⟩
    intro hT'
    rcases hs.enters with hsame | hfresh
    · rw [hsame]
      exact hcirc.mono (by omega)
    · exact (Holdings.Circulating.zero hfresh).mono (Nat.zero_le _)

/-- **A run keeps the slot backed.** -/
theorem run_backed {ε : Type} {p : Nat} {side : Side} {minted burned : ε → Nat} {w₀ w : World}
    {ls : List ε} (h₀ : Backed p side 0 0 w₀)
    (hrun : Run (fun w l w' => Conserves p side w (minted l) (burned l) w') w₀ ls w) :
    Backed p side (total minted ls) (total burned ls) w := by
  refine hrun.invariant (I := fun ls w => Backed p side (total minted ls) (total burned ls) w) h₀ ?_
  intro ls w l w' hbacked hs
  rw [total_snoc, total_snoc]
  exact hbacked.step hs

/-- At deployment all slots are empty. -/
theorem Backed.deployed (admin multiSignature : Address) (ledger : Ledger) (p : Nat) (side : Side) :
    Backed p side 0 0 (deployed admin multiSignature ledger) where
  covered := Nat.le_refl _
  circulating hT := by
    cases side <;> exact absurd rfl hT

/-- No jp tokens are redeemed while the pool has no jp token. -/
def Event.Filled (p : Nat) (w : World) (e : Event) : Prop :=
  (w.store.pools p).jpToken = 0 → ∀ env jpAmount ts, e ≠ .call env (.withdrawBorrow p jpAmount) ts

/-- Nothing is burned while the slot is empty, if nothing is redeemed then. -/
theorem Act.Shown.burned_empty {env : Env} {w : World} {p : Nat} {side : Side} {c : Call}
    {ts : List Transfer} {moves : List Move} {a : Act} {b' : Book}
    (ha : a.Shown env w.store p c moves) (hstep : Book.Step (w.store.book p) a b')
    (hfilled : side = .borrow → (Event.call env c ts).Filled p w)
    (hT : (w.store.pools p).claimToken side = 0) : a.burned side = 0 := by
  cases side with
  | lend => exact hstep.spBurned_eq_zero hT
  | borrow =>
      cases a with
      | withdrawBorrow =>
          obtain ⟨rfl, -⟩ := ha
          exact absurd rfl (hfilled rfl hT _ _ _)
      | _ => rfl

/-! ## Tokens in custody -/

/-- What a step must respect for the slot of `p` on this side: nobody calls back; the token in the slot,
if any, is in no other slot and in the custody of its holders; and a token that enters the slot has no
holdings. -/
structure Reserved (p : Nat) (side : Side) (w : World) (e : Event) (w' : World) : Prop where
  quiet : e.Quiet
  custody : (w.store.pools p).claimToken side ≠ 0 → e.Guards ((w.store.pools p).claimToken side)
  holders : e = .outside →
    Holdings.Redistributed (w.ledger.balance ((w.store.pools p).claimToken side))
      (w'.ledger.balance ((w.store.pools p).claimToken side))
  alone : (w.store.pools p).claimToken side ≠ 0 →
    w.store.Alone ((w.store.pools p).claimToken side) p side
  enters : ∀ env c ts token, e = .call env c ts →
    c.assigns w.store.poolCounter p side = some token →
      token = (w.store.pools p).claimToken side ∨ ∀ a, w.ledger.balance token a = 0

/-- What a step from `w` minted of the token in the slot of `p`: the mints of that token in the receipt
of a claim. -/
def Event.issued (p : Nat) (side : Side) (w : World) : Event → Nat
  | .call _ c ts =>
      if c.claims p side ∧ (w.store.pools p).claimToken side ≠ 0 then
        sentBy ((w.store.pools p).claimToken side) 0 ts
      else 0
  | .outside => 0

section Reserved

variable {p : Nat} {side : Side} {w w' : World}

/-- The receipt of a claim shows what the action minted. -/
theorem Reserved.minted_le {env : Env} {c : Call} {a : Act} {moves : List Move}
    (hok : Reserved p side w (.call env c w'.transfers) w')
    (heff : Effect env w.store c moves w'.store)
    (hchain : Chain env { w with transfers := [] } moves w') (ha : a.Shown env w.store p c moves)
    (hT : (w.store.pools p).claimToken side ≠ 0) :
    a.minted side ≤ (Event.call env c w'.transfers).issued p side w := by
  rcases Nat.eq_zero_or_pos (a.minted side) with h0 | hpos
  · rw [h0]
    exact Nat.zero_le _
  · have hclaiming : c.claims p side = true ∧
        ∀ m ∈ moves, ∀ holder n, m ≠ .burn ((w.store.pools p).claimToken side) holder n :=
      ha.claiming hpos
    have hreceipt := (hok.custody hT).receipt heff hchain hclaiming.2
    rw [(ha.claims heff (hok.alone hT) rfl hT).1] at hreceipt
    show _ ≤ if _ then _ else _
    rw [if_pos ⟨hclaiming.1, hT⟩, hreceipt]
    exact Nat.le_add_left _ _

/-- **Steps that reserve the slot conserve it.** -/
theorem Reserved.conserves {e : Event} (hok : Reserved p side w e w') (hstep : Step w e w')
    (hfilled : side = .borrow → e.Filled p w) (hblank : w.store.Blank) :
    Conserves p side w (e.issued p side w) (e.accepted p side) w' := by
  cases hstep with
  | outside ledger =>
      refine ⟨fun _ => rfl, ?_, .inl rfl⟩
      intro hT n hn
      exact ⟨Nat.zero_le _, Holdings.circulating_tallied.redistributed hn (hok.holders rfl)⟩
  | call env c hrun =>
      obtain ⟨moves, heff, hchain⟩ := transaction_effect hok.quiet hrun
      have henters := heff.enters hchain hblank (hok.enters env c _ · rfl)
      by_cases hset : c.setsState = true
      · -- a state set by hand moves nothing
        obtain rfl := heff.setsState_moves hset
        have haccepted : (Event.call env c w'.transfers).accepted p side = 0 := by
          cases c with
          | setPoolState => cases side <;> rfl
          | _ => cases hset
        rw [haccepted]
        refine ⟨fun _ => rfl, ?_, henters⟩
        intro hT n hn
        rw [hchain.ledger_eq]
        exact ⟨Nat.zero_le _, hn.mono (Nat.le_add_right _ _)⟩
      · obtain ⟨a, hbook, ha⟩ := heff.lifecycle hblank (Bool.eq_false_iff.mpr hset) p
        have haccepted : (Event.call env c w'.transfers).accepted p side = a.burned side :=
          ha.accepted
        rw [haccepted]
        by_cases hT : (w.store.pools p).claimToken side = 0
        · exact ⟨fun _ => ha.burned_empty hbook hfilled hT, fun hne => absurd hT hne, henters⟩
        · have hactual : Conserves p side w (a.minted side) (a.burned side) w' := by
            refine ⟨fun h0 => absurd h0 hT, ?_, henters⟩
            intro _ n hn
            obtain ⟨hminted, hburned⟩ := ha.claims heff (hok.alone hT) rfl hT
            rw [← hminted, ← hburned]
            exact (hok.custody hT).circulating heff hchain hn
          exact hactual.mono (hok.minted_le heff hchain ha hT)

/-- Pools that do not exist stay blank. -/
theorem Step.blank {e : Event} (h : Step w e w') (hquiet : e.Quiet) (hblank : w.store.Blank) :
    w'.store.Blank := by
  cases h with
  | outside => exact hblank
  | call env c hrun =>
      obtain ⟨moves, heff, -⟩ := transaction_effect hquiet hrun
      exact heff.blank hblank

end Reserved

/-- **Redemption is backed by minting** for each slot that every step of the run reserves. -/
theorem redemption_backed {admin multiSignature : Address} {ledger : Ledger} {p : Nat} {side : Side}
    {es : List Event} {h : List (World × Event)} {w : World}
    (hrun : Run (Recorded (Restrict Step fun w e w' =>
        Reserved p side w e w' ∧ (side = .borrow → e.Filled p w)))
      ([], deployed admin multiSignature ledger) es (h, w)) :
    total (fun l => l.2.accepted p side) h ≤ total (fun l => l.2.issued p side l.1) h := by
  suffices hI : w.store.Blank ∧ Backed p side (total (fun l => l.2.issued p side l.1) h)
      (total (fun l => l.2.accepted p side) h) w from hI.2.covered
  refine hrun.invariant (I := fun _ r => r.2.store.Blank ∧
    Backed p side (total (fun l => l.2.issued p side l.1) r.1)
      (total (fun l => l.2.accepted p side) r.1) r.2) ?_ ?_
  · exact ⟨(deployed_inOrder ..).blank, Backed.deployed ..⟩
  · intro es r e r' hI hs
    obtain ⟨hblank, hbacked⟩ := hI
    obtain ⟨hrecord, hstep, hok, hfilled⟩ := hs
    rw [hrecord, total_snoc, total_snoc]
    exact ⟨hstep.blank hok.quiet hblank, hbacked.step (hok.conserves hstep hfilled hblank)⟩

/-! ## Dedicated tokens -/

/-- What a step must respect for the slot of `p` on this side: the token in the slot, if any, is
exclusive, minted and burned by the contract alone, and otherwise moved among its holders only; and a
token that enters the slot has no holdings. -/
structure Dedicated (p : Nat) (side : Side) (w : World) (e : Event) (w' : World) : Prop where
  issues : (w.store.pools p).claimToken side ≠ 0 → e.Issues ((w.store.pools p).claimToken side)
  holders : e = .outside →
    Holdings.Redistributed (w.ledger.balance ((w.store.pools p).claimToken side))
      (w'.ledger.balance ((w.store.pools p).claimToken side))
  exclusive : (w.store.pools p).claimToken side ≠ 0 →
    w.store.Exclusive ((w.store.pools p).claimToken side) p side
  enters : ∀ env c ts token, e = .call env c ts →
    c.assigns w.store.poolCounter p side = some token →
      token = (w.store.pools p).claimToken side ∨ ∀ a, w.ledger.balance token a = 0

/-- Honest steps that respect both slots of `p`. -/
abbrev GuardedStep (p : Nat) : World → Event → World → Prop :=
  Restrict Step fun w e w' => e.Honest ∧ (∀ side, Dedicated p side w e w') ∧ e.Filled p w

theorem GuardedStep.regular {p : Nat} {w w' : World} {e : Event} (h : GuardedStep p w e w') :
    RegularStep w e w' :=
  ⟨h.1, h.2.1.regular⟩

theorem Dedicated.reserved {p : Nat} {side : Side} {w w' : World} {e : Event}
    (h : Dedicated p side w e w') (hquiet : e.Quiet) (hguards : ∀ token, e.Guards token) :
    Reserved p side w e w' where
  quiet := hquiet
  custody _ := hguards _
  holders := h.holders
  alone hT := (h.exclusive hT).toAlone
  enters := h.enters

/-- The step did `a` to the pool `p`, from a storage in order. -/
structure Acted (p : Nat) (w : World) (e : Event) (a : Act) (w' : World) : Prop where
  inOrder : w.store.InOrder
  step : Book.Step (w.store.book p) a (w'.store.book p)
  outside : e = .outside → a = .idle
  shown : ∀ env c ts, e = .call env c ts → ts = w'.transfers ∧ ∃ moves,
    Effect env w.store c moves w'.store ∧ Chain env { w with transfers := [] } moves w' ∧
      a.Shown env w.store p c moves

theorem RegularStep.acted {w w' : World} {e : Event} (h : RegularStep w e w') (hw : w.store.InOrder)
    (p : Nat) : ∃ a, Acted p w e a w' := by
  obtain ⟨hstep, hreg⟩ := h
  cases hstep with
  | outside ledger =>
      refine ⟨.idle, hw, .idle, fun _ => rfl, ?_⟩
      intro env c ts he
      cases he
  | call env c hrun =>
      obtain ⟨moves, heff, hchain⟩ := transaction_effect hreg.1 hrun
      obtain ⟨a, ha, hshown⟩ := heff.lifecycle hw.blank hreg.2 p
      refine ⟨a, hw, ha, (fun he => by cases he), ?_⟩
      intro env' c' ts he
      cases he
      exact ⟨rfl, moves, heff, hchain, hshown⟩

/-- A run of regular steps, labelled with what each step did to the pool `p`. -/
theorem run_acted {ok : World → Event → World → Prop} {w₀ w : World} {es : List Event}
    (hok : ∀ {w e w'}, ok w e w' → e.Regular) (hw : w₀.store.InOrder) (p : Nat)
    (hrun : Run (Restrict Step ok) w₀ es w) :
    ∃ ls : List (Event × Act), ls.map Prod.fst = es ∧
      Run (fun w l w' => ok w l.1 w' ∧ Acted p w l.1 l.2 w') w₀ ls w := by
  have hstep {w w' : World} {e : Event} (hin : w.store.InOrder) (hs : Restrict Step ok w e w') :
      w'.store.InOrder ∧ ∃ a, Acted p w e a w' := by
    have hreg : RegularStep w e w' := ⟨hs.1, hok hs.2⟩
    exact ⟨hreg.inOrder hin, hreg.acted hin p⟩
  obtain ⟨ls, hls, hrun'⟩ := hrun.label (J := fun w => w.store.InOrder) hw hstep
  exact ⟨ls, hls, hrun'.mono fun hs => ⟨hs.1.2.2, hs.2⟩⟩

section Step

variable {p : Nat} {side : Side} {w w' : World} {e : Event} {a : Act}

/-- What a step handed in for redemption is what the pool burned. -/
theorem Acted.accepted (h : Acted p w e a w') : e.accepted p side = a.burned side := by
  cases e with
  | outside =>
      rw [h.outside rfl]
      cases side <;> rfl
  | call env c ts =>
      obtain ⟨-, moves, -, -, hshown⟩ := h.shown env c ts rfl
      exact hshown.accepted

theorem Acted.burned_empty (h : Acted p w e a w') (hfilled : e.Filled p w)
    (hT : (w.store.pools p).claimToken side = 0) : a.burned side = 0 := by
  cases e with
  | outside =>
      rw [h.outside rfl]
      cases side <;> rfl
  | call env c ts =>
      obtain ⟨-, moves, -, -, hshown⟩ := h.shown env c ts rfl
      exact hshown.burned_empty h.step (fun _ => hfilled) hT

theorem Acted.plain (h : Acted p w e a w') {env : Env} {c : Call} {moves : List Move}
    (heff : Effect env w.store c moves w'.store) : ∀ m ∈ moves, m.Plain := by
  intro m hm
  obtain ⟨q, hq, huses⟩ := heff.uses hm
  exact huses.plain (h.inOrder.valid q (heff.exists hq))

/-- A count of the holdings follows what a step mints and burns, and covers the burns. -/
theorem Acted.tallied {count : Holdings → Nat → Prop} (ht : Holdings.Tallied count)
    (h : Acted p w e a w') (hx : e.Honest) (hok : Dedicated p side w e w')
    (hT : (w.store.pools p).claimToken side ≠ 0) {n : Nat}
    (hn : count (w.ledger.balance ((w.store.pools p).claimToken side)) n) :
    a.burned side ≤ n + a.minted side ∧
      count (w'.ledger.balance ((w.store.pools p).claimToken side))
        (n + a.minted side - a.burned side) := by
  cases e with
  | outside =>
      rw [h.outside rfl]
      have hzero : Act.minted side .idle = 0 ∧ Act.burned side .idle = 0 := by
        cases side <;> exact ⟨rfl, rfl⟩
      rw [hzero.1, hzero.2]
      exact ⟨Nat.zero_le _, ht.redistributed hn (hok.holders rfl)⟩
  | call env c ts =>
      obtain ⟨-, moves, heff, hchain, hshown⟩ := h.shown env c ts rfl
      obtain ⟨hminted, hburned⟩ := hshown.claims heff (hok.exclusive hT).toAlone rfl hT
      rw [← hminted, ← hburned]
      apply hchain.tallied ht _ hn
      intro m hm w w' hran
      obtain ⟨q, hq, huses⟩ := heff.uses hm
      exact hran.turns hx.1 (hok.issues hT) (h.plain heff m hm) (huses.spares (hok.exclusive hT))

/-- A slot that is filled stays filled. -/
theorem Acted.claimToken_ne (h : Acted p w e a w') (hT : (w.store.pools p).claimToken side ≠ 0) :
    (w'.store.pools p).claimToken side ≠ 0 := by
  cases e with
  | outside =>
      have hstep := h.step
      rw [h.outside rfl] at hstep
      rwa [← Storage.book_pool w'.store p, hstep.idle_eq, Storage.book_pool]
  | call env c ts =>
      obtain ⟨-, moves, heff, -, -⟩ := h.shown env c ts rfl
      rcases heff.assigned h.inOrder.blank p side with hsame | ⟨-, hne, -⟩
      · rwa [hsame]
      · exact hne

/-- A token that enters the slot has no holdings after the call. -/
theorem Acted.enters (h : Acted p w e a w') (hok : Dedicated p side w e w') :
    (w'.store.pools p).claimToken side = (w.store.pools p).claimToken side ∨
      ∀ b, w'.ledger.balance ((w'.store.pools p).claimToken side) b = 0 := by
  cases e with
  | outside =>
      -- nothing happened to the book
      have hstep := h.step
      rw [h.outside rfl] at hstep
      left
      rw [← Storage.book_pool w'.store p, ← Storage.book_pool w.store p, hstep.idle_eq]
  | call env c ts =>
      obtain ⟨-, moves, heff, hchain, -⟩ := h.shown env c ts rfl
      exact heff.enters hchain h.inOrder.blank (hok.enters env c ts · rfl)

/-- **Honest steps with a dedicated token conserve its slot.** -/
theorem Acted.conserves (h : Acted p w e a w') (hx : e.Honest) (hok : Dedicated p side w e w')
    (hfilled : e.Filled p w) : Conserves p side w (a.minted side) (a.burned side) w' where
  empty := h.burned_empty hfilled
  circulating hT _ hn := h.tallied Holdings.circulating_tallied hx hok hT hn
  enters := h.enters hok

end Step

/-! ## Two scripts

The first one keeps to the rules; the second one redeems jp tokens of a pool that never had any. -/

namespace World

/-- The next call of a script puts no token into a slot of `p`, the tokens in the slots are exclusive,
and it is about `p` only when `p` has a jp token. -/
def respects (w : World) (p : Nat) (c : Call) : Bool :=
  decide ((w.store.pools p).jpToken ≠ 0 ∨ c.poolId ≠ some p) &&
    [Side.lend, Side.borrow].all fun side =>
      let token := (w.store.pools p).claimToken side
      decide (c.assigns w.store.poolCounter p side = none) &&
        (decide (token = 0) || (List.range (w.store.poolCounter + 1)).all fun q =>
          decide (((w.store.pools q).spToken = token → q = p ∧ Side.lend = side) ∧
            ((w.store.pools q).jpToken = token → q = p ∧ Side.borrow = side) ∧
            (w.store.pools q).settleToken ≠ token ∧ (w.store.pools q).pledgeToken ≠ token))

/-- Every call of a script does. -/
def respected (w : World) (p : Nat) : List (Setting × Call) → Bool
  | [] => true
  | (st, c) :: rest => w.respects p c && (w.next (standardEnv st) c).respected p rest

theorem respects_exclusive {w : World} {p : Nat} {c : Call} (hw : w.store.InOrder)
    (h : w.respects p c = true) (side : Side) (hT : (w.store.pools p).claimToken side ≠ 0) :
    w.store.Exclusive ((w.store.pools p).claimToken side) p side := by
  have hside : side ∈ [Side.lend, Side.borrow] := by cases side <;> decide
  simp only [respects, Bool.and_eq_true, List.all_eq_true] at h
  have hall := (h.2 side hside).2
  simp only [decide_eq_false hT, Bool.false_or, List.all_eq_true, decide_eq_true_eq] at hall
  have hpool (q : Nat) : q ∈ List.range (w.store.poolCounter + 1) ∨ w.store.pools q = {} := by
    rw [List.mem_range, Nat.lt_succ_iff]
    rcases Nat.lt_or_ge w.store.poolCounter q with hq | hq
    · right
      have hblank := hw.blank q fun hex => Nat.not_le_of_lt hq hex.2
      rw [← Storage.book_pool, hblank]
    · exact .inl hq
  refine ⟨⟨?_⟩, ?_⟩
  · intro q sd hq
    rcases hpool q with hmem | hnone
    · obtain ⟨hsp, hjp, -⟩ := hall q hmem
      cases sd with
      | lend => exact hsp hq
      | borrow => exact hjp hq
    · rw [hnone] at hq
      cases sd <;> exact absurd hq.symm hT
  · intro q
    rcases hpool q with hmem | hnone
    · exact (hall q hmem).2.2
    · rw [hnone]
      exact ⟨Ne.symm hT, Ne.symm hT⟩

theorem respects_dedicated {w w' : World} {st : Setting} {c : Call} {ts : List Transfer} {p : Nat}
    (hw : w.store.InOrder) (h : w.respects p c = true) :
    (∀ side, Dedicated p side w (.call (standardEnv st) c ts) w') ∧
      (Event.call (standardEnv st) c ts).Filled p w := by
  constructor
  · intro side
    refine ⟨fun _ => standard_debtToken st _, (fun he => by cases he), respects_exclusive hw h side, ?_⟩
    intro env' c' ts' token he hassigns
    cases he
    have hside : side ∈ [Side.lend, Side.borrow] := by cases side <;> decide
    simp only [respects, Bool.and_eq_true, List.all_eq_true, decide_eq_true_eq] at h
    rw [(h.2 side hside).1] at hassigns
    cases hassigns
  · intro hjp env jpAmount ts' he
    cases he
    simp only [respects, Bool.and_eq_true, decide_eq_true_eq] at h
    rcases h.1 with hne | hne
    · exact hne hjp
    · exact hne rfl

/-- A script that plays by the rules is a run by the rules. -/
theorem respected_run {w : World} {p : Nat} {script : List (Setting × Call)} (hw : w.store.InOrder)
    (hplays : w.plays script = true) (hrespected : w.respected p script = true) :
    Run (GuardedStep p) w (w.events script) (w.play script) := by
  induction script generalizing w with
  | nil => exact .start
  | cons head rest ih =>
      obtain ⟨st, c⟩ := head
      simp only [plays, Bool.and_eq_true, decide_eq_true_eq] at hplays
      simp only [respected, Bool.and_eq_true] at hrespected
      obtain ⟨⟨hsucc, hsender, hrouter, hstate⟩, hrest⟩ := hplays
      have hstep := next_honest hsucc hsender hrouter hstate
      have hnext : (w.next (standardEnv st) c).store.InOrder :=
        RegularStep.inOrder (HonestStep.regular hstep) hw
      have hfirst : GuardedStep p w _ _ := ⟨hstep.1, hstep.2, respects_dedicated hw hrespected.1⟩
      exact (Run.step .start hfirst).append (ih hnext hrest hrespected.2)

/-- After the opening both sides claim, the pool is finished and both sides redeem. -/
def closing : List (Setting × Call) :=
  [(setting 11 110 10, .claimLend 1),
    (setting 12 110 10, .claimBorrow 1),
    (setting 10 1000 10, .finish 1),
    (setting 11 1001 10, .withdrawLend 1 1000),
    (setting 12 1001 10, .withdrawBorrow 1 1500)]

theorem setup_run : Run (GuardedStep 1) (deployed 10 50 openingLedger)
    ((deployed 10 50 openingLedger).events setup) afterSetup :=
  respected_run (deployed_inOrder ..) (by decide +kernel) (by decide +kernel)

theorem claim_tokens_fresh (token : Address) (h : ¬ token ≤ 2) (u : Address) :
    afterSetup.ledger.balance token u = 0 := by
  have hledger : afterSetup.ledger.balance = openingLedger.balance := rfl
  rw [hledger]
  exact if_neg fun hu => h hu.1

/-- The tokens `3` and `4` have no holdings when they enter the slots. -/
theorem creation_dedicated (side : Side) : Dedicated 1 side afterSetup
    (.call (standardEnv creation.1) creation.2 afterCreation.transfers) afterCreation := by
  have hempty : (afterSetup.store.pools 1).claimToken side = 0 := by cases side <;> rfl
  refine ⟨fun h => absurd hempty h, (fun he => by cases he), fun h => absurd hempty h, ?_⟩
  intro env c ts token he hassigns
  right
  apply claim_tokens_fresh
  cases he
  cases side <;> cases hassigns <;> decide

theorem afterCreation_inOrder : afterCreation.store.InOrder := by
  have hsetup : afterSetup.store.InOrder := reachable_inOrder (setup_run.mono GuardedStep.regular)
  exact RegularStep.inOrder creation_honest.regular hsetup

theorem closing_run : Run (GuardedStep 1) afterCreation
    (afterCreation.events (supplies ++ closing)) (afterCreation.play (supplies ++ closing)) :=
  respected_run afterCreation_inOrder (by decide +kernel) (by decide +kernel)

/-- The whole life of the pool. -/
theorem life_run : Run (GuardedStep 1) (deployed 10 50 openingLedger)
    ((deployed 10 50 openingLedger).events (opening ++ closing))
    ((deployed 10 50 openingLedger).play (opening ++ closing)) := by
  have hcreation : GuardedStep 1 afterSetup
      (.call (standardEnv creation.1) creation.2 afterCreation.transfers) afterCreation := by
    refine ⟨creation_honest.1, creation_honest.2, creation_dedicated, ?_⟩
    intro _ env jpAmount ts he
    cases he
  have hrun := setup_run.append ((Run.step .start hcreation).append closing_run)
  rw [opening, List.append_assoc, List.cons_append, events_append, play_append, events_cons,
    play_cons, ← afterSetup, ← afterCreation]
  exact hrun

/-- The tokens of a script are in custody when none of its accounts is the zero address. -/
theorem events_guard {w : World} {script : List (Setting × Call)}
    (hscript : ∀ x ∈ script, x.1.sender ≠ x.1.this ∧ x.1.router ≠ x.1.this ∧ x.1.this ≠ 0 ∧
      x.1.sender ≠ 0 ∧ x.1.router ≠ 0) (token : Address) :
    ∀ e ∈ w.events script, e.Guards token := by
  induction script generalizing w with
  | nil => exact nofun
  | cons x rest ih =>
      rw [List.forall_mem_cons] at hscript
      obtain ⟨⟨hexternal, hrouter, hthis, hsender, hsource⟩, hrest⟩ := hscript
      rw [events_cons, List.forall_mem_cons]
      exact ⟨standard_custody hexternal hrouter hthis hsender hsource token, ih hrest⟩

theorem life_reserved {w w' : World} {e : Event} (h : GuardedStep 1 w e w')
    (he : e ∈ (deployed 10 50 openingLedger).events (opening ++ closing)) (side : Side) :
    Reserved 1 side w e w' ∧ (side = .borrow → e.Filled 1 w) := by
  obtain ⟨hstep, hhonest, hdedicated, hfilled⟩ := h
  have hquiet := (HonestStep.quiet ⟨hstep, hhonest⟩).2
  refine ⟨(hdedicated side).reserved hquiet fun token => ?_, fun _ => hfilled⟩
  exact events_guard (by decide) token e he

/-- A pool of `createPool`, which has no jp token, is finished; then a stranger hands in jp tokens. -/
def unbacked : List (Setting × Call) :=
  [(setting 10 0 10, .setOracle 300),
    (setting 10 0 10, .setSwapRouterAddress 200),
    (setting 10 0 10, .createPool 1 2 1000000 1 15000 12000 1000),
    (setting 11 10 10, .depositLend 1 1000),
    (setting 12 10 10, .depositBorrow 1 2000),
    (setting 10 100 10, .settle 1),
    (setting 10 1000 10, .finish 1),
    (setting 13 1001 10, .withdrawBorrow 1 1500)]

theorem unbacked_plays : (deployed 10 50 openingLedger).plays unbacked = true := by decide +kernel

end World

/-- In the life of the small pool the lender redeems 1000 sp tokens and the borrower 1500 jp tokens. -/
theorem redemption_backed_life : ∃ h : List (World × Event),
    h.map Prod.snd = (deployed 10 50 World.openingLedger).events (World.opening ++ World.closing) ∧
    total (fun l => l.2.accepted 1 .lend) h ≤ total (fun l => l.2.issued 1 .lend l.1) h ∧
    total (fun l => l.2.accepted 1 .borrow) h ≤ total (fun l => l.2.issued 1 .borrow l.1) h := by
  obtain ⟨h, hevents, hrun⟩ := World.life_run.within.recorded
  refine ⟨h, hevents, ?_, ?_⟩
  · exact redemption_backed (hrun.mono fun hs => ⟨hs.1, hs.2.1.1, World.life_reserved hs.2.1 hs.2.2 _⟩)
  · exact redemption_backed (hrun.mono fun hs => ⟨hs.1, hs.2.1.1, World.life_reserved hs.2.1 hs.2.2 _⟩)

/-- The stranger takes the collateral that was left, and no jp token was ever minted. -/
theorem redemption_unbacked :
    ∃ es w, Run HonestStep (deployed 10 50 World.openingLedger) es w ∧
      total (Event.minted 1 .borrow) es < total (Event.accepted 1 .borrow) es ∧
      w.ledger.balance 2 13 = 500 :=
  ⟨_, _, World.play_run World.unbacked_plays, by decide +kernel, by decide +kernel⟩

end Pledge.Contract
