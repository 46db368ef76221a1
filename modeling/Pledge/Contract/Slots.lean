import Pledge.Contract.Entitlement
import Pledge.Contract.Receipts

/-!
# Claim tokens in a transaction

The sp and the jp token of a pool are its two *claim tokens*, one for each `Side`. Where such a token
plays no other role (`Storage.Exclusive`), what a transaction mints and burns of it is what the
action on its pool mints and burns (`Act.Shown.claims`).
-/

namespace Pledge.Contract

open Pledge.Evm

/-- The two claim tokens of a pool. -/
inductive Side where
  | lend
  | borrow
  deriving Repr, DecidableEq

def Pool.claimToken (pool : Pool) : Side → Address
  | .lend => pool.spToken
  | .borrow => pool.jpToken

/-- The claim tokens an action mints. -/
def Act.minted : Side → Act → Nat
  | .lend => Act.spMinted
  | .borrow => Act.jpMinted

/-- The claim tokens an action burns. -/
def Act.burned : Side → Act → Nat
  | .lend => Act.spBurned
  | .borrow => Act.jpBurned

/-- The claim tokens of the pool `p` that a call hands in for redemption. -/
def Call.accepted (p : Nat) : Side → Call → Nat
  | .lend, .withdrawLend q spAmount => if q = p then spAmount else 0
  | .borrow, .withdrawBorrow q jpAmount => if q = p then jpAmount else 0
  | _, _ => 0

/-- The call claims tokens of the pool `p`. -/
def Call.claims (p : Nat) : Side → Call → Bool
  | .lend, .claimLend q => q = p
  | .borrow, .claimBorrow q => q = p
  | _, _ => false

/-- What a step redeemed from the pool `p`. -/
def Event.accepted (p : Nat) (side : Side) : Event → Nat
  | .call _ c _ => c.accepted p side
  | .outside => 0

/-- What a step minted for the pool `p`: the mints in the receipt of a claim. -/
def Event.minted (p : Nat) (side : Side) : Event → Nat
  | .call _ c ts => if c.claims p side then volume (fun t => t.src = 0) ts else 0
  | .outside => 0

/-! ## The tokens of a move

The moves of a call about one pool are in that pool's four tokens, so a token of another pool can
only be concerned if the two pools share it. -/

/-- A move of a call about a pool uses the tokens of that pool. -/
def Move.Uses (pool : Pool) : Move → Prop
  | .pull token _ _ | .pay token _ _ => token = pool.settleToken ∨ token = pool.pledgeToken
  | .mint token _ _ | .burn token _ _ => token ≠ 0 ∧ ∃ side, token = pool.claimToken side
  | .swap tokenIn tokenOut _ _ => tokenIn = pool.pledgeToken ∧ tokenOut = pool.settleToken

theorem Received.uses {env : Env} {pool : Pool} {token : Address} {amount n : Nat}
    {moves : List Move} (h : Received env token amount n moves)
    (htoken : token = pool.settleToken ∨ token = pool.pledgeToken) : ∀ m ∈ moves, m.Uses pool := by
  cases h with
  | eth => simp
  | token => simpa [Move.Uses] using htoken

/-- A fee is paid in one of the assets. -/
theorem feeMoves_uses {s : Storage} {pool : Pool} {token : Address} (fee : Nat)
    (htoken : token = pool.settleToken ∨ token = pool.pledgeToken) :
    ∀ m ∈ feeMoves s token fee, m.Uses pool := by
  unfold feeMoves
  split
  · simpa [Move.Uses] using htoken
  · simp

/-- A sale is paid in both. -/
theorem Sale.uses {s : Storage} {pool : Pool} {lend sold received : Nat} {moves : List Move}
    (h : Sale s pool lend sold received moves) : ∀ m ∈ moves, m.Uses pool := by
  cases h with
  | none => simp
  | some =>
      intro m hm
      rcases List.mem_cons.mp hm with rfl | hm
      · exact ⟨rfl, rfl⟩
      · exact feeMoves_uses _ (.inl rfl) m hm

/-- Only calls about a pool make moves, and these are in its tokens. -/
theorem Effect.uses {env : Env} {s s' : Storage} {c : Call} {moves : List Move}
    (h : Effect env s c moves s') {m : Move} (hm : m ∈ moves) :
    ∃ q, c.poolId = some q ∧ m.Uses (s.pools q) := by
  cases h with
  | depositLend hex hstate hend hrecv => exact ⟨_, rfl, hrecv.uses (.inl rfl) m hm⟩
  | depositBorrow hex hstate hend hrecv => exact ⟨_, rfl, hrecv.uses (.inr rfl) m hm⟩
  | refundLend | emergencyLendWithdrawal =>
      obtain rfl := List.mem_singleton.mp hm
      exact ⟨_, rfl, .inl rfl⟩
  | refundBorrow | emergencyBorrowWithdrawal =>
      obtain rfl := List.mem_singleton.mp hm
      exact ⟨_, rfl, .inr rfl⟩
  | claimLend hex hstate hamount hflag hsp =>
      obtain rfl := List.mem_singleton.mp hm
      exact ⟨_, rfl, hsp, .lend, rfl⟩
  | withdrawLend hex hstate hamount hsp =>
      simp only [List.mem_cons, List.not_mem_nil, or_false] at hm
      rcases hm with rfl | rfl
      · exact ⟨_, rfl, hsp, .lend, rfl⟩
      · exact ⟨_, rfl, .inl rfl⟩
  | @claimBorrow q =>
      refine ⟨q, rfl, ?_⟩
      rw [List.mem_append, List.mem_ite_nil_right, List.mem_ite_nil_right, List.mem_singleton,
        List.mem_singleton] at hm
      rcases hm with ⟨hjp, rfl⟩ | ⟨-, rfl⟩
      · exact ⟨hjp, .borrow, rfl⟩
      · exact .inl rfl
  | @withdrawBorrow q =>
      refine ⟨q, rfl, ?_⟩
      rw [List.mem_append, List.mem_ite_nil_right, List.mem_ite_nil_right, List.mem_singleton,
        List.mem_singleton] at hm
      rcases hm with ⟨hjp, rfl⟩ | ⟨-, rfl⟩
      · exact ⟨hjp, .borrow, rfl⟩
      · exact .inr rfl
  | finish hex htime hstate horder hsale =>
      refine ⟨_, rfl, ?_⟩
      rcases List.mem_append.mp hm with hm | hm
      · exact hsale.uses m hm
      · exact feeMoves_uses _ (.inr rfl) m hm
  | liquidate hex hstate htime hpledge hsettle hpp hsp hhealth hsale =>
      refine ⟨_, rfl, ?_⟩
      rcases List.mem_append.mp hm with hm | hm
      · exact hsale.uses m hm
      · exact feeMoves_uses _ (.inr rfl) m hm
  | _ => cases hm

/-! ## Slots

Each pool has a slot for a claim token on either side. A token that is in one slot and in no other
(`Storage.Alone`) is minted and burned by the calls about that slot only, whatever else it may be
used for; one that is no asset either (`Storage.Exclusive`) is not even transferred by others.

Under `Alone` what a transaction mints and burns of the token is what its action on the pool says
(`Act.Shown.claims`); that is the step that turns a statement about books into one about tokens. -/

/-- The token `token` is in no slot but the one of `p` on this side. -/
structure Storage.Alone (s : Storage) (token : Address) (p : Nat) (side : Side) : Prop where
  slot : ∀ q sd, (s.pools q).claimToken sd = token → q = p ∧ sd = side

/-- The token `token` is the claim token of `p` on this side and plays no other role. -/
structure Storage.Exclusive (s : Storage) (token : Address) (p : Nat) (side : Side) : Prop
    extends s.Alone token p side where
  assets : ∀ q, (s.pools q).settleToken ≠ token ∧ (s.pools q).pledgeToken ≠ token

/-- The assets of a valid pool are not ETH, so its moves are plain. -/
theorem Move.Uses.plain {pool : Pool} (hvalid : pool.Valid) {m : Move} (h : m.Uses pool) :
    m.Plain := by
  cases m with
  | pay =>
      rcases h with h | h <;> rw [show _ = _ from h]
      · exact hvalid.settleToken
      · exact hvalid.pledgeToken
  | swap => exact ⟨h.1 ▸ hvalid.pledgeToken, h.2 ▸ hvalid.settleToken⟩
  | _ => trivial

/-- The moves of any pool spare a token that is no asset. -/
theorem Move.Uses.spares {s : Storage} {token : Address} {p : Nat} {side : Side}
    (hs : s.Exclusive token p side) {q : Nat} {m : Move} (h : m.Uses (s.pools q)) :
    m.Spares token := by
  cases m with
  | pull =>
      rcases h with h | h <;> rw [show _ = _ from h]
      · exact (hs.assets q).1
      · exact (hs.assets q).2
  | pay =>
      rcases h with h | h <;> rw [show _ = _ from h]
      · exact (hs.assets q).1
      · exact (hs.assets q).2
  | swap => exact ⟨h.1 ▸ (hs.assets q).2, h.2 ▸ (hs.assets q).1⟩
  | _ => trivial

/-- The moves mint and burn nothing of `token`. -/
def Neutral (token : Address) (moves : List Move) : Prop :=
  ∀ m ∈ moves, m.minted token = 0 ∧ m.burned token = 0

/-- Nothing is minted and nothing burned in sum. -/
theorem Neutral.sums {token : Address} {moves : List Move} (h : Neutral token moves) :
    (moves.map (Move.minted token)).sum = 0 ∧ (moves.map (Move.burned token)).sum = 0 := by
  constructor
  · apply List.sum_eq_zero
    intro n hn
    obtain ⟨m, hm, rfl⟩ := List.mem_map.mp hn
    exact (h m hm).1
  · apply List.sum_eq_zero
    intro n hn
    obtain ⟨m, hm, rfl⟩ := List.mem_map.mp hn
    exact (h m hm).2

/-- One move. -/
theorem Neutral.single {token : Address} {m : Move} (h : m.minted token = 0 ∧ m.burned token = 0) :
    Neutral token [m] := by
  intro m' hm'
  obtain rfl := List.mem_singleton.mp hm'
  exact h

/-- A move that is made under a condition. -/
theorem Neutral.optional {token : Address} {moves : List Move} (c : Prop) [Decidable c]
    (h : Neutral token moves) : Neutral token (if c then moves else []) := by
  intro m hm
  exact h m (List.mem_ite_nil_right.mp hm).2

/-! Payments are neutral for every token, mints and burns for every token but their own. -/

theorem neutral_pay (token t u : Address) (n : Nat) : Neutral token [.pay t u n] :=
  .single ⟨rfl, rfl⟩

theorem neutral_mint {token t : Address} (h : t ≠ token) (u : Address) (n : Nat) :
    Neutral token [.mint t u n] := .single ⟨if_neg h, rfl⟩

theorem neutral_burn {token t : Address} (h : t ≠ token) (u : Address) (n : Nat) :
    Neutral token [.burn t u n] := .single ⟨rfl, if_neg h⟩

/-- So is a payment to the contract. -/
theorem Received.neutral {env : Env} {t token : Address} {amount n : Nat} {moves : List Move}
    (h : Received env t amount n moves) : Neutral token moves := by
  cases h with
  | eth => simp [Neutral]
  | token => exact .single ⟨rfl, rfl⟩

theorem feeMoves_neutral (s : Storage) (t token : Address) (fee : Nat) :
    Neutral token (feeMoves s t fee) := by
  unfold feeMoves
  exact (neutral_pay token t s.feeAddress fee).optional _

/-- Moves one after the other. -/
theorem Neutral.append {token : Address} {ms ms' : List Move} (h : Neutral token ms)
    (h' : Neutral token ms') : Neutral token (ms ++ ms') := by
  intro m hm
  rcases List.mem_append.mp hm with hm | hm
  · exact h m hm
  · exact h' m hm

/-- A sale only pays and swaps. -/
theorem Sale.neutral {s : Storage} {pool : Pool} {lend sold received : Nat} {moves : List Move}
    (h : Sale s pool lend sold received moves) (token : Address) : Neutral token moves := by
  cases h with
  | none => simp [Neutral]
  | some =>
      have hswap : Neutral token [.swap pool.pledgeToken pool.settleToken sold received] :=
        .single ⟨rfl, rfl⟩
      exact hswap.append (feeMoves_neutral s _ token _)

section Slot

variable {env : Env} {s s' : Storage} {c : Call} {moves : List Move} {p : Nat} {side : Side}
  {token : Address}

/-- A call about another pool mints and burns the claim tokens of that pool, which are others. -/
theorem Effect.neutral (h : Effect env s c moves s') (hc : c.poolId ≠ some p)
    (hex : s.Alone token p side) : Neutral token moves := by
  intro m hm
  obtain ⟨q, hq, huses⟩ := h.uses hm
  have hqp : q ≠ p := fun heq => hc (heq ▸ hq)
  -- the claim tokens of `q` are not `token`, which has its one slot in `p`
  have hother {t : Address} (ht : ∃ sd, t = (s.pools q).claimToken sd) : t ≠ token := by
    rintro rfl
    obtain ⟨sd, hsd⟩ := ht
    exact hqp (hex.slot q sd hsd.symm).1
  cases m with
  | mint t holder n => exact ⟨if_neg (hother huses.2), rfl⟩
  | burn t holder n => exact ⟨rfl, if_neg (hother huses.2)⟩
  | _ => exact ⟨rfl, rfl⟩

/-- A claim or a redemption on the side of the token moves it once, and pays. -/
theorem claims_optional (m : Move) {c : Prop} [Decidable c] (hc : c) (t u : Address) (paid : Nat) :
    (((if c then [m] else []) ++ if 0 < paid then [Move.pay t u paid] else []).map
        (Move.minted token)).sum = m.minted token ∧
      (((if c then [m] else []) ++ if 0 < paid then [Move.pay t u paid] else []).map
        (Move.burned token)).sum = m.burned token := by
  obtain ⟨hm, hb⟩ := ((neutral_pay token t u paid).optional (0 < paid)).sums
  rw [if_pos hc, List.map_append, List.map_append, List.sum_append, List.sum_append, hm, hb]
  exact ⟨Nat.add_zero _, Nat.add_zero _⟩

/-- What the moves of a transaction mint and burn of a claim token with one slot is what the action on
its pool mints and burns. -/
theorem Act.Shown.claims {a : Act} (h : Effect env s c moves s') (ha : a.Shown env s p c moves)
    (hex : s.Alone token p side)
    (htoken : (s.pools p).claimToken side = token) (hne : token ≠ 0) :
    (moves.map (Move.minted token)).sum = a.minted side ∧
      (moves.map (Move.burned token)).sum = a.burned side := by
  have hzero (h0 : a.minted side = 0 ∧ a.burned side = 0) (hneutral : Neutral token moves) :
      (moves.map (Move.minted token)).sum = a.minted side ∧
        (moves.map (Move.burned token)).sum = a.burned side := by
    rw [h0.1, h0.2]
    exact hneutral.sums
  -- the other slot of the pool holds another token
  have hother (sd : Side) (hsd : sd ≠ side) : (s.pools p).claimToken sd ≠ token := by
    intro heq
    exact hsd (hex.slot p sd heq).2
  cases a with
  | idle => exact hzero (by cases side <;> exact ⟨rfl, rfl⟩) (h.neutral ha hex)
  | create | configure | settle | undo =>
      obtain ⟨_, rfl⟩ := ha
      exact hzero (by cases side <;> exact ⟨rfl, rfl⟩) (by simp [Neutral])
  | lend | borrow =>
      obtain ⟨_, _, _, hrecv⟩ := ha
      exact hzero (by cases side <;> exact ⟨rfl, rfl⟩) hrecv.neutral
  | refundLend | emergencyLend | refundBorrow | emergencyBorrow =>
      obtain ⟨_, rfl⟩ := ha
      exact hzero (by cases side <;> exact ⟨rfl, rfl⟩) (neutral_pay _ _ _ _)
  | finish | liquidate =>
      obtain ⟨_, _, _, hsale, rfl⟩ := ha
      exact hzero (by cases side <;> exact ⟨rfl, rfl⟩)
        ((hsale.neutral token).append (feeMoves_neutral s _ token _))
  -- on its own side a claim or a redemption moves the token, on the other side another one
  | claimLend u n =>
      obtain ⟨_, rfl⟩ := ha
      cases side with
      | lend =>
          rw [← htoken]
          simp [Move.minted, Move.burned, Pool.claimToken, Act.minted, Act.burned, Act.spMinted,
            Act.spBurned]
      | borrow => exact hzero ⟨rfl, rfl⟩ (neutral_mint (hother .lend (by decide)) _ _)
  | withdrawLend n paid =>
      obtain ⟨_, rfl⟩ := ha
      cases side with
      | lend =>
          rw [← htoken]
          simp [Move.minted, Move.burned, Pool.claimToken, Act.minted, Act.burned, Act.spMinted,
            Act.spBurned]
      | borrow =>
          exact hzero ⟨rfl, rfl⟩
            ((neutral_burn (hother .lend (by decide)) _ _).append (neutral_pay _ _ _ _))
  | claimBorrow u paid n =>
      obtain ⟨_, rfl⟩ := ha
      cases side with
      | lend =>
          exact hzero ⟨rfl, rfl⟩ (((neutral_mint (hother .borrow (by decide)) _ _).optional _).append
            ((neutral_pay _ _ _ _).optional _))
      | borrow =>
          have hjp : (s.pools p).jpToken = token := htoken
          rw [hjp]
          obtain ⟨hm, hb⟩ := claims_optional (.mint token u n) hne (s.pools p).settleToken u paid
          rw [hm, hb]
          exact ⟨if_pos rfl, rfl⟩
  | withdrawBorrow n paid =>
      obtain ⟨_, rfl⟩ := ha
      cases side with
      | lend =>
          exact hzero ⟨rfl, rfl⟩ (((neutral_burn (hother .borrow (by decide)) _ _).optional _).append
            ((neutral_pay _ _ _ _).optional _))
      | borrow =>
          have hjp : (s.pools p).jpToken = token := htoken
          rw [hjp]
          obtain ⟨hm, hb⟩ := claims_optional (.burn token env.sender n) hne
            (s.pools p).pledgeToken env.sender paid
          rw [hm, hb]
          exact ⟨rfl, if_pos rfl⟩

/-- What a call hands in is what its action burns. -/
theorem Act.Shown.accepted {a : Act} (ha : a.Shown env s p c moves) :
    c.accepted p side = a.burned side := by
  cases a with
  | idle =>
      have hp : c.poolId ≠ some p := ha
      cases c with
      | withdrawLend q n =>
          have hq : q ≠ p := fun heq => hp (heq ▸ rfl)
          cases side <;> simp [Call.accepted, Act.burned, Act.spBurned, Act.jpBurned, hq]
      | withdrawBorrow q n =>
          have hq : q ≠ p := fun heq => hp (heq ▸ rfl)
          cases side <;> simp [Call.accepted, Act.burned, Act.spBurned, Act.jpBurned, hq]
      | _ => cases side <;> rfl
  | create =>
      obtain ⟨hc, _⟩ := ha
      cases c with
      | withdrawLend | withdrawBorrow => cases hc
      | _ => cases side <;> rfl
  | configure =>
      obtain ⟨⟨_, rfl | rfl⟩, _⟩ := ha <;> cases side <;> rfl
  | lend | borrow =>
      obtain ⟨_, _, rfl, _⟩ := ha
      cases side <;> rfl
  | withdrawLend | withdrawBorrow =>
      obtain ⟨rfl, _⟩ := ha
      cases side <;> simp [Call.accepted, Act.burned, Act.spBurned, Act.jpBurned]
  | _ =>
      obtain ⟨rfl, _⟩ := ha
      cases side <;> rfl

/-- Only a claim mints, and it burns nothing. -/
theorem Act.Shown.claiming {a : Act} (ha : a.Shown env s p c moves) (hpos : 0 < a.minted side) :
    c.claims p side = true ∧ ∀ m ∈ moves, ∀ holder n, m ≠ .burn token holder n := by
  cases side with
  | lend =>
      cases a with
      | claimLend u n =>
          obtain ⟨rfl, rfl⟩ := ha
          simp [Call.claims]
      | _ => exact absurd hpos (Nat.lt_irrefl 0)
  | borrow =>
      cases a with
      | claimBorrow u paid n =>
          obtain ⟨rfl, rfl⟩ := ha
          refine ⟨by simp [Call.claims], ?_⟩
          intro m hm holder k
          rw [List.mem_append, List.mem_ite_nil_right, List.mem_ite_nil_right, List.mem_singleton,
            List.mem_singleton] at hm
          rcases hm with ⟨-, rfl⟩ | ⟨-, rfl⟩
          · exact nofun
          · exact nofun
      | _ => exact absurd hpos (Nat.lt_irrefl 0)

end Slot

end Pledge.Contract
