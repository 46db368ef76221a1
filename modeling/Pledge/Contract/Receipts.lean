import Pledge.Contract.Inversion

/-!
# Receipts

What the `Transfer` events and the balances show after the calls of a transaction, when the tokens
are exact: for each token, what the contract sent and received is what its moves say, and a claim
token changes hands only as its mints and burns say.
-/

namespace Pledge.Contract

open Pledge.Evm

namespace Move

/-- The token of a move is not the zero address, so no ETH is meant. -/
def Plain : Move → Prop
  | .pull .. | .mint .. | .burn .. => True
  | .pay token _ _ => token ≠ 0
  | .swap tokenIn tokenOut _ _ => tokenIn ≠ 0 ∧ tokenOut ≠ 0

/-- The move neither mints nor burns `token`. -/
def Keeps (token : Address) : Move → Prop
  | .mint t _ _ | .burn t _ _ => t ≠ token
  | _ => True

/-- The move transfers `token` at most by minting or burning it. -/
def Spares (token : Address) : Move → Prop
  | .pull t _ _ | .pay t _ _ => t ≠ token
  | .swap tokenIn tokenOut _ _ => tokenIn ≠ token ∧ tokenOut ≠ token
  | .mint .. | .burn .. => True

/-- What the contract sends of `token` in a move. -/
def sent (this token : Address) : Move → Nat
  | .pull t source n => if t = token ∧ source = this then n else 0
  | .pay t _ n => if t = token then n else 0
  | .swap t _ n _ => if t = token then n else 0
  | _ => 0

/-- What the contract receives of `token` in a move. -/
def received (this token : Address) : Move → Nat
  | .pull t _ n => if t = token then n else 0
  | .pay t recipient n => if t = token ∧ recipient = this then n else 0
  | .swap _ t _ n => if t = token then n else 0
  | _ => 0

/-- What a move mints of `token`. -/
def minted (token : Address) : Move → Nat
  | .mint t _ n => if t = token then n else 0
  | _ => 0

/-- What a move burns of `token`. -/
def burned (token : Address) : Move → Nat
  | .burn t _ n => if t = token then n else 0
  | _ => 0

/-- What a move does to the holdings of `token`: a mint credits the holder, a burn takes what the holder
has, and with anything else the token at most changes hands. -/
def Turns (token : Address) (h h' : Holdings) : Move → Prop
  | .mint t holder n => if t = token then h' = h.credit holder n else h.Redistributed h'
  | .burn t holder n =>
      if t = token then n ≤ h holder ∧ h' = h.debit holder n else h.Redistributed h'
  | _ => h.Redistributed h'

/-- Then nothing is minted or burned of it. -/
theorem Keeps.minted_burned {token : Address} {m : Move} (h : m.Keeps token) :
    m.minted token = 0 ∧ m.burned token = 0 := by
  cases m with
  | mint t holder k => exact ⟨if_neg h, rfl⟩
  | burn t holder k => exact ⟨rfl, if_neg h⟩
  | _ => exact ⟨rfl, rfl⟩

/-- A move that leaves the token to its holders. -/
theorem Keeps.turns {token : Address} {m : Move} (hm : m.Keeps token) {h h' : Holdings}
    (hr : h.Redistributed h') : m.Turns token h h' := by
  cases m with
  | mint t holder k => exact (if_neg hm).mpr hr
  | burn t holder k => exact (if_neg hm).mpr hr
  | _ => exact hr

/-- **A count of the holdings follows the mints and burns**, and no burn exceeds it. -/
theorem Turns.tallied {token : Address} {m : Move} {h h' : Holdings} (hm : m.Turns token h h')
    {count : Holdings → Nat → Prop} (ht : Holdings.Tallied count) {n : Nat} (hn : count h n) :
    m.burned token ≤ n + m.minted token ∧ count h' (n + m.minted token - m.burned token) := by
  by_cases hkeeps : m.Keeps token
  · have hr : h.Redistributed h' := by
      cases m with
      | mint t holder k => exact (if_neg hkeeps).mp hm
      | burn t holder k => exact (if_neg hkeeps).mp hm
      | _ => exact hm
    rw [hkeeps.minted_burned.1, hkeeps.minted_burned.2]
    exact ⟨Nat.zero_le _, ht.redistributed hn hr⟩
  · cases m with
    | mint t holder k =>
        obtain rfl : t = token := not_not.mp hkeeps
        obtain rfl : h' = h.credit holder k := (if_pos rfl).mp hm
        rw [show (Move.mint t holder k).minted t = k from if_pos rfl]
        exact ⟨Nat.zero_le _, ht.credit hn holder k⟩
    | burn t holder k =>
        obtain rfl : t = token := not_not.mp hkeeps
        obtain ⟨hk, rfl⟩ : k ≤ h holder ∧ h' = h.debit holder k := (if_pos rfl).mp hm
        rw [show (Move.burn t holder k).burned t = k from if_pos rfl]
        exact ⟨hk.trans (ht.le hn holder), ht.debit hn hk⟩
    | _ => exact absurd trivial hkeeps

end Move

section Exact

variable {env : Env} {w w' : World}

/-! A transfer shows in the log at both of its ends and in no other token; a call to another token
shows nowhere. -/

theorem Moved.sentBy {token source recipient : Address} {n : Nat}
    (h : Moved token source recipient n w w') (t a : Address) :
    Evm.sentBy t a w'.transfers =
      Evm.sentBy t a w.transfers + if token = t ∧ source = a then n else 0 := by
  unfold Evm.sentBy
  rw [h.transfers, volume_append, volume_single]
  simp

theorem Moved.receivedBy {token source recipient : Address} {n : Nat}
    (h : Moved token source recipient n w w') (t a : Address) :
    Evm.receivedBy t a w'.transfers =
      Evm.receivedBy t a w.transfers + if token = t ∧ recipient = a then n else 0 := by
  unfold Evm.receivedBy
  rw [h.transfers, volume_append, volume_single]
  simp

theorem Moved.balance_ne {token source recipient : Address} {n : Nat}
    (h : Moved token source recipient n w w') {t : Address} (ht : t ≠ token) :
    w'.ledger.balance t = w.ledger.balance t := by
  rw [h.balance, Function.update_of_ne ht]

theorem Touched.sentBy {token t : Address} (h : Touched token w w') (ht : token ≠ t) (a : Address) :
    Evm.sentBy t a w'.transfers = Evm.sentBy t a w.transfers := by
  obtain ⟨ts, hts, htok⟩ := h.transfers
  unfold Evm.sentBy
  rw [hts, volume_append]
  apply Nat.add_eq_left.mpr
  apply volume_eq_zero
  intro x hx
  simp [htok x hx, ht]

theorem Touched.receivedBy {token t : Address} (h : Touched token w w') (ht : token ≠ t)
    (a : Address) : Evm.receivedBy t a w'.transfers = Evm.receivedBy t a w.transfers := by
  obtain ⟨ts, hts, htok⟩ := h.transfers
  unfold Evm.receivedBy
  rw [hts, volume_append]
  apply Nat.add_eq_left.mpr
  apply volume_eq_zero
  intro x hx
  simp [htok x hx, ht]

/-- A payment moves what it says, or there was nothing to pay. -/
theorem transferToken_moved (hx : Exact env) {token recipient : Address} {n : Nat}
    (ht : token ≠ 0) (h : (transferToken env token recipient n).run w = .ok ((), w')) :
    n = 0 ∧ w' = w ∨ Moved token env.this recipient n w w' := by
  simp only [transferToken, Tx.rules] at h
  rcases h with ⟨h0, _, rfl⟩ | ⟨_, ⟨h0, _⟩ | ⟨_, b, w₁, h, _, rfl⟩⟩
  · exact .inl ⟨h0, rfl⟩
  · exact absurd h0 ht
  · exact .inr (hx.transfer_moved h).2

/-- An approval moves nothing. -/
theorem safeApprove_same (hx : Exact env) {token spender : Address} {n : Nat} {u : Unit}
    (h : (safeApprove env token spender n).run w = .ok (u, w')) :
    w'.ledger.balance = w.ledger.balance ∧ w'.transfers = w.transfers := by
  simp only [safeApprove, Tx.rules] at h
  obtain ⟨_, _, h, _, rfl⟩ := h
  exact hx.approve_same h

/-- A swap between tokens: exactly `n` goes to the router and exactly the reported amount comes back. -/
theorem swap_moved (hx : Exact env) {t0 t1 : Address} {n out : Nat} (h0 : t0 ≠ 0) (h1 : t1 ≠ 0)
    (h : (swap env t0 t1 n).run w = .ok (out, w')) :
    n = 0 ∧ out = 0 ∧ w' = w ∨ ∃ w₀ w₁ sink source,
      (w₀.ledger.balance = w.ledger.balance ∧ w₀.transfers = w.transfers) ∧
      sink ≠ env.this ∧ source ≠ env.this ∧ Moved t0 env.this sink n w₀ w₁ ∧
      Moved t1 source env.this out w₁ w' := by
  simp only [swap, getSwapPath, storage_rules, Tx.rules, and_assoc, exists_and_left,
    exists_eq_left, exists_const, h0, h1, ne_eq, not_false_eq_true, true_and, false_and, false_or,
    not_true_eq_false, or_false] at h
  obtain ⟨_, h | ⟨_, _, w₀, ha0, w₁, ha1, _, amounts, w₂, hswap, _, hlast, rfl⟩⟩ := h
  · exact .inl h
  obtain ⟨hb0, ht0⟩ := safeApprove_same hx ha0
  obtain ⟨hb1, ht1⟩ := safeApprove_same hx ha1
  obtain ⟨w₃, sink, source, out', hsink, hsource, rfl, hin, hout⟩ := hx.swap_exact hswap
  obtain rfl : out' = out := by simpa using hlast
  exact .inr ⟨w₁, w₃, sink, source, ⟨hb1.trans hb0, ht1.trans ht0⟩, hsink, hsource, hin, hout⟩

/-! ## One move

Each move against the log, the balances, and the count of the holdings of a claim token. The case
for a swap has two transfers with accounts of the router's choice at the far ends; only the ends at
the contract are known. -/

/-- What the contract sent. -/
theorem Move.Ran.sentBy (hx : Exact env) {m : Move} {token : Address} (hplain : m.Plain)
    (hkeeps : m.Keeps token) (h : m.Ran env w w') :
    Evm.sentBy token env.this w'.transfers =
      Evm.sentBy token env.this w.transfers + m.sent env.this token := by
  cases m with
  | pull t source n =>
      obtain ⟨b, h⟩ := h
      exact (hx.transferFrom_moved h).2.sentBy token env.this
  | pay t recipient n =>
      rcases transferToken_moved hx hplain h with ⟨rfl, rfl⟩ | hm
      · simp [Move.sent]
      · simpa [Move.sent] using hm.sentBy token env.this
  | mint t holder n =>
      obtain ⟨b, h⟩ := h
      exact (hx.mint_touched h).sentBy hkeeps env.this
  | burn t holder n =>
      obtain ⟨b, h⟩ := h
      exact (hx.burn_touched h).sentBy hkeeps env.this
  | swap t0 t1 n out =>
      -- the second leg comes from someone else, so only the first is sent
      rcases swap_moved hx hplain.1 hplain.2 h with
        ⟨rfl, _, rfl⟩ | ⟨w₀, w₁, sink, source, ⟨_, hts⟩, _, hsource, hin, hout⟩
      · simp [Move.sent]
      · rw [hout.sentBy, hin.sentBy, hts]
        simp [Move.sent, hsource]

/-- What it received. -/
theorem Move.Ran.receivedBy (hx : Exact env) {m : Move} {token : Address} (hplain : m.Plain)
    (hkeeps : m.Keeps token) (h : m.Ran env w w') :
    Evm.receivedBy token env.this w'.transfers =
      Evm.receivedBy token env.this w.transfers + m.received env.this token := by
  cases m with
  | pull t source n =>
      obtain ⟨b, h⟩ := h
      simpa [Move.received] using (hx.transferFrom_moved h).2.receivedBy token env.this
  | pay t recipient n =>
      rcases transferToken_moved hx hplain h with ⟨rfl, rfl⟩ | hm
      · simp [Move.received]
      · exact hm.receivedBy token env.this
  | mint t holder n =>
      obtain ⟨b, h⟩ := h
      exact (hx.mint_touched h).receivedBy hkeeps env.this
  | burn t holder n =>
      obtain ⟨b, h⟩ := h
      exact (hx.burn_touched h).receivedBy hkeeps env.this
  | swap t0 t1 n out =>
      -- the first leg goes to someone else, so only the second is received
      rcases swap_moved hx hplain.1 hplain.2 h with
        ⟨_, rfl, rfl⟩ | ⟨w₀, w₁, sink, source, ⟨_, hts⟩, hsink, _, hin, hout⟩
      · simp [Move.received]
      · rw [hout.receivedBy, hin.receivedBy, hts]
        simp [Move.received, hsink]

/-- A move that does not touch the token at all. -/
theorem Move.Ran.elsewhere (hx : Exact env) {m : Move} {token : Address} (hplain : m.Plain)
    (hspares : m.Spares token) (hkeeps : m.Keeps token) (h : m.Ran env w w') :
    w'.ledger.balance token = w.ledger.balance token ∧
      ∀ a, Evm.sentBy token a w'.transfers = Evm.sentBy token a w.transfers := by
  cases m with
  | pull t source n =>
      obtain ⟨b, h⟩ := h
      have hm := (hx.transferFrom_moved h).2
      refine ⟨hm.balance_ne (Ne.symm hspares), ?_⟩
      intro a
      rw [hm.sentBy, if_neg fun h => hspares h.1, Nat.add_zero]
  | pay t recipient n =>
      rcases transferToken_moved hx hplain h with ⟨rfl, rfl⟩ | hm
      · exact ⟨rfl, fun _ => rfl⟩
      · refine ⟨hm.balance_ne (Ne.symm hspares), ?_⟩
        intro a
        rw [hm.sentBy, if_neg fun h => hspares h.1, Nat.add_zero]
  | mint t holder n =>
      obtain ⟨b, h⟩ := h
      have ht := hx.mint_touched h
      exact ⟨ht.balance token (Ne.symm hkeeps), ht.sentBy hkeeps⟩
  | burn t holder n =>
      obtain ⟨b, h⟩ := h
      have ht := hx.burn_touched h
      exact ⟨ht.balance token (Ne.symm hkeeps), ht.sentBy hkeeps⟩
  | swap t0 t1 n out =>
      rcases swap_moved hx hplain.1 hplain.2 h with
        ⟨_, _, rfl⟩ | ⟨w₀, w₁, sink, source, ⟨hb, hts⟩, _, _, hin, hout⟩
      · exact ⟨rfl, fun _ => rfl⟩
      · constructor
        · rw [hout.balance_ne (Ne.symm hspares.2), hin.balance_ne (Ne.symm hspares.1), hb]
        · intro a
          rw [hout.sentBy, hin.sentBy, hts, if_neg fun h => hspares.1 h.1,
            if_neg fun h => hspares.2 h.1, Nat.add_zero]

/-- A mint or a burn of a claim token. -/
theorem Move.Ran.turns_issue {m : Move} {token : Address} (hd : DebtToken env token)
    (hissue : ¬ m.Keeps token) (h : m.Ran env w w') :
    m.Turns token (w.ledger.balance token) (w'.ledger.balance token) := by
  cases m with
  | mint t holder k =>
      obtain rfl : t = token := not_not.mp hissue
      obtain ⟨b, h⟩ := h
      exact (if_pos rfl).mpr (hd.mint h).1
  | burn t holder k =>
      obtain rfl : t = token := not_not.mp hissue
      obtain ⟨b, h⟩ := h
      obtain ⟨hk, hbalance, -⟩ := hd.burn h
      exact (if_pos rfl).mpr ⟨hk, hbalance⟩
  | _ => exact absurd trivial hissue

/-- The log of a mint. -/
theorem Move.Ran.issued_issue {m : Move} {token : Address} (hd : DebtToken env token)
    (hissue : ¬ m.Keeps token) (hburn : ∀ holder n, m ≠ .burn token holder n) (h : m.Ran env w w') :
    Evm.sentBy token 0 w'.transfers = Evm.sentBy token 0 w.transfers + m.minted token := by
  cases m with
  | mint t holder k =>
      obtain rfl : t = token := not_not.mp hissue
      obtain ⟨b, h⟩ := h
      unfold Evm.sentBy
      rw [(hd.mint h).2, volume_append, volume_single]
      simp [Move.minted]
  | burn t holder k =>
      obtain rfl : t = token := not_not.mp hissue
      exact absurd rfl (hburn holder k)
  | _ => exact absurd trivial hissue

/-- Exact callees turn the holdings of a claim token as its mints and burns say. -/
theorem Move.Ran.turns (hx : Exact env) {m : Move} {token : Address} (hd : DebtToken env token)
    (hplain : m.Plain) (hspares : m.Spares token) (h : m.Ran env w w') :
    m.Turns token (w.ledger.balance token) (w'.ledger.balance token) := by
  by_cases hkeeps : m.Keeps token
  · rw [(h.elsewhere hx hplain hspares hkeeps).1]
    exact hkeeps.turns .refl
  · exact h.turns_issue hd hkeeps

/-- The log of mints of a claim token, where nothing is burned. -/
theorem Move.Ran.issued (hx : Exact env) {m : Move} {token : Address} (hd : DebtToken env token)
    (hplain : m.Plain) (hspares : m.Spares token) (hburn : ∀ holder n, m ≠ .burn token holder n)
    (h : m.Ran env w w') :
    Evm.sentBy token 0 w'.transfers = Evm.sentBy token 0 w.transfers + m.minted token := by
  by_cases hkeeps : m.Keeps token
  · rw [hkeeps.minted_burned.1, (h.elsewhere hx hplain hspares hkeeps).2 0]
    rfl
  · exact h.issued_issue hd hkeeps hburn

/-! ## A chain of moves

Between two moves of a chain the contract only writes its own storage, so whatever a move adds to a
quantity, the chain adds in sum. -/

/-- A quantity that each move changes by a known amount. -/
theorem Chain.measure {ms : List Move} {f : World → Nat} {g : Move → Nat}
    (hsame : ∀ {w w'}, World.SameTokens w w' → f w' = f w)
    (hstep : ∀ {w w' m}, m ∈ ms → m.Ran env w w' → f w' = f w + g m) (hc : Chain env w ms w') :
    f w' = f w + (ms.map g).sum := by
  -- along the chain; between two moves the tokens stay as they are
  induction hc with
  | done h => simpa using hsame h
  | move h hm _ ih =>
      rw [ih fun hmem => hstep (List.mem_cons_of_mem _ hmem), hstep List.mem_cons_self hm, hsame h,
        List.map_cons, List.sum_cons, Nat.add_assoc]

/-- What the contract sent in a chain. -/
theorem Chain.sentBy (hx : Exact env) {ms : List Move} {token : Address}
    (hplain : ∀ m ∈ ms, m.Plain) (hkeeps : ∀ m ∈ ms, m.Keeps token) (hc : Chain env w ms w') :
    Evm.sentBy token env.this w'.transfers =
      Evm.sentBy token env.this w.transfers + (ms.map (Move.sent env.this token)).sum :=
  hc.measure (f := fun w => Evm.sentBy token env.this w.transfers) (fun h => by rw [h.2])
    fun hm h => h.sentBy hx (hplain _ hm) (hkeeps _ hm)

/-- What it received. -/
theorem Chain.receivedBy (hx : Exact env) {ms : List Move} {token : Address}
    (hplain : ∀ m ∈ ms, m.Plain) (hkeeps : ∀ m ∈ ms, m.Keeps token) (hc : Chain env w ms w') :
    Evm.receivedBy token env.this w'.transfers =
      Evm.receivedBy token env.this w.transfers + (ms.map (Move.received env.this token)).sum :=
  hc.measure (f := fun w => Evm.receivedBy token env.this w.transfers) (fun h => by rw [h.2])
    fun hm h => h.receivedBy hx (hplain _ hm) (hkeeps _ hm)

/-- **A count of the holdings through a chain**: each burn was covered when it happened. -/
theorem Chain.tallied {count : Holdings → Nat → Prop} (ht : Holdings.Tallied count) {ms : List Move}
    {token : Address} (hturns : ∀ m ∈ ms, ∀ w w', m.Ran env w w' →
      m.Turns token (w.ledger.balance token) (w'.ledger.balance token))
    (hc : Chain env w ms w') {n : Nat} (hn : count (w.ledger.balance token) n) :
    (ms.map (Move.burned token)).sum ≤ n + (ms.map (Move.minted token)).sum ∧
      count (w'.ledger.balance token)
        (n + (ms.map (Move.minted token)).sum - (ms.map (Move.burned token)).sum) := by
  -- the count changes with each move, so the induction is for every `n`
  induction hc generalizing n with
  | done h =>
      rw [h.1]
      simpa using hn
  | @move w w₁ w₂ w' m ms h hm _ ih =>
      rw [← h.1] at hn
      rw [List.forall_mem_cons] at hturns
      obtain ⟨hle, hn'⟩ := (hturns.1 _ _ hm).tallied ht hn
      obtain ⟨hle', hn''⟩ := ih hturns.2 hn'
      simp only [List.map_cons, List.sum_cons]
      refine ⟨by omega, ?_⟩
      -- the burn of the first move is covered, so the truncated subtractions reassociate
      rwa [show n + (m.minted token + (ms.map (Move.minted token)).sum) -
          (m.burned token + (ms.map (Move.burned token)).sum) =
        n + m.minted token - m.burned token + (ms.map (Move.minted token)).sum -
          (ms.map (Move.burned token)).sum by omega]

end Exact

end Pledge.Contract
