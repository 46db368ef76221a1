import Pledge.Contract.Standard
import Pledge.MultiSig.History

/-!
# The clients of a wallet

A client of the wallet protects its functions with `validCall`, which asks the wallet whether the
caller is approved for this contract. The question names neither the function nor its arguments, and
asking leaves the wallet as it is. So an approval is not spent by a call: it lets through every protected
call of its caller on its contract while it stands, and none at any other time (`calls_while_approved`).

What stands is read off the history of the wallet: an approval stands while at least as many accounts as
the threshold asks for have signed and not revoked since. Calls are counted against approvals in a
`Tally`. Each call uses an approval, several calls may use the same one, and there are never more
approvals in use than the application has gained.
-/

namespace Pledge.MultiSig

open Pledge.Evm

/-- A wallet and the state of its clients. -/
structure System (γ : Type) where
  wallet : Wallet
  clients : γ

variable {γ φ : Type}

/-- What a protected function of the client `this` does, called by `sender`: it may read the wallet. -/
abbrev Body (γ φ : Type) := φ → (sender this : Address) → Wallet → Tx γ Unit

/-- A transaction of the wallet. -/
def onWallet {α : Type} (x : Tx Wallet α) : Tx (System γ) α := fun s =>
  match x.run s.wallet with
  | .ok (a, wallet) => .ok (a, { s with wallet := wallet })
  | .error e => .error e

/-- A transaction of the clients. -/
def onClients {α : Type} (x : Wallet → Tx γ α) : Tx (System γ) α := fun s =>
  match (x s.wallet).run s.clients with
  | .ok (a, clients) => .ok (a, { s with clients := clients })
  | .error e => .error e

/-- A function behind `validCall`. -/
def validCall (keccak : Address → Address → Nat) (body : Body γ φ) (f : φ) (sender this : Address) :
    Tx (System γ) Unit := do
  onWallet (checkMultiSignature keccak sender this)
  onClients (body f sender this)

/-- What happens to a wallet and its clients. -/
inductive Event (φ : Type) where
  | wallet (sender : Address) (c : Call)
  | validCall (f : φ) (sender this : Address)
  deriving Repr, DecidableEq

/-- One successful transaction. -/
inductive ClientStep (keccak : Address → Address → Nat) (body : Body γ φ) :
    System γ → Event φ → System γ → Prop
  | wallet {s : System γ} {sender : Address} {c : Call} {wallet : Wallet}
      (h : Step keccak s.wallet (sender, c) wallet) :
      ClientStep keccak body s (.wallet sender c) { s with wallet := wallet }
  | validCall {s s' : System γ} {f : φ} {sender this : Address}
      (h : (validCall keccak body f sender this).run s = .ok ((), s')) :
      ClientStep keccak body s (.validCall f sender this) s'

section Rules

variable {keccak : Address → Address → Nat} {body : Body γ φ} {s s' : System γ} {f : φ}
  {sender this : Address}

theorem onWallet_ok {α : Type} {x : Tx Wallet α} {a : α} :
    (onWallet x).run s = .ok (a, s') ↔
      x.run s.wallet = .ok (a, s'.wallet) ∧ s'.clients = s.clients := by
  show (match x.run s.wallet with
    | .ok (a, wallet) => Except.ok (a, { s with wallet := wallet })
    | .error e => .error e) = .ok (a, s') ↔ _
  cases x.run s.wallet with
  | error e => simp
  | ok r =>
      obtain ⟨b, wallet⟩ := r
      obtain ⟨wallet', clients'⟩ := s'
      simp only [Except.ok.injEq, Prod.mk.injEq, System.mk.injEq]
      tauto

theorem onClients_ok {α : Type} {x : Wallet → Tx γ α} {a : α} :
    (onClients x).run s = .ok (a, s') ↔
      (x s.wallet).run s.clients = .ok (a, s'.clients) ∧ s'.wallet = s.wallet := by
  show (match (x s.wallet).run s.clients with
    | .ok (a, clients) => Except.ok (a, { s with clients := clients })
    | .error e => .error e) = .ok (a, s') ↔ _
  cases (x s.wallet).run s.clients with
  | error e => simp
  | ok r =>
      obtain ⟨b, clients⟩ := r
      obtain ⟨wallet', clients'⟩ := s'
      simp only [Except.ok.injEq, Prod.mk.injEq, System.mk.injEq]
      tauto

/-- The wallet finds an application of `sender` for `this` with enough signatures. -/
def Wallet.Approves (keccak : Address → Address → Nat) (w : Wallet) (sender this : Address) : Prop :=
  0 < w.getValidSignature (keccak sender this) DEFAULT_INDEX

instance (keccak : Address → Address → Nat) (w : Wallet) (sender this : Address) :
    Decidable (w.Approves keccak sender this) := inferInstanceAs (Decidable (_ < _))

/-- **A protected call**: it needs the approval, and it leaves the wallet as it is. -/
theorem validCall_ok :
    (validCall keccak body f sender this).run s = .ok ((), s') ↔
      s.wallet.Approves keccak sender this ∧
      (body f sender this s.wallet).run s.clients = .ok ((), s'.clients) ∧ s'.wallet = s.wallet := by
  simp only [validCall, Tx.bind_ok, onWallet_ok, onClients_ok, checkMultiSignature_ok]
  constructor
  · rintro ⟨_, s₁, ⟨⟨happroved, hwallet⟩, hclients⟩, hbody, hsame⟩
    rw [hwallet, hclients] at hbody
    exact ⟨happroved, hbody, hsame.trans hwallet⟩
  · rintro ⟨happroved, hbody, hsame⟩
    exact ⟨(), s, ⟨⟨happroved, rfl⟩, rfl⟩, hbody, hsame⟩

end Rules

/-! ## Approvals that stand

The wallet is changed by its own transactions only, so whether it approves can be told from these.
-/

/-- The transactions of the wallet among the events. -/
def Event.onWallet : Event φ → List (Address × Call)
  | .wallet sender c => [(sender, c)]
  | .validCall _ _ _ => []

section Standing

variable {keccak : Address → Address → Nat} {body : Body γ φ} {s₀ s s' : System γ}
  {es : List (Event φ)} {sender client : Address} {f : φ}

theorem clientStep_validCall : ClientStep keccak body s (.validCall f sender client) s' ↔
    s.wallet.Approves keccak sender client ∧
      (body f sender client s.wallet).run s.clients = .ok ((), s'.clients) ∧ s'.wallet = s.wallet := by
  rw [← validCall_ok]
  constructor
  · intro h
    cases h with
    | validCall h => exact h
  · exact .validCall

/-- The wallet goes through its own transactions; protected calls leave it alone. -/
theorem run_wallet (hrun : Run (ClientStep keccak body) s₀ es s) :
    Run (Step keccak) s₀.wallet (es.flatMap Event.onWallet) s.wallet := by
  refine hrun.expand (fun s => s.wallet) Event.onWallet ?_
  intro s e s' hs
  cases hs with
  | wallet h => exact Run.start.step h
  | validCall h =>
      rw [(validCall_ok.mp h).2.2]
      exact .start

/-- **An approval stands** while enough accounts have signed and not revoked since. -/
theorem run_approves {owners : List Address} {threshold : Nat} {wallet : Wallet}
    (hwallet : (constructor owners threshold).run {} = .ok ((), wallet)) {clients : γ}
    (hrun : Run (ClientStep keccak body) ⟨wallet, clients⟩ es s) :
    s.wallet.Approves keccak sender client ↔
      threshold ≤ {a | Stands (keccak sender client) (es.flatMap Event.onWallet) a}.encard :=
  run_finds hwallet (run_wallet hrun) _

end Standing

/-! ## Counting

For the history of a client: how often a call was made, and how much approval there was for it. -/

/-- The counts of a run for one caller and one client. -/
structure Tally where
  /-- Successful protected calls. -/
  calls : Nat := 0
  /-- How often an application went from below the threshold to at least the threshold. -/
  approvals : Nat := 0
  /-- Protected calls since the application was last below the threshold. -/
  uses : Nat := 0
  /-- Approvals that a protected call has used. -/
  used : Nat := 0
  deriving Repr, DecidableEq

section Counting

variable (keccak : Address → Address → Nat) (sender client : Address)

/-- The event is a protected call of `sender` on `client`. -/
def Event.Calls : Event φ → Prop
  | .wallet _ _ => False
  | .validCall _ sender' this => sender' = sender ∧ this = client

instance (e : Event φ) : Decidable (e.Calls sender client) := by
  cases e <;> unfold Event.Calls <;> infer_instance

/-- The counts after a step between two wallets. -/
def Tally.after (t : Tally) (w : Wallet) (e : Event φ) (w' : Wallet) : Tally where
  calls := if e.Calls sender client then t.calls + 1 else t.calls
  approvals :=
    if ¬ w.Approves keccak sender client ∧ w'.Approves keccak sender client then t.approvals + 1
    else t.approvals
  uses :=
    if w'.Approves keccak sender client then
      if e.Calls sender client then t.uses + 1 else t.uses
    else 0
  used := if e.Calls sender client ∧ t.uses = 0 then t.used + 1 else t.used

/-- A step and its counts. -/
def TalliedStep (body : Body γ φ) (s : System γ × Tally) (e : Event φ) (s' : System γ × Tally) :
    Prop :=
  ClientStep keccak body s.1 e s'.1 ∧ s'.2 = s.2.after keccak sender client s.1.wallet e s'.1.wallet

/-- The approvals in use are within the approvals, and a standing approval that no call has used is one
more. Calls use approvals. -/
structure Tally.Within (t : Tally) (w : Wallet) : Prop where
  le : t.used ≤ t.approvals
  unused : w.Approves keccak sender client → t.uses = 0 → t.used + 1 ≤ t.approvals
  used_le : t.used ≤ t.calls
  uses_le : t.uses ≤ t.calls
  pos : 0 < t.calls → 0 < t.used

variable {keccak sender client} {body : Body γ φ}

/-- Every run can be counted. -/
theorem run_tallied {s₀ s : System γ} {es : List (Event φ)}
    (hrun : Run (ClientStep keccak body) s₀ es s) (t₀ : Tally) :
    ∃ t, Run (TalliedStep keccak sender client body) (s₀, t₀) es (s, t) := by
  induction hrun with
  | start => exact ⟨t₀, .start⟩
  | @step es s s' e _ hs ih =>
      obtain ⟨t, hrun⟩ := ih
      have htallied : TalliedStep keccak sender client body (s, t) e
          (s', t.after keccak sender client s.wallet e s'.wallet) := ⟨hs, rfl⟩
      exact ⟨_, hrun.step htallied⟩

/-- A transaction of the wallet, or a call of somebody else: an approval that comes with it is new. -/
theorem Tally.Within.idle {t : Tally} {w w' : Wallet} {e : Event φ}
    (h : t.Within keccak sender client w) (he : ¬ e.Calls sender client) :
    (t.after keccak sender client w e w').Within keccak sender client w' := by
  have hnot : ¬ (e.Calls sender client ∧ t.uses = 0) := fun hc => he hc.1
  unfold Tally.after
  rw [if_neg he, if_neg he, if_neg hnot]
  constructor
  · show t.used ≤ if _ then _ else _
    split
    · exact Nat.le_succ_of_le h.le
    · exact h.le
  · intro happroved huses
    simp only [if_pos happroved] at huses
    show t.used + 1 ≤ if _ then _ else _
    split
    · exact Nat.succ_le_succ h.le
    · next hold =>
        -- the approval stood before
        exact h.unused (by tauto) huses
  · exact h.used_le
  · show (if _ then _ else _) ≤ t.calls
    split
    · exact h.uses_le
    · exact Nat.zero_le _
  · exact h.pos

/-- A call under a standing approval: the first one puts it to use, and the next ones use it again. -/
theorem Tally.Within.call {t : Tally} {w : Wallet} {e : Event φ}
    (h : t.Within keccak sender client w) (he : e.Calls sender client)
    (happroved : w.Approves keccak sender client) :
    (t.after keccak sender client w e w).Within keccak sender client w := by
  unfold Tally.after
  rw [if_pos he, if_pos he, if_pos happroved, if_neg (fun hnew => hnew.1 happroved)]
  have hused := h.used_le
  have huses := h.uses_le
  by_cases hfirst : t.uses = 0
  · have hboth : e.Calls sender client ∧ t.uses = 0 := ⟨he, hfirst⟩
    rw [if_pos hboth]
    constructor
    · exact h.unused happroved hfirst
    · intro _ h0
      exact absurd h0 (Nat.succ_ne_zero _)
    · exact Nat.succ_le_succ hused
    · exact Nat.succ_le_succ huses
    · intro _
      exact Nat.succ_pos _
  · have hnot : ¬ (e.Calls sender client ∧ t.uses = 0) := fun hc => hfirst hc.2
    rw [if_neg hnot]
    constructor
    · exact h.le
    · intro _ h0
      exact absurd h0 (Nat.succ_ne_zero _)
    · exact Nat.le_succ_of_le hused
    · exact Nat.succ_le_succ huses
    · -- a use before this call was a call
      intro _
      exact h.pos (by omega)

theorem TalliedStep.within {s s' : System γ × Tally} {e : Event φ}
    (h : TalliedStep keccak sender client body s e s')
    (hw : s.2.Within keccak sender client s.1.wallet) :
    s'.2.Within keccak sender client s'.1.wallet := by
  obtain ⟨hstep, htally⟩ := h
  rw [htally]
  by_cases he : e.Calls sender client
  · cases e with
    | wallet a c => exact absurd he id
    | validCall f a this =>
        obtain ⟨rfl, rfl⟩ := he
        obtain ⟨happroved, -, hsame⟩ := clientStep_validCall.mp hstep
        rw [hsame]
        exact hw.call ⟨rfl, rfl⟩ happroved
  · exact hw.idle he

/-- **An approval lets through every protected call while it stands.** In every state of every run: a
protected call of `sender` on `client`, of whatever function and after whatever calls, passes exactly
when enough accounts stand by the application, and it leaves the wallet as it is; and the calls so far
have used at most as many approvals as the application has gained, though at least one if there were
any. -/
theorem calls_while_approved {owners : List Address} {threshold : Nat} {wallet : Wallet}
    (hwallet : (constructor owners threshold).run {} = .ok ((), wallet)) {clients : γ}
    {es : List (Event φ)} {s : System γ} {t : Tally}
    (hrun : Run (TalliedStep keccak sender client body) (⟨wallet, clients⟩, {}) es (s, t)) :
    (∀ f s', ClientStep keccak body s (.validCall f sender client) s' ↔
        threshold ≤ {a | Stands (keccak sender client) (es.flatMap Event.onWallet) a}.encard ∧
          (body f sender client s.wallet).run s.clients = .ok ((), s'.clients) ∧
          s'.wallet = s.wallet) ∧
      t.used ≤ t.approvals ∧ t.used ≤ t.calls ∧ (0 < t.calls → 0 < t.used) := by
  have hsystem : Run (ClientStep keccak body) ⟨wallet, clients⟩ es s := by
    have hmap : Run (ClientStep keccak body) ⟨wallet, clients⟩ (es.map id) s :=
      hrun.map Prod.fst id fun hs => hs.1
    rwa [List.map_id] at hmap
  constructor
  · intro f s'
    rw [clientStep_validCall, run_approves hwallet hsystem]
  · have hstart : Tally.Within keccak sender client {} wallet := by
      refine ⟨Nat.le_refl 0, ?_, Nat.le_refl 0, Nat.le_refl 0, id⟩
      intro happroved
      -- a new wallet has no applications
      obtain ⟨-, -, -, -, rfl⟩ := constructor_ok.mp hwallet
      have hnone : Wallet.getValidSignature { signatureOwners := owners, threshold := threshold }
          (keccak sender client) DEFAULT_INDEX = 0 := rfl
      rw [Wallet.Approves, hnone] at happroved
      exact absurd happroved (Nat.lt_irrefl 0)
    have hinv : (s, t).2.Within keccak sender client (s, t).1.wallet := by
      refine hrun.invariant (I := fun _ s => s.2.Within keccak sender client s.1.wallet) hstart ?_
      intro es s₁ e s₂ hI hs
      exact hs.within hI
    exact ⟨hinv.le, hinv.used_le, hinv.pos⟩

end Counting

/-! ## The pledge pool as a client

Its transactions are those of the model of the pool, with the wallet behind `validCall`. -/

/-- The functions of `PledgePool`, where the wallet answers for the approvals. -/
def pledgePool (env : Contract.Env) : Body Contract.World Contract.Call :=
  fun c sender this wallet =>
    c.transaction
      { env with
        this := this
        sender := sender
        getValidSignature := fun _ msgHash lastIndex _ =>
          .ok (wallet.getValidSignature msgHash lastIndex) }

section Replay

variable (keccak : Address → Address → Nat) (sender client : Address) (body : Body γ φ)

/-- The step of an event, when it succeeds, with its counts. -/
def TalliedStep.next (s : System γ × Tally) (e : Event φ) : Option (System γ × Tally) :=
  let s' :=
    match e with
    | .wallet a c =>
        match (c.body keccak a).run s.1.wallet with
        | .ok (_, wallet) => some { s.1 with wallet := wallet }
        | .error _ => none
    | .validCall f a this =>
        match (validCall keccak body f a this).run s.1 with
        | .ok (_, s') => some s'
        | .error _ => none
  s'.map fun s' => (s', s.2.after keccak sender client s.1.wallet e s'.wallet)

variable {keccak sender client body}

theorem TalliedStep.of_next {s s' : System γ × Tally} {e : Event φ}
    (h : TalliedStep.next keccak sender client body s e = some s') :
    TalliedStep keccak sender client body s e s' := by
  obtain ⟨s, t⟩ := s
  obtain ⟨s₁, hnext, rfl⟩ := Option.map_eq_some_iff.mp h
  refine ⟨?_, rfl⟩
  cases e with
  | wallet a c =>
      dsimp only at hnext
      split at hnext
      · next wallet hrun =>
          obtain rfl := Option.some.inj hnext
          exact .wallet hrun
      · cases hnext
  | validCall f a this =>
      dsimp only at hnext
      split at hnext
      · next s₂ hrun =>
          obtain rfl := Option.some.inj hnext
          exact .validCall hrun
      · cases hnext

end Replay

/-! The owners 1 and 2 of three approve the calls of 1 to the pool at 100. -/

/-- A pool at 100 and its wallet, and the counts for the caller 1. -/
def twoOfThreeSystem : System Contract.World × Tally :=
  (⟨twoOfThree, Contract.deployed 1 50 Contract.World.openingLedger⟩, {})

/-- The callees of the pool at 100. -/
def poolEnv : Contract.Env := Contract.standardEnv (Contract.World.setting 1 10 10)

/-- One approval and one call of the pool. -/
def approvedCall : List (Event Contract.Call) :=
  [.wallet 1 (.createApplication 100), .wallet 1 (.signApplication (packed 1 100)),
    .wallet 2 (.signApplication (packed 1 100)), .validCall (.setFee 100 100) 1 100]

/-- After it the owner 2 revokes, and signs again before the next call. -/
def renewedCall : List (Event Contract.Call) :=
  [.wallet 2 (.revokeSignApplication (packed 1 100)), .wallet 2 (.signApplication (packed 1 100)),
    .validCall .setPause 1 100]

/-- Two approvals, each used once; a third call would be let through as well. -/
theorem calls_while_approved_renewed : ∃ s t,
    Run (TalliedStep packed 1 100 (pledgePool poolEnv)) twoOfThreeSystem (approvedCall ++ renewedCall)
      (s, t) ∧ t.calls = 2 ∧ t.used = 2 ∧ t.approvals = 2 ∧
    ((∀ f s', ClientStep packed (pledgePool poolEnv) s (.validCall f 1 100) s' ↔
        (2 : Nat) ≤ {a | Stands (packed 1 100)
          ((approvedCall ++ renewedCall).flatMap Event.onWallet) a}.encard ∧
        (pledgePool poolEnv f 1 100 s.wallet).run s.clients = .ok ((), s'.clients) ∧
        s'.wallet = s.wallet) ∧
      t.used ≤ t.approvals ∧ t.used ≤ t.calls ∧ (0 < t.calls → 0 < t.used)) := by
  have htally : (replay (TalliedStep.next packed 1 100 (pledgePool poolEnv)) twoOfThreeSystem
      (approvedCall ++ renewedCall)).map (·.2) =
        some { calls := 2, approvals := 2, uses := 1, used := 2 } := by decide +kernel
  obtain ⟨⟨s, t⟩, hreplay, rfl⟩ := Option.map_eq_some_iff.mp htally
  have hrun := Run.of_replay TalliedStep.of_next hreplay
  exact ⟨s, _, hrun, rfl, rfl, rfl, calls_while_approved
    (constructor_ok.mpr ⟨by decide, by decide, by decide, by decide, rfl⟩) hrun⟩

/-- **An approval is used again**: the two signatures for one call of the pool also let the next one
through, which is another function. -/
theorem approval_reused : (constructor [1, 2, 3] 2).run {} = .ok ((), twoOfThree) ∧ ∃ s t,
    Run (TalliedStep packed 1 100 (pledgePool poolEnv)) twoOfThreeSystem
      (approvedCall ++ [.validCall .setPause 1 100]) (s, t) ∧
    t.calls = 2 ∧ t.approvals = 1 := by
  have htally : (replay (TalliedStep.next packed 1 100 (pledgePool poolEnv)) twoOfThreeSystem
      (approvedCall ++ [.validCall .setPause 1 100])).map (·.2) =
        some { calls := 2, approvals := 1, uses := 2, used := 1 } := by decide +kernel
  obtain ⟨⟨s, t⟩, hreplay, rfl⟩ := Option.map_eq_some_iff.mp htally
  exact ⟨rfl, s, _, Run.of_replay TalliedStep.of_next hreplay, rfl, rfl⟩

end Pledge.MultiSig
