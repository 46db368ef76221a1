import Pledge.MultiSig.MultiSignature

/-!
# Executing under re-entrancy

The wallet in a world of other contracts: while the call of an `execute` is open, any account may call
the wallet again, and any open call may fail and be rolled back (`Evm/CallStack.lean`). What is rolled
back is the storage together with the log of the external calls that were made; the log is not part of
the contract and records, for each call, the storage at that moment.

`Journal.Sound` is the invariant of the present and of every saved state; `Journal.Keeps` is the
preorder that every step climbs.
-/

namespace Pledge.MultiSignature

open Pledge.Evm

/-- An external call that `execute` made. -/
structure Executed where
  txId : Nat
  transaction : Transaction
  /-- The storage when the call was made. -/
  storage : Storage

/-- The storage and the external calls that took effect so far. -/
structure Journal where
  storage : Storage
  log : List Executed := []

/-- The transactions of the wallet that make no external call. -/
inductive Call where
  | submit (recipient : Address) (value : Nat) (data : List UInt8)
  | confirm (txId : Nat)
  | revoke (txId : Nat)
  deriving Repr, DecidableEq

def Call.body (sender : Address) : Call → Tx Storage Unit
  | .submit recipient value data => MultiSignature.submit sender recipient value data
  | .confirm txId => MultiSignature.confirm sender txId
  | .revoke txId => MultiSignature.revoke sender txId

/-- A call that is open. -/
inductive Opened where
  /-- A call of another contract, from which the wallet may be called and which may fail. -/
  | foreign
  /-- The external call of an `execute`. -/
  | execute (sender : Address) (txId : Nat)
  deriving Repr, DecidableEq

/-- A successful call of the wallet by an account. -/
def Acts (j : Journal) (e : Address × Call) (j' : Journal) : Prop :=
  (e.2.body e.1).run j.storage = .ok ((), j'.storage) ∧ j'.log = j.log

/-- Opening a call. An `execute` passes its checks, marks the transaction and makes its call. -/
inductive Enters (j : Journal) : Opened → Journal → Prop
  | foreign : Enters j .foreign j
  | execute {sender : Address} {txId : Nat} {t : Transaction} {storage : Storage}
      (h : (beginExecute sender txId).run j.storage = .ok (t, storage)) :
      Enters j (.execute sender txId) ⟨storage, j.log ++ [⟨txId, t, storage⟩]⟩

/-- One step of the wallet and the contracts around it. -/
abbrev WalletStep : Config Journal Opened → CallEvent (Address × Call) Opened →
    Config Journal Opened → Prop := CallStep Acts Enters

/-- `execute` is opening its call and returning from it, whatever ran in between. -/
theorem execute_run {call : Address → Nat → List UInt8 → Tx Storage Bool} {sender : Address}
    {txId : Nat} {s s' : Storage} {log : List Executed}
    (hcallee : ∀ (t : Transaction) s₁ log₁, (call t.recipient t.value t.data).run s₁ = .ok (true, s') →
      ∃ es log', Run WalletStep ⟨⟨s₁, log₁⟩, []⟩ es ⟨⟨s', log'⟩, []⟩)
    (h : (execute call sender txId).run s = .ok ((), s')) :
    ∃ es log', Run WalletStep ⟨⟨s, log⟩, []⟩ (.enter (.execute sender txId) :: es)
      ⟨⟨s', log'⟩, []⟩ := by
  obtain ⟨t, s₁, hbegin, hcall⟩ := execute_ok.mp h
  obtain ⟨es, log', hrun⟩ := hcallee t s₁ (log ++ [⟨txId, t, s₁⟩]) hcall
  have henter : WalletStep ⟨⟨s, log⟩, []⟩ (.enter (.execute sender txId)) _ :=
    .enter (.execute hbegin)
  have hnested := run_under hrun [⟨.execute sender txId, ⟨s, log⟩⟩]
  exact ⟨es ++ [.leave], log', by
    simpa using ((Run.start.step henter).append hnested).step .leave⟩

/-! ## The invariant

The counter of a transaction is the number of owners who have confirmed it, and the log has the
transactions that are marked executed, each once. -/

/-- The owners with a standing confirmation of a transaction. -/
def Storage.confirmers (s : Storage) (owners : List Address) (txId : Nat) : List Address :=
  owners.filter (s.isConfirmed txId)

/-- Counters and confirmations agree, and the log holds the executed transactions, each once, with
enough confirmations. -/
structure Journal.Sound (owners : List Address) (required : Nat) (j : Journal) : Prop where
  isOwner : ∀ a, j.storage.isOwner a = true ↔ a ∈ owners
  required_eq : j.storage.required = required
  counted : ∀ {txId t}, j.storage.transactions[txId]? = some t →
    t.numConfirmations = (j.storage.confirmers owners txId).length
  fresh : ∀ {txId}, j.storage.transactions.length ≤ txId → ∀ a, j.storage.isConfirmed txId a = false
  executed : ∀ {txId t}, j.storage.transactions[txId]? = some t →
    (t.executed = true ↔ txId ∈ j.log.map (·.txId))
  known : ∀ e ∈ j.log, e.txId < j.storage.transactions.length
  once : (j.log.map (·.txId)).Nodup
  confirmed : ∀ e ∈ j.log, required ≤ (e.storage.confirmers owners e.txId).length

/-- What is executed stays so, with its confirmations, and the calls that were made stay made. -/
structure Journal.Keeps (j j' : Journal) : Prop where
  transaction : ∀ {txId t}, j.storage.transactions[txId]? = some t → t.executed = true →
    j'.storage.transactions[txId]? = some t ∧
      j'.storage.isConfirmed txId = j.storage.isConfirmed txId
  log : j.log <+: j'.log

theorem Journal.Keeps.refl (j : Journal) : j.Keeps j := ⟨fun h _ => ⟨h, rfl⟩, List.prefix_refl _⟩

theorem Journal.Keeps.trans {j j' j'' : Journal} (h : j.Keeps j') (h' : j'.Keeps j'') :
    j.Keeps j'' where
  transaction ht hexecuted := by
    obtain ⟨ht', hconfirmed⟩ := h.transaction ht hexecuted
    obtain ⟨ht'', hconfirmed'⟩ := h'.transaction ht' hexecuted
    exact ⟨ht'', hconfirmed'.trans hconfirmed⟩
  log := h.log.trans h'.log

/-! ## One step

A step changes one transaction, adds one, or adds to the log. Each of these is one lemma. -/

/-- One more account satisfies the predicate. -/
theorem length_filter_update {α : Type} [DecidableEq α] {xs : List α} (hnodup : xs.Nodup) {a : α}
    (ha : a ∈ xs) {p : α → Bool} (hp : p a = false) :
    (xs.filter (Function.update p a true)).length = (xs.filter p).length + 1 := by
  have hperm : xs.Perm (a :: xs.erase a) := List.perm_cons_erase ha
  have hrest : (xs.erase a).filter (Function.update p a true) = (xs.erase a).filter p := by
    apply List.filter_congr
    intro b hb
    rw [Function.update_of_ne (hnodup.mem_erase_iff.mp hb).1]
  rw [(hperm.filter _).length_eq, (hperm.filter p).length_eq]
  rw [List.filter_cons_of_pos (by simp), List.filter_cons_of_neg (by simp [hp]), hrest,
    List.length_cons]

/-- Only the record and the confirmations of one pending transaction change. -/
structure Storage.ChangesAt (s : Storage) (txId : Nat) (t t' : Transaction) (s' : Storage) : Prop where
  pending : s.Pending txId t
  transactions : s'.transactions = s.transactions.set txId t'
  isConfirmed : ∀ id, id ≠ txId → s'.isConfirmed id = s.isConfirmed id
  isOwner : s'.isOwner = s.isOwner
  required : s'.required = s.required

theorem Storage.changesAt_confirmed {s : Storage} {txId n : Nat} {t : Transaction} {sender : Address}
    {b : Bool} (h : s.Pending txId t) : s.ChangesAt txId t { t with numConfirmations := n }
      ((s.setConfirmed txId sender b).setTransaction txId { t with numConfirmations := n }) where
  pending := h
  transactions := rfl
  isConfirmed _ hid := Function.update_of_ne hid _ _
  isOwner := rfl
  required := rfl

section Step

variable {owners : List Address} {required : Nat} {j j' : Journal} {s' : Storage} {txId id : Nat}
  {t t' t₁ : Transaction}

theorem Storage.ChangesAt.getElem (h : j.storage.ChangesAt txId t t' s')
    (ht₁ : s'.transactions[id]? = some t₁) :
    (id = txId ∧ t₁ = t') ∨ (id ≠ txId ∧ j.storage.transactions[id]? = some t₁) := by
  rw [h.transactions] at ht₁
  by_cases hid : id = txId
  · subst hid
    rw [List.getElem?_set_self h.pending.lt] at ht₁
    exact .inl ⟨rfl, (Option.some.inj ht₁).symm⟩
  · rw [List.getElem?_set_ne (Ne.symm hid)] at ht₁
    exact .inr ⟨hid, ht₁⟩

theorem Storage.ChangesAt.confirmers (h : j.storage.ChangesAt txId t t' s') (hid : id ≠ txId) :
    s'.confirmers owners id = j.storage.confirmers owners id := by
  rw [Storage.confirmers, h.isConfirmed id hid]
  rfl

/-- A change at a pending transaction that counts its confirmations and keeps the log in step. -/
theorem Journal.Sound.changes (hj : j.Sound owners required)
    (h : j.storage.ChangesAt txId t t' j'.storage)
    (hcounted : t'.numConfirmations = (j'.storage.confirmers owners txId).length)
    (hexecuted : ∀ id, id ∈ j'.log.map (·.txId) ↔ id ∈ j.log.map (·.txId) ∨
      id = txId ∧ t'.executed = true)
    (hlog : (j'.log.map (·.txId)).Nodup)
    (hconfirmed : ∀ e ∈ j'.log, required ≤ (e.storage.confirmers owners e.txId).length) :
    j'.Sound owners required := by
  have hlength : j'.storage.transactions.length = j.storage.transactions.length := by
    rw [h.transactions, List.length_set]
  -- what is changed was not executed before, so it is not in the log
  have hpending : txId ∉ j.log.map (·.txId) := by
    intro hmem
    have := (hj.executed h.pending.1).mpr hmem
    rw [h.pending.2] at this
    cases this
  refine ⟨?_, ?_, ?_, ?_, ?_, ?_, hlog, hconfirmed⟩
  · rw [h.isOwner]
    exact hj.isOwner
  · rw [h.required, hj.required_eq]
  · intro id t₁ ht₁
    rcases h.getElem ht₁ with ⟨rfl, rfl⟩ | ⟨hid, hold⟩
    · exact hcounted
    · rw [h.confirmers hid]
      exact hj.counted hold
  · intro id hle a
    rw [hlength] at hle
    rw [h.isConfirmed id (Nat.ne_of_gt (h.pending.lt.trans_le hle))]
    exact hj.fresh hle a
  · intro id t₁ ht₁
    rw [hexecuted]
    rcases h.getElem ht₁ with ⟨rfl, rfl⟩ | ⟨hid, hold⟩
    · simp [hpending]
    · rw [hj.executed hold]
      simp [hid]
  · intro e he
    rw [hlength]
    rcases (hexecuted e.txId).mp (List.mem_map_of_mem he) with hold | ⟨heq, -⟩
    · obtain ⟨e', he', heq⟩ := List.mem_map.mp hold
      rw [← heq]
      exact hj.known e' he'
    · rw [heq]
      exact h.pending.lt

theorem Journal.Keeps.changes (h : j.storage.ChangesAt txId t t' j'.storage)
    (hlog : j.log <+: j'.log) : j.Keeps j' := by
  refine ⟨?_, hlog⟩
  intro id t₁ ht₁ hexecuted
  have hid : id ≠ txId := by
    rintro rfl
    rw [h.pending.eq ht₁, h.pending.2] at hexecuted
    cases hexecuted
  rw [h.transactions, List.getElem?_set_ne (Ne.symm hid)]
  exact ⟨ht₁, h.isConfirmed id hid⟩

/-- A confirmation that is given or taken back, with its counter. -/
theorem Journal.Sound.confirming (hj : j.Sound owners required) {sender : Address} {b : Bool} {n : Nat}
    (hpending : j.storage.Pending txId t) (hlog : j'.log = j.log)
    (hs : j'.storage = (j.storage.setConfirmed txId sender b).setTransaction txId
      { t with numConfirmations := n })
    (hn : n = (owners.filter (Function.update (j.storage.isConfirmed txId) sender b)).length) :
    j'.Sound owners required ∧ j.Keeps j' := by
  have hchange : j.storage.ChangesAt txId t { t with numConfirmations := n } j'.storage :=
    hs ▸ Storage.changesAt_confirmed hpending
  have hconfirmers : j'.storage.confirmers owners txId =
      owners.filter (Function.update (j.storage.isConfirmed txId) sender b) := by
    rw [hs]
    show owners.filter (Function.update j.storage.isConfirmed txId _ txId) = _
    rw [Function.update_self]
  refine ⟨hj.changes hchange ?_ ?_ (hlog ▸ hj.once) (hlog ▸ hj.confirmed), .changes hchange ?_⟩
  · rw [hconfirmers]
    exact hn
  · simp [hlog, hpending.2]
  · rw [hlog]

/-- A new record is pending, and nobody has confirmed it. -/
theorem Journal.Sound.submitting (hj : j.Sound owners required) (hexecuted : t.executed = false)
    (hcount : t.numConfirmations = 0) (hlog : j'.log = j.log)
    (hs : j'.storage = { j.storage with transactions := j.storage.transactions ++ [t] }) :
    j'.Sound owners required ∧ j.Keeps j' := by
  -- a transaction is an old one, or the one that comes last
  have hget : ∀ {id t₁}, j'.storage.transactions[id]? = some t₁ →
      j.storage.transactions[id]? = some t₁ ∨ id = j.storage.transactions.length ∧ t₁ = t := by
    intro id t₁ ht₁
    rw [hs, List.getElem?_append] at ht₁
    split at ht₁
    · exact .inl ht₁
    · next hge =>
        have hlast := List.getElem?_singleton.symm.trans ht₁
        split at hlast
        · next hzero => exact .inr ⟨by omega, (Option.some.inj hlast).symm⟩
        · cases hlast
  have hsame : ∀ id, j'.storage.isConfirmed id = j.storage.isConfirmed id := by simp [hs]
  refine ⟨⟨?_, ?_, ?_, ?_, ?_, ?_, hlog ▸ hj.once, hlog ▸ hj.confirmed⟩, ⟨?_, by rw [hlog]⟩⟩
  · rw [hs]
    exact hj.isOwner
  · rw [hs]
    exact hj.required_eq
  · intro id t₁ ht₁
    rw [Storage.confirmers, hsame id]
    rcases hget ht₁ with hold | ⟨rfl, rfl⟩
    · exact hj.counted hold
    -- nobody has confirmed under a number that was not in use
    · have hnobody := hj.fresh (Nat.le_refl j.storage.transactions.length)
      rw [hcount, List.filter_eq_nil_iff.mpr fun a _ => by simp [hnobody a]]
      rfl
  · intro id hle a
    rw [hsame id]
    apply hj.fresh
    rw [hs, List.length_append] at hle
    exact (Nat.le_add_right _ _).trans hle
  · intro id t₁ ht₁
    rw [hlog]
    rcases hget ht₁ with hold | ⟨rfl, rfl⟩
    · exact hj.executed hold
    · simp only [hexecuted, Bool.false_eq_true, false_iff]
      intro hmem
      obtain ⟨e, he, heq⟩ := List.mem_map.mp hmem
      exact absurd (hj.known e he) (by rw [heq]; exact Nat.lt_irrefl _)
  · intro e he
    rw [hlog] at he
    rw [hs, List.length_append]
    exact (hj.known e he).trans_le (Nat.le_add_right _ _)
  · intro id t₁ ht₁ _
    rw [hs]
    refine ⟨?_, rfl⟩
    obtain ⟨hlt, -⟩ := List.getElem?_eq_some_iff.mp ht₁
    rw [List.getElem?_append_left hlt]
    exact ht₁

variable {e : Address × Call} {f : Opened}

theorem Acts.sound (hnodup : owners.Nodup) (hj : j.Sound owners required) (h : Acts j e j') :
    j'.Sound owners required ∧ j.Keeps j' := by
  obtain ⟨sender, c⟩ := e
  obtain ⟨hrun, hlog⟩ := h
  cases c with
  | submit recipient value data =>
      obtain ⟨-, hs⟩ := submit_ok.mp hrun
      exact hj.submitting rfl rfl hlog hs
  | confirm txId =>
      obtain ⟨howner, t, hpending, hnew, -, hs⟩ := confirm_ok.mp hrun
      refine hj.confirming hpending hlog hs ?_
      rw [length_filter_update hnodup ((hj.isOwner sender).mp howner) hnew, hj.counted hpending.1]
      rfl
  | revoke txId =>
      obtain ⟨howner, t, hpending, hold, hpos, hs⟩ := revoke_ok.mp hrun
      refine hj.confirming hpending hlog hs ?_
      -- giving the confirmation again would restore the count
      have hback := length_filter_update hnodup ((hj.isOwner sender).mp howner)
        (p := Function.update (j.storage.isConfirmed txId) sender false) (Function.update_self ..)
      rw [Function.update_idem, ← hold, Function.update_eq_self] at hback
      have hcounted := hj.counted hpending.1
      rw [Storage.confirmers, hback] at hcounted
      rw [hcounted]
      rfl

theorem Enters.sound (hj : j.Sound owners required) (h : Enters j f j') :
    j'.Sound owners required ∧ j.Keeps j' := by
  cases h with
  | foreign => exact ⟨hj, .refl j⟩
  | @execute sender txId t' storage hbegin =>
      obtain ⟨-, t, hpending, henough, rfl, rfl⟩ := beginExecute_ok.mp hbegin
      have hchange : j.storage.ChangesAt txId t { t with executed := true }
          (j.storage.setTransaction txId { t with executed := true }) :=
        ⟨hpending, rfl, fun _ _ => rfl, rfl, rfl⟩
      have hcounted := hj.counted hpending.1
      have hnew : txId ∉ j.log.map (·.txId) := by
        intro hmem
        have hexecuted := (hj.executed hpending.1).mpr hmem
        rw [hpending.2] at hexecuted
        cases hexecuted
      refine ⟨hj.changes hchange hcounted ?_ ?_ ?_, .changes hchange (List.prefix_append _ _)⟩
      · simp
      · rw [List.map_append, List.map_singleton, ← List.concat_eq_append]
        exact hj.once.concat hnew
      · intro e he
        rcases List.mem_append.mp he with hold | hlast
        · exact hj.confirmed e hold
        · -- the counter that was checked counts the confirmations
          rw [List.mem_singleton.mp hlast]
          show required ≤ (j.storage.confirmers owners txId).length
          rw [← hcounted, ← hj.required_eq]
          exact henough

end Step

/-! ## Whole runs

A call that fails takes back what was done inside it, the log included, so the invariant is needed
of every state that may come back. -/

section Run

variable {owners : List Address} {required : Nat} {c c' : Config Journal Opened}
  {es : List (CallEvent (Address × Call) Opened)}

theorem run_sound (hnodup : owners.Nodup) (hrun : Run WalletStep c es c')
    (hc : c.Everywhere (Journal.Sound owners required)) :
    c'.Everywhere (Journal.Sound owners required) :=
  run_everywhere (fun hj h => (h.sound hnodup hj).1) (fun hj h => (h.sound hj).1) hrun hc

theorem run_keeps (hnodup : owners.Nodup) {j : Journal} (hj : j.Sound owners required)
    (hrun : Run WalletStep ⟨j, []⟩ es c) : j.Keeps c.state :=
  run_ascends .refl .trans (fun hj h => (h.sound hnodup hj).1) (fun hj h => (h.sound hj).1)
    (fun hj h => (h.sound hnodup hj).2) (fun hj h => (h.sound hj).2) hj hrun

end Run

/-- What holds of the wallet at every moment, between transactions and inside nested calls. -/
structure Safe (owners : List Address) (required : Nat) (c : Config Journal Opened) : Prop where
  /-- The counter of a transaction is the number of owners who confirmed it. -/
  counted : ∀ {txId t}, c.state.storage.transactions[txId]? = some t →
    t.numConfirmations = (c.state.storage.confirmers owners txId).length
  /-- A transaction is executed when its external call is among those that took effect. -/
  executed : ∀ {txId t}, c.state.storage.transactions[txId]? = some t →
    (t.executed = true ↔ txId ∈ c.state.log.map (·.txId))
  /-- No transaction's external call took effect twice. -/
  once : (c.state.log.map (·.txId)).Nodup
  /-- Each of these calls was made when enough distinct owners stood by it. -/
  confirmed : ∀ e ∈ c.state.log, (e.storage.confirmers owners e.txId).Nodup ∧
    required ≤ (e.storage.confirmers owners e.txId).length
  /-- Unless a call that is open now fails, everything that happens later leaves an executed
  transaction, its confirmations and the calls made so far as they are. -/
  kept : ∀ {es c'}, Run WalletStep ⟨c.state, []⟩ es c' → c.state.Keeps c'.state
  /-- An `execute` whose call fails, whatever happened under it, leaves everything as it was; the
  transaction is pending and any owner may execute it again. -/
  retried : ∀ {sender txId c₁ es c₂ c₃}, WalletStep c (.enter (.execute sender txId)) c₁ →
    Run WalletStep c₁ es c₂ → c₂.stack = c₁.stack → WalletStep c₂ .fail c₃ →
    c₃ = c ∧ (∃ t, c₃.state.storage.Pending txId t) ∧
      ∀ owner ∈ owners, ∃ c₄, WalletStep c₃ (.enter (.execute owner txId)) c₄

/-- **`MultiSignature` executes safely under re-entrancy**: at every moment of every run of
submissions, confirmations, revocations and executions by any accounts, nested in any way, where any
open call may fail. -/
theorem execution_safe {owners : List Address} {required : Nat} {s : Storage}
    (hwallet : (constructor owners required).run {} = .ok ((), s))
    {es : List (CallEvent (Address × Call) Opened)} {c : Config Journal Opened}
    (hrun : Run WalletStep ⟨⟨s, []⟩, []⟩ es c) : Safe owners required c := by
  obtain ⟨-, -, hnodup, -, rfl⟩ := constructor_ok.mp hwallet
  have hstart : Journal.Sound owners required
      ⟨{ owners := owners, isOwner := fun a => decide (a ∈ owners), required := required }, []⟩ :=
    ⟨by simp, rfl, nofun, fun _ _ => rfl, nofun, nofun, .nil, nofun⟩
  have hsound : c.state.Sound owners required := (run_sound hnodup hrun ⟨hstart, nofun⟩).1
  refine ⟨hsound.counted, hsound.executed, hsound.once, ?_, run_keeps hnodup hsound, ?_⟩
  · intro e he
    exact ⟨hnodup.filter _, hsound.confirmed e he⟩
  · intro sender txId c₁ es' c₂ c₃ henter _ hopen hfail
    obtain rfl := henter.fail_eq hopen hfail
    -- what let the first `execute` in lets the next one in
    cases henter with
    | enter h =>
        cases h with
        | execute hbegin =>
            obtain ⟨-, t, hpending, henough, -⟩ := beginExecute_ok.mp hbegin
            refine ⟨rfl, ⟨t, hpending⟩, ?_⟩
            intro owner howner
            have hagain := beginExecute_ok.mpr
              ⟨(hsound.isOwner owner).mpr howner, t, hpending, henough, rfl, rfl⟩
            exact ⟨_, .enter (.execute hagain)⟩

/-! ## Replaying

A run with an execution inside another, computed. -/

/-- The step of an event, when there is one. -/
def WalletStep.next (c : Config Journal Opened) :
    CallEvent (Address × Call) Opened → Option (Config Journal Opened)
  | .act (sender, call) =>
      match (call.body sender).run c.state.storage with
      | .ok (_, storage) => some ⟨⟨storage, c.state.log⟩, c.stack⟩
      | .error _ => none
  | .enter .foreign => some ⟨c.state, ⟨.foreign, c.state⟩ :: c.stack⟩
  | .enter (.execute sender txId) =>
      match (beginExecute sender txId).run c.state.storage with
      | .ok (t, storage) =>
          some ⟨⟨storage, c.state.log ++ [⟨txId, t, storage⟩]⟩,
            ⟨.execute sender txId, c.state⟩ :: c.stack⟩
      | .error _ => none
  | .leave =>
      match c.stack with
      | [] => none
      | _ :: stack => some ⟨c.state, stack⟩
  | .fail =>
      match c.stack with
      | [] => none
      | fr :: stack => some ⟨fr.saved, stack⟩

theorem WalletStep.of_next {c c' : Config Journal Opened} {e : CallEvent (Address × Call) Opened}
    (h : WalletStep.next c e = some c') : WalletStep c e c' := by
  obtain ⟨j, stack⟩ := c
  cases e with
  | act e =>
      obtain ⟨sender, call⟩ := e
      simp only [next] at h
      split at h
      · next storage hrun =>
          obtain rfl := Option.some.inj h
          exact .act ⟨hrun, rfl⟩
      · cases h
  | enter f =>
      cases f with
      | foreign =>
          obtain rfl := Option.some.inj h
          exact .enter .foreign
      | execute sender txId =>
          simp only [next] at h
          split at h
          · next t storage hrun =>
              obtain rfl := Option.some.inj h
              exact .enter (.execute hrun)
          · cases h
  | leave =>
      cases stack with
      | nil => cases h
      | cons fr stack =>
          obtain rfl := Option.some.inj h
          exact .leave
  | fail =>
      cases stack with
      | nil => cases h
      | cons fr stack =>
          obtain rfl := Option.some.inj h
          exact .fail

/-- Two transactions with two confirmations each. The first `execute` runs the second transaction from
inside its call and then fails, so both are rolled back; then the first one is executed again, and
another owner submits from inside its call. -/
def nestedExecutions : List (CallEvent (Address × Call) Opened) :=
  [.act (1, .submit 50 7 []), .act (2, .submit 60 0 [1, 2]), .act (1, .confirm 0),
    .act (2, .confirm 0), .act (1, .confirm 1), .act (3, .confirm 1),
    .enter (.execute 1 0), .enter (.execute 3 1), .leave, .fail,
    .enter (.execute 2 0), .act (3, .submit 70 0 []), .leave]

theorem execution_safe_nested : ∃ c,
    Run WalletStep ⟨⟨⟨[1, 2, 3], fun a => decide (a ∈ [1, 2, 3]), 2, [], fun _ _ => false⟩, []⟩, []⟩
      nestedExecutions c ∧
    c.state.log.map (·.txId) = [0] ∧ Safe [1, 2, 3] 2 c := by
  have hlog : (replay WalletStep.next
      ⟨⟨⟨[1, 2, 3], fun a => decide (a ∈ [1, 2, 3]), 2, [], fun _ _ => false⟩, []⟩, []⟩
      nestedExecutions).map (fun c => c.state.log.map (·.txId)) = some [0] := by decide +kernel
  obtain ⟨c, hreplay, hids⟩ := Option.map_eq_some_iff.mp hlog
  have hrun := Run.of_replay WalletStep.of_next hreplay
  exact ⟨c, hrun, hids, execution_safe
    (constructor_ok.mpr ⟨by decide, by decide, by decide, by decide, rfl⟩) hrun⟩

end Pledge.MultiSignature
