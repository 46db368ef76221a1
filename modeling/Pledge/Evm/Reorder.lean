import Pledge.Evm.Ledger
import Pledge.Evm.Run

/-!
# The order of independent steps

Every label has an owner. When steps of different owners can be swapped (`Swaps`), a run depends on
nothing but what each owner does in its own order: any other interleaving is a run as well, and leads
to the same state (`Run.reorder`). Movements of tokens are the example that is used most: two of them
can be swapped unless one spends what the other provides (`Flow.swap`).
-/

namespace Pledge.Evm

section Reorder

variable {σ ε ι : Type} {step : σ → ε → σ → Prop} {owner : ε → ι} {s s' : σ} {es es' : List ε}

/-- Steps of different owners can be swapped. -/
def Swaps (step : σ → ε → σ → Prop) (owner : ε → ι) : Prop :=
  ∀ {s s₁ s₂ : σ} {e f : ε}, step s e s₁ → step s₁ f s₂ → owner e ≠ owner f →
    ∃ s₁', step s f s₁' ∧ step s₁' e s₂

/-- A step moves behind the steps of other owners. -/
theorem Swaps.toLast (h : Swaps step owner) {e : ε} (hes : ∀ f ∈ es, owner f ≠ owner e) {s₁ : σ}
    (hs : step s e s₁) (hrun : Run step s₁ es s') :
    ∃ s₂, Run step s es s₂ ∧ step s₂ e s' := by
  induction hrun with
  | start => exact ⟨s, .start, hs⟩
  | @step es m s' f hrun hf ih =>
      obtain ⟨m', hrest, he⟩ := ih fun g hg => hes g (List.mem_append_left _ hg)
      have hne : owner e ≠ owner f := (hes f (by simp)).symm
      obtain ⟨k, hf', he'⟩ := h he hf hne
      exact ⟨k, hrest.step hf', he'⟩

variable [DecidableEq ι]

/-- What the owner `i` did, in order. -/
def ownedBy (owner : ε → ι) (i : ι) (es : List ε) : List ε := es.filter fun e => owner e = i

@[simp] theorem ownedBy_append (i : ι) : ownedBy owner i (es ++ es') =
    ownedBy owner i es ++ ownedBy owner i es' := List.filter_append ..

theorem ownedBy_single_self (e : ε) : ownedBy owner (owner e) [e] = [e] := by
  simp [ownedBy]

theorem ownedBy_single_ne {i : ι} {e : ε} (h : owner e ≠ i) : ownedBy owner i [e] = [] := by
  simp [ownedBy, h]

/-- **Independent steps run in any order** that keeps the order of each owner. -/
theorem Run.reorder (h : Swaps step owner) (hrun : Run step s es s')
    (hsame : ∀ i, ownedBy owner i es' = ownedBy owner i es) : Run step s es' s' := by
  induction es' using List.reverseRecOn generalizing es s' with
  | nil =>
      -- nobody did anything
      have hnil : es = [] := by
        cases es with
        | nil => rfl
        | cons e es =>
            have he := hsame (owner e)
            simp [ownedBy] at he
      rwa [hnil] at hrun
  | append_singleton rest e ih =>
      -- the last step of the new order is the last one of its owner in the old order
      have hlast := hsame (owner e)
      rw [ownedBy_append, ownedBy_single_self] at hlast
      obtain ⟨first, tail, rfl, hfirst, htail⟩ := List.filter_eq_append_iff.mp hlast.symm
      obtain ⟨before, after, rfl, hbefore, -, hafter⟩ := List.filter_eq_cons_iff.mp htail
      have hothers : ∀ f ∈ after, owner f ≠ owner e := by
        intro f hf heq
        exact List.filter_eq_nil_iff.mp hafter f hf (decide_eq_true heq)
      obtain ⟨m, hstart, hend⟩ := hrun.split
      obtain ⟨k, hbefore', hend'⟩ := hend.split
      obtain ⟨n, hs, hafter'⟩ := hend'.uncons
      obtain ⟨s₂, hafter'', hs₂⟩ := h.toLast hothers hs hafter'
      refine (ih (hstart.append (hbefore'.append hafter'')) ?_).step hs₂
      intro i
      by_cases hi : owner e = i
      · subst hi
        have hnone : ownedBy owner (owner e) before = [] := List.filter_eq_nil_iff.mpr hbefore
        have hrest : ownedBy owner (owner e) after = [] := hafter
        rw [ownedBy_append, ownedBy_append, hnone, hrest, List.append_nil, List.append_nil]
        exact hfirst.symm
      · have hskip : ownedBy owner i (e :: after) = ownedBy owner i after :=
          List.filter_cons_of_neg (by simpa using hi)
        have hothers' := hsame i
        rwa [ownedBy_append, ownedBy_append, ownedBy_append, ownedBy_single_ne hi, List.append_nil,
          hskip, ← ownedBy_append, ← ownedBy_append] at hothers'

end Reorder

/-! ## Movements of tokens

A movement takes from some accounts and gives to others. Two of them can be swapped when neither
lives on what the other gives. -/

/-- An amount of a token moves from `src` to `dst`; a mint has no source and a burn no destination. -/
structure Flow where
  token : Address
  src : Option Address
  dst : Option Address
  amount : Nat

namespace Flow

variable {f g : Flow} {b b' b₁ b₂ : Address → Holdings}

/-- The balances after the movement. -/
def apply (f : Flow) (b : Address → Holdings) : Address → Holdings := fun t a =>
  if t = f.token then
    b t a - (if f.src = some a then f.amount else 0) + if f.dst = some a then f.amount else 0
  else b t a

/-- The source has the amount. -/
def Enough (f : Flow) (b : Address → Holdings) : Prop := ∀ a, f.src = some a → f.amount ≤ b f.token a

/-- The movement takes place. -/
def Step (b : Address → Holdings) (f : Flow) (b' : Address → Holdings) : Prop :=
  f.Enough b ∧ b' = f.apply b

/-- The event of the movement; a mint comes from the zero address and a burn goes to it. -/
def transfer (f : Flow) : Transfer := ⟨f.token, f.src.getD 0, f.dst.getD 0, f.amount⟩

theorem Step.unique (h₁ : Step b f b₁) (h₂ : Step b f b₂) : b₁ = b₂ := h₁.2.trans h₂.2.symm

theorem apply_eq_update {h : Holdings}
    (hh : ∀ a, h a = b f.token a - (if f.src = some a then f.amount else 0) +
      if f.dst = some a then f.amount else 0) : f.apply b = Function.update b f.token h := by
  funext t a
  unfold apply
  by_cases ht : t = f.token
  · subst ht
    rw [if_pos rfl, Function.update_self, hh]
  · rw [if_neg ht, Function.update_of_ne ht]

/-- A transfer. -/
theorem apply_move (t u v : Address) (n : Nat) (b : Address → Holdings) :
    Flow.apply ⟨t, some u, some v, n⟩ b = Function.update b t (Holdings.move (b t) u v n) := by
  apply apply_eq_update
  intro a
  simp [Holdings.move, Holdings.credit_apply, Holdings.debit_apply, eq_comm]

/-- A mint. -/
theorem apply_credit (t v : Address) (n : Nat) (b : Address → Holdings) :
    Flow.apply ⟨t, none, some v, n⟩ b = Function.update b t (Holdings.credit (b t) v n) := by
  apply apply_eq_update
  intro a
  simp [Holdings.credit_apply, eq_comm]

/-- A burn. -/
theorem apply_debit (t u : Address) (n : Nat) (b : Address → Holdings) :
    Flow.apply ⟨t, some u, none, n⟩ b = Function.update b t (Holdings.debit (b t) u n) := by
  apply apply_eq_update
  intro a
  simp [Holdings.debit_apply, eq_comm]

/-- What `f` provides, `g` may spend. -/
def Feeds (f g : Flow) : Prop := ∃ a, f.dst = some a ∧ g.src = some a

/-- Movements that do not feed each other commute. -/
theorem apply_comm (hfg : ¬ f.Feeds g) (hgf : ¬ g.Feeds f) (b : Address → Holdings) :
    g.apply (f.apply b) = f.apply (g.apply b) := by
  funext t a
  have hfg' : f.dst = some a → g.src ≠ some a := fun hdst hsrc => hfg ⟨a, hdst, hsrc⟩
  have hgf' : g.dst = some a → f.src ≠ some a := fun hdst hsrc => hgf ⟨a, hdst, hsrc⟩
  -- no account is paid by one movement and pays in the other, so the order of the two changes nothing
  simp only [apply]
  grind

/-- **Movements that do not feed each other can be swapped.** -/
theorem swap (hfg : ¬ f.Feeds g) (hgf : ¬ g.Feeds f) (h₁ : Step b f b₁) (h₂ : Step b₁ g b₂) :
    ∃ b₁', Step b g b₁' ∧ Step b₁' f b₂ := by
  obtain ⟨hf, rfl⟩ := h₁
  obtain ⟨hg, rfl⟩ := h₂
  refine ⟨g.apply b, ⟨?_, rfl⟩, ?_, apply_comm hfg hgf b⟩
  · intro a ha
    have hle := hg a ha
    have hdst : f.dst ≠ some a := fun h => hfg ⟨a, h, ha⟩
    unfold apply at hle
    rw [if_neg hdst] at hle
    split_ifs at hle <;> omega
  · intro a ha
    have hle := hf a ha
    unfold apply
    by_cases ht : f.token = g.token
    · by_cases hsrc : g.src = some a
      · -- both spend from the same balance, which had enough for the two
        have hboth := hg a hsrc
        have hdst : f.dst ≠ some a := fun h => hfg ⟨a, h, hsrc⟩
        unfold apply at hboth
        rw [if_pos ht.symm, if_pos ha, if_neg hdst, ← ht] at hboth
        rw [if_pos ht, if_pos hsrc]
        omega
      · rw [if_pos ht, if_neg hsrc]
        omega
    · rw [if_neg ht]
      exact hle

/-! What the movements mint bounds what can come to be there: a transfer adds nothing to the holdings of
a token as a whole, and a burn only takes from them. So a sequence of movements that fits under a cap at
its start fits under it from every later point on. -/

/-- What the movements mint of the token `t`. -/
def minted (t : Address) (fs : List Flow) : Nat :=
  (fs.map fun f => if f.token = t ∧ f.src = none then f.amount else 0).sum

@[simp] theorem minted_nil (t : Address) : minted t [] = 0 := rfl

theorem minted_append (t : Address) (fs gs : List Flow) :
    minted t (fs ++ gs) = minted t fs + minted t gs := by
  unfold minted
  rw [List.map_append, List.sum_append]

/-- One movement adds at most what it mints. -/
theorem Step.tallied {count : Holdings → Nat → Prop} (ht : Holdings.Tallied count) {t : Address} {n : Nat}
    (hn : count (b t) n) (h : Step b f b') : ∃ n', n' ≤ n + minted t [f] ∧ count (b' t) n' := by
  obtain ⟨henough, rfl⟩ := h
  obtain ⟨token, src, dst, k⟩ := f
  by_cases hother : t = token
  · subst hother
    cases src with
    | some u =>
        have hk : k ≤ b t u := henough u rfl
        cases dst with
        | some v =>
            refine ⟨n, Nat.le_add_right _ _, ?_⟩
            rw [apply_move, Function.update_self]
            exact ht.move hn v hk
        | none =>
            refine ⟨n - k, Nat.le_trans (Nat.sub_le _ _) (Nat.le_add_right _ _), ?_⟩
            rw [apply_debit, Function.update_self]
            exact ht.debit hn hk
    | none =>
        have hminted : minted t [⟨t, none, dst, k⟩] = k := by simp [minted]
        cases dst with
        | some v =>
            refine ⟨n + k, by rw [hminted], ?_⟩
            rw [apply_credit, Function.update_self]
            exact ht.credit hn v k
        | none =>
            refine ⟨n, Nat.le_add_right _ _, ?_⟩
            rw [apply_eq_update (h := b t) (by simp), Function.update_self]
            exact hn
  · refine ⟨n, Nat.le_add_right _ _, ?_⟩
    unfold apply
    simpa [hother] using hn

/-- So do any number of them. -/
theorem run_tallied {count : Holdings → Nat → Prop} (ht : Holdings.Tallied count) {t : Address} {n : Nat}
    (hn : count (b t) n) {fs : List Flow} (h : Run Step b fs b') :
    ∃ n', n' ≤ n + minted t fs ∧ count (b' t) n' := by
  induction h with
  | start => exact ⟨n, Nat.le_add_right _ _, hn⟩
  | @step fs m m' f _ hs ih =>
      obtain ⟨n₁, hle₁, hn₁⟩ := ih
      obtain ⟨n₂, hle₂, hn₂⟩ := hs.tallied ht hn₁
      refine ⟨n₂, ?_, hn₂⟩
      rw [minted_append, ← Nat.add_assoc]
      exact Nat.le_trans hle₂ (Nat.add_le_add_right hle₁ _)

/-- What is there of each of the tokens, with what the movements mint of it, stays below `cap`. -/
def Room (cap : Nat) (tokens : Address → Prop) (b : Address → Holdings) (fs : List Flow) : Prop :=
  ∀ t, tokens t → ∃ n, (b t).SumsTo n ∧ n + minted t fs < cap

section Room

variable {cap : Nat} {tokens : Address → Prop} {fs gs : List Flow}

theorem Room.left (h : Room cap tokens b (fs ++ gs)) : Room cap tokens b fs := by
  intro t ht
  obtain ⟨n, hn, hcap⟩ := h t ht
  rw [minted_append, ← Nat.add_assoc] at hcap
  exact ⟨n, hn, Nat.lt_of_le_of_lt (Nat.le_add_right _ _) hcap⟩

theorem Room.right (h : Room cap tokens b (fs ++ gs)) (hrun : Run Step b fs b') :
    Room cap tokens b' gs := by
  intro t ht
  obtain ⟨n, hn, hcap⟩ := h t ht
  obtain ⟨n', hle, hn'⟩ := run_tallied Holdings.sumsTo_tallied hn hrun
  rw [minted_append, ← Nat.add_assoc] at hcap
  exact ⟨n', hn', Nat.lt_of_le_of_lt (Nat.add_le_add_right hle _) hcap⟩

end Room

end Flow

/-! A hub that serves accounts: each movement is between the hub and one account, or concerns the
account alone. -/

/-- A movement that serves the account `u`: what it provides it provides to `u`, and what it spends is
the hub's or `u`'s. -/
def Flow.Serves (hub u : Address) (f : Flow) : Prop :=
  (∀ a, f.src = some a → a = hub ∨ a = u) ∧ ∀ a, f.dst = some a → a = u

/-- The hub serves an account other than itself. -/
def Served (hub : Address) (b : Address → Holdings) (l : Address × Flow) (b' : Address → Holdings) :
    Prop :=
  l.1 ≠ hub ∧ l.2.Serves hub l.1 ∧ Flow.Step b l.2 b'

theorem Served.swaps (hub : Address) : Swaps (Served hub) Prod.fst := by
  intro b b₁ b₂ l k hl hk hne
  have hfeeds {l k : Address × Flow} (hhub : l.1 ≠ hub) (hl : l.2.Serves hub l.1)
      (hk : k.2.Serves hub k.1) (hne : l.1 ≠ k.1) : ¬ l.2.Feeds k.2 := by
    rintro ⟨a, hdst, hsrc⟩
    rw [hl.2 a hdst] at hsrc
    rcases hk.1 _ hsrc with h | h
    · exact hhub h
    · exact hne h
  obtain ⟨b₁', hk', hl'⟩ := Flow.swap (hfeeds hl.1 hl.2.1 hk.2.1 hne)
    (hfeeds hk.1 hk.2.1 hl.2.1 hne.symm) hl.2.2 hk.2.2
  exact ⟨b₁', ⟨hk.1, hk.2.1, hk'⟩, hl.1, hl.2.1, hl'⟩

end Pledge.Evm
