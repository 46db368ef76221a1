import Pledge.Evm.Frame
import Pledge.Evm.Run

/-!
# Code that hands over the control

A contract function that calls other contracts runs until it makes a request, waits, and goes on with
the answer from whatever state it then finds. A `Prog` keeps its requests apart from its own steps.
It can be read in two ways.

* `Prog.run`: the requests are answered by given transactions, and the whole is a transaction.
* `Code.Runs`: a request gets any answer, and while it is open the state changes by `visit`, which
  leaves a list of labels. A run has the labels of its own requests and of what happened under them.

`Nested` is the `visit` in which the one who is asked may start the code again, to any depth. The rule
for it is `Nested.keeps`: what is kept by one call whose visits keep it is kept at every depth.
-/

namespace Pledge.Evm

variable {σ ρ ε α β : Type} {ans : ρ → Type}

/-- Code up to its next request. -/
inductive Code (σ : Type) {ρ : Type} (ans : ρ → Type) (α : Type) : Type
  | done (r : Except Revert (α × σ))
  | ask (r : ρ) (s : σ) (k : ans r → σ → Code σ ans α)

/-- A program over the state `σ` with requests `ρ`. -/
def Prog (σ : Type) {ρ : Type} (ans : ρ → Type) (α : Type) : Type := σ → Code σ ans α

def Code.bind (f : α → Prog σ ans β) : Code σ ans α → Code σ ans β
  | .done (.ok (a, s)) => f a s
  | .done (.error e) => .done (.error e)
  | .ask r s k => .ask r s fun a s' => (k a s').bind f

namespace Prog

instance : Monad (Prog σ ans) where
  pure a := fun s => .done (.ok (a, s))
  bind x f := fun s => (x s).bind f

/-- A transaction without requests. -/
def lift (x : Tx σ α) : Prog σ ans α := fun s => .done (x s)

/-- Make a request and take the answer. -/
def ask (r : ρ) : Prog σ ans (ans r) := fun s => .ask r s fun a s' => .done (.ok (a, s'))

/-- Run `x` when `c` holds, and do nothing otherwise. -/
def when (c : Prop) [Decidable c] (x : Prog σ ans Unit) : Prog σ ans Unit := if c then x else pure ()

end Prog

/-! ## Requests that are answered by transactions

Each request is answered by one transaction on the state: then a program is a transaction. -/

def Code.run (f : (r : ρ) → Tx σ (ans r)) : Code σ ans α → Except Revert (α × σ)
  | .done r => r
  | .ask r s k =>
      match f r s with
      | .ok (a, s') => (k a s').run f
      | .error e => .error e

def Prog.run (f : (r : ρ) → Tx σ (ans r)) (x : Prog σ ans α) : Tx σ α := fun s => (x s).run f

section Run

variable (f : (r : ρ) → Tx σ (ans r))

@[simp] theorem Prog.run_pure (a : α) : (pure a : Prog σ ans α).run f = pure a := rfl

@[simp] theorem Prog.run_lift (x : Tx σ α) : (lift x : Prog σ ans α).run f = x := rfl

@[simp] theorem Prog.run_ask (r : ρ) : (ask r : Prog σ ans (ans r)).run f = f r := by
  funext s
  show (Code.ask r s fun a s' => .done (.ok (a, s'))).run f = f r s
  rw [Code.run]
  cases f r s <;> rfl

theorem Code.run_bind (g : α → Prog σ ans β) (c : Code σ ans α) :
    (c.bind g).run f =
      match c.run f with
      | .ok (a, s) => (g a s).run f
      | .error e => .error e := by
  induction c with
  | done r => rcases r with e | ⟨a, s⟩ <;> rfl
  | ask r s k ih =>
      rw [Code.bind, Code.run, Code.run]
      cases f r s with
      | error e => rfl
      | ok x => exact ih x.1 x.2

@[simp] theorem Prog.run_bind (x : Prog σ ans α) (g : α → Prog σ ans β) :
    (x >>= g).run f = x.run f >>= fun a => (g a).run f := by
  funext s
  exact Code.run_bind f g (x s)

@[simp] theorem Prog.run_ite {c : Prop} [Decidable c] (x y : Prog σ ans α) :
    (if c then x else y).run f = if c then x.run f else y.run f := by
  by_cases h : c <;> simp [h]

@[simp] theorem Prog.run_when {c : Prop} [Decidable c] (x : Prog σ ans Unit) :
    (Prog.when c x).run f = Tx.when c (x.run f) := Prog.run_ite f x (pure ())

end Run

/-! ## Requests that are answered anyhow

A request may be answered by any relation between states, for instance one that lets the other side
act in between. -/

section Runs

variable (visit : σ → List ε → σ → Prop) (note : ρ → ε)

/-- A run with its labels: a request is noted, then comes what happened while it was open. -/
inductive Code.Runs : Code σ ans α → List ε → α → σ → Prop
  | done {a : α} {s : σ} : Runs (.done (.ok (a, s))) [] a s
  | ask {r : ρ} {s s₁ s' : σ} {k : ans r → σ → Code σ ans α} {es es' : List ε} {b : α} (a : ans r)
      (h : visit s es s₁) (rest : Runs (k a s₁) es' b s') :
      Runs (.ask r s k) (note r :: (es ++ es')) b s'

def Prog.Runs (x : Prog σ ans α) (s : σ) (es : List ε) (a : α) (s' : σ) : Prop :=
  (x s).Runs visit note es a s'

end Runs

section Rules

variable {visit : σ → List ε → σ → Prop} {note : ρ → ε} {s s' : σ} {es : List ε} {a : α} {b : β}

theorem Code.Runs.bind {c : Code σ ans α} {f : α → Prog σ ans β} {es' : List ε}
    (h : c.Runs visit note es a s) (h' : (f a).Runs visit note s es' b s') :
    (c.bind f).Runs visit note (es ++ es') b s' := by
  induction h with
  | done => exact h'
  | ask a hv _ ih =>
      rw [List.cons_append, List.append_assoc]
      exact .ask a hv (ih h')

theorem Code.Runs.of_bind {c : Code σ ans α} {f : α → Prog σ ans β}
    (h : (c.bind f).Runs visit note es b s') :
    ∃ es₁ a s₁ es₂, es = es₁ ++ es₂ ∧ c.Runs visit note es₁ a s₁ ∧
      (f a).Runs visit note s₁ es₂ b s' := by
  induction c generalizing es with
  | done r =>
      rcases r with e | ⟨a, s⟩
      · cases h
      · exact ⟨[], a, s, es, rfl, .done, h⟩
  | ask r s k ih =>
      cases h with
      | ask x hv rest =>
          obtain ⟨es₁, a, s₁, es₂, rfl, h₁, h₂⟩ := ih x _ rest
          exact ⟨_, a, s₁, es₂, by rw [List.cons_append, List.append_assoc], .ask x hv h₁, h₂⟩

/-- **Sequencing.** -/
theorem Prog.bind_runs {x : Prog σ ans α} {f : α → Prog σ ans β} :
    (x >>= f).Runs visit note s es b s' ↔
      ∃ es₁ a s₁ es₂, es = es₁ ++ es₂ ∧ x.Runs visit note s es₁ a s₁ ∧
        (f a).Runs visit note s₁ es₂ b s' := by
  constructor
  · exact Code.Runs.of_bind
  · intro h
    obtain ⟨es₁, a, s₁, es₂, rfl, h₁, h₂⟩ := h
    exact Code.Runs.bind h₁ h₂

theorem Prog.lift_runs {x : Tx σ α} :
    (lift x : Prog σ ans α).Runs visit note s es a s' ↔ es = [] ∧ x.run s = .ok (a, s') := by
  show (Code.done (x s)).Runs visit note es a s' ↔ _
  constructor
  · intro h
    generalize hc : Code.done (x s) = c at h
    cases h with
    | done => exact ⟨rfl, Code.done.inj hc⟩
    | ask => cases hc
  · intro h
    obtain ⟨rfl, hx⟩ := h
    rw [show x s = .ok (a, s') from hx]
    exact .done

theorem Prog.pure_runs {a' : α} :
    (pure a : Prog σ ans α).Runs visit note s es a' s' ↔ es = [] ∧ a' = a ∧ s' = s := by
  show (lift (pure a) : Prog σ ans α).Runs visit note s es a' s' ↔ _
  rw [lift_runs, Tx.pure_ok]

theorem Prog.ask_runs {r : ρ} {a : ans r} :
    (ask r : Prog σ ans (ans r)).Runs visit note s es a s' ↔
      ∃ es', es = note r :: es' ∧ visit s es' s' := by
  constructor
  · intro h
    cases h with
    | ask x hv rest =>
        cases rest
        exact ⟨_, by rw [List.append_nil], hv⟩
  · intro h
    obtain ⟨es', rfl, hv⟩ := h
    have hdone : (Code.done (.ok (a, s')) : Code σ ans (ans r)).Runs visit note [] a s' := .done
    have hask : (ask r : Prog σ ans (ans r)).Runs visit note s (note r :: (es' ++ [])) a s' :=
      .ask a hv hdone
    rwa [List.append_nil] at hask

theorem Prog.lift_bind_runs {x : Tx σ α} {f : α → Prog σ ans β} :
    (lift x >>= f).Runs visit note s es b s' ↔
      ∃ a s₁, x.run s = .ok (a, s₁) ∧ (f a).Runs visit note s₁ es b s' := by
  rw [bind_runs]
  constructor
  · intro h
    obtain ⟨es₁, a, s₁, es₂, rfl, h₁, h₂⟩ := h
    obtain ⟨rfl, hx⟩ := lift_runs.mp h₁
    exact ⟨a, s₁, hx, h₂⟩
  · intro h
    obtain ⟨a, s₁, hx, h₂⟩ := h
    exact ⟨[], a, s₁, es, rfl, lift_runs.mpr ⟨rfl, hx⟩, h₂⟩

theorem Prog.ite_runs {c : Prop} [Decidable c] {x y : Prog σ ans α} :
    (if c then x else y).Runs visit note s es a s' ↔
      (c ∧ x.Runs visit note s es a s') ∨ (¬ c ∧ y.Runs visit note s es a s') := by
  by_cases h : c <;> simp [h]

theorem Prog.when_runs {c : Prop} [Decidable c] {x : Prog σ ans Unit} {u : Unit} :
    (Prog.when c x).Runs visit note s es u s' ↔
      (c ∧ x.Runs visit note s es u s') ∨ (¬ c ∧ es = [] ∧ s' = s) := by
  unfold Prog.when
  rw [ite_runs, pure_runs]
  simp

/-- What holds of all the labels may be assumed of every visit. -/
theorem Code.Runs.restrict {c : Code σ ans α} {P : ε → Prop} (h : c.Runs visit note es a s)
    (hes : ∀ e ∈ es, P e) :
    c.Runs (fun s es s' => visit s es s' ∧ ∀ e ∈ es, P e) note es a s := by
  induction h with
  | done => exact .done
  | ask x hv _ ih =>
      obtain ⟨-, hrest⟩ := List.forall_mem_cons.mp hes
      obtain ⟨hvisit, hlater⟩ := List.forall_mem_append.mp hrest
      exact .ask x ⟨hv, hvisit⟩ (ih hlater)

/-- The labels of a run are notes of requests and labels of visits. -/
theorem Code.Runs.labels {c : Code σ ans α} {P : ε → Prop} (hnote : ∀ r, P (note r))
    (hvisit : ∀ {s es s'}, visit s es s' → ∀ e ∈ es, P e) (h : c.Runs visit note es a s) :
    ∀ e ∈ es, P e := by
  induction h with
  | done =>
      intro e he
      cases he
  | ask x hv _ ih =>
      exact List.forall_mem_cons.mpr ⟨hnote _, List.forall_mem_append.mpr ⟨hvisit hv, ih⟩⟩

/-- When the answering transactions are visits, their run is a run. -/
theorem Code.Runs.of_run {f : (r : ρ) → Tx σ (ans r)}
    (hf : ∀ {r s a s'}, (f r).run s = .ok (a, s') → ∃ es, visit s es s') {c : Code σ ans α}
    (h : c.run f = .ok (a, s')) : ∃ es, c.Runs visit note es a s' := by
  induction c with
  | done r =>
      obtain rfl : r = .ok (a, s') := h
      exact ⟨[], .done⟩
  | ask r s k ih =>
      rw [Code.run] at h
      split at h
      · next x s₁ hx =>
          obtain ⟨es, hv⟩ := hf hx
          obtain ⟨es', hrest⟩ := ih x s₁ h
          exact ⟨_, .ask x hv hrest⟩
      · cases h

end Rules

/-! ## Computing a run

With the answers given beforehand, a run can be computed. -/

/-- The run in which the requests are answered as given, with the labels that are given. -/
def Code.trace (note : ρ → ε) (f : (r : ρ) → σ → Except Revert (List ε × ans r × σ)) :
    Code σ ans α → Except Revert (List ε × α × σ)
  | .done (.ok (a, s)) => .ok ([], a, s)
  | .done (.error e) => .error e
  | .ask r s k =>
      match f r s with
      | .error e => .error e
      | .ok (es, a, s') =>
          match (k a s').trace note f with
          | .error e => .error e
          | .ok (es', b, s'') => .ok (note r :: (es ++ es'), b, s'')

theorem Code.Runs.of_trace {visit : σ → List ε → σ → Prop} {note : ρ → ε}
    {f : (r : ρ) → σ → Except Revert (List ε × ans r × σ)}
    (hf : ∀ {r s es a s'}, f r s = .ok (es, a, s') → visit s es s') {c : Code σ ans α}
    {es : List ε} {a : α} {s' : σ} (h : c.trace note f = .ok (es, a, s')) :
    c.Runs visit note es a s' := by
  induction c generalizing es with
  | done r =>
      rcases r with e | ⟨b, s⟩
      · cases h
      · cases h
        exact .done
  | ask r s k ih =>
      rw [Code.trace] at h
      split at h
      · cases h
      · next es₁ x s₁ hx =>
          split at h
          · cases h
          · next es₂ b s₂ hrest =>
              cases h
              exact .ask x (hf hx) (ih x s₁ hrest)

/-! ## What a run keeps

A relation that the steps of the program and the answers both keep is kept by the run. -/

/-- A relation of runs that holds of the empty run and of a run after a run. -/
structure Tracewise (T : σ → List ε → σ → Prop) : Prop where
  refl : ∀ s, T s [] s
  append : ∀ {s s₁ s' es es'}, T s es s₁ → T s₁ es' s' → T s (es ++ es') s'

/-- What a relation of runs says about the states. -/
theorem Tracewise.framing {T : σ → List ε → σ → Prop} (hT : Tracewise T) :
    Framing fun s s' => T s [] s' where
  refl := hT.refl
  trans h h' := hT.append h h'

section Keeps

variable {visit T : σ → List ε → σ → Prop} {note : ρ → ε}

theorem Tracewise.flatten (hT : Tracewise T) {step : σ → List ε → σ → Prop}
    (hstep : ∀ {s es s'}, step s es s' → T s es s') {s s' : σ} {ess : List (List ε)}
    (hrun : Run step s ess s') : T s ess.flatten s' := by
  induction hrun with
  | start => exact hT.refl s
  | step _ hs ih =>
      rw [List.flatten_append, List.flatten_singleton]
      exact hT.append ih (hstep hs)

/-- Every run of the program is related by `T`. -/
def Prog.Keeps (visit : σ → List ε → σ → Prop) (note : ρ → ε) (T : σ → List ε → σ → Prop)
    (x : Prog σ ans α) : Prop :=
  ∀ s es a s', x.Runs visit note s es a s' → T s es s'

theorem Prog.Keeps.lift {x : Tx σ α} (h : x.Keeps fun s s' => T s [] s') :
    (Prog.lift x : Prog σ ans α).Keeps visit note T := by
  intro s es a s' hrun
  obtain ⟨rfl, hx⟩ := Prog.lift_runs.mp hrun
  exact h _ _ _ hx

theorem Prog.Keeps.pure (hT : Tracewise T) (a : α) :
    (Pure.pure a : Prog σ ans α).Keeps visit note T := by
  intro s es b s' hrun
  obtain ⟨rfl, -, rfl⟩ := Prog.pure_runs.mp hrun
  exact hT.refl _

/-- A program after a program, each with a relation of its own. -/
theorem Prog.Keeps.seq {T₁ T₂ : σ → List ε → σ → Prop}
    (hT : ∀ {s s₁ s' es es'}, T₁ s es s₁ → T₂ s₁ es' s' → T s (es ++ es') s') {x : Prog σ ans α}
    {f : α → Prog σ ans β} (hx : x.Keeps visit note T₁) (hf : ∀ a, (f a).Keeps visit note T₂) :
    (x >>= f).Keeps visit note T := by
  intro s es b s' hrun
  obtain ⟨es₁, a, s₁, es₂, rfl, h₁, h₂⟩ := Prog.bind_runs.mp hrun
  exact hT (hx _ _ _ _ h₁) (hf _ _ _ _ _ h₂)

theorem Prog.Keeps.bind (hT : Tracewise T) {x : Prog σ ans α} {f : α → Prog σ ans β}
    (hx : x.Keeps visit note T) (hf : ∀ a, (f a).Keeps visit note T) :
    (x >>= f).Keeps visit note T := by
  refine Prog.Keeps.seq ?_ hx hf
  exact hT.append

theorem Prog.Keeps.ask {r : ρ} (h : ∀ {s es s'}, visit s es s' → T s (note r :: es) s') :
    (Prog.ask r : Prog σ ans (ans r)).Keeps visit note T := by
  intro s es a s' hrun
  obtain ⟨es', rfl, hv⟩ := Prog.ask_runs.mp hrun
  exact h hv

theorem Prog.Keeps.ite {c : Prop} [Decidable c] {x y : Prog σ ans α}
    (hx : x.Keeps visit note T) (hy : y.Keeps visit note T) :
    (if c then x else y).Keeps visit note T := by
  split
  · exact hx
  · exact hy

theorem Prog.Keeps.when (hT : Tracewise T) {c : Prop} [Decidable c] {x : Prog σ ans Unit}
    (hx : x.Keeps visit note T) : (Prog.when c x).Keeps visit note T :=
  Prog.Keeps.ite hx (Prog.Keeps.pure hT ())

end Keeps

/-! ## Calls under calls

The answer to a request may be a run of the same kind, one level below. -/

section Nested

variable (idle : σ → σ → Prop) (call : (σ → List ε → σ → Prop) → σ → List ε → σ → Prop)

/-- What happens while a request is open: steps without labels, and calls whose own requests are open
under it, at most `n` deep. -/
def Nested : Nat → σ → List ε → σ → Prop
  | 0, s, es, s' => es = [] ∧ idle s s'
  | n + 1, s, es, s' => ∃ ess, es = ess.flatten ∧
      Run (fun s es s' => (es = [] ∧ idle s s') ∨ call (Nested n) s es s') s ess s'

variable {idle call}

/-- **The rule for nested calls.** -/
theorem Nested.keeps {T : σ → List ε → σ → Prop} (hT : Tracewise T)
    (hidle : ∀ {s s'}, idle s s' → T s [] s')
    (hcall : ∀ {visit : σ → List ε → σ → Prop}, (∀ {s es s'}, visit s es s' → T s es s') →
      ∀ {s es s'}, call visit s es s' → T s es s')
    {n : Nat} {s s' : σ} {es : List ε} (h : Nested idle call n s es s') : T s es s' := by
  induction n generalizing s es s' with
  | zero =>
      obtain ⟨rfl, hi⟩ := h
      exact hidle hi
  | succ n ih =>
      obtain ⟨ess, rfl, hrun⟩ := h
      refine hT.flatten ?_ hrun
      intro s es s' hs
      rcases hs with ⟨rfl, hi⟩ | hc
      · exact hidle hi
      · exact hcall ih hc

end Nested
end Pledge.Evm
