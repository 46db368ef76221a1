import Mathlib.Data.List.Basic
import Mathlib.Data.List.Induction
import Mathlib.Algebra.BigOperators.Group.List.Basic
import Mathlib.Algebra.Ring.Nat

/-!
# Runs of a labelled transition system

A run is a finite sequence of labelled steps from a fixed start. Safety is proved once per system by
`Run.invariant`: what holds at the start and is kept by every step holds wherever a run leads. The
invariant may speak about the labels so far, which is how totals over a run are bounded.
-/

namespace Pledge.Evm

variable {σ ε : Type}

/-- `Run step s₀ es s`: the steps labelled `es`, in this order, lead from `s₀` to `s`. -/
inductive Run (step : σ → ε → σ → Prop) (s₀ : σ) : List ε → σ → Prop
  | start : Run step s₀ [] s₀
  | step {es : List ε} {s s' : σ} {e : ε} :
      Run step s₀ es s → step s e s' → Run step s₀ (es ++ [e]) s'

namespace Run

variable {step step' : σ → ε → σ → Prop} {s₀ s₁ s : σ} {es es' : List ε}

/-- **The invariant rule.** -/
theorem invariant {I : List ε → σ → Prop} (h₀ : I [] s₀)
    (hstep : ∀ {es s e s'}, I es s → step s e s' → I (es ++ [e]) s')
    (hrun : Run step s₀ es s) : I es s := by
  induction hrun with
  | start => exact h₀
  | step _ hs ih => exact hstep ih hs

/-- A run maps to a run along a refinement of states and labels. -/
theorem map {τ δ : Type} {step' : τ → δ → τ → Prop} (φ : σ → τ) (g : ε → δ)
    (hstep : ∀ {s e s'}, step s e s' → step' (φ s) (g e) (φ s')) (hrun : Run step s₀ es s) :
    Run step' (φ s₀) (es.map g) (φ s) := by
  induction hrun with
  | start => exact .start
  | step _ hs ih =>
      rw [List.map_append]
      exact .step ih (hstep hs)

theorem mono (hsub : ∀ {s e s'}, step s e s' → step' s e s') (hrun : Run step s₀ es s) :
    Run step' s₀ es s := by
  simpa using hrun.map id id hsub

/-- What is kept along the run may be assumed of the start of every step. -/
theorem along {J : σ → Prop} (h₀ : J s₀) (hstep : ∀ {s e s'}, J s → step s e s' → J s')
    (hrun : Run step s₀ es s) : Run (fun s e s' => J s ∧ step s e s') s₀ es s := by
  suffices hboth : J s ∧ Run (fun s e s' => J s ∧ step s e s') s₀ es s from hboth.2
  induction hrun with
  | start => exact ⟨h₀, .start⟩
  | step _ hs ih => exact ⟨hstep ih.1 hs, .step ih.2 ⟨ih.1, hs⟩⟩

/-- Each step is labelled with what it did, where an invariant says that it did something. -/
theorem label {α : Type} {J : σ → Prop} {did : σ → ε → σ → α → Prop} (h₀ : J s₀)
    (hstep : ∀ {s e s'}, J s → step s e s' → J s' ∧ ∃ a, did s e s' a) (hrun : Run step s₀ es s) :
    ∃ ls : List (ε × α), ls.map Prod.fst = es ∧
      Run (fun s l s' => (J s ∧ step s l.1 s') ∧ did s l.1 s' l.2) s₀ ls s := by
  suffices hboth : J s ∧ ∃ ls : List (ε × α), ls.map Prod.fst = es ∧
      Run (fun s l s' => (J s ∧ step s l.1 s') ∧ did s l.1 s' l.2) s₀ ls s from hboth.2
  induction hrun with
  | start => exact ⟨h₀, [], rfl, .start⟩
  | step _ hs ih =>
      obtain ⟨hJ, ls, hls, hrun⟩ := ih
      obtain ⟨hJ', a, ha⟩ := hstep hJ hs
      refine ⟨hJ', ls ++ [(_, a)], ?_, .step hrun ⟨⟨hJ, hs⟩, ha⟩⟩
      rw [List.map_append, hls]
      rfl

/-- Runs compose. -/
theorem append (h₁ : Run step s₀ es s₁) (h₂ : Run step s₁ es' s) : Run step s₀ (es ++ es') s := by
  induction h₂ with
  | start => simpa using h₁
  | step _ hs ih => simpa [List.append_assoc] using Run.step ih hs

/-- A run maps to a run in which each of its steps is one. -/
theorem expand {τ δ : Type} {step' : τ → δ → τ → Prop} (φ : σ → τ) (g : ε → List δ)
    (hstep : ∀ {s e s'}, step s e s' → Run step' (φ s) (g e) (φ s')) (hrun : Run step s₀ es s) :
    Run step' (φ s₀) (es.flatMap g) (φ s) := by
  induction hrun with
  | start => exact .start
  | step _ hs ih =>
      rw [List.flatMap_append, List.flatMap_singleton]
      exact ih.append (hstep hs)

/-- **The rule for what passes through.** When in each step what comes out and what is then inside is
what was inside and what goes in, the same holds of a run. -/
theorem conveyed {α : Type} {inside : σ → List α} {goesIn comesOut : ε → List α}
    (hstep : ∀ {s e s'}, step s e s' → comesOut e ++ inside s' = inside s ++ goesIn e)
    (hrun : Run step s₀ es s) :
    es.flatMap comesOut ++ inside s = inside s₀ ++ es.flatMap goesIn := by
  induction hrun with
  | start => exact (List.append_nil _).symm
  | @step es s s' e _ hs ih =>
      calc (es ++ [e]).flatMap comesOut ++ inside s'
          = es.flatMap comesOut ++ (comesOut e ++ inside s') := by simp
        _ = es.flatMap comesOut ++ (inside s ++ goesIn e) := by rw [hstep hs]
        _ = inside s₀ ++ (es ++ [e]).flatMap goesIn := by
            rw [← List.append_assoc, ih]
            simp

/-- The last step of a run. -/
theorem snoc {e : ε} (h : Run step s₀ (es ++ [e]) s) :
    ∃ s₁, Run step s₀ es s₁ ∧ step s₁ e s := by
  generalize hes : es ++ [e] = es' at h
  cases h with
  | start => exact absurd hes (List.append_ne_nil_of_right_ne_nil _ (List.cons_ne_nil _ _))
  | step hrun hs =>
      obtain ⟨rfl, hlast⟩ := List.append_inj' hes rfl
      cases hlast
      exact ⟨_, hrun, hs⟩

/-- An empty run stays where it is. -/
theorem nil_eq (h : Run step s₀ [] s) : s = s₀ := by
  generalize hes : ([] : List ε) = es at h
  cases h with
  | start => rfl
  | step => exact absurd hes.symm (List.append_ne_nil_of_right_ne_nil _ (List.cons_ne_nil _ _))

/-- When a step is determined by its label, a run is. -/
theorem unique (hstep : ∀ {s e s₁ s₂}, step s e s₁ → step s e s₂ → s₁ = s₂) (h : Run step s₀ es s₁)
    (h' : Run step s₀ es s) : s = s₁ := by
  induction h generalizing s with
  | start => exact h'.nil_eq
  | step _ hs ih =>
      obtain ⟨m, hrun, hs'⟩ := h'.snoc
      rw [ih hrun] at hs'
      exact hstep hs' hs

/-- A run splits where its labels do. -/
theorem split (h : Run step s₀ (es ++ es') s) : ∃ s₁, Run step s₀ es s₁ ∧ Run step s₁ es' s := by
  induction es' using List.reverseRecOn generalizing s with
  | nil => exact ⟨s, by rwa [List.append_nil] at h, .start⟩
  | append_singleton es' e ih =>
      rw [← List.append_assoc] at h
      obtain ⟨s₂, hrun, hs⟩ := h.snoc
      obtain ⟨s₁, hfirst, hrest⟩ := ih hrun
      exact ⟨s₁, hfirst, hrest.step hs⟩

/-- The first step of a run. -/
theorem uncons {e : ε} (h : Run step s₀ (e :: es) s) : ∃ s₁, step s₀ e s₁ ∧ Run step s₁ es s := by
  have happend : Run step s₀ ([e] ++ es) s := h
  obtain ⟨s₁, hfirst, hrest⟩ := happend.split
  have hsnoc : Run step s₀ ([] ++ [e]) s₁ := hfirst
  obtain ⟨s₂, hnil, hs⟩ := hsnoc.snoc
  rw [hnil.nil_eq] at hs
  exact ⟨s₁, hs, hrest⟩

/-- What did not hold at the start and holds at the end began to hold in one of the steps. -/
theorem entered {P : σ → Prop} (h₀ : ¬ P s₀) (hrun : Run step s₀ es s) (h : P s) :
    ∃ es₁ e es₂ s₁ s₂, es = es₁ ++ e :: es₂ ∧ Run step s₀ es₁ s₁ ∧ ¬ P s₁ ∧ step s₁ e s₂ ∧ P s₂ ∧
      Run step s₂ es₂ s := by
  induction hrun with
  | start => exact absurd h h₀
  | @step es s s' e hrun hs ih =>
      by_cases hbefore : P s
      · obtain ⟨es₁, e₁, es₂, s₁, s₂, rfl, hfirst, hout, henter, hin, hrest⟩ := ih hbefore
        refine ⟨es₁, e₁, es₂ ++ [e], s₁, s₂, ?_, hfirst, hout, henter, hin, hrest.step hs⟩
        rw [List.append_assoc, List.cons_append]
      · exact ⟨es, e, [], s, s', rfl, hrun, hbefore, hs, h, .start⟩

end Run

/-! ## What is in force

Something was put in force by one event and ended by another: it is in force when there was an event
of the first kind with none of the second after it. -/

/-- What an `up` starts and a `down` ends has been started and not ended since. -/
def InForce (up down : ε → Prop) (es : List ε) : Prop :=
  ∃ es₁ e es₂, es = es₁ ++ e :: es₂ ∧ up e ∧ ∀ e' ∈ es₂, ¬ down e'

theorem InForce.snoc_iff {up down : ε → Prop} {es : List ε} {e : ε} :
    InForce up down (es ++ [e]) ↔ up e ∨ InForce up down es ∧ ¬ down e := by
  constructor
  · rintro ⟨es₁, e₁, es₂, hes, hup, hdown⟩
    cases es₂ using List.reverseRecOn with
    | nil =>
        obtain ⟨-, hlast⟩ := List.append_inj' hes rfl
        cases hlast
        exact .inl hup
    | append_singleton es₂ e₂ =>
        rw [← List.cons_append, ← List.append_assoc] at hes
        obtain ⟨rfl, hlast⟩ := List.append_inj' hes rfl
        cases hlast
        right
        refine ⟨⟨es₁, e₁, es₂, rfl, hup, ?_⟩, hdown e (by simp)⟩
        intro e' he'
        exact hdown e' (List.mem_append_left _ he')
  · rintro (hup | ⟨⟨es₁, e₁, es₂, rfl, hup, hdown⟩, he⟩)
    · exact ⟨es, e, [], rfl, hup, nofun⟩
    · refine ⟨es₁, e₁, es₂ ++ [e], by simp, hup, ?_⟩
      intro e' he'
      rcases List.mem_append.mp he' with hold | hlast
      · exact hdown e' hold
      · rw [List.mem_singleton.mp hlast]
        exact he

theorem InForce.nil {up down : ε → Prop} : ¬ InForce up down [] := by
  rintro ⟨es₁, e, es₂, hes, -⟩
  exact absurd hes.symm (List.append_ne_nil_of_right_ne_nil _ (List.cons_ne_nil _ _))

/-- **The rule for what is in force.** What each `up` starts and each `down` ends holds at the end of
a run when it is in force after it. -/
theorem Run.inForce {step : σ → ε → σ → Prop} {s₀ s : σ} {es : List ε} {P : σ → Prop}
    {up down : ε → Prop} (h₀ : ¬ P s₀)
    (hstep : ∀ {s e s'}, step s e s' → (P s' ↔ up e ∨ P s ∧ ¬ down e)) (hrun : Run step s₀ es s) :
    P s ↔ InForce up down es := by
  induction hrun with
  | start => exact iff_of_false h₀ InForce.nil
  | step _ hs ih => rw [hstep hs, ih, InForce.snoc_iff]

/-- What the events single out, in order, after one more. -/
theorem filterMap_snoc {α : Type} (f : ε → Option α) (es : List ε) (e : ε) :
    (es ++ [e]).filterMap f = es.filterMap f ++ (f e).toList := by
  rw [List.filterMap_append]
  cases h : f e with
  | none => simp [h]
  | some a => simp [h]

/-- What each step singles out, the run singles out. -/
theorem Run.filterMap_eq {α : Type} {step : σ → ε → σ → Prop} {s₀ s : σ} {es : List ε}
    {f g : ε → Option α} (hstep : ∀ {s e s'}, step s e s' → f e = g e) (hrun : Run step s₀ es s) :
    es.filterMap f = es.filterMap g := by
  induction hrun with
  | start => rfl
  | step _ hs ih => rw [filterMap_snoc, filterMap_snoc, ih, hstep hs]

/-- What the last of the events that say something said. -/
def latest {α : Type} (said : ε → Option α) (es : List ε) : Option α := (es.filterMap said).getLast?

theorem latest_snoc {α : Type} {said : ε → Option α} {es : List ε} {e : ε} :
    latest said (es ++ [e]) = (said e).or (latest said es) := by
  unfold latest
  cases h : said e with
  | none => simp [h]
  | some a => simp [h]

theorem latest_cons {α : Type} {said : ε → Option α} {es : List ε} {e : ε} :
    latest said (e :: es) = (latest said es).or (said e) := by
  unfold latest
  cases h : said e with
  | none => simp [h]
  | some a =>
      rw [List.filterMap_cons_some h, List.getLast?_cons]
      cases (es.filterMap said).getLast? <;> rfl

/-! ## Replaying

A step relation with a function that computes it. The function is how witnesses get their runs. -/

/-- Where a sequence of labels leads in a system that computes its steps, when none fails. -/
def replay (next : σ → ε → Option σ) : σ → List ε → Option σ
  | s, [] => some s
  | s, e :: es =>
      match next s e with
      | some s' => replay next s' es
      | none => none

/-- What a replay leads to, a run leads to. -/
theorem Run.of_replay {step : σ → ε → σ → Prop} {next : σ → ε → Option σ}
    (hnext : ∀ {s e s'}, next s e = some s' → step s e s') {s s' : σ} {es : List ε}
    (h : replay next s es = some s') : Run step s es s' := by
  induction es generalizing s with
  | nil =>
      obtain rfl : s = s' := Option.some.inj h
      exact .start
  | cons e es ih =>
      rw [replay] at h
      split at h
      · next s₁ hs => exact (Run.start.step (hnext hs)).append (ih h)
      · cases h

/-- The steps of a system that satisfy a condition. -/
def Restrict (step ok : σ → ε → σ → Prop) : σ → ε → σ → Prop := fun s e s' => step s e s' ∧ ok s e s'

/-- The steps of a run have its labels. -/
theorem Run.within {step : σ → ε → σ → Prop} {s₀ s : σ} {es : List ε} (hrun : Run step s₀ es s) :
    Run (Restrict step fun _ e _ => e ∈ es) s₀ es s := by
  induction hrun with
  | start => exact .start
  | @step es s s' e _ hs ih =>
      have hbefore : Run (Restrict step fun _ e' _ => e' ∈ es ++ [e]) s₀ es s :=
        ih.mono fun h => ⟨h.1, List.mem_append_left _ h.2⟩
      exact hbefore.step ⟨hs, List.mem_append_right _ List.mem_cons_self⟩

/-- Steps that keep the steps so far, each with the state it was made in. -/
def Recorded (step : σ → ε → σ → Prop) : List (σ × ε) × σ → ε → List (σ × ε) × σ → Prop :=
  fun h e h' => h'.1 = h.1 ++ [(h.2, e)] ∧ step h.2 e h'.2

theorem Run.recorded {step : σ → ε → σ → Prop} {s₀ s : σ} {es : List ε} (hrun : Run step s₀ es s) :
    ∃ h, h.map Prod.snd = es ∧ Run (Recorded step) ([], s₀) es (h, s) := by
  induction hrun with
  | start => exact ⟨[], rfl, .start⟩
  | @step es s s' e _ hs ih =>
      obtain ⟨h, hes, hrun⟩ := ih
      refine ⟨h ++ [(s, e)], ?_, hrun.step ⟨rfl, hs⟩⟩
      rw [List.map_append, hes]
      rfl

/-- The sum of a quantity over the labels of a run. -/
def total (f : ε → Nat) (es : List ε) : Nat := (es.map f).sum

@[simp] theorem total_nil (f : ε → Nat) : total f [] = 0 := rfl

@[simp] theorem total_snoc (f : ε → Nat) (es : List ε) (e : ε) :
    total f (es ++ [e]) = total f es + f e := by
  simp [total]

theorem total_cons (f : ε → Nat) (e : ε) (es : List ε) : total f (e :: es) = f e + total f es := by
  simp [total]

theorem total_append (f : ε → Nat) (es es' : List ε) :
    total f (es ++ es') = total f es + total f es' := by
  simp [total]

/-- The total is at least what one label counts. -/
theorem le_total_of_mem (f : ε → Nat) {e : ε} {es : List ε} (he : e ∈ es) : f e ≤ total f es := by
  obtain ⟨before, after, rfl⟩ := List.append_of_mem he
  rw [total_append, total_cons]
  omega

theorem total_add (f g : ε → Nat) (es : List ε) :
    total (fun e => f e + g e) es = total f es + total g es := by
  simp [total]

/-- A quantity that counts only under a fixed condition. -/
theorem total_ite (c : Prop) [Decidable c] (f : ε → Nat) (es : List ε) :
    total (fun e => if c then f e else 0) es = if c then total f es else 0 := by
  by_cases h : c <;> simp [h, total]

theorem total_map {δ : Type} (f : δ → Nat) (g : ε → δ) (es : List ε) :
    total f (es.map g) = total (fun e => f (g e)) es := by
  simp [total, Function.comp_def]

/-- What each step bounds, the run bounds. -/
theorem Run.total_le {step : σ → ε → σ → Prop} {s₀ s : σ} {es : List ε} {f g : ε → Nat}
    (hstep : ∀ {s e s'}, step s e s' → f e ≤ g e) (hrun : Run step s₀ es s) :
    total f es ≤ total g es := by
  induction hrun with
  | start => exact Nat.le_refl _
  | step _ hs ih =>
      rw [total_snoc, total_snoc]
      exact Nat.add_le_add ih (hstep hs)

theorem Run.total_eq {step : σ → ε → σ → Prop} {s₀ s : σ} {es : List ε} {f g : ε → Nat}
    (hstep : ∀ {s e s'}, step s e s' → f e = g e) (hrun : Run step s₀ es s) :
    total f es = total g es :=
  Nat.le_antisymm (hrun.total_le fun hs => Nat.le_of_eq (hstep hs))
    (hrun.total_le fun hs => Nat.le_of_eq (hstep hs).symm)

/-- The sum of a quantity over the labels after the last one that resets it. -/
def totalSince (reset : ε → Bool) (f : ε → Nat) (es : List ε) : Nat :=
  es.foldl (fun n e => if reset e then 0 else n + f e) 0

@[simp] theorem totalSince_snoc (reset : ε → Bool) (f : ε → Nat) (es : List ε) (e : ε) :
    totalSince reset f (es ++ [e]) = if reset e then 0 else totalSince reset f es + f e := by
  unfold totalSince
  rw [List.foldl_append, List.foldl_cons, List.foldl_nil]

/-- A first label that counts for nothing. -/
theorem totalSince_cons_zero (reset : ε → Bool) (f : ε → Nat) {e : ε} (es : List ε) (he : f e = 0) :
    totalSince reset f (e :: es) = totalSince reset f es := by
  unfold totalSince
  rw [List.foldl_cons, he, Nat.add_zero, ite_self]

theorem totalSince_map {δ : Type} (reset : δ → Bool) (f : δ → Nat) (g : ε → δ) (es : List ε) :
    totalSince reset f (es.map g) = totalSince (fun e => reset (g e)) (fun e => f (g e)) es := by
  unfold totalSince
  rw [List.foldl_map]

theorem Run.totalSince_eq {step : σ → ε → σ → Prop} {s₀ s : σ} {es : List ε} {reset reset' : ε → Bool}
    {f f' : ε → Nat} (hstep : ∀ {s e s'}, step s e s' → reset e = reset' e ∧ f e = f' e)
    (hrun : Run step s₀ es s) : totalSince reset f es = totalSince reset' f' es := by
  induction hrun with
  | start => rfl
  | step _ hs ih =>
      obtain ⟨hreset, hf⟩ := hstep hs
      rw [totalSince_snoc, totalSince_snoc, hreset, hf, ih]

end Pledge.Evm
