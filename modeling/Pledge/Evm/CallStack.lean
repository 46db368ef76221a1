import Pledge.Evm.Run

/-!
# Nested calls that may fail

While a call to another contract is open, anything may be called again, and a call that fails puts
everything back to where it started. A configuration is the present state with a stack of open calls,
each with the state to go back to. The system is given by its uninterrupted steps (`act`) and by what
opening a call does to the state (`enter`).

Two rules carry a property of single steps to whole runs: an invariant holds of the present state and
of every saved one (`run_everywhere`), and a preorder that every step climbs is climbed by a whole run
that starts without open calls, whatever fails on the way (`run_ascends`).
-/

namespace Pledge.Evm

variable {σ ε φ : Type}

/-- An open call: what it is, and the state to go back to when it fails. -/
structure Frame (σ φ : Type) where
  label : φ
  saved : σ

/-- The present state and the open calls, innermost first. -/
structure Config (σ φ : Type) where
  state : σ
  stack : List (Frame σ φ) := []

inductive CallEvent (ε φ : Type) where
  | act (e : ε)
  | enter (f : φ)
  | leave
  | fail
  deriving Repr, DecidableEq

/-- One step: the state changes, a call is opened, or the innermost call returns or fails. -/
inductive CallStep (act : σ → ε → σ → Prop) (enter : σ → φ → σ → Prop) :
    Config σ φ → CallEvent ε φ → Config σ φ → Prop
  | act {s s' : σ} {e : ε} {stack : List (Frame σ φ)} (h : act s e s') :
      CallStep act enter ⟨s, stack⟩ (.act e) ⟨s', stack⟩
  | enter {s s' : σ} {f : φ} {stack : List (Frame σ φ)} (h : enter s f s') :
      CallStep act enter ⟨s, stack⟩ (.enter f) ⟨s', ⟨f, s⟩ :: stack⟩
  | leave {s : σ} {fr : Frame σ φ} {stack : List (Frame σ φ)} :
      CallStep act enter ⟨s, fr :: stack⟩ .leave ⟨s, stack⟩
  | fail {s : σ} {fr : Frame σ φ} {stack : List (Frame σ φ)} :
      CallStep act enter ⟨s, fr :: stack⟩ .fail ⟨fr.saved, stack⟩

variable {act : σ → ε → σ → Prop} {enter : σ → φ → σ → Prop} {c c' : Config σ φ}
  {e : CallEvent ε φ} {es : List (CallEvent ε φ)}

/-! ## Runs under open calls

What runs while calls are waiting leaves them waiting, so a run can be moved below any stack. -/

/-- What runs without open calls also runs under open calls. -/
theorem CallStep.under (h : CallStep act enter c e c') (below : List (Frame σ φ)) :
    CallStep act enter ⟨c.state, c.stack ++ below⟩ e ⟨c'.state, c'.stack ++ below⟩ := by
  cases h with
  | act h => exact .act h
  | enter h => exact .enter h
  | leave => exact .leave
  | fail => exact .fail

theorem run_under (hrun : Run (CallStep act enter) c es c') (below : List (Frame σ φ)) :
    Run (CallStep act enter) ⟨c.state, c.stack ++ below⟩ es ⟨c'.state, c'.stack ++ below⟩ := by
  induction hrun with
  | start => exact .start
  | step _ hs ih => exact .step ih (hs.under below)

/-! ## Invariants

An invariant has to hold of the present state and of the states that would be restored if a call
that is waiting fails. -/

/-- `I` holds of the present state and of every state that may come back. -/
def Config.Everywhere (I : σ → Prop) (c : Config σ φ) : Prop :=
  I c.state ∧ ∀ fr ∈ c.stack, I fr.saved

section Invariant

variable {I : σ → Prop} (hact : ∀ {s e s'}, I s → act s e s' → I s')
  (henter : ∀ {s f s'}, I s → enter s f s' → I s')

include hact henter

theorem CallStep.everywhere (h : CallStep act enter c e c') (hc : c.Everywhere I) :
    c'.Everywhere I := by
  obtain ⟨hstate, hstack⟩ := hc
  cases h with
  | act h => exact ⟨hact hstate h, hstack⟩
  | enter h => exact ⟨henter hstate h, List.forall_mem_cons.mpr ⟨hstate, hstack⟩⟩
  | leave => exact ⟨hstate, (List.forall_mem_cons.mp hstack).2⟩
  | fail => exact List.forall_mem_cons.mp hstack

/-- **The invariant rule.** -/
theorem run_everywhere (hrun : Run (CallStep act enter) c es c') (hc : c.Everywhere I) :
    c'.Everywhere I := by
  refine hrun.invariant (I := fun _ c => c.Everywhere I) hc ?_
  intro es c e c' hI hs
  exact hs.everywhere hact henter hI

end Invariant

/-! ## Progress

A relation that every step respects holds between any two states of a run, across failures too. -/

/-- From `base` up to `s` the open calls were entered at states that climb `R`. -/
def Ascends (R : σ → σ → Prop) (base : σ) : σ → List (Frame σ φ) → Prop
  | s, [] => R base s
  | s, fr :: stack => R fr.saved s ∧ Ascends R base fr.saved stack

section Progress

variable {I : σ → Prop} {R : σ → σ → Prop} {base s s' : σ} {stack : List (Frame σ φ)}

theorem Ascends.climb (htrans : ∀ {a b c}, R a b → R b c → R a c) (h : Ascends R base s stack)
    (hR : R s s') : Ascends R base s' stack := by
  cases stack with
  | nil => exact htrans h hR
  | cons fr stack => exact ⟨htrans h.1 hR, h.2⟩

theorem Ascends.le (htrans : ∀ {a b c}, R a b → R b c → R a c) (h : Ascends R base s stack) :
    R base s := by
  induction stack generalizing s with
  | nil => exact h
  | cons fr stack ih => exact htrans (ih h.2) h.1

theorem CallStep.ascends (htrans : ∀ {a b c}, R a b → R b c → R a c)
    (hact : ∀ {s e s'}, I s → act s e s' → R s s')
    (henter : ∀ {s f s'}, I s → enter s f s' → R s s') (h : CallStep act enter c e c')
    (hI : I c.state) (hc : Ascends R base c.state c.stack) :
    Ascends R base c'.state c'.stack := by
  cases h with
  | act h => exact hc.climb htrans (hact hI h)
  | enter h => exact ⟨henter hI h, hc⟩
  | leave => exact hc.2.climb htrans hc.1
  | fail => exact hc.2

/-- **The progress rule.** What fails on the way goes back to a state at or above the start. -/
theorem run_ascends (hrefl : ∀ a, R a a) (htrans : ∀ {a b c}, R a b → R b c → R a c)
    (hIact : ∀ {s e s'}, I s → act s e s' → I s')
    (hIenter : ∀ {s f s'}, I s → enter s f s' → I s')
    (hact : ∀ {s e s'}, I s → act s e s' → R s s')
    (henter : ∀ {s f s'}, I s → enter s f s' → R s s') (hI : I s)
    (hrun : Run (CallStep act enter) ⟨s, []⟩ es c) : R s c.state := by
  have hstart : Config.Everywhere I (⟨s, []⟩ : Config σ φ) ∧ Ascends R s s ([] : List (Frame σ φ)) :=
    ⟨⟨hI, nofun⟩, hrefl s⟩
  have hboth : c.Everywhere I ∧ Ascends R s c.state c.stack := by
    refine hrun.invariant (I := fun _ c => c.Everywhere I ∧ Ascends R s c.state c.stack) hstart ?_
    intro es c e c' hc hs
    exact ⟨hs.everywhere hIact hIenter hc.1, hs.ascends htrans hact henter hc.1.1 hc.2⟩
  exact hboth.2.le htrans

end Progress

/-- A call that fails leaves no trace of itself nor of what happened under it. -/
theorem CallStep.fail_eq {f : φ} {c₁ c₂ c₃ : Config σ φ}
    (henter : CallStep act enter c (.enter f) c₁) (hopen : c₂.stack = c₁.stack)
    (hfail : CallStep act enter c₂ .fail c₃) : c₃ = c := by
  cases henter with
  | enter _ =>
      cases hfail with
      | fail =>
          obtain ⟨rfl, rfl⟩ := List.cons.inj hopen
          rfl

end Pledge.Evm
