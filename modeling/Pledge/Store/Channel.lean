import Mathlib.Data.List.Basic

/-!
# Buffered channels

A Go channel with room for `cap` values. A value that is sent goes to the end of the buffer, and sending
waits while the buffer is full; the value at the front is received.
-/

namespace Pledge.Store

structure Channel (α : Type) (cap : Nat) where
  buffer : List α := []
  within : buffer.length ≤ cap := by exact Nat.zero_le _
  deriving Repr, DecidableEq

namespace Channel

variable {α : Type} {cap : Nat} {c c' : Channel α cap} {a : α}

/-- `c <- a`, when it does not have to wait. -/
def send (c : Channel α cap) (a : α) : Option (Channel α cap) :=
  if h : c.buffer.length < cap then
    some
      { buffer := c.buffer ++ [a]
        within := by
          rw [List.length_append, List.length_singleton]
          exact h }
  else none

/-- `<-c`, when it does not have to wait. -/
def receive (c : Channel α cap) : Option (α × Channel α cap) :=
  match h : c.buffer with
  | [] => none
  | a :: rest =>
      some (a,
        { buffer := rest
          within := by
            have hlength : rest.length + 1 ≤ cap := by
              rw [← List.length_cons (a := a), ← h]
              exact c.within
            exact Nat.le_of_succ_le hlength })

theorem send_eq_some (h : c.send a = some c') :
    c.buffer.length < cap ∧ c'.buffer = c.buffer ++ [a] := by
  unfold send at h
  split at h
  · next hroom =>
      obtain rfl := Option.some.inj h
      exact ⟨hroom, rfl⟩
  · cases h

theorem receive_eq_some (h : c.receive = some (a, c')) : c.buffer = a :: c'.buffer := by
  unfold receive at h
  split at h
  · cases h
  · next b rest hbuffer =>
      obtain ⟨rfl, rfl⟩ := Prod.mk.inj (Option.some.inj h)
      exact hbuffer

end Channel

end Pledge.Store
