import Pledge.Store.SyncMap
import Pledge.Evm.Run
import Mathlib.Logic.Function.Basic

/-!
# The websocket registry

`GET /price` opens a socket, and `ReadAndWrite` puts it into `Manager.Servers` under its id and serves it
until its client is gone or silent. `StartServer` walks through the registry with every price. What is
deferred to the end of `ReadAndWrite` deletes by the pointer, and no entry has a pointer for its key, so
the entry stays.

While no server has returned and no id is used twice, the registry has exactly the servers that are
served (`Exact`), and a price reaches each of them once (`Underway`). With the first server that returns,
or takes the id of another, the registry is wrong (`registry_exact_iff`).
-/

namespace Pledge.Api.Ws

open Pledge.Evm Pledge.Store

/-! ## Sockets

The handler of a request, `ReadAndWrite` with its reader and its writer, and `StartServer` are
goroutines that share `Manager.Servers`. A step of the model is what one of them does between two
points where another may come in. `Range` of a `sync.Map` gives no snapshot: the walk of a price is
a state of its own, and what is stored or deleted meanwhile may be visited or not. -/

/-- What `Manager.Servers` has for keys, which may be anything. -/
inductive Key where
  | id (id : String)
  | pointer (server : Nat)
  deriving Repr, DecidableEq

/-- `SuccessCode`, for a price. -/
def successCode : Int := 0

/-- `PongCode`, for the answer to a ping. -/
def pongCode : Int := 1

/-- `ErrorCode`, for the end of a heartbeat. -/
def errorCode : Int := -1

/-- `type Message struct`. -/
structure Message where
  code : Int
  data : String
  deriving Repr, DecidableEq

/-- Where `ReadAndWrite` is. -/
inductive ServerPhase where
  /-- `NewPrice` has made the socket, and the goroutine is still to start. -/
  | made
  | serving
  | returned
  deriving Repr, DecidableEq

/-- `type Server struct`, and its goroutine that reads. -/
structure Server where
  id : String
  lastTime : Int
  phase : ServerPhase := .made
  /-- The reader has an error for `errChan`, and reads no more. -/
  readFailed : Bool := false
  deriving Repr, DecidableEq

/-- The sockets by their pointers, the registry, the walk of a price through it, what `SendToClient` was
called with, and what of it `WriteMessage` took. -/
structure Sockets where
  servers : Nat → Option Server := fun _ => none
  registry : SyncMap Key Nat := {}
  broadcast : Option (String × Range Key Nat) := none
  sent : List (Nat × Message) := []
  written : List (Nat × Message) := []

/-- The steps of the goroutines. Where one looks at the clock, it has the time; where one writes to a
socket, it says whether the write fails. -/
inductive SocketEvent where
  /-- `NewPrice`. -/
  | newPrice (n : Nat) (id : String) (now : Int)
  /-- `ReadAndWrite` stores the server and starts its goroutines. -/
  | register (n : Nat)
  | read (n : Nat) (message : String) (now : Int) (fails : Bool)
  | readError (n : Nat)
  /-- The error is received, and `ReadAndWrite` returns. -/
  | receive (n : Nat)
  /-- The heartbeat is checked. -/
  | check (n : Nat) (now : Int) (fails : Bool)
  /-- `StartServer` has got a price. -/
  | price (price : String)
  | visit (key : Key) (n : Nat) (fails : Bool)
  /-- The walk is over. -/
  | finish
  deriving Repr, DecidableEq

/-- A message that is answered. -/
def isPing (message : String) : Bool :=
  message = "ping" || message = "\"ping\"" || message = "'ping'"

namespace Sockets

variable (s : Sockets)

/-- The fields of a server change. -/
def set (n : Nat) (server : Server) : Sockets :=
  { s with servers := Function.update s.servers n (some server) }

/-- `ReadAndWrite` has returned, and `Socket.Close()` was called. -/
def closed (n : Nat) : Bool :=
  match s.servers n with
  | some server => server.phase = .returned
  | none => false

/-- `SendToClient`. The write may fail, and does when the socket is closed; the error is logged. -/
def sendToClient (n : Nat) (data : String) (code : Int) (fails : Bool) : Sockets :=
  let message : Nat × Message := (n, { code := code, data := data })
  { s with
    sent := s.sent ++ [message]
    written := if fails || s.closed n then s.written else s.written ++ [message] }

/-- `Manager.Servers.Store(s.Id, s)`. -/
def store (key : Key) (n : Nat) : Sockets :=
  { s with
    registry := s.registry.store key n
    broadcast := s.broadcast.map fun b => (b.1, b.2.stored key n) }

/-- `Manager.Servers.Delete(s)`. -/
def delete (key : Key) : Sockets :=
  { s with
    registry := s.registry.delete key
    broadcast := s.broadcast.map fun b => (b.1, b.2.deleted key) }

/-- `ReadAndWrite` returns, and what it has deferred is run. -/
def leave (n : Nat) (server : Server) : Sockets :=
  (s.delete (.pointer n)).set n { server with phase := .returned }

/-- One step, when the goroutine is there. -/
def next (userPingPongDurTime : Int) : SocketEvent → Option Sockets
  | .newPrice n id now =>
      match s.servers n with
      | some _ => none
      | none => some (s.set n { id := id, lastTime := now })
  | .register n =>
      match s.servers n with
      | some server =>
          if server.phase = .made then
            some ((s.store (.id server.id) n).set n { server with phase := .serving })
          else none
      | none => none
  | .read n message now fails =>
      match s.servers n with
      | some server =>
          if server.phase ≠ .made ∧ server.readFailed = false then
            if isPing message = true then
              some ((s.set n { server with lastTime := now }).sendToClient n "pong" pongCode fails)
            else some s
          else none
      | none => none
  | .readError n =>
      match s.servers n with
      | some server =>
          if server.phase ≠ .made ∧ server.readFailed = false then
            some (s.set n { server with readFailed := true })
          else none
      | none => none
  | .receive n =>
      match s.servers n with
      | some server =>
          if server.phase = .serving ∧ server.readFailed = true then some (s.leave n server) else none
      | none => none
  | .check n now fails =>
      match s.servers n with
      | some server =>
          if server.phase = .serving then
            if userPingPongDurTime ≤ now - server.lastTime then
              some ((s.sendToClient n "heartbeat timeout" errorCode fails).leave n server)
            else some s
          else none
      | none => none
  | .price price =>
      match s.broadcast with
      | some _ => none
      | none => some { s with broadcast := some (price, .start s.registry) }
  | .visit key n fails =>
      match s.broadcast with
      | some (price, walk) =>
          (walk.visit (key, n)).map fun walk =>
            { s with broadcast := some (price, walk) }.sendToClient n price successCode fails
      | none => none
  | .finish =>
      match s.broadcast with
      | some (_, walk) => if walk.finished = true then some { s with broadcast := none } else none
      | none => none

end Sockets

/-- A step that is possible. -/
def SocketStep (userPingPongDurTime : Int) (s : Sockets) (e : SocketEvent) (s' : Sockets) : Prop :=
  s.next userPingPongDurTime e = some s'

namespace SocketStep

variable {userPingPongDurTime : Int} {s s' : Sockets} {n : Nat}

/-! What each step needs and does; everything below goes by these, and none of it unfolds `next`. -/

theorem newPrice {id : String} {now : Int}
    (h : SocketStep userPingPongDurTime s (.newPrice n id now) s') :
    s.servers n = none ∧ s' = s.set n { id := id, lastTime := now } := by
  simp only [SocketStep, Sockets.next] at h
  split at h
  · cases h
  · next hnone => exact ⟨hnone, (Option.some.inj h).symm⟩

theorem register (h : SocketStep userPingPongDurTime s (.register n) s') :
    ∃ server, s.servers n = some server ∧ server.phase = .made ∧
      s' = (s.store (.id server.id) n).set n { server with phase := .serving } := by
  simp only [SocketStep, Sockets.next] at h
  split at h
  · next server hserver =>
      split at h
      · next hmade => exact ⟨server, hserver, hmade, (Option.some.inj h).symm⟩
      · cases h
  · cases h

theorem read {message : String} {now : Int} {fails : Bool}
    (h : SocketStep userPingPongDurTime s (.read n message now fails) s') :
    ∃ server, s.servers n = some server ∧ (s' = s ∨
      s' = (s.set n { server with lastTime := now }).sendToClient n "pong" pongCode fails) := by
  simp only [SocketStep, Sockets.next] at h
  split at h
  · next server hserver =>
      refine ⟨server, hserver, ?_⟩
      split at h
      · split at h
        · exact .inr (Option.some.inj h).symm
        · exact .inl (Option.some.inj h).symm
      · cases h
  · cases h

theorem readError (h : SocketStep userPingPongDurTime s (.readError n) s') :
    ∃ server, s.servers n = some server ∧ s' = s.set n { server with readFailed := true } := by
  simp only [SocketStep, Sockets.next] at h
  split at h
  · next server hserver =>
      split at h
      · exact ⟨server, hserver, (Option.some.inj h).symm⟩
      · cases h
  · cases h

theorem receive (h : SocketStep userPingPongDurTime s (.receive n) s') :
    ∃ server, s.servers n = some server ∧ server.phase = .serving ∧ s' = s.leave n server := by
  simp only [SocketStep, Sockets.next] at h
  split at h
  · next server hserver =>
      split at h
      · next hguard => exact ⟨server, hserver, hguard.1, (Option.some.inj h).symm⟩
      · cases h
  · cases h

theorem check {now : Int} {fails : Bool}
    (h : SocketStep userPingPongDurTime s (.check n now fails) s') :
    ∃ server, s.servers n = some server ∧ server.phase = .serving ∧
      ((now - server.lastTime < userPingPongDurTime ∧ s' = s) ∨
        (userPingPongDurTime ≤ now - server.lastTime ∧
          s' = (s.sendToClient n "heartbeat timeout" errorCode fails).leave n server)) := by
  simp only [SocketStep, Sockets.next] at h
  split at h
  · next server hserver =>
      split at h
      · next hserving =>
          refine ⟨server, hserver, hserving, ?_⟩
          split at h
          · next hlate => exact .inr ⟨hlate, (Option.some.inj h).symm⟩
          · next hlate => exact .inl ⟨by omega, (Option.some.inj h).symm⟩
      · cases h
  · cases h

theorem price {price : String} (h : SocketStep userPingPongDurTime s (.price price) s') :
    s.broadcast = none ∧ s' = { s with broadcast := some (price, .start s.registry) } := by
  simp only [SocketStep, Sockets.next] at h
  split at h
  · cases h
  · next hnone => exact ⟨hnone, (Option.some.inj h).symm⟩

theorem visit {key : Key} {fails : Bool}
    (h : SocketStep userPingPongDurTime s (.visit key n fails) s') :
    ∃ price walk walk', s.broadcast = some (price, walk) ∧ walk.visit (key, n) = some walk' ∧
      s' = { s with broadcast := some (price, walk') }.sendToClient n price successCode fails := by
  simp only [SocketStep, Sockets.next] at h
  split at h
  · next price walk hbroadcast =>
      obtain ⟨walk', hvisit, rfl⟩ := Option.map_eq_some_iff.mp h
      exact ⟨price, walk, walk', hbroadcast, hvisit, rfl⟩
  · cases h

theorem finish (h : SocketStep userPingPongDurTime s .finish s') :
    ∃ price walk, s.broadcast = some (price, walk) ∧ walk.finished = true ∧
      s' = { s with broadcast := none } := by
  simp only [SocketStep, Sockets.next] at h
  split at h
  · next price walk hbroadcast =>
      split at h
      · next hfinished => exact ⟨price, walk, hbroadcast, hfinished, (Option.some.inj h).symm⟩
      · cases h
  · cases h

end SocketStep

/-! ## What is served

A server is served from `Store` until `ReadAndWrite` returns. Two things can part the registry from
this. `Store` of an id that is in use replaces the entry of the other server. And the deferred
`Delete(s)` looks for the pointer `s`, where the entry is under `s.Id`, so that nothing is deleted.
`Harmless` is the steps that do neither. -/

namespace Sockets

/-- `ReadAndWrite` has registered the server, under this id, and has not returned. -/
def Serves (s : Sockets) (n : Nat) (id : String) : Prop :=
  ∃ server, s.servers n = some server ∧ server.phase = .serving ∧ server.id = id

def Live (s : Sockets) (n : Nat) : Prop := ∃ id, s.Serves n id

/-- The registry has the server. -/
def Registered (s : Sockets) (n : Nat) : Prop := ∃ key, (key, n) ∈ s.registry.entries

/-- Nothing returns in this step, and no id is used twice. -/
def Harmless (userPingPongDurTime : Int) (s : Sockets) : SocketEvent → Prop
  | .register n => ∀ server, s.servers n = some server → ∀ m, ¬ s.Serves m server.id
  | .receive _ => False
  | .check n now _ => ∀ server, s.servers n = some server → now - server.lastTime < userPingPongDurTime
  | .newPrice .. => True
  | .read .. => True
  | .readError _ => True
  | .price _ => True
  | .visit .. => True
  | .finish => True

variable {s : Sockets} {n m : Nat} {server : Server} {id data : String} {code : Int} {fails : Bool}

@[simp] theorem set_servers : (s.set n server).servers m = if m = n then some server else s.servers m :=
  Function.update_apply ..

@[simp] theorem sendToClient_sent :
    (s.sendToClient n data code fails).sent = s.sent ++ [(n, { code := code, data := data })] := rfl

theorem serves_set : (s.set n server).Serves m id ↔
    if m = n then server.phase = .serving ∧ server.id = id else s.Serves m id := by
  unfold Serves
  rw [set_servers]
  split
  · constructor
    · rintro ⟨_, hserver, hrest⟩
      obtain rfl := Option.some.inj hserver
      exact hrest
    · intro hrest
      exact ⟨server, rfl, hrest⟩
  · rfl

/-- A server in another phase is not served. -/
theorem not_serves {phase : ServerPhase} (hserver : s.servers n = some server)
    (hphase : server.phase = phase) (hne : phase ≠ .serving) : ¬ s.Serves n id := by
  rintro ⟨server', hserver', hserving, -⟩
  obtain rfl := Option.some.inj (hserver.symm.trans hserver')
  exact hne (hphase.symm.trans hserving)

theorem Serves.unique {id' : String} (h : s.Serves n id) (h' : s.Serves n id') : id = id' := by
  obtain ⟨server, hserver, -, rfl⟩ := h
  obtain ⟨server', hserver', -, rfl⟩ := h'
  obtain rfl := Option.some.inj (hserver.symm.trans hserver')
  rfl

end Sockets

/-- The registry has exactly what is served, and a walk is offered nothing else. -/
structure Exact (s : Sockets) : Prop where
  mem : ∀ key n, (key, n) ∈ s.registry.entries ↔ ∃ id, s.Serves n id ∧ key = .id id
  offered : ∀ price walk, s.broadcast = some (price, walk) →
    ∀ entry ∈ walk.offered, entry ∈ s.registry.entries

section Exact

variable {userPingPongDurTime : Int} {s s' : Sockets} {n : Nat} {id : String}

/-- At the start nothing is registered, and nothing is served. -/
theorem Exact.start : Exact {} where
  mem := by
    intro key n
    constructor
    · intro hmem
      cases hmem
    · rintro ⟨id, ⟨server, hserver, -⟩, -⟩
      cases hserver
  offered := by
    intro price walk hbroadcast
    cases hbroadcast

/-- An exact registry has a server under some key if and only if it is served. -/
theorem Exact.registered_iff (h : Exact s) : s.Registered n ↔ s.Live n := by
  constructor
  · rintro ⟨key, hmem⟩
    obtain ⟨id, hserves, -⟩ := (h.mem key n).mp hmem
    exact ⟨id, hserves⟩
  · rintro ⟨id, hserves⟩
    exact ⟨.id id, (h.mem _ n).mpr ⟨id, hserves, rfl⟩⟩

/-- A step that leaves the registry and who is served. -/
theorem Exact.congr (h : Exact s) (hregistry : s'.registry = s.registry)
    (hserves : ∀ m id, s'.Serves m id ↔ s.Serves m id)
    (hbroadcast : ∀ price walk, s'.broadcast = some (price, walk) →
      ∀ entry ∈ walk.offered, entry ∈ s.registry.entries) : Exact s' where
  mem := by
    intro key m
    rw [hregistry, h.mem]
    simp only [hserves]
  offered := by
    rw [hregistry]
    exact hbroadcast

/-- A server that goes on being served, or not being served. -/
theorem Sockets.serves_set_congr {server server' : Server} (hserver : s.servers n = some server)
    (hphase : server'.phase = server.phase) (hid : server'.id = server.id) (m : Nat) (id : String) :
    (s.set n server').Serves m id ↔ s.Serves m id := by
  rw [serves_set]
  split
  · next heq =>
      subst heq
      unfold Sockets.Serves
      rw [hserver, hphase, hid]
      simp
  · rfl

theorem Sockets.Serves.set {server server' : Server} {m : Nat} (h : s.Serves m id)
    (hserver : s.servers n = some server) (hphase : server'.phase = server.phase)
    (hid : server'.id = server.id) : (s.set n server').Serves m id :=
  (Sockets.serves_set_congr hserver hphase hid m id).mpr h

/-- A server with an id of its own is registered. -/
theorem Exact.register {server : Server} (h : Exact s) (hserver : s.servers n = some server)
    (hmade : server.phase = .made) (hfree : ∀ m, ¬ s.Serves m server.id) :
    Exact ((s.store (.id server.id) n).set n { server with phase := .serving }) := by
  -- the id is free, so no entry is replaced
  have hkeys : ∀ entry ∈ s.registry.entries, entry.1 ≠ .id server.id := by
    intro entry hentry hkey
    obtain ⟨id, hserves, hid⟩ := (h.mem entry.1 entry.2).mp hentry
    obtain rfl := Key.id.inj (hkey.symm.trans hid)
    exact hfree entry.2 hserves
  have hmem (entry : Key × Nat) : entry ∈ (s.registry.store (.id server.id) n).entries ↔
      entry ∈ s.registry.entries ∨ entry = (.id server.id, n) := by
    rw [SyncMap.mem_store, and_iff_left_of_imp (hkeys entry)]
  exact
    { mem := by
        intro key m
        show (key, m) ∈ (s.registry.store (.id server.id) n).entries ↔ _
        rw [hmem, h.mem]
        simp only [Sockets.serves_set]
        constructor
        · rintro (⟨id, hserves, rfl⟩ | heq)
          · have hne : m ≠ n := by
              rintro rfl
              exact Sockets.not_serves hserver hmade (by decide) hserves
            refine ⟨id, ?_, rfl⟩
            rw [if_neg hne]
            exact hserves
          · obtain ⟨rfl, rfl⟩ := Prod.mk.inj heq
            refine ⟨server.id, ?_, rfl⟩
            rw [if_pos rfl]
            exact ⟨trivial, rfl⟩
        · rintro ⟨id, hserves, rfl⟩
          split at hserves
          · next heq =>
              subst heq
              rw [← hserves.2]
              exact .inr rfl
          · exact .inl ⟨id, hserves, rfl⟩
      offered := by
        intro price walk hbroadcast entry hentry
        show entry ∈ (s.registry.store (.id server.id) n).entries
        rw [hmem]
        obtain ⟨⟨price', walk'⟩, hbefore, heq⟩ := Option.map_eq_some_iff.mp hbroadcast
        obtain ⟨-, rfl⟩ := Prod.mk.inj heq
        rcases List.mem_append.mp hentry with hold | hnew
        · exact .inl (h.offered price' walk' hbefore entry hold)
        · exact .inr (List.mem_singleton.mp hnew) }

/-- **A harmless step keeps the registry exact.** -/
theorem Exact.step {e : SocketEvent} (h : Exact s) (hstep : SocketStep userPingPongDurTime s e s')
    (hharmless : s.Harmless userPingPongDurTime e) : Exact s' := by
  cases e with
  | newPrice n id now =>
      obtain ⟨hnone, rfl⟩ := hstep.newPrice
      refine h.congr rfl (fun m id' => ?_) h.offered
      rw [Sockets.serves_set]
      split
      · next heq =>
          subst heq
          simp [Sockets.Serves, hnone]
      · rfl
  | register n =>
      obtain ⟨server, hserver, hmade, rfl⟩ := hstep.register
      exact h.register hserver hmade (hharmless server hserver)
  | read n message now fails =>
      obtain ⟨server, hserver, rfl | rfl⟩ := hstep.read
      · exact h
      · exact h.congr rfl (Sockets.serves_set_congr hserver rfl rfl) h.offered
  | readError n =>
      obtain ⟨server, hserver, rfl⟩ := hstep.readError
      exact h.congr rfl (Sockets.serves_set_congr hserver rfl rfl) h.offered
  | receive n => exact hharmless.elim
  | check n now fails =>
      obtain ⟨server, hserver, -, ⟨-, rfl⟩ | ⟨hlate, -⟩⟩ := hstep.check
      · exact h
      -- the heartbeat is over, and `ReadAndWrite` returns
      · exact absurd (hharmless server hserver) (Int.not_lt.mpr hlate)
  | price price =>
      obtain ⟨-, rfl⟩ := hstep.price
      refine h.congr rfl (fun _ _ => Iff.rfl) ?_
      intro price' walk hbroadcast entry hentry
      obtain ⟨-, rfl⟩ := Prod.mk.inj (Option.some.inj hbroadcast)
      exact hentry
  | visit key n fails =>
      obtain ⟨price, walk, walk', hbroadcast, hvisit, rfl⟩ := hstep.visit
      refine h.congr rfl (fun _ _ => Iff.rfl) ?_
      intro price' walk'' hbroadcast' entry hentry
      obtain ⟨-, rfl⟩ := Prod.mk.inj (Option.some.inj hbroadcast')
      -- a visit offers nothing new to the walk
      rw [(Range.visit_eq_some hvisit).2.1] at hentry
      exact h.offered price walk hbroadcast entry hentry
  | finish =>
      obtain ⟨price, walk, -, -, rfl⟩ := hstep.finish
      refine h.congr rfl (fun _ _ => Iff.rfl) ?_
      intro price' walk' hbroadcast
      cases hbroadcast

/-- **A step that is not harmless does not.** -/
theorem Exact.not_step {e : SocketEvent} (h : Exact s) (hstep : SocketStep userPingPongDurTime s e s')
    (hharmful : ¬ s.Harmless userPingPongDurTime e) : ¬ ∀ n, s'.Registered n ↔ s'.Live n := by
  intro hexact
  -- what has been registered stays so when it returns
  have hleave : ∀ (s₁ : Sockets) (n : Nat) (server : Server), s₁.registry = s.registry →
      s.servers n = some server → server.phase = .serving → s' = s₁.leave n server → False := by
    rintro s₁ n server hregistry hserver hserving rfl
    have hmem : (Key.id server.id, n) ∈ s.registry.entries :=
      (h.mem _ n).mpr ⟨server.id, ⟨server, hserver, hserving, rfl⟩, rfl⟩
    have hstays : (s₁.leave n server).Registered n := by
      refine ⟨.id server.id, ?_⟩
      show (Key.id server.id, n) ∈ (s₁.registry.delete (.pointer n)).entries
      rw [SyncMap.mem_delete, hregistry]
      exact ⟨hmem, Key.noConfusion⟩
    obtain ⟨id, hserves⟩ := (hexact n).mp hstays
    rw [Sockets.leave, Sockets.serves_set, if_pos rfl] at hserves
    cases hserves.1
  cases e with
  | register n =>
      obtain ⟨server, hserver, hmade, rfl⟩ := hstep.register
      simp only [Sockets.Harmless, not_forall, not_not] at hharmful
      obtain ⟨server', hserver', m, hserves⟩ := hharmful
      obtain rfl := Option.some.inj (hserver.symm.trans hserver')
      have hne : m ≠ n := by
        rintro rfl
        exact Sockets.not_serves hserver hmade (by decide) hserves
      -- its entry is gone, and it is still served
      have hlive : ((s.store (.id server.id) n).set n { server with phase := .serving }).Live m := by
        refine ⟨server.id, ?_⟩
        rw [Sockets.serves_set, if_neg hne]
        exact hserves
      obtain ⟨key, hmem⟩ := (hexact m).mpr hlive
      rcases SyncMap.mem_store.mp hmem with ⟨hold, hkey⟩ | hnew
      · obtain ⟨id, hserves', rfl⟩ := (h.mem key m).mp hold
        exact hkey (congrArg Key.id (hserves'.unique hserves))
      · exact hne (Prod.mk.inj hnew).2
  | receive n =>
      obtain ⟨server, hserver, hserving, hleft⟩ := hstep.receive
      exact hleave s n server rfl hserver hserving hleft
  | check n now fails =>
      obtain ⟨server, hserver, hserving, ⟨hsoon, -⟩ | ⟨-, hleft⟩⟩ := hstep.check
      · apply hharmful
        intro server' hserver'
        obtain rfl := Option.some.inj (hserver.symm.trans hserver')
        exact hsoon
      · exact hleave (s.sendToClient n "heartbeat timeout" errorCode fails) n server rfl hserver hserving
          hleft
  | newPrice => exact hharmful trivial
  | read => exact hharmful trivial
  | readError => exact hharmful trivial
  | price => exact hharmful trivial
  | visit => exact hharmful trivial
  | finish => exact hharmful trivial

end Exact

/-! ## What a price reaches

While steps are harmless, the entries that a walk starts with stay where they are, so that it comes
to each of them. It comes to none of them twice, since `Range` visits a key once and a server has
one. -/

/-- How often the price was sent to the server. -/
def Sockets.received (s : Sockets) (n : Nat) (price : String) : Nat :=
  s.sent.count (n, { code := successCode, data := price })

@[simp] theorem Sockets.received_sendToClient (s : Sockets) (n m : Nat) (data price : String)
    (code : Int) (fails : Bool) : (s.sendToClient m data code fails).received n price =
      s.received n price + if m = n ∧ code = successCode ∧ data = price then 1 else 0 := by
  unfold Sockets.received
  rw [Sockets.sendToClient_sent, List.count_append, List.count_singleton]
  simp

/-- The price is under way since a state. Who was served then is due, and each server has received the
price as often as the walk has visited it. -/
structure Underway (s₁ : Sockets) (price : String) (s : Sockets) : Prop where
  exact : Exact s
  serves : ∀ n id, s₁.Serves n id → s.Serves n id
  walks : ∃ walk, s.broadcast = some (price, walk) ∧
    (∀ n id, s₁.Serves n id → Key.id id ∈ walk.due) ∧
    ∀ n, s.received n price = s₁.received n price + (walk.visited.map Prod.snd).count n

section Underway

variable {userPingPongDurTime : Int} {s₁ s s' : Sockets} {price : String} {n : Nat} {id : String}

/-- Whoever is served goes on being served. -/
theorem Sockets.Serves.step {e : SocketEvent} (h : s.Serves n id)
    (hstep : SocketStep userPingPongDurTime s e s') (hharmless : s.Harmless userPingPongDurTime e) :
    s'.Serves n id := by
  cases e with
  | newPrice m id' now =>
      obtain ⟨hnone, rfl⟩ := hstep.newPrice
      have hne : n ≠ m := by
        rintro rfl
        obtain ⟨server, hserver, -⟩ := h
        rw [hnone] at hserver
        cases hserver
      rw [serves_set, if_neg hne]
      exact h
  | register m =>
      obtain ⟨server, hserver, hmade, rfl⟩ := hstep.register
      have hne : n ≠ m := by
        rintro rfl
        -- the server that registers is not served yet
        exact not_serves hserver hmade (by decide) h
      rw [serves_set, if_neg hne]
      exact h
  | read m message now fails =>
      obtain ⟨server, hserver, rfl | rfl⟩ := hstep.read
      · exact h
      · have hserves : (s.set m { server with lastTime := now }).Serves n id :=
          h.set hserver rfl rfl
        exact hserves
  | readError m =>
      obtain ⟨server, hserver, rfl⟩ := hstep.readError
      exact h.set hserver rfl rfl
  | receive m => exact hharmless.elim
  | check m now fails =>
      obtain ⟨server, hserver, -, ⟨-, rfl⟩ | ⟨hlate, -⟩⟩ := hstep.check
      · exact h
      · exact absurd (hharmless server hserver) (Int.not_lt.mpr hlate)
  | price price =>
      obtain ⟨-, rfl⟩ := hstep.price
      exact h
  | visit key m fails =>
      obtain ⟨price, walk, walk', -, -, rfl⟩ := hstep.visit
      exact h
  | finish =>
      obtain ⟨price, walk, -, -, rfl⟩ := hstep.finish
      exact h

/-- A price begins. -/
theorem Underway.start (h : Exact s₁) (hstep : SocketStep userPingPongDurTime s₁ (.price price) s) :
    Underway s₁ price s := by
  have hexact := h.step hstep trivial
  obtain ⟨-, rfl⟩ := hstep.price
  refine { exact := hexact, serves := fun _ _ => id, walks := ⟨.start s₁.registry, rfl, ?_, ?_⟩ }
  · intro n id hserves
    exact List.mem_map_of_mem ((h.mem _ n).mpr ⟨id, hserves, rfl⟩)
  · intro n
    rfl

/-- **What a harmless step does to a price that is under way**, until its walk is over. -/
theorem Underway.step {e : SocketEvent} (h : Underway s₁ price s)
    (hstep : SocketStep userPingPongDurTime s e s') (hharmless : s.Harmless userPingPongDurTime e)
    (hgoes : e ≠ .finish) : Underway s₁ price s' := by
  obtain ⟨walk, hwalk, hdue, hcount⟩ := h.walks
  refine
    { exact := h.exact.step hstep hharmless
      serves := fun n id hserves => (h.serves n id hserves).step hstep hharmless
      walks := ?_ }
  cases e with
  | newPrice m id now =>
      obtain ⟨-, rfl⟩ := hstep.newPrice
      exact ⟨walk, hwalk, hdue, hcount⟩
  | register m =>
      obtain ⟨server, -, -, rfl⟩ := hstep.register
      refine ⟨walk.stored (.id server.id) m, ?_, hdue, hcount⟩
      show s.broadcast.map _ = _
      rw [hwalk]
      rfl
  | read m message now fails =>
      obtain ⟨server, -, rfl | rfl⟩ := hstep.read
      · exact ⟨walk, hwalk, hdue, hcount⟩
      · refine ⟨walk, hwalk, hdue, fun n => ?_⟩
        rw [Sockets.received_sendToClient, if_neg (by simp [pongCode, successCode])]
        exact hcount n
  | readError m =>
      obtain ⟨server, -, rfl⟩ := hstep.readError
      exact ⟨walk, hwalk, hdue, hcount⟩
  | receive m => exact hharmless.elim
  | check m now fails =>
      obtain ⟨server, hserver, -, ⟨-, rfl⟩ | ⟨hlate, -⟩⟩ := hstep.check
      · exact ⟨walk, hwalk, hdue, hcount⟩
      · exact absurd (hharmless server hserver) (Int.not_lt.mpr hlate)
  | price price' =>
      obtain ⟨hnone, -⟩ := hstep.price
      rw [hnone] at hwalk
      cases hwalk
  | visit key m fails =>
      obtain ⟨price', walk₀, walk', hwalk₀, hvisit, rfl⟩ := hstep.visit
      obtain ⟨rfl, rfl⟩ := Prod.mk.inj (Option.some.inj (hwalk.symm.trans hwalk₀))
      obtain ⟨-, -, hdue', hvisited⟩ := Range.visit_eq_some hvisit
      rw [← hdue'] at hdue
      refine ⟨walk', rfl, hdue, fun n => ?_⟩
      -- the visit adds one to both sides for the server that is visited
      rw [Sockets.received_sendToClient, hvisited, List.map_append, List.map_singleton,
        List.count_append, List.count_singleton]
      simp only [beq_iff_eq, and_true]
      rw [← Nat.add_assoc, ← hcount]
      rfl
  | finish => exact absurd rfl hgoes

/-- A walk visits what is in the registry. -/
theorem Exact.visited (h : Exact s) {walk : Range Key Nat} (hwalk : s.broadcast = some (price, walk))
    {entry : Key × Nat} (hentry : entry ∈ walk.visited) : entry ∈ s.registry.entries :=
  h.offered price walk hwalk entry (walk.visited_offered entry hentry)

/-- No server is visited twice, since no server has two keys. -/
theorem Exact.visited_nodup (h : Exact s) {walk : Range Key Nat}
    (hwalk : s.broadcast = some (price, walk)) : (walk.visited.map Prod.snd).Nodup := by
  refine List.Nodup.map_on ?_ walk.nodup.of_map
  rintro ⟨key, n⟩ hmem ⟨key', n'⟩ hmem' rfl
  obtain ⟨id, hserves, rfl⟩ := (h.mem key n).mp (h.visited hwalk hmem)
  obtain ⟨id', hserves', rfl⟩ := (h.mem key' n).mp (h.visited hwalk hmem')
  rw [hserves.unique hserves']

/-- A walk adds at most one to what a server has received. -/
theorem Underway.received_le (h : Underway s₁ price s) (n : Nat) :
    s.received n price ≤ s₁.received n price + 1 := by
  obtain ⟨walk, hwalk, -, hcount⟩ := h.walks
  rw [hcount]
  exact Nat.add_le_add_left (List.nodup_iff_count_le_one.mp (h.exact.visited_nodup hwalk) n) _

/-- **At its end a price has been sent once** to whoever was served when it began. -/
theorem Underway.finish (h : Underway s₁ price s)
    (hstep : SocketStep userPingPongDurTime s .finish s') (hserves : s₁.Serves n id) :
    s.received n price = s₁.received n price + 1 := by
  obtain ⟨walk, hwalk, hdue, hcount⟩ := h.walks
  obtain ⟨price', walk', hwalk', hfinished, -⟩ := hstep.finish
  obtain ⟨rfl, rfl⟩ := Prod.mk.inj (Option.some.inj (hwalk.symm.trans hwalk'))
  obtain ⟨m, hm⟩ := Range.visited_of_finished hfinished (hdue n id hserves)
  obtain rfl : m = n :=
    SyncMap.value_unique (h.exact.visited hwalk hm)
      ((h.exact.mem _ n).mpr ⟨id, h.serves n id hserves, rfl⟩)
  rw [hcount, List.count_eq_one_of_mem (h.exact.visited_nodup hwalk) (List.mem_map_of_mem hm)]

end Underway

/-! ## Runs

One harmful step is enough to make the registry wrong, and nothing later makes up for it in the
sense of `RegistryExact`, which speaks of every point of the run. So the runs with an exact registry
are those of harmless steps. -/

/-- What the registry is meant to be in a run of the server, with what follows for the prices. -/
structure RegistryExact (userPingPongDurTime : Int) (es : List SocketEvent) : Prop where
  /-- At every point it has exactly what is served. -/
  live : ∀ es₁ es₂ s₁, es = es₁ ++ es₂ → Run (SocketStep userPingPongDurTime) {} es₁ s₁ →
    ∀ n, s₁.Registered n ↔ s₁.Live n
  /-- From its beginning to its end, a price is sent once to who is served throughout, and to nobody
  twice. -/
  once : ∀ es₁ price es₂ es₃ s₁ s₂, es = es₁ ++ .price price :: (es₂ ++ .finish :: es₃) →
    .finish ∉ es₂ → Run (SocketStep userPingPongDurTime) {} es₁ s₁ →
      Run (SocketStep userPingPongDurTime) {} (es₁ ++ .price price :: es₂) s₂ → ∀ n,
        s₂.received n price ≤ s₁.received n price + 1 ∧
          (s₁.Live n → s₂.Live n → s₂.received n price = s₁.received n price + 1)
  /-- It is sent to no other. -/
  visits : ∀ es₁ key n fails es₂ s₁, es = es₁ ++ .visit key n fails :: es₂ →
    Run (SocketStep userPingPongDurTime) {} es₁ s₁ → s₁.Live n
  /-- When nothing is served any more, the registry is empty. -/
  empty : ∀ es₁ es₂ s₁, es = es₁ ++ es₂ → Run (SocketStep userPingPongDurTime) {} es₁ s₁ →
    (∀ n, ¬ s₁.Live n) → s₁.registry.entries = []

/-- The steps that are harmless. -/
def HarmlessStep (userPingPongDurTime : Int) : Sockets → SocketEvent → Sockets → Prop :=
  Restrict (SocketStep userPingPongDurTime) fun s e _ => s.Harmless userPingPongDurTime e

section Runs

variable {userPingPongDurTime : Int} {es es₁ es₂ : List SocketEvent} {s s₁ : Sockets}

/-- A step has one outcome. -/
theorem SocketStep.unique {e : SocketEvent} {s' s'' : Sockets}
    (h : SocketStep userPingPongDurTime s e s') (h' : SocketStep userPingPongDurTime s e s'') :
    s' = s'' :=
  Option.some.inj (h.symm.trans h')

/-- A beginning of a harmless run is one. -/
theorem harmless_of_append (hrun : Run (HarmlessStep userPingPongDurTime) {} (es₁ ++ es₂) s)
    (hfirst : Run (SocketStep userPingPongDurTime) {} es₁ s₁) :
    Run (HarmlessStep userPingPongDurTime) {} es₁ s₁ ∧
      Run (HarmlessStep userPingPongDurTime) s₁ es₂ s := by
  obtain ⟨s₂, hfirst', hrest⟩ := hrun.split
  have hsame : s₁ = s₂ := by
    refine Run.unique ?_ (hfirst'.mono And.left) hfirst
    intro s e s' s'' h h'
    exact h.unique h'
  subst hsame
  exact ⟨hfirst', hrest⟩

/-- In a harmless run the registry is exact. -/
theorem exact_of_harmless (hrun : Run (HarmlessStep userPingPongDurTime) {} es s) : Exact s := by
  induction hrun with
  | start => exact Exact.start
  | step _ hs ih => exact ih.step hs.1 hs.2

/-- A run that keeps the registry exact is harmless. -/
theorem harmless_of_exact (hrun : Run (SocketStep userPingPongDurTime) {} es s)
    (h : RegistryExact userPingPongDurTime es) : Run (HarmlessStep userPingPongDurTime) {} es s := by
  have hlive := h.live
  clear h
  induction hrun with
  | start => exact .start
  | @step es s s' e hrun hs ih =>
      have hbefore := ih fun es₁ es₂ s₁ hes => by
        subst hes
        exact hlive es₁ (es₂ ++ [e]) s₁ (List.append_assoc ..)
      refine hbefore.step ⟨hs, ?_⟩
      by_contra hharmful
      exact (exact_of_harmless hbefore).not_step hs hharmful
        (hlive (es ++ [e]) [] s' (List.append_nil _).symm (hrun.step hs))

/-- A price that goes on. -/
theorem Underway.run {s₂ : Sockets} {price : String} (h : Underway s₁ price s)
    (hrun : Run (HarmlessStep userPingPongDurTime) s es s₂) (hgoes : .finish ∉ es) :
    Underway s₁ price s₂ := by
  induction hrun with
  | start => exact h
  | @step es s s' e _ hs ih =>
      rw [List.mem_append, List.mem_singleton, not_or] at hgoes
      exact (ih hgoes.1).step hs.1 hs.2 (Ne.symm hgoes.2)

/-- A harmless run keeps the registry exact. -/
theorem RegistryExact.of_harmless (hrun : Run (HarmlessStep userPingPongDurTime) {} es s) :
    RegistryExact userPingPongDurTime es where
  live := by
    rintro es₁ es₂ s₁ rfl hfirst n
    exact (exact_of_harmless (harmless_of_append hrun hfirst).1).registered_iff
  once := by
    rintro es₁ price es₂ es₃ s₁ s₂ rfl hgoes hfirst hsecond n
    rw [← List.cons_append, ← List.append_assoc] at hrun
    obtain ⟨hsecond, hrest⟩ := harmless_of_append hrun hsecond
    obtain ⟨hfirst, hwalk⟩ := harmless_of_append hsecond hfirst
    obtain ⟨s₃, hprice, hmid⟩ := hwalk.uncons
    obtain ⟨s₄, hfinish, -⟩ := hrest.uncons
    have hunderway := (Underway.start (exact_of_harmless hfirst) hprice.1).run hmid hgoes
    refine ⟨hunderway.received_le n, ?_⟩
    rintro ⟨id, hserves⟩ -
    exact hunderway.finish hfinish.1 hserves
  visits := by
    rintro es₁ key n fails es₂ s₁ rfl hfirst
    obtain ⟨hfirst, hrest⟩ := harmless_of_append hrun hfirst
    have hexact := exact_of_harmless hfirst
    obtain ⟨s₂, hvisit, -⟩ := hrest.uncons
    obtain ⟨price, walk, walk', hwalk, hvisit, -⟩ := hvisit.1.visit
    have hmem := hexact.offered _ _ hwalk _ (Range.visit_eq_some hvisit).1
    exact hexact.registered_iff.mp ⟨key, hmem⟩
  empty := by
    rintro es₁ es₂ s₁ rfl hfirst hnone
    have hexact := exact_of_harmless (harmless_of_append hrun hfirst).1
    rw [List.eq_nil_iff_forall_not_mem]
    rintro ⟨key, n⟩ hmem
    exact hnone n (hexact.registered_iff.mp ⟨key, hmem⟩)

end Runs

/-- **When the registry is exact**, for every order of the steps. -/
theorem registry_exact_iff (userPingPongDurTime : Int) {es : List SocketEvent} {s : Sockets}
    (hrun : Run (SocketStep userPingPongDurTime) {} es s) :
    RegistryExact userPingPongDurTime es ↔ Run (HarmlessStep userPingPongDurTime) {} es s :=
  ⟨harmless_of_exact hrun, RegistryExact.of_harmless⟩

/-- Two connections, and a price that goes to both; one of the writes fails. -/
theorem registry_exact_two :
    RegistryExact 60 [.newPrice 0 "127_0_0_1_a" 5, .register 0, .newPrice 1 "127_0_0_1_b" 7,
      .register 1, .price "0.05", .visit (.id "127_0_0_1_b") 1 true, .read 0 "ping" 9 false,
      .visit (.id "127_0_0_1_a") 0 false, .finish] := by
  let first : Server := { id := "127_0_0_1_a", lastTime := 5 }
  let second : Server := { id := "127_0_0_1_b", lastTime := 7 }
  let s₁ : Sockets := ({} : Sockets).set 0 first
  let s₂ : Sockets := (s₁.store (.id first.id) 0).set 0 { first with phase := .serving }
  let s₃ : Sockets := s₂.set 1 second
  let s₄ : Sockets := (s₃.store (.id second.id) 1).set 1 { second with phase := .serving }
  let s₅ : Sockets := { s₄ with broadcast := some ("0.05", .start s₄.registry) }
  have hmade (m : Nat) (id : String) : ¬ s₁.Serves m id := by
    rw [Sockets.serves_set]
    split
    · rintro ⟨hphase, -⟩
      cases hphase
    · rintro ⟨server, hserver, -⟩
      cases hserver
  have hfirst : HarmlessStep 60 {} (.newPrice 0 "127_0_0_1_a" 5) s₁ := ⟨rfl, trivial⟩
  have hserving : HarmlessStep 60 s₁ (.register 0) s₂ := by
    refine ⟨rfl, ?_⟩
    intro server hserver m
    exact hmade m _
  have hsecond : HarmlessStep 60 s₂ (.newPrice 1 "127_0_0_1_b" 7) s₃ := ⟨rfl, trivial⟩
  have hserving' : HarmlessStep 60 s₃ (.register 1) s₄ := by
    refine ⟨rfl, ?_⟩
    intro server hserver m
    obtain rfl : second = server := Option.some.inj hserver
    rw [Sockets.serves_set]
    split
    · rintro ⟨hphase, -⟩
      cases hphase
    · -- the first one has another id
      show ¬ s₂.Serves m second.id
      rw [Sockets.serves_set]
      split
      · exact fun h => absurd h.2 (by decide)
      · exact hmade m _
  have hprice : HarmlessStep 60 s₄ (.price "0.05") s₅ := ⟨rfl, trivial⟩
  have htail : ((((s₅.next 60 (.visit (.id "127_0_0_1_b") 1 true)).bind
      (·.next 60 (.read 0 "ping" 9 false))).bind (·.next 60 (.visit (.id "127_0_0_1_a") 0 false))).bind
      (·.next 60 .finish)).isSome = true := by decide +kernel
  obtain ⟨s, htail⟩ := Option.isSome_iff_exists.mp htail
  obtain ⟨s₈, h₈, hfinish⟩ := Option.bind_eq_some_iff.mp htail
  obtain ⟨s₇, h₇, hvisit'⟩ := Option.bind_eq_some_iff.mp h₈
  obtain ⟨s₆, hvisit, hread⟩ := Option.bind_eq_some_iff.mp h₇
  have hrun : Run (HarmlessStep 60) {} _ s :=
    ((((((((Run.start.step hfirst).step hserving).step hsecond).step hserving').step hprice).step
      ⟨hvisit, trivial⟩).step ⟨hread, trivial⟩).step ⟨hvisit', trivial⟩).step ⟨hfinish, trivial⟩
  exact (registry_exact_iff 60 (hrun.mono And.left)).mpr hrun

/-- A client that is gone is sent the next price. -/
theorem registry_keeps_closed : ¬ ∀ (userPingPongDurTime : Int) (es : List SocketEvent) (s : Sockets),
    Run (SocketStep userPingPongDurTime) {} es s → RegistryExact userPingPongDurTime es := by
  intro hall
  let server : Server := { id := "127_0_0_1_a", lastTime := 5 }
  let made : Sockets := ({} : Sockets).set 0 server
  let serving : Sockets := (made.store (.id server.id) 0).set 0 { server with phase := .serving }
  let failed : Sockets := serving.set 0 { server with phase := .serving, readFailed := true }
  let left : Sockets := failed.leave 0 { server with phase := .serving, readFailed := true }
  let walking : Sockets := { left with broadcast := some ("0.05", .start left.registry) }
  have hmade : SocketStep 60 {} (.newPrice 0 "127_0_0_1_a" 5) made := rfl
  have hserving : SocketStep 60 made (.register 0) serving := rfl
  have hfailed : SocketStep 60 serving (.readError 0) failed := rfl
  have hleft : SocketStep 60 failed (.receive 0) left := rfl
  have hwalking : SocketStep 60 left (.price "0.05") walking := rfl
  obtain ⟨s, hsent⟩ : ∃ s, SocketStep 60 walking (.visit (.id "127_0_0_1_a") 0 true) s := ⟨_, rfl⟩
  have hrun := ((((Run.start.step hmade).step hserving).step hfailed).step hleft).step hwalking
  obtain ⟨id, hserves⟩ := (hall 60 _ s (hrun.step hsent)).visits _ _ 0 _ [] walking rfl hrun
  exact Sockets.not_serves rfl rfl (by decide) hserves

end Pledge.Api.Ws
