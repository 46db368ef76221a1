import Pledge.Api.Sockets

/-!
# What the sockets are sent

The prices for which `StartServer` calls `SendToClient` on each server, whatever the order of the
steps. A server has one key, so a walk comes to it once: each server is sent prices in their order,
each at most once (`run_inOrder`). When no id is used again, a server that has come stays in the
registry and is sent every price (`Follows.run`). All of them are written to its socket as long as no
write fails and the socket is open, and none when it is closed (`written_all`, `written_closed`). -/

namespace Pledge.Api.Ws

open Pledge.Evm Pledge.Store

/-! ## Prices at the sockets

A step of a socket may do three things to the prices: begin a walk, send the price of the walk to
one server, or end the walk. All other steps leave what was sent, and leave the walk where it is:
what a step does to the registry meanwhile may add to what the walk is offered or take from it, but
not to who is due. `Delivers` says this once, and everything below goes by its four cases. -/

/-- The prices that `SendToClient` was called with for a server. -/
def Sockets.prices (s : Sockets) (n : Nat) : List String :=
  s.sent.filterMap fun m => if m.1 = n ∧ m.2.code = successCode then some m.2.data else none

/-- The prices that were written to its socket. -/
def Sockets.writtenPrices (s : Sockets) (n : Nat) : List String :=
  s.written.filterMap fun m => if m.1 = n ∧ m.2.code = successCode then some m.2.data else none

/-- The prices that a step takes from the channel. -/
def SocketEvent.taken : SocketEvent → List String
  | .price p => [p]
  | _ => []

section Prices

variable {userPingPongDurTime : Int} {s s' : Sockets} {n m : Nat} {key : Key} {price : String}
  {fails : Bool}

@[simp] theorem Sockets.prices_success :
    (s.sendToClient m price successCode fails).prices n =
      s.prices n ++ if m = n then [price] else [] := by
  unfold Sockets.prices
  rw [Sockets.sendToClient_sent, List.filterMap_append]
  by_cases h : m = n <;> simp [h]

/-- A message that is no price, which is a pong or the end of a heartbeat. -/
theorem Sockets.prices_other {data : String} {code : Int} (h : code ≠ successCode) :
    (s.sendToClient m data code fails).prices n = s.prices n := by
  unfold Sockets.prices
  rw [Sockets.sendToClient_sent, List.filterMap_append]
  simp [h]

theorem Sockets.writtenPrices_success :
    (s.sendToClient m price successCode fails).writtenPrices n =
      s.writtenPrices n ++ if m = n ∧ (fails || s.closed m) = false then [price] else [] := by
  unfold Sockets.writtenPrices Sockets.sendToClient
  dsimp only
  by_cases hfails : (fails || s.closed m) = true
  · simp [hfails]
  · rw [if_neg hfails, List.filterMap_append]
    have hwrites : (fails || s.closed m) = false := eq_false_of_ne_true hfails
    by_cases h : m = n
    · simp [h, h ▸ hwrites]
    · simp [h]

theorem Sockets.writtenPrices_other {data : String} {code : Int} (h : code ≠ successCode) :
    (s.sendToClient m data code fails).writtenPrices n = s.writtenPrices n := by
  unfold Sockets.writtenPrices Sockets.sendToClient
  dsimp only
  split
  · rfl
  · rw [List.filterMap_append]
    simp [h]

/-- A walk that has come as far as another, with the same ids due, and is offered no more than what
is in the registry. -/
structure SameWalk (registry : SyncMap Key Nat) (walk walk' : Range Key Nat) : Prop where
  visited : walk'.visited = walk.visited
  due : ∀ id, Key.id id ∈ walk'.due ↔ Key.id id ∈ walk.due
  offered : ∀ entry ∈ walk'.offered, entry ∈ walk.offered ∨ entry ∈ registry.entries

theorem SameWalk.refl (registry : SyncMap Key Nat) (walk : Range Key Nat) :
    SameWalk registry walk walk := ⟨rfl, fun _ => Iff.rfl, fun _ => .inl⟩

theorem SameWalk.stored (registry : SyncMap Key Nat) (walk : Range Key Nat) (key : Key) (n : Nat) :
    SameWalk (registry.store key n) walk (walk.stored key n) := by
  refine ⟨rfl, fun _ => Iff.rfl, ?_⟩
  intro entry hentry
  rcases List.mem_append.mp hentry with hold | hnew
  · exact .inl hold
  · exact .inr (SyncMap.mem_store.mpr (.inr (List.mem_singleton.mp hnew)))

theorem SameWalk.deleted (registry : SyncMap Key Nat) (walk : Range Key Nat) (n : Nat) :
    SameWalk registry walk (walk.deleted (.pointer n)) := by
  refine ⟨rfl, ?_, fun _ => .inl⟩
  intro id
  simp [Range.deleted]

/-- A walk goes on without a visit, where there is one. -/
def GoesOn (s s' : Sockets) : Prop :=
  (s.broadcast = none ∧ s'.broadcast = none) ∨
    ∃ price walk walk', s.broadcast = some (price, walk) ∧ s'.broadcast = some (price, walk') ∧
      SameWalk s'.registry walk walk'

theorem GoesOn.map {f : Range Key Nat → Range Key Nat}
    (hf : ∀ walk, SameWalk s'.registry walk (f walk))
    (h : s'.broadcast = s.broadcast.map fun b => (b.1, f b.2)) : GoesOn s s' := by
  cases hs : s.broadcast with
  | none =>
      rw [hs] at h
      exact .inl ⟨hs, h⟩
  | some b =>
      rw [hs] at h
      exact .inr ⟨b.1, b.2, f b.2, hs, h, hf b.2⟩

/-- The walk is not touched. -/
theorem GoesOn.same (h : s'.broadcast = s.broadcast) : GoesOn s s' := by
  refine GoesOn.map (f := id) (SameWalk.refl _) ?_
  rw [h]
  exact (Option.map_id' ..).symm

/-- **What a step does to the prices**: only a visit sends one. -/
inductive Delivers (s : Sockets) : SocketEvent → Sockets → Prop
  | price {price : String} {s' : Sockets} (hbefore : s.broadcast = none)
      (hafter : s'.broadcast = some (price, .start s.registry)) (hprices : s'.prices = s.prices) :
      Delivers s (.price price) s'
  | visit {price : String} {key : Key} {n : Nat} {fails : Bool} {walk walk' : Range Key Nat}
      {s' : Sockets}
      (hbefore : s.broadcast = some (price, walk)) (hoffered : (key, n) ∈ walk.offered)
      (hnew : key ∉ walk.visited.map Prod.fst) (hafter : s'.broadcast = some (price, walk'))
      (hvisited : walk'.visited = walk.visited ++ [(key, n)]) (hdue : walk'.due = walk.due)
      (hsame : walk'.offered = walk.offered)
      (hprices : ∀ m, s'.prices m = s.prices m ++ if n = m then [price] else []) :
      Delivers s (.visit key n fails) s'
  | finish {price : String} {walk : Range Key Nat} {s' : Sockets}
      (hbefore : s.broadcast = some (price, walk)) (hfinished : walk.finished = true)
      (hafter : s'.broadcast = none) (hprices : s'.prices = s.prices) : Delivers s .finish s'
  | other {e : SocketEvent} {s' : Sockets} (htaken : e.taken = []) (hwalk : GoesOn s s')
      (hprices : s'.prices = s.prices) : Delivers s e s'

theorem SocketStep.delivers {e : SocketEvent} (h : SocketStep userPingPongDurTime s e s') :
    Delivers s e s' := by
  cases e with
  | newPrice n id now =>
      obtain ⟨-, rfl⟩ := h.newPrice
      exact .other rfl (.same rfl) rfl
  | register n =>
      obtain ⟨server, -, -, rfl⟩ := h.register
      exact .other rfl (.map (fun walk => .stored _ walk _ _) rfl) rfl
  | read n message now fails =>
      obtain ⟨server, -, rfl | rfl⟩ := h.read
      · exact .other rfl (.same rfl) rfl
      · refine .other rfl (.same rfl) ?_
        funext m
        exact Sockets.prices_other (by decide)
  | readError n =>
      obtain ⟨server, -, rfl⟩ := h.readError
      exact .other rfl (.same rfl) rfl
  | receive n =>
      -- an entry may be deleted that the walk has not come to
      obtain ⟨server, -, -, rfl⟩ := h.receive
      exact .other rfl (.map (fun walk => .deleted _ walk _) rfl) rfl
  | check n now fails =>
      obtain ⟨server, -, -, ⟨-, rfl⟩ | ⟨-, rfl⟩⟩ := h.check
      · exact .other rfl (.same rfl) rfl
      -- `heartbeat timeout` is sent, which is no price
      · refine .other rfl (.map (fun walk => .deleted _ walk _) rfl) ?_
        funext m
        show (s.sendToClient n "heartbeat timeout" errorCode fails).prices m = s.prices m
        exact Sockets.prices_other (by decide)
  | price price =>
      obtain ⟨hbefore, rfl⟩ := h.price
      exact .price hbefore rfl rfl
  | visit key n fails =>
      obtain ⟨price, walk, walk', hbefore, hvisit, rfl⟩ := h.visit
      obtain ⟨hoffered, hsame, hdue, hvisited⟩ := Range.visit_eq_some hvisit
      refine .visit hbefore hoffered (Range.visit_new hvisit) rfl hvisited hdue hsame ?_
      intro m
      exact Sockets.prices_success
  | finish =>
      obtain ⟨price, walk, hbefore, hfinished, rfl⟩ := h.finish
      exact .finish hbefore hfinished rfl rfl

end Prices

/-! ## What is written

`SendToClient` logs an error of `WriteMessage` and goes on. So what is written is some of what was
to be sent, and all of it while no write fails and the socket is open. `ReadAndWrite` closes the
socket when it returns, and nothing opens it again. -/

section Written

variable {userPingPongDurTime : Int} {s s' : Sockets} {n : Nat} {es : List SocketEvent}

/-- **What a step writes to a socket**: the price of a visit, unless the write fails or the socket is
closed. -/
theorem SocketStep.writes {e : SocketEvent} (h : SocketStep userPingPongDurTime s e s') (n : Nat) :
    (s'.prices n = s.prices n ∧ s'.writtenPrices n = s.writtenPrices n) ∨
      ∃ key price fails, e = .visit key n fails ∧ s'.prices n = s.prices n ++ [price] ∧
        s'.writtenPrices n =
          s.writtenPrices n ++ if (fails || s.closed n) = false then [price] else [] := by
  cases e with
  | newPrice m id now =>
      obtain ⟨-, rfl⟩ := h.newPrice
      exact .inl ⟨rfl, rfl⟩
  | register m =>
      obtain ⟨server, -, -, rfl⟩ := h.register
      exact .inl ⟨rfl, rfl⟩
  | read m message now fails =>
      obtain ⟨server, -, rfl | rfl⟩ := h.read
      · exact .inl ⟨rfl, rfl⟩
      · have hcode : pongCode ≠ successCode := by decide
        exact .inl ⟨Sockets.prices_other hcode, Sockets.writtenPrices_other hcode⟩
  | readError m =>
      obtain ⟨server, -, rfl⟩ := h.readError
      exact .inl ⟨rfl, rfl⟩
  | receive m =>
      obtain ⟨server, -, -, rfl⟩ := h.receive
      exact .inl ⟨rfl, rfl⟩
  | check m now fails =>
      obtain ⟨server, -, -, ⟨-, rfl⟩ | ⟨-, rfl⟩⟩ := h.check
      · exact .inl ⟨rfl, rfl⟩
      · have hcode : errorCode ≠ successCode := by decide
        left
        constructor
        · show (s.sendToClient m "heartbeat timeout" errorCode fails).prices n = s.prices n
          exact Sockets.prices_other hcode
        · show (s.sendToClient m "heartbeat timeout" errorCode fails).writtenPrices n = _
          exact Sockets.writtenPrices_other hcode
  | price price =>
      obtain ⟨-, rfl⟩ := h.price
      exact .inl ⟨rfl, rfl⟩
  | visit key m fails =>
      obtain ⟨price, walk, walk', -, -, rfl⟩ := h.visit
      -- the only step that sends a price, and only to the server that it visits
      rw [Sockets.prices_success, Sockets.writtenPrices_success]
      by_cases heq : m = n
      · subst heq
        right
        refine ⟨key, price, fails, rfl, by rw [if_pos rfl]; rfl, ?_⟩
        simp only [true_and]
        rfl
      · left
        simp only [heq, if_false, false_and, List.append_nil]
        exact ⟨rfl, rfl⟩
  | finish =>
      obtain ⟨price, walk, -, -, rfl⟩ := h.finish
      exact .inl ⟨rfl, rfl⟩

/-- What is written is some of what was to be sent, in its order. -/
theorem run_written (hrun : Run (SocketStep userPingPongDurTime) {} es s) (n : Nat) :
    (s.writtenPrices n).Sublist (s.prices n) := by
  induction hrun with
  | start => exact .slnil
  | step _ hs ih =>
      rcases hs.writes n with ⟨hprices, hwritten⟩ | ⟨key, price, fails, -, hprices, hwritten⟩
      · rwa [hprices, hwritten]
      · rw [hprices, hwritten]
        apply ih.append
        split
        · exact .refl _
        · exact List.nil_sublist _

theorem Sockets.closed_iff :
    s.closed n = true ↔ ∃ server, s.servers n = some server ∧ server.phase = .returned := by
  unfold Sockets.closed
  cases s.servers n with
  | none => simp
  | some server => simp

/-- A socket stays closed when a server takes the place of itself. -/
theorem Sockets.closed_set {m : Nat} {server server' : Server} (hclosed : s.closed n = true)
    (hserver : s.servers m = some server)
    (hphase : server.phase = .returned → server'.phase = .returned) :
    (s.set m server').closed n = true := by
  obtain ⟨old, hold, hreturned⟩ := Sockets.closed_iff.mp hclosed
  rw [Sockets.closed_iff]
  by_cases heq : n = m
  · subst heq
    obtain rfl := Option.some.inj (hserver.symm.trans hold)
    exact ⟨server', by rw [Sockets.set_servers, if_pos rfl], hphase hreturned⟩
  · exact ⟨old, by rw [Sockets.set_servers, if_neg heq]; exact hold, hreturned⟩

/-- A closed socket stays closed. -/
theorem SocketStep.closed {e : SocketEvent} (h : SocketStep userPingPongDurTime s e s')
    (hclosed : s.closed n = true) : s'.closed n = true := by
  cases e with
  | newPrice m id now =>
      obtain ⟨hnone, rfl⟩ := h.newPrice
      obtain ⟨old, hold, hreturned⟩ := Sockets.closed_iff.mp hclosed
      have hne : n ≠ m := by
        rintro rfl
        rw [hnone] at hold
        cases hold
      rw [Sockets.closed_iff]
      exact ⟨old, by rw [Sockets.set_servers, if_neg hne]; exact hold, hreturned⟩
  | register m =>
      obtain ⟨server, hserver, hmade, rfl⟩ := h.register
      refine Sockets.closed_set (s := s.store _ _) hclosed hserver fun hreturned => ?_
      -- who has returned does not register
      rw [hmade] at hreturned
      cases hreturned
  | read m message now fails =>
      obtain ⟨server, hserver, rfl | rfl⟩ := h.read
      · exact hclosed
      · exact Sockets.closed_set hclosed hserver id
  | readError m =>
      obtain ⟨server, hserver, rfl⟩ := h.readError
      exact Sockets.closed_set hclosed hserver id
  | receive m =>
      obtain ⟨server, hserver, -, rfl⟩ := h.receive
      exact Sockets.closed_set (s := s.delete _) hclosed hserver fun _ => rfl
  | check m now fails =>
      obtain ⟨server, hserver, -, ⟨-, rfl⟩ | ⟨-, rfl⟩⟩ := h.check
      · exact hclosed
      · exact Sockets.closed_set (s := (s.sendToClient ..).delete _) hclosed hserver fun _ => rfl
  | price price =>
      obtain ⟨-, rfl⟩ := h.price
      exact hclosed
  | visit key m fails =>
      obtain ⟨price, walk, walk', -, -, rfl⟩ := h.visit
      exact hclosed
  | finish =>
      obtain ⟨price, walk, -, -, rfl⟩ := h.finish
      exact hclosed

/-- **Nothing is written to a closed socket.** -/
theorem written_closed (hclosed : s.closed n = true)
    (hrun : Run (SocketStep userPingPongDurTime) s es s') :
    s'.writtenPrices n = s.writtenPrices n := by
  suffices hboth : s'.closed n = true ∧ s'.writtenPrices n = s.writtenPrices n from hboth.2
  induction hrun with
  | start => exact ⟨hclosed, rfl⟩
  | step _ hs ih =>
      refine ⟨hs.closed ih.1, ?_⟩
      rcases hs.writes n with ⟨-, hwritten⟩ | ⟨key, price, fails, -, -, hwritten⟩
      · rw [hwritten, ih.2]
      · rw [hwritten, ih.1, ih.2, Bool.or_true, if_neg (by decide), List.append_nil]

/-- **While the socket is open and no write fails, everything is written.** -/
theorem written_all (hall : s.writtenPrices n = s.prices n)
    (hrun : Run (SocketStep userPingPongDurTime) s es s') (hwrites : ∀ key, .visit key n true ∉ es)
    (hopen : s'.closed n = false) : s'.writtenPrices n = s'.prices n := by
  induction hrun with
  | start => exact hall
  | @step es s₁ s₂ e _ hs ih =>
      -- what is open now was open before
      have hbefore : s₁.closed n = false := by
        by_contra hclosed
        rw [hs.closed (eq_true_of_ne_false hclosed)] at hopen
        cases hopen
      have hsame := ih (fun key hmem => hwrites key (List.mem_append_left _ hmem)) hbefore
      rcases hs.writes n with ⟨hprices, hwritten⟩ | ⟨key, price, fails, rfl, hprices, hwritten⟩
      · rw [hprices, hwritten, hsame]
      · have hfails : fails = false := by
          by_contra hfails
          obtain rfl := eq_true_of_ne_false hfails
          exact hwrites key (List.mem_append_right _ (List.mem_singleton.mpr rfl))
        rw [hprices, hwritten, hsame, hfails, hbefore]
        rfl

end Written

/-! ## Who has which key

A server is stored under its id, and the id is set once, by `NewPrice`. The registry may forget a
server when another takes its id, but it never has it under two keys. -/

/-- The server is registered under this key, and has not been made anew. -/
def Sockets.HasKey (s : Sockets) (n : Nat) (key : Key) : Prop :=
  ∃ server, s.servers n = some server ∧ server.phase ≠ .made ∧ key = .id server.id

/-- What is in the registry, or was offered to a walk, is there under the id of its server. -/
structure Keyed (s : Sockets) : Prop where
  registry : ∀ key n, (key, n) ∈ s.registry.entries → s.HasKey n key
  offered : ∀ price walk, s.broadcast = some (price, walk) →
    ∀ key n, (key, n) ∈ walk.offered → s.HasKey n key

section Keys

variable {userPingPongDurTime : Int} {s s' : Sockets} {n m : Nat} {key key' : Key}
  {server server' : Server}

theorem Sockets.HasKey.unique (h : s.HasKey n key) (h' : s.HasKey n key') : key = key' := by
  obtain ⟨server, hserver, -, rfl⟩ := h
  obtain ⟨server', hserver', -, rfl⟩ := h'
  obtain rfl := Option.some.inj (hserver.symm.trans hserver')
  rfl

/-- A server keeps its key when a server takes the place of itself. -/
theorem Sockets.HasKey.set (h : s.HasKey n key) (hserver : s.servers m = some server)
    (hid : server'.id = server.id) (hphase : server.phase ≠ .made → server'.phase ≠ .made) :
    (s.set m server').HasKey n key := by
  obtain ⟨server₁, hserver₁, hmade, rfl⟩ := h
  by_cases heq : n = m
  · subst heq
    obtain rfl := Option.some.inj (hserver.symm.trans hserver₁)
    exact ⟨server', by rw [Sockets.set_servers, if_pos rfl], hphase hmade, by rw [hid]⟩
  · exact ⟨server₁, by rw [Sockets.set_servers, if_neg heq]; exact hserver₁, hmade, rfl⟩

theorem Sockets.HasKey.step {e : SocketEvent} (h : s.HasKey n key)
    (hstep : SocketStep userPingPongDurTime s e s') : s'.HasKey n key := by
  cases e with
  | newPrice m id now =>
      obtain ⟨hnone, rfl⟩ := hstep.newPrice
      obtain ⟨server, hserver, hmade, rfl⟩ := h
      have hne : n ≠ m := by
        rintro rfl
        rw [hnone] at hserver
        cases hserver
      exact ⟨server, by rw [Sockets.set_servers, if_neg hne]; exact hserver, hmade, rfl⟩
  | register m =>
      obtain ⟨server, hserver, -, rfl⟩ := hstep.register
      exact h.set (m := m) hserver rfl fun _ => nofun
  | read m message now fails =>
      obtain ⟨server, hserver, rfl | rfl⟩ := hstep.read
      · exact h
      · exact h.set hserver rfl id
  | readError m =>
      obtain ⟨server, hserver, rfl⟩ := hstep.readError
      exact h.set hserver rfl id
  | receive m =>
      obtain ⟨server, hserver, -, rfl⟩ := hstep.receive
      exact h.set (m := m) hserver rfl fun _ => nofun
  | check m now fails =>
      obtain ⟨server, hserver, -, ⟨-, rfl⟩ | ⟨-, rfl⟩⟩ := hstep.check
      · exact h
      · exact h.set (m := m) hserver rfl fun _ => nofun
  | price price =>
      obtain ⟨-, rfl⟩ := hstep.price
      exact h
  | visit key m fails =>
      obtain ⟨price, walk, walk', -, -, rfl⟩ := hstep.visit
      exact h
  | finish =>
      obtain ⟨price, walk, -, -, rfl⟩ := hstep.finish
      exact h

/-- What is in the registry after a step was there, or is what the step registers. -/
theorem SocketStep.registered {e : SocketEvent} (h : SocketStep userPingPongDurTime s e s')
    (hmem : (key, n) ∈ s'.registry.entries) :
    (key, n) ∈ s.registry.entries ∨ e = .register n ∧ s'.HasKey n key := by
  -- an entry is new only in the step that stores it
  cases e with
  | newPrice m id now =>
      obtain ⟨-, rfl⟩ := h.newPrice
      exact .inl hmem
  | register m =>
      obtain ⟨server, hserver, -, rfl⟩ := h.register
      rcases SyncMap.mem_store.mp hmem with ⟨hold, -⟩ | hnew
      · exact .inl hold
      · obtain ⟨rfl, rfl⟩ := Prod.mk.inj hnew
        refine .inr ⟨rfl, { server with phase := .serving }, ?_, nofun, rfl⟩
        rw [Sockets.set_servers, if_pos rfl]
  | read m message now fails =>
      obtain ⟨server, -, rfl | rfl⟩ := h.read
      · exact .inl hmem
      · exact .inl hmem
  | readError m =>
      obtain ⟨server, -, rfl⟩ := h.readError
      exact .inl hmem
  | receive m =>
      obtain ⟨server, -, -, rfl⟩ := h.receive
      exact .inl (SyncMap.mem_delete.mp hmem).1
  | check m now fails =>
      obtain ⟨server, -, -, ⟨-, rfl⟩ | ⟨-, rfl⟩⟩ := h.check
      · exact .inl hmem
      · exact .inl (SyncMap.mem_delete.mp hmem).1
  | price price =>
      obtain ⟨-, rfl⟩ := h.price
      exact .inl hmem
  | visit key m fails =>
      obtain ⟨price, walk, walk', -, -, rfl⟩ := h.visit
      exact .inl hmem
  | finish =>
      obtain ⟨price, walk, -, -, rfl⟩ := h.finish
      exact .inl hmem

theorem Keyed.start : Keyed {} where
  registry := by
    intro key n hmem
    cases hmem
  offered := by
    intro price walk hbroadcast
    cases hbroadcast

/-- A step keeps every entry under the id of its server, in the registry and before the walk. -/
theorem Keyed.step {e : SocketEvent} (h : Keyed s) (hstep : SocketStep userPingPongDurTime s e s') :
    Keyed s' := by
  have hregistry (key : Key) (n : Nat) (hmem : (key, n) ∈ s'.registry.entries) : s'.HasKey n key := by
    rcases hstep.registered hmem with hold | ⟨-, hnew⟩
    · exact (h.registry key n hold).step hstep
    · exact hnew
  refine ⟨hregistry, ?_⟩
  intro price walk' hbroadcast key n hmem
  cases hstep.delivers with
  | price hbefore hafter =>
      obtain ⟨rfl, rfl⟩ := Prod.mk.inj (Option.some.inj (hafter.symm.trans hbroadcast))
      exact (h.registry key n hmem).step hstep
  | visit hbefore hoffered hnew hafter hvisited hdue hsame =>
      obtain ⟨rfl, rfl⟩ := Prod.mk.inj (Option.some.inj (hafter.symm.trans hbroadcast))
      rw [hsame] at hmem
      exact (h.offered _ _ hbefore key n hmem).step hstep
  | finish hbefore hfinished hafter =>
      rw [hafter] at hbroadcast
      cases hbroadcast
  | other htaken hwalk =>
      rcases hwalk with ⟨-, hnone⟩ | ⟨price, walk, walk₁, hbefore, hafter, hsame⟩
      · rw [hnone] at hbroadcast
        cases hbroadcast
      · obtain ⟨rfl, rfl⟩ := Prod.mk.inj (Option.some.inj (hafter.symm.trans hbroadcast))
        rcases hsame.offered _ hmem with hold | hnew
        · exact (h.offered _ _ hbefore key n hold).step hstep
        · exact hregistry key n hnew

end Keys

/-! ## In the order of the ticker

When a walk is under way, its price is the last one taken, and who has not been visited has been
sent prices from before it. A visit then puts the price behind them, so the order is kept; and a
server is visited once in a walk, since it has one key. -/

/-- Each server has been sent some of the prices so far in their order, and the last one only when
the walk has visited it. -/
structure InOrder (taken : List String) (s : Sockets) : Prop where
  keyed : Keyed s
  sent : ∀ n, (s.prices n).Sublist taken
  underway : ∀ price walk, s.broadcast = some (price, walk) → ∃ before, taken = before ++ [price] ∧
    ∀ n, n ∉ walk.visited.map Prod.snd → (s.prices n).Sublist before

/-- A walk does not come to a server again, since a server has one key. -/
theorem Keyed.not_visited {s : Sockets} {price : String} {walk : Range Key Nat} {key : Key} {n : Nat}
    (h : Keyed s) (hbroadcast : s.broadcast = some (price, walk)) (hoffered : (key, n) ∈ walk.offered)
    (hnew : key ∉ walk.visited.map Prod.fst) : n ∉ walk.visited.map Prod.snd := by
  intro hmem
  obtain ⟨⟨key', m⟩, hvisited, heq⟩ := List.mem_map.mp hmem
  obtain rfl : m = n := heq
  have hkey' := h.offered price walk hbroadcast key' m (walk.visited_offered _ hvisited)
  have hsame := hkey'.unique (h.offered price walk hbroadcast key m hoffered)
  exact hnew (List.mem_map.mpr ⟨(key', m), hvisited, hsame⟩)

theorem InOrder.step {userPingPongDurTime : Int} {taken : List String} {s s' : Sockets}
    {e : SocketEvent} (h : InOrder taken s) (hstep : SocketStep userPingPongDurTime s e s') :
    InOrder (taken ++ e.taken) s' := by
  refine ⟨h.keyed.step hstep, ?_, ?_⟩
  · intro n
    cases hstep.delivers with
    | price hbefore hafter hprices =>
        rw [hprices]
        exact (h.sent n).trans (List.sublist_append_left ..)
    | visit hbefore hoffered hnew hafter hvisited hdue hsame hprices =>
        obtain ⟨before, rfl, hbefore'⟩ := h.underway _ _ hbefore
        rw [hprices]
        -- the price of the walk is the last one taken, and this server has not been sent it
        show (s.prices n ++ _).Sublist (before ++ [_] ++ [])
        rw [List.append_nil]
        split
        · next heq =>
            subst heq
            have hunsent := hbefore' _ (h.keyed.not_visited hbefore hoffered hnew)
            exact hunsent.append_right _
        · rw [List.append_nil]
          exact h.sent n
    | finish hbefore hfinished hafter hprices =>
        rw [hprices]
        exact (h.sent n).trans (List.sublist_append_left ..)
    | other htaken hwalk hprices =>
        rw [hprices, htaken, List.append_nil]
        exact h.sent n
  · intro price walk' hbroadcast
    cases hstep.delivers with
    | price hbefore hafter hprices =>
        obtain ⟨rfl, rfl⟩ := Prod.mk.inj (Option.some.inj (hafter.symm.trans hbroadcast))
        -- nobody has been sent the new price
        refine ⟨taken, rfl, ?_⟩
        intro n _
        rw [hprices]
        exact h.sent n
    | visit hbefore hoffered hnew hafter hvisited hdue hsame hprices =>
        obtain ⟨rfl, rfl⟩ := Prod.mk.inj (Option.some.inj (hafter.symm.trans hbroadcast))
        obtain ⟨before, rfl, hbefore'⟩ := h.underway _ _ hbefore
        refine ⟨before, List.append_nil _, ?_⟩
        intro n hout
        rw [hvisited, List.map_append, List.mem_append, not_or, List.map_singleton,
          List.mem_singleton] at hout
        rw [hprices, if_neg (Ne.symm hout.2), List.append_nil]
        exact hbefore' n hout.1
    | finish hbefore hfinished hafter hprices =>
        rw [hafter] at hbroadcast
        cases hbroadcast
    | other htaken hwalk hprices =>
        rw [htaken, List.append_nil, hprices]
        rcases hwalk with ⟨-, hnone⟩ | ⟨price', walk, walk₁, hbefore, hafter, hsame⟩
        · rw [hnone] at hbroadcast
          cases hbroadcast
        · obtain ⟨rfl, rfl⟩ := Prod.mk.inj (Option.some.inj (hafter.symm.trans hbroadcast))
          rw [hsame.visited]
          exact h.underway _ _ hbefore

/-- **In every run, each server is sent prices in the order of the channel, each at most once.** -/
theorem run_inOrder {userPingPongDurTime : Int} {es : List SocketEvent} {s : Sockets}
    (hrun : Run (SocketStep userPingPongDurTime) {} es s) : InOrder (es.flatMap SocketEvent.taken) s := by
  induction hrun with
  | start =>
      refine ⟨.start, fun _ => .slnil, ?_⟩
      intro price walk hbroadcast
      cases hbroadcast
  | step _ hs ih =>
      rw [List.flatMap_append, List.flatMap_singleton]
      exact ih.step hs

/-! ## Nothing missed

An entry of the registry goes only when its key is stored again, since what `ReadAndWrite` deletes
at its end is a pointer, which is no key. When no id is used twice, a server that has come is
therefore due in every walk that begins after it, and a walk ends only when what was due has been
visited. A price that was under way when the server came may still reach it or not, as
`sync.Map.Range` pleases; `early` is there for this one. -/

/-- The id of a server that is registered is not in the registry yet. -/
def FreshId (s : Sockets) (e : SocketEvent) : Prop :=
  ∀ n server, e = .register n → s.servers n = some server →
    ∀ m, (Key.id server.id, m) ∉ s.registry.entries

/-- The steps in which no id is used again. -/
abbrev FreshStep (userPingPongDurTime : Int) : Sockets → SocketEvent → Sockets → Prop :=
  Restrict (SocketStep userPingPongDurTime) fun s e _ => FreshId s e

/-- Whoever has a key is in the registry, and only they have been sent prices. -/
structure Listed (s : Sockets) : Prop where
  keyed : Keyed s
  kept : ∀ n key, s.HasKey n key → (key, n) ∈ s.registry.entries
  unsent : ∀ n, (∀ key, ¬ s.HasKey n key) → s.prices n = []

/-- The price of the walk that is under way. -/
def Sockets.current (s : Sockets) : List String := (s.broadcast.map Prod.fst).toList

/-- Since a server came, when the prices `early` were under way, the prices `since` have begun, and
it has been sent all of them, perhaps with `early` before. While a walk is under way, it has not
been sent the last one before it is visited, and it will be, unless it has come during the walk. -/
structure Follows (n : Nat) (key : Key) (early since : List String) (s : Sockets) : Prop where
  hasKey : s.HasKey n key
  idle : s.broadcast = none → ∃ first, first.IsSuffix early ∧ s.prices n = first ++ since
  visited : ∀ price walk, s.broadcast = some (price, walk) → key ∈ walk.visited.map Prod.fst →
    ∃ first, first.IsSuffix early ∧ s.prices n = first ++ since
  missing : ∀ price walk, s.broadcast = some (price, walk) → key ∉ walk.visited.map Prod.fst →
    (early = [price] ∧ since = [] ∧ s.prices n = []) ∨
      key ∈ walk.due ∧ ∃ first before, first.IsSuffix early ∧ since = before ++ [price] ∧
        s.prices n = first ++ before

section Follows

variable {userPingPongDurTime : Int} {early since : List String} {s s' : Sockets} {n m : Nat}
  {key : Key} {server server' : Server}

theorem Sockets.HasKey.of_set (h : (s.set m server').HasKey n key) (hserver : s.servers m = some server)
    (hid : server'.id = server.id) (hphase : server'.phase ≠ .made → server.phase ≠ .made) :
    s.HasKey n key := by
  obtain ⟨server₁, hserver₁, hmade, rfl⟩ := h
  rw [Sockets.set_servers] at hserver₁
  split at hserver₁
  · next heq =>
      subst heq
      obtain rfl := Option.some.inj hserver₁
      exact ⟨server, hserver, hphase hmade, by rw [hid]⟩
  · exact ⟨server₁, hserver₁, hmade, rfl⟩

/-- Whoever has a key stays in the registry, as long as no id is used again. -/
theorem SocketStep.kept {e : SocketEvent} (h : SocketStep userPingPongDurTime s e s')
    (hfresh : FreshId s e) (hkept : ∀ n key, s.HasKey n key → (key, n) ∈ s.registry.entries)
    (hkey : s'.HasKey n key) : (key, n) ∈ s'.registry.entries := by
  -- a pointer is no id
  have hdelete (m : Nat) (hold : s.HasKey n key) :
      (key, n) ∈ (s.registry.delete (.pointer m)).entries := by
    refine SyncMap.mem_delete.mpr ⟨hkept n key hold, ?_⟩
    obtain ⟨server, -, -, rfl⟩ := hold
    exact nofun
  cases e with
  | newPrice m id now =>
      obtain ⟨hnone, rfl⟩ := h.newPrice
      obtain ⟨server₁, hserver₁, hmade₁, rfl⟩ := hkey
      rw [Sockets.set_servers] at hserver₁
      split at hserver₁
      · obtain rfl := Option.some.inj hserver₁
        exact absurd rfl hmade₁
      · exact hkept n _ ⟨server₁, hserver₁, hmade₁, rfl⟩
  | register m =>
      -- an entry is overwritten only by one with its id
      obtain ⟨server, hserver, -, rfl⟩ := h.register
      apply SyncMap.mem_store.mpr
      obtain ⟨server₁, hserver₁, hmade₁, rfl⟩ := hkey
      rw [Sockets.set_servers] at hserver₁
      split at hserver₁
      · next heq =>
          subst heq
          obtain rfl := Option.some.inj hserver₁
          exact .inr rfl
      · have hold := hkept n _ ⟨server₁, hserver₁, hmade₁, rfl⟩
        refine .inl ⟨hold, ?_⟩
        intro hsame
        rw [show (Key.id server₁.id) = .id server.id from hsame] at hold
        exact hfresh m server rfl hserver n hold
  | read m message now fails =>
      obtain ⟨server, hserver, rfl | rfl⟩ := h.read
      · exact hkept n key hkey
      · exact hkept n key (hkey.of_set hserver rfl id)
  | readError m =>
      obtain ⟨server, hserver, rfl⟩ := h.readError
      exact hkept n key (hkey.of_set hserver rfl id)
  | receive m =>
      obtain ⟨server, hserver, hserving, rfl⟩ := h.receive
      refine hdelete m (Sockets.HasKey.of_set (m := m) hkey hserver rfl fun _ => ?_)
      rw [hserving]
      exact nofun
  | check m now fails =>
      obtain ⟨server, hserver, hserving, ⟨-, rfl⟩ | ⟨-, rfl⟩⟩ := h.check
      · exact hkept n key hkey
      · refine hdelete m (Sockets.HasKey.of_set (m := m) hkey hserver rfl fun _ => ?_)
        rw [hserving]
        exact nofun
  | price price =>
      obtain ⟨-, rfl⟩ := h.price
      exact hkept n key hkey
  | visit key' m fails =>
      obtain ⟨price, walk, walk', -, -, rfl⟩ := h.visit
      exact hkept n key hkey
  | finish =>
      obtain ⟨price, walk, -, -, rfl⟩ := h.finish
      exact hkept n key hkey

/-- With fresh ids, who has a key stays listed, and who has none is not sent anything. -/
theorem Listed.step {e : SocketEvent} (h : Listed s) (hstep : FreshStep userPingPongDurTime s e s') :
    Listed s' := by
  obtain ⟨hstep, hfresh⟩ := hstep
  refine ⟨h.keyed.step hstep, fun n key => hstep.kept hfresh h.kept, ?_⟩
  intro n hnone
  have hunsent : s.prices n = [] := h.unsent n fun key hkey => hnone key (hkey.step hstep)
  cases hstep.delivers with
  | price hbefore hafter hprices => rw [hprices, hunsent]
  -- who is visited has a key
  | @visit _ key₀ m _ _ _ _ hbefore hoffered hnew hafter hvisited hdue hsame hprices =>
      have hne : m ≠ n := by
        rintro rfl
        exact hnone key₀ ((h.keyed.offered _ _ hbefore _ _ hoffered).step hstep)
      rw [hprices, if_neg hne, hunsent]
      rfl
  | finish hbefore hfinished hafter hprices => rw [hprices, hunsent]
  | other htaken hgoes hprices => rw [hprices, hunsent]

theorem run_listed {es : List SocketEvent} (hrun : Run (FreshStep userPingPongDurTime) {} es s) :
    Listed s := by
  induction hrun with
  | start =>
      refine ⟨.start, ?_, fun _ _ => rfl⟩
      rintro n key ⟨server, hserver, -⟩
      cases hserver
  | step _ hs ih => exact ih.step hs

/-- A server that comes has been sent nothing. -/
theorem Listed.register_unsent (h : Listed s)
    (hstep : SocketStep userPingPongDurTime s (.register n) s') : s'.prices n = [] := by
  obtain ⟨server, hserver, hmade, rfl⟩ := hstep.register
  show s.prices n = []
  apply h.unsent
  rintro key ⟨server', hserver', hnot, -⟩
  obtain rfl := Option.some.inj (hserver.symm.trans hserver')
  exact hnot hmade

/-- A server comes. -/
theorem Follows.register (h : Listed s) (hstep : SocketStep userPingPongDurTime s (.register n) s') :
    ∃ key, Follows n key s.current [] s' := by
  have hunsent := h.register_unsent hstep
  obtain ⟨server, hserver, hmade, rfl⟩ := hstep.register
  have hnothing : ∃ first, first.IsSuffix s.current ∧ s.prices n = first ++ [] :=
    ⟨[], List.nil_suffix, hunsent⟩
  have hkey : ((s.store (.id server.id) n).set n { server with phase := .serving }).HasKey n
      (.id server.id) := by
    refine ⟨{ server with phase := .serving }, ?_, nofun, rfl⟩
    rw [Sockets.set_servers, if_pos rfl]
  -- whether the price that is under way reaches it is left open
  refine ⟨.id server.id, hkey, fun _ => hnothing, fun _ _ _ _ => hnothing, ?_⟩
  intro price walk hbroadcast _
  obtain ⟨b, hb, heq⟩ := Option.map_eq_some_iff.mp hbroadcast
  refine .inl ⟨?_, rfl, hunsent⟩
  rw [Sockets.current, hb]
  show [b.1] = [price]
  rw [congrArg Prod.fst heq]

/-- Between two walks. -/
theorem Follows.of_idle (hkey : s.HasKey n key) (hnone : s.broadcast = none)
    (hsent : ∃ first, first.IsSuffix early ∧ s.prices n = first ++ since) :
    Follows n key early since s := by
  refine ⟨hkey, fun _ => hsent, ?_, ?_⟩
  all_goals
    intro price walk hbroadcast
    rw [hnone] at hbroadcast
    cases hbroadcast

/-- During a walk. -/
theorem Follows.of_walk {price : String} {walk : Range Key Nat} (hkey : s.HasKey n key)
    (hwalk : s.broadcast = some (price, walk))
    (hvisited : key ∈ walk.visited.map Prod.fst →
      ∃ first, first.IsSuffix early ∧ s.prices n = first ++ since)
    (hmissing : key ∉ walk.visited.map Prod.fst →
      (early = [price] ∧ since = [] ∧ s.prices n = []) ∨
        key ∈ walk.due ∧ ∃ first before, first.IsSuffix early ∧ since = before ++ [price] ∧
          s.prices n = first ++ before) : Follows n key early since s := by
  have hnow {price' : String} {walk' : Range Key Nat} (h : s.broadcast = some (price', walk')) :
      price = price' ∧ walk = walk' := Prod.mk.inj (Option.some.inj (hwalk.symm.trans h))
  refine ⟨hkey, ?_, ?_, ?_⟩
  · intro hnone
    rw [hwalk] at hnone
    cases hnone
  · intro price' walk' hbroadcast
    obtain ⟨rfl, rfl⟩ := hnow hbroadcast
    exact hvisited
  · intro price' walk' hbroadcast
    obtain ⟨rfl, rfl⟩ := hnow hbroadcast
    exact hmissing

/-- **What a step does to a server that has come.** -/
theorem Follows.step {e : SocketEvent} (h : Follows n key early since s) (hlisted : Listed s)
    (hstep : SocketStep userPingPongDurTime s e s') :
    Follows n key early (since ++ e.taken) s' := by
  have hkey := h.hasKey.step hstep
  cases hstep.delivers with
  | price hbefore hafter hprices =>
      -- the new price is still to be sent, and the server is due since it is in the registry
      refine .of_walk hkey hafter (fun hvisited => absurd hvisited List.not_mem_nil) ?_
      intro _
      obtain ⟨first, hfirst, hsent⟩ := h.idle hbefore
      rw [hprices]
      exact .inr ⟨List.mem_map_of_mem (hlisted.kept n key h.hasKey), first, since, hfirst, rfl, hsent⟩
  | @visit price key₀ m fails walk₀ walk₁ _ hbefore hoffered hnew hafter hvisited hdue hsame hprices =>
      have hkey₀ := hlisted.keyed.offered _ _ hbefore _ _ hoffered
      show Follows n key early (since ++ []) s'
      rw [List.append_nil]
      by_cases heq : m = n
      · -- it is visited now, and gets what it was missing
        subst heq
        obtain rfl := h.hasKey.unique hkey₀
        refine .of_walk hkey hafter ?_ ?_
        · intro _
          rw [hprices, if_pos rfl]
          rcases h.missing _ _ hbefore hnew with
            ⟨rfl, rfl, hnone⟩ | ⟨-, first, before, hfirst, rfl, hsent⟩
          · exact ⟨[price], List.suffix_rfl, by rw [hnone, List.append_nil]; rfl⟩
          · exact ⟨first, hfirst, by rw [hsent, List.append_assoc]⟩
        · intro hmissing
          rw [hvisited, List.map_append] at hmissing
          exact absurd (List.mem_append_right _ (List.mem_singleton.mpr rfl)) hmissing
      · -- another server has another key, so nothing changes for this one
        have hne : key ≠ key₀ := by
          rintro rfl
          exact heq (SyncMap.value_unique (hlisted.kept m _ hkey₀) (hlisted.kept n _ h.hasKey))
        have hmem : key ∈ walk₁.visited.map Prod.fst ↔ key ∈ walk₀.visited.map Prod.fst := by
          rw [hvisited, List.map_append, List.mem_append, List.map_singleton, List.mem_singleton,
            or_iff_left hne]
        refine .of_walk hkey hafter ?_ ?_
        all_goals rw [hmem, hprices, if_neg heq, List.append_nil]
        · exact h.visited _ _ hbefore
        · rw [hdue]
          exact h.missing _ _ hbefore
  | @finish price walk _ hbefore hfinished hafter hprices =>
      show Follows n key early (since ++ []) s'
      rw [List.append_nil]
      refine .of_idle hkey hafter ?_
      rw [hprices]
      by_cases hvisited : key ∈ walk.visited.map Prod.fst
      · exact h.visited _ _ hbefore hvisited
      · rcases h.missing _ _ hbefore hvisited with ⟨rfl, rfl, hnone⟩ | ⟨hdue, -⟩
        · exact ⟨[], List.nil_suffix, hnone⟩
        · -- what was due has been visited
          obtain ⟨m, hm⟩ := Range.visited_of_finished hfinished hdue
          exact absurd (List.mem_map_of_mem hm) hvisited
  | other htaken hgoes hprices =>
      rw [htaken, List.append_nil]
      rcases hgoes with ⟨hbefore, hnone⟩ | ⟨price, walk, walk', hbefore, hafter, hsame⟩
      · refine .of_idle hkey hnone ?_
        rw [hprices]
        exact h.idle hbefore
      · -- the walk is as far as it was, and the id of the server is due as before
        obtain ⟨server, -, -, rfl⟩ := id h.hasKey
        refine .of_walk hkey hafter ?_ ?_
        all_goals rw [hsame.visited, hprices]
        · exact h.visited _ _ hbefore
        · rw [hsame.due]
          exact h.missing _ _ hbefore

/-- **A server that has come is sent every price from then on**, when ids are fresh. -/
theorem Follows.run {es : List SocketEvent} (h : Follows n key early since s) (hlisted : Listed s)
    (hrun : Run (FreshStep userPingPongDurTime) s es s') :
    Follows n key early (since ++ es.flatMap SocketEvent.taken) s' := by
  suffices hboth : Listed s' ∧ Follows n key early (since ++ es.flatMap SocketEvent.taken) s' from
    hboth.2
  induction hrun with
  | start => exact ⟨hlisted, by rw [List.flatMap_nil, List.append_nil]; exact h⟩
  | step _ hs ih =>
      rw [List.flatMap_append, List.flatMap_singleton, ← List.append_assoc]
      exact ⟨ih.1.step hs, ih.2.step ih.1 hs.1⟩

end Follows

end Pledge.Api.Ws
