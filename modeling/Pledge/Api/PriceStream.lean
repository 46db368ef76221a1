import Pledge.Api.Deliveries
import Pledge.Store.Channel

/-!
# The price stream

`GetExchangePrice` follows the ticker of the exchange. Each price that it reads goes into
`PlgrPriceChan`, which has room for two, then into `PlgrPrice` and to Redis; `StartServer` takes the
prices out of the channel and walks through the registry with each. The two run side by side, with all
the sockets, so a client may have a price before `PlgrPrice` does.

Nothing is lost, doubled or overtaken on the way (`prices_conveyed`), so a client is sent prices in
the order of the exchange, each at most once (`prices_in_order`). When no id is used twice it misses
none from its registration on (`prices_complete`). -/

namespace Pledge.Api.Kucoin

open Pledge.Evm Pledge.Store Pledge.Api.Ws

/-! ## The feed

The goroutine of the feed does three things with a price, one after the other: it puts it into the
channel, assigns it to `PlgrPrice` and saves it in Redis. Each is a step, since `StartServer` may
receive the price between any two of them. A step of the sockets is one of the registry or of the
walk; `take` is the one that both sides share. -/

/-- Where `GetExchangePrice` is. -/
inductive FeedPhase where
  | starting
  | connecting
  /-- At the `select`. -/
  | waiting
  /-- `PlgrPriceChan <- t.Price` -/
  | sending (price : String)
  /-- `PlgrPrice = t.Price` -/
  | assigning (price : String)
  /-- `db.RedisSetString("plgr_price", PlgrPrice, 0)` -/
  | saving
  | returned
  deriving Repr, DecidableEq

/-- The price that has been read and is not in the channel yet. -/
@[simp] def FeedPhase.held : FeedPhase → List String
  | .sending price => [price]
  | _ => []

/-- The price that is in the channel, or out of it again, and not in `PlgrPrice` yet. -/
@[simp] def FeedPhase.behind : FeedPhase → List String
  | .assigning price => [price]
  | _ => []

/-- The process of the API, as far as the prices go, and `plgr_price` in Redis. -/
structure Prices where
  stored : Option String := none
  plgrPrice : String := "0.0027"
  phase : FeedPhase := .starting
  plgrPriceChan : Channel String 2 := {}
  sockets : Sockets := {}

/-- What the feed does, what `StartServer` receives, and what the sockets do. -/
inductive PriceEvent where
  /-- `RedisGetString("plgr_price")`. -/
  | restore (fails : Bool)
  /-- Everything from the API service to the subscription. -/
  | connect (fails : Bool)
  /-- A message of the ticker. -/
  | ticker (price : String)
  /-- A message that cannot be read, or an error of the connection. -/
  | stop
  | send
  | assign
  | save (fails : Bool)
  /-- `StartServer` receives a price. -/
  | take (price : String)
  /-- A step of the sockets, or of the walk. -/
  | sockets (e : SocketEvent)
  deriving Repr, DecidableEq

/-- One step, when the goroutine is there. A send waits while the channel is full. -/
def Prices.next (userPingPongDurTime : Int) (s : Prices) : PriceEvent → Option Prices
  | .restore fails =>
      match s.phase with
      | .starting =>
          let price := if fails then none else s.stored
          some { s with plgrPrice := price.getD s.plgrPrice, phase := .connecting }
      | _ => none
  | .connect fails =>
      match s.phase with
      | .connecting => some { s with phase := if fails then .returned else .waiting }
      | _ => none
  | .ticker price =>
      match s.phase with
      | .waiting => some { s with phase := .sending price }
      | _ => none
  | .stop =>
      match s.phase with
      | .waiting => some { s with phase := .returned }
      | _ => none
  | .send =>
      match s.phase with
      | .sending price =>
          (s.plgrPriceChan.send price).map fun plgrPriceChan =>
            { s with plgrPriceChan := plgrPriceChan, phase := .assigning price }
      | _ => none
  | .assign =>
      match s.phase with
      | .assigning price => some { s with plgrPrice := price, phase := .saving }
      | _ => none
  | .save fails =>
      match s.phase with
      | .saving =>
          some { s with stored := if fails then s.stored else some s.plgrPrice, phase := .waiting }
      | _ => none
  | .take price =>
      match s.plgrPriceChan.receive with
      | some (front, plgrPriceChan) =>
          if front = price then
            (s.sockets.next userPingPongDurTime (.price price)).map fun sockets =>
              { s with plgrPriceChan := plgrPriceChan, sockets := sockets }
          else none
      | none => none
  | .sockets e =>
      if e.taken = [] then
        (s.sockets.next userPingPongDurTime e).map fun sockets => { s with sockets := sockets }
      else none

/-- A step that is possible. -/
def PriceStep (userPingPongDurTime : Int) (s : Prices) (e : PriceEvent) (s' : Prices) : Prop :=
  s.next userPingPongDurTime e = some s'

/-- What the feed has read of the exchange. -/
@[simp] def PriceEvent.quoted : PriceEvent → List String
  | .ticker price => [price]
  | _ => []

/-- What a step is to the sockets. -/
@[simp] def PriceEvent.onSockets : PriceEvent → List SocketEvent
  | .take price => [.price price]
  | .sockets e => [e]
  | _ => []

/-- What was taken for the clients. -/
def PriceEvent.taken (e : PriceEvent) : List String := e.onSockets.flatMap SocketEvent.taken

/-- What is on its way from the exchange to `StartServer`. -/
def Prices.inFlight (s : Prices) : List String := s.plgrPriceChan.buffer ++ s.phase.held

/-! ## Effects of a step

The step inverted once. A price that is read is held, then in the channel, then taken; so what is in
flight changes at its two ends only (`conveys`). For the sockets, a step of the stream is one of
theirs or none, so a run of the stream is a run of the sockets (`run_sockets`) and what was proved
for them holds here. -/

/-- **What a step of the stream does.** -/
inductive PriceEffect (userPingPongDurTime : Int) (s : Prices) : PriceEvent → Prices → Prop
  | restore {fails : Bool} (hphase : s.phase = .starting) :
      PriceEffect userPingPongDurTime s (.restore fails)
        { s with
          plgrPrice := (if fails then none else s.stored).getD s.plgrPrice, phase := .connecting }
  | connect {fails : Bool} (hphase : s.phase = .connecting) :
      PriceEffect userPingPongDurTime s (.connect fails)
        { s with phase := if fails then .returned else .waiting }
  | ticker {price : String} (hphase : s.phase = .waiting) :
      PriceEffect userPingPongDurTime s (.ticker price) { s with phase := .sending price }
  | stop (hphase : s.phase = .waiting) :
      PriceEffect userPingPongDurTime s .stop { s with phase := .returned }
  | send {price : String} {plgrPriceChan : Channel String 2} (hphase : s.phase = .sending price)
      (hbuffer : plgrPriceChan.buffer = s.plgrPriceChan.buffer ++ [price]) :
      PriceEffect userPingPongDurTime s .send
        { s with plgrPriceChan := plgrPriceChan, phase := .assigning price }
  | assign {price : String} (hphase : s.phase = .assigning price) :
      PriceEffect userPingPongDurTime s .assign { s with plgrPrice := price, phase := .saving }
  | save {fails : Bool} (hphase : s.phase = .saving) :
      PriceEffect userPingPongDurTime s (.save fails)
        { s with stored := if fails then s.stored else some s.plgrPrice, phase := .waiting }
  | take {price : String} {plgrPriceChan : Channel String 2} {sockets : Sockets}
      (hbuffer : s.plgrPriceChan.buffer = price :: plgrPriceChan.buffer)
      (hsockets : SocketStep userPingPongDurTime s.sockets (.price price) sockets) :
      PriceEffect userPingPongDurTime s (.take price)
        { s with plgrPriceChan := plgrPriceChan, sockets := sockets }
  | sockets {e : SocketEvent} {sockets : Sockets} (htaken : e.taken = [])
      (hsockets : SocketStep userPingPongDurTime s.sockets e sockets) :
      PriceEffect userPingPongDurTime s (.sockets e) { s with sockets := sockets }

section Stream

variable {userPingPongDurTime : Int} {s s' : Prices} {e : PriceEvent} {es : List PriceEvent}

theorem PriceStep.effect (h : PriceStep userPingPongDurTime s e s') :
    PriceEffect userPingPongDurTime s e s' := by
  cases e with
  | restore fails =>
      simp only [PriceStep, Prices.next] at h
      split at h
      · next hphase =>
          obtain rfl := Option.some.inj h
          exact .restore hphase
      · cases h
  | connect fails =>
      simp only [PriceStep, Prices.next] at h
      split at h
      · next hphase =>
          obtain rfl := Option.some.inj h
          exact .connect hphase
      · cases h
  | ticker price =>
      simp only [PriceStep, Prices.next] at h
      split at h
      · next hphase =>
          obtain rfl := Option.some.inj h
          exact .ticker hphase
      · cases h
  | stop =>
      simp only [PriceStep, Prices.next] at h
      split at h
      · next hphase =>
          obtain rfl := Option.some.inj h
          exact .stop hphase
      · cases h
  | send =>
      simp only [PriceStep, Prices.next] at h
      split at h
      · next price hphase =>
          obtain ⟨plgrPriceChan, hsend, rfl⟩ := Option.map_eq_some_iff.mp h
          exact .send hphase (Channel.send_eq_some hsend).2
      · cases h
  | assign =>
      simp only [PriceStep, Prices.next] at h
      split at h
      · next price hphase =>
          obtain rfl := Option.some.inj h
          exact .assign hphase
      · cases h
  | save fails =>
      simp only [PriceStep, Prices.next] at h
      split at h
      · next hphase =>
          obtain rfl := Option.some.inj h
          exact .save hphase
      · cases h
  | take price =>
      simp only [PriceStep, Prices.next] at h
      split at h
      · next front plgrPriceChan hreceive =>
          split at h
          · next hfront =>
              subst hfront
              obtain ⟨sockets, hsockets, rfl⟩ := Option.map_eq_some_iff.mp h
              exact .take (Channel.receive_eq_some hreceive) hsockets
          · cases h
      · cases h
  | sockets e =>
      simp only [PriceStep, Prices.next] at h
      split at h
      · next htaken =>
          obtain ⟨sockets, hsockets, rfl⟩ := Option.map_eq_some_iff.mp h
          exact .sockets htaken hsockets
      · cases h

/-- What is taken and what is then in flight was in flight, or has just been quoted. -/
theorem PriceEffect.conveys (h : PriceEffect userPingPongDurTime s e s') :
    e.taken ++ s'.inFlight = s.inFlight ++ e.quoted := by
  unfold Prices.inFlight PriceEvent.taken
  cases h with
  | restore hphase => simp [hphase]
  | @connect fails hphase => cases fails <;> simp [hphase]
  | ticker hphase => simp [hphase]
  | stop hphase => simp [hphase]
  | send hphase hbuffer => simp [hphase, hbuffer]
  | assign hphase => simp [hphase]
  | save hphase => simp [hphase]
  | take hbuffer hsockets => simp [SocketEvent.taken, hbuffer]
  | sockets htaken hsockets => simp [htaken]

/-- A step of the stream is a run of the sockets, of one step at most. -/
theorem PriceEffect.onSockets (h : PriceEffect userPingPongDurTime s e s') :
    Run (SocketStep userPingPongDurTime) s.sockets e.onSockets s'.sockets := by
  cases h with
  | take hbuffer hsockets => exact Run.start.step hsockets
  | sockets htaken hsockets => exact Run.start.step hsockets
  | _ => exact .start

/-! ## What the process keeps

`PlgrPrice` is behind the channel by one price at most, and only while the feed stands between the
send and the assignment. -/

/-- What has been put into the channel came to `PlgrPrice` next, but for the last price while it is being
assigned, and Redis has one of these. -/
structure Kept (stored : Option String) (put : List String) (s : Prices) : Prop where
  starting : s.phase = .starting → put = []
  plgrPrice : ∃ assigned, put = assigned ++ s.phase.behind ∧
    (∀ price, assigned.getLast? = some price → s.plgrPrice = price) ∧
    (s.phase = .saving → s.plgrPrice ∈ assigned) ∧
    (s.stored = stored ∨ ∃ price ∈ assigned, s.stored = some price)

/-- What has been put into the channel is what was taken from it, and what is in it. -/
theorem Kept.step {stored : Option String} {taken : List String}
    (h : Kept stored (taken ++ s.plgrPriceChan.buffer) s)
    (hstep : PriceEffect userPingPongDurTime s e s') :
    Kept stored (taken ++ e.taken ++ s'.plgrPriceChan.buffer) s' := by
  obtain ⟨assigned, hput, hlast, hsaving, hstored⟩ := h.plgrPrice
  unfold PriceEvent.taken
  cases hstep with
  | restore hphase =>
      simp only [PriceEvent.onSockets, List.flatMap_nil, List.append_nil]
      have hnone := h.starting hphase
      rw [hnone] at hput ⊢
      obtain ⟨rfl, -⟩ := List.append_eq_nil_iff.mp hput.symm
      exact ⟨nofun, [], rfl, nofun, nofun, hstored⟩
  | @connect fails hphase =>
      simp only [PriceEvent.onSockets, List.flatMap_nil, List.append_nil]
      rw [hphase] at hput
      refine ⟨by cases fails <;> exact nofun, assigned, ?_, hlast, by cases fails <;> exact nofun,
        hstored⟩
      rw [hput]
      cases fails <;> rfl
  | ticker hphase =>
      simp only [PriceEvent.onSockets, List.flatMap_nil, List.append_nil]
      rw [hphase] at hput
      exact ⟨nofun, assigned, hput, hlast, nofun, hstored⟩
  | stop hphase =>
      simp only [PriceEvent.onSockets, List.flatMap_nil, List.append_nil]
      rw [hphase] at hput
      exact ⟨nofun, assigned, hput, hlast, nofun, hstored⟩
  | @send price plgrPriceChan hphase hbuffer =>
      simp only [PriceEvent.onSockets, List.flatMap_nil, List.append_nil]
      rw [hphase] at hput
      refine ⟨nofun, assigned, ?_, hlast, nofun, hstored⟩
      rw [hbuffer, ← List.append_assoc, hput]
      simp
  | @assign price hphase =>
      -- now nothing is behind
      simp only [PriceEvent.onSockets, List.flatMap_nil, List.append_nil]
      rw [hphase] at hput
      refine ⟨nofun, assigned ++ [price], by rw [hput]; simp, ?_, ?_, ?_⟩
      · intro last hmem
        rw [List.getLast?_append] at hmem
        exact Option.some.inj hmem
      · intro _
        exact List.mem_append_right _ (List.mem_singleton.mpr rfl)
      · exact hstored.imp_right fun ⟨last, hmem, heq⟩ => ⟨last, List.mem_append_left _ hmem, heq⟩
  | @save fails hphase =>
      simp only [PriceEvent.onSockets, List.flatMap_nil, List.append_nil]
      rw [hphase] at hput
      refine ⟨nofun, assigned, hput, hlast, nofun, ?_⟩
      cases fails with
      | true => exact hstored
      | false => exact .inr ⟨s.plgrPrice, hsaving hphase, rfl⟩
  | @take price plgrPriceChan sockets hbuffer hsockets =>
      have hsame : taken ++ [price] ++ plgrPriceChan.buffer = taken ++ s.plgrPriceChan.buffer := by
        rw [hbuffer, List.append_assoc]
        rfl
      show Kept stored (taken ++ [price] ++ plgrPriceChan.buffer) _
      rw [hsame]
      exact ⟨h.starting, h.plgrPrice⟩
  | sockets htaken hsockets =>
      simp only [PriceEvent.onSockets, List.flatMap_singleton, htaken, List.append_nil]
      exact ⟨h.starting, h.plgrPrice⟩

/-- In every run, from any price in Redis. -/
theorem run_kept {stored : Option String}
    (hrun : Run (PriceStep userPingPongDurTime) { stored := stored } es s) :
    Kept stored (es.flatMap PriceEvent.taken ++ s.plgrPriceChan.buffer) s := by
  induction hrun with
  | start => exact ⟨fun _ => rfl, [], rfl, nofun, nofun, .inl rfl⟩
  | step _ hs ih =>
      rw [List.flatMap_append, List.flatMap_singleton]
      exact ih.step hs.effect

/-- What was taken for the clients is what the sockets took. -/
theorem taken_onSockets (es : List PriceEvent) :
    (es.flatMap PriceEvent.onSockets).flatMap SocketEvent.taken = es.flatMap PriceEvent.taken := by
  rw [List.flatMap_assoc]
  rfl

/-- The sockets of a run. -/
theorem run_sockets {stored : Option String}
    (hrun : Run (PriceStep userPingPongDurTime) { stored := stored } es s) :
    Run (SocketStep userPingPongDurTime) {} (es.flatMap PriceEvent.onSockets) s.sockets :=
  hrun.expand Prices.sockets PriceEvent.onSockets fun hs => hs.effect.onSockets

/-- What was taken, and what is in flight, is what was quoted. -/
theorem run_conveyed {stored : Option String}
    (hrun : Run (PriceStep userPingPongDurTime) { stored := stored } es s) :
    es.flatMap PriceEvent.quoted = es.flatMap PriceEvent.taken ++ s.inFlight :=
  (hrun.conveyed fun hs => hs.effect.conveys).symm

/-- The steps in which no id is used again. -/
abbrev FreshPriceStep (userPingPongDurTime : Int) : Prices → PriceEvent → Prices → Prop :=
  Restrict (PriceStep userPingPongDurTime) fun s e _ => ∀ e', e = .sockets e' → FreshId s.sockets e'

/-- The sockets use no id again either. -/
theorem FreshPriceStep.onSockets (h : FreshPriceStep userPingPongDurTime s e s') :
    Run (FreshStep userPingPongDurTime) s.sockets e.onSockets s'.sockets := by
  obtain ⟨hstep, hfresh⟩ := h
  cases hstep.effect with
  | take hbuffer hsockets => exact Run.start.step ⟨hsockets, nofun⟩
  | @sockets e sockets htaken hsockets => exact Run.start.step ⟨hsockets, hfresh e rfl⟩
  | _ => exact .start

/-! A client comes between two prices. -/

def beforeClient : List PriceEvent :=
  [.restore false, .connect false, .ticker "0.05", .send, .assign, .save false, .take "0.05",
    .sockets .finish, .sockets (.newPrice 0 "127_0_0_1_a" 5)]

/-- The client has the price before `PlgrPrice` does. -/
def afterClient : List PriceEvent :=
  [.ticker "0.06", .send, .take "0.06", .sockets (.visit (.id "127_0_0_1_a") 0 false), .assign,
    .sockets .finish]

/-- The three parts, and what they lead to. -/
theorem clientBetween : ∃ s₁ s₂ s, Run (PriceStep 60) { stored := some "0.04" } beforeClient s₁ ∧
    PriceStep 60 s₁ (.sockets (.register 0)) s₂ ∧ Run (PriceStep 60) s₂ afterClient s ∧
    s₁.sockets.registry.entries = [] ∧ s.sockets.broadcast = none ∧
    s.sockets.writtenPrices 0 = ["0.06"] := by
  let start : Prices := { stored := some "0.04" }
  have hreplay : ((replay (Prices.next 60) start beforeClient).bind fun s₁ =>
      (s₁.next 60 (.sockets (.register 0))).bind fun s₂ =>
        (replay (Prices.next 60) s₂ afterClient).map fun s =>
          (s₁.sockets.registry.entries, s.sockets.broadcast, s.sockets.writtenPrices 0)) =
      some ([], none, ["0.06"]) := by decide +kernel
  obtain ⟨s₁, hbefore, hrest⟩ := Option.bind_eq_some_iff.mp hreplay
  obtain ⟨s₂, hregister, hrest⟩ := Option.bind_eq_some_iff.mp hrest
  obtain ⟨s, hafter, hend⟩ := Option.map_eq_some_iff.mp hrest
  obtain ⟨hentries, hrest⟩ := Prod.mk.inj hend
  obtain ⟨hidle, hwritten⟩ := Prod.mk.inj hrest
  exact ⟨s₁, s₂, s, Run.of_replay id hbefore, hregister, Run.of_replay id hafter, hentries, hidle,
    hwritten⟩

/-- Where nothing registers, no id is used again. -/
theorem fresh_of_quiet {s₀ s : Prices} {es : List PriceEvent} (hes : ∀ n, .sockets (.register n) ∉ es)
    (hrun : Run (PriceStep 60) s₀ es s) : Run (FreshPriceStep 60) s₀ es s := by
  induction hrun with
  | start => exact .start
  | @step es s s' e _ hs ih =>
      refine (ih fun n hmem => hes n (List.mem_append_left _ hmem)).step ⟨hs, ?_⟩
      rintro e' rfl n server rfl
      exact absurd (List.mem_append_right _ (List.mem_singleton.mpr rfl)) (hes n)

/-- **A client is sent the prices of the exchange in their order**, and each of them at most once. -/
theorem prices_in_order {stored : Option String}
    (hrun : Run (PriceStep userPingPongDurTime) { stored := stored } es s) (n : Nat) :
    (s.sockets.prices n).Sublist (es.flatMap PriceEvent.quoted) := by
  have hinOrder := (run_inOrder (run_sockets hrun)).sent n
  rw [taken_onSockets] at hinOrder
  apply hinOrder.trans
  rw [run_conveyed hrun]
  exact List.sublist_append_left ..

theorem prices_in_order_between : ∃ s,
    Run (PriceStep 60) { stored := some "0.04" }
      (beforeClient ++ [.sockets (.register 0)] ++ afterClient) s ∧
    s.sockets.writtenPrices 0 = ["0.06"] ∧
    (s.sockets.prices 0).Sublist ((beforeClient ++ [PriceEvent.sockets (.register 0)] ++
      afterClient).flatMap PriceEvent.quoted) := by
  obtain ⟨s₁, s₂, s, hbefore, hregister, hafter, -, -, hwritten⟩ := clientBetween
  have hrun := (hbefore.step hregister).append hafter
  exact ⟨s, hrun, hwritten, prices_in_order hrun 0⟩

/-- **From its registration on a client misses no price**, in every order of the steps in which no
id is used again: whenever no walk is under way, `SendToClient` has been called for it with all that was
taken since, each price once, perhaps with the one whose walk was under way when it came. All of these
are written to its socket when no write fails and the socket is open; once it is closed the calls go on
and nothing is written. -/
theorem prices_complete {stored : Option String} {es₁ es₂ : List PriceEvent} {s₁ s₂ : Prices} {n : Nat}
    (hbefore : Run (FreshPriceStep userPingPongDurTime) { stored := stored } es₁ s₁)
    (hregister : FreshPriceStep userPingPongDurTime s₁ (.sockets (.register n)) s₂)
    (hafter : Run (FreshPriceStep userPingPongDurTime) s₂ es₂ s) (hidle : s.sockets.broadcast = none) :
    (∃ first, first.IsSuffix s₁.sockets.current ∧
      s.sockets.prices n = first ++ es₂.flatMap PriceEvent.taken) ∧
    (s.sockets.writtenPrices n).Sublist (s.sockets.prices n) ∧
    ((∀ key, .sockets (.visit key n true) ∉ es₂) → s.sockets.closed n = false →
      s.sockets.writtenPrices n = s.sockets.prices n) ∧
    ∀ es₃ s₃, Run (PriceStep userPingPongDurTime) s es₃ s₃ → s.sockets.closed n = true →
      s₃.sockets.writtenPrices n = s.sockets.writtenPrices n := by
  have hlisted :=
    run_listed (hbefore.expand Prices.sockets PriceEvent.onSockets FreshPriceStep.onSockets)
  obtain ⟨sockets, hstep, hfresh⟩ : ∃ sockets, s₂ = { s₁ with sockets := sockets } ∧
      FreshStep userPingPongDurTime s₁.sockets (.register n) sockets := by
    cases hregister.1.effect with
    | @sockets e sockets htaken hsockets => exact ⟨sockets, rfl, hsockets, hregister.2 _ rfl⟩
  subst hstep
  -- the sockets go through a run of their own, of which everything below is true
  have hsockets := (hafter.mono And.left).expand Prices.sockets PriceEvent.onSockets
    fun hs => hs.effect.onSockets
  have hregistered := (run_sockets (hbefore.mono And.left)).step hfresh.1
  refine ⟨?_, ?_, ?_, ?_⟩
  · obtain ⟨key, hfollows⟩ := Follows.register hlisted hfresh.1
    have hend := hfollows.run (hlisted.step hfresh)
      (hafter.expand Prices.sockets PriceEvent.onSockets FreshPriceStep.onSockets)
    rw [taken_onSockets, List.nil_append] at hend
    exact hend.idle hidle
  · exact run_written (hregistered.append hsockets) n
  · intro hwrites hopen
    -- when it comes nothing was sent to it, so nothing was written
    have hnone : sockets.prices n = [] := hlisted.register_unsent hfresh.1
    have hwritten := run_written hregistered n
    rw [hnone, List.sublist_nil] at hwritten
    refine written_all (hwritten.trans hnone.symm) hsockets ?_ hopen
    intro key hmem
    obtain ⟨e, he, hvisit⟩ := List.mem_flatMap.mp hmem
    cases e with
    | sockets e =>
        rw [← List.mem_singleton.mp hvisit] at he
        exact hwrites key he
    | take price => cases List.mem_singleton.mp hvisit
    | _ => cases hvisit
  · intro es₃ s₃ hrun hclosed
    exact written_closed hclosed
      (hrun.expand Prices.sockets PriceEvent.onSockets fun hs => hs.effect.onSockets)

theorem prices_complete_between : ∃ s₁ s₂ s, PriceStep 60 s₁ (.sockets (.register 0)) s₂ ∧
    Run (PriceStep 60) s₂ afterClient s ∧
    (∃ first, first.IsSuffix s₁.sockets.current ∧
      s.sockets.prices 0 = first ++ afterClient.flatMap PriceEvent.taken) ∧
    (s.sockets.writtenPrices 0).Sublist (s.sockets.prices 0) ∧
    ((∀ key, .sockets (.visit key 0 true) ∉ afterClient) → s.sockets.closed 0 = false →
      s.sockets.writtenPrices 0 = s.sockets.prices 0) ∧
    ∀ es₃ s₃, Run (PriceStep 60) s es₃ s₃ → s.sockets.closed 0 = true →
      s₃.sockets.writtenPrices 0 = s.sockets.writtenPrices 0 := by
  obtain ⟨s₁, s₂, s, hbefore, hregister, hafter, hentries, hidle, -⟩ := clientBetween
  refine ⟨s₁, s₂, s, hregister, hafter, prices_complete (fresh_of_quiet ?_ hbefore) ⟨hregister, ?_⟩
    (fresh_of_quiet ?_ hafter) hidle⟩
  · simp [beforeClient]
  · rintro e' - n server - - m hmem
    rw [hentries] at hmem
    cases hmem
  · simp [afterClient]

end Stream

end Pledge.Api.Kucoin
