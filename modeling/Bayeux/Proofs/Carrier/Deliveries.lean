import Bayeux.Proofs.Carrier.Errands
import Bayeux.Proofs.Carrier.Forwarding
import Bayeux.Proofs.Extension.Lenient
/-! What a carrier makes of the packets that wait for its session. They are taken in their order,
all at once, and behind extensions that let everything pass each batch becomes the text of its
messages, unless it cannot be written or put into the inbox. -/

namespace Bayeux

/-- What was taken together, the carrier it was given to, and how the carrier fared with it. -/
structure Batch where
  carrier : Client
  packets : List Packet
  fate : Except TransportError Unit

namespace Batch

def arrived (b : Batch) : Bool :=
  match b.fate with
  | .ok () => true
  | .error _ => false

/-- The text of all its messages, none if there are none. -/
def texts (b : Batch) : List String := (Packet.textOfAll? b.packets).toList

def arrivals (b : Batch) : List String := if b.arrived then b.texts else []

end Batch

/-- Why a carrier could not pass a text on. -/
inductive Fails : Client → TransportError → Prop where
  | ended {w : WebSocket} (finished : w.isClosed = true ∨ w.isConnected = false) :
      Fails (.webSocket w) .connectionClosed
  | broken {w : WebSocket} {reason : String}
      (result : w.sink.onText w.sink.calls = .failed reason) :
      Fails (.webSocket w) (.sendFailed reason)
  | late {w : WebSocket} (result : w.sink.onText w.sink.calls = .stalled) :
      Fails (.webSocket w) .timeout
  | left {p : InProcess} (connected : p.isConnected = false) :
      Fails (.inProcess p) .connectionClosed
  | full {p : InProcess} (reader : p.inbox.isOpen = true) (full : p.inbox.isFull = true) :
      Fails (.inProcess p) .queueFull
  | unread {p : InProcess} (reader : p.inbox.isOpen = false) :
      Fails (.inProcess p) .connectionClosed

/-- In the same process packets come one by one, and nothing is lost without a reason. -/
structure Batch.Fair (b : Batch) : Prop where
  single : ∀ p, b.carrier = .inProcess p → ∃ packet, b.packets = [packet]
  excused : b.arrived = false → ∃ e, b.fate = .error e ∧ Fails b.carrier e

theorem Batch.excuse {b : Batch} (fails : ∀ e, b.fate = .error e → Fails b.carrier e)
    (lost : b.arrived = false) : ∃ e, b.fate = .error e ∧ Fails b.carrier e := by
  unfold arrived at lost
  cases fate : b.fate with
  | ok _ =>
    rw [fate] at lost
    cases lost
  | error e => exact ⟨e, rfl, fails e fate⟩

namespace Client
variable {σ : Type} {h : Handlers σ} {c d e : Client} {packets : List Packet} {s t u : Server σ}

/-- A turn of a carrier that takes these packets for its session. -/
structure Drains (c : Client) (packets : List Packet) (s : Server σ) (d : Client) (t : Server σ) :
    Prop where
  session : d.session = c.session
  server : s.Drains c.session packets t

theorem drainsServes (offering : Offering h.process) (first : Drains c packets s d t)
    (second : Serves h d t e u) : Drains c packets s e u :=
  ⟨second.session.trans first.session,
    Server.drainsTrans first.server (Server.offersErrands offering (first.session ▸ second.server))⟩

theorem drainsNone (offering : Offering h.process) (serves : Serves h c s d t) :
    Drains c [] s d t :=
  drainsServes offering ⟨rfl, Server.drainsRefl s c.session⟩ serves

theorem drainsClose (first : Drains c packets s d t) :
    Drains c packets s d (t.closeDeliveries d.session) := by
  refine ⟨first.session, ?_⟩
  rw [first.session]
  exact Server.drainsClose first.server

end Client

/- One text. -/

theorem Outbound.ofPacketsLenient {σ : Type} {extensions : List (Extension σ)}
    (lenient : ∀ e ∈ extensions, e.Lenient) (id : String) (packets : List Packet) (s : Server σ) :
    (ofPackets? extensions id packets s).1.map Outbound.text = Packet.textOfAll? packets := by
  obtain ⟨-, -, -, same⟩ := Extension.lenientPackets lenient id packets s
  rw [← same, ofPackets?, Option.map_map]
  exact congrFun Option.map_id _

theorem Sink.arrivedNow (sink : Sink) : sink.arrivedSince sink.calls.length = [] := by
  simp [arrivedSince]

theorem Sink.textArrives (sink : Sink) (content : String) :
    (sink.text content).2.arrivedSince sink.calls.length =
      if (sink.text content).1 = .written then [.text content] else [] := by
  have one : sink.calls.length + 1 - sink.calls.length = 1 := by omega
  simp only [text, arrivedSince, List.length_cons, one, List.take_succ_cons, List.take_zero,
    List.filter_cons, List.filter_nil, beq_iff_eq]
  by_cases written : sink.onText sink.calls = .written <;> simp [written]

namespace WebSocket
variable {σ : Type} {h : Handlers σ}

/-- How one delivery ends: what arrived of it, or why nothing did. -/
structure Arrives (w : WebSocket) (packets : List Packet)
    (done : Except TransportError Outcome × WebSocket × Server σ) : Prop where
  arrived : done.2.1.sink.arrivedSince w.sink.calls.length =
    (Batch.arrivals ⟨.webSocket w, packets, done.1.map fun _ => ()⟩).map .text
  fails : ∀ e, done.1.map (fun _ => ()) = .error e → Fails (.webSocket w) e

theorem deliverArrives (lenient : ∀ e ∈ h.extensions, e.Lenient) (settings : Settings)
    (packets : List Packet) (w : WebSocket) (s : Server σ) :
    Arrives w packets (deliver h settings packets w s) := by
  unfold deliver
  cases alive : w.isClosed || !w.isConnected with
  | true =>
    refine ⟨w.sink.arrivedNow, fun e failed => ?_⟩
    cases failed
    exact .ended (by simpa using alive)
  | false =>
    have made := Outbound.ofPacketsLenient lenient w.session packets s
    simp only [Bool.false_eq_true, if_false, write]
    generalize Outbound.ofPackets? h.extensions w.session packets s = outbound at made ⊢
    obtain ⟨outbound?, t⟩ := outbound
    have texts : ∀ fate, Batch.texts ⟨.webSocket w, packets, fate⟩ =
        (outbound?.map Outbound.text).toList := fun _ => congrArg Option.toList made.symm
    cases outbound? with
    | none =>
      refine ⟨w.sink.arrivedNow.trans ?_, fun e failed => by cases failed⟩
      simp only [Batch.arrivals, texts, Option.map_none, Option.toList_none, List.map_nil, ite_self]
    | some outbound =>
      have offered := w.sink.textArrives outbound.text
      simp only [writeText]
      cases result : w.sink.text outbound.text with
      | mk ending sink =>
        have called : w.sink.onText w.sink.calls = ending := congrArg Prod.fst result
        rw [result] at offered
        cases ending with
        | written =>
          refine ⟨offered.trans ?_, fun e failed => by cases failed⟩
          simp only [Batch.arrivals, texts]
          rfl
        | failed reason =>
          refine ⟨offered, fun e failed => ?_⟩
          cases failed
          exact .broken called
        | stalled =>
          refine ⟨offered, fun e failed => ?_⟩
          cases failed
          exact .late called

end WebSocket

namespace InProcess
variable {σ : Type} {h : Handlers σ}

theorem sendArrives (lenient : ∀ e ∈ h.extensions, e.Lenient) (packets : List Packet)
    (p : InProcess) (s : Server σ) :
    (send h packets p s).2.1.inbox.waiting = p.inbox.waiting ++
        Batch.arrivals ⟨.inProcess p, packets, (send h packets p s).1⟩ ∧
      ∀ e, (send h packets p s).1 = .error e → Fails (.inProcess p) e := by
  unfold send
  cases connected : p.isConnected with
  | false =>
    refine ⟨by simp [Batch.arrivals, Batch.arrived], fun e failed => ?_⟩
    cases failed
    exact .left connected
  | true =>
    have made := Outbound.ofPacketsLenient lenient p.session packets s
    simp only [Bool.not_true, Bool.false_eq_true, if_false]
    generalize Outbound.ofPackets? h.extensions p.session packets s = outbound at made ⊢
    obtain ⟨outbound?, t⟩ := outbound
    have texts : ∀ fate, Batch.texts ⟨.inProcess p, packets, fate⟩ =
        (outbound?.map Outbound.text).toList := fun _ => congrArg Option.toList made.symm
    cases outbound? with
    | none =>
      refine ⟨?_, fun e failed => by cases failed⟩
      simp only [Batch.arrivals, texts, Option.map_none, Option.toList_none, ite_self,
        List.append_nil]
    | some outbound =>
      have waiting := Queue.offerWaiting p.inbox outbound.text
      have taken := @Queue.offerTaken _ p.inbox outbound.text
      simp only
      generalize p.inbox.offer outbound.text = offered at waiting taken ⊢
      obtain ⟨accepted, inbox⟩ := offered
      cases accepted with
      | true =>
        refine ⟨waiting.trans ?_, fun e failed => by cases failed⟩
        simp only [Batch.arrivals, texts]
        rfl
      | false =>
        refine ⟨waiting.trans (by simp [Batch.arrivals, Batch.arrived]), fun e failed => ?_⟩
        simp only [Bool.false_eq_true, if_false, Except.error.injEq] at failed
        subst failed
        cases reader : p.inbox.isOpen with
        | false => exact .unread reader
        | true =>
          have full : p.inbox.isFull = true := by simpa [reader] using taken
          exact .full reader full

/-- The packets one by one, each with the carrier it found. -/
def sent (h : Handlers σ) : List Packet → InProcess → Server σ → List Batch
  | [], _, _ => []
  | packet :: rest, p, s =>
    let (result, q, t) := send h [packet] p s
    ⟨.inProcess p, [packet], result⟩ :: sent h rest q t

theorem sentPackets (h : Handlers σ) (packets : List Packet) (p : InProcess) (s : Server σ) :
    (sent h packets p s).flatMap Batch.packets = packets := by
  induction packets generalizing p s with
  | nil => rfl
  | cons packet rest ih =>
    simp only [sent, List.flatMap_cons, ih]
    rfl

theorem sentArrives (lenient : ∀ e ∈ h.extensions, e.Lenient) (packets : List Packet)
    (p : InProcess) (s : Server σ) :
    (sendEach h packets p s).1.inbox.waiting =
        p.inbox.waiting ++ (sent h packets p s).flatMap Batch.arrivals ∧
      ∀ b ∈ sent h packets p s, b.Fair := by
  induction packets generalizing p s with
  | nil => exact ⟨by simp [sendEach, sent], by simp [sent]⟩
  | cons packet rest ih =>
    obtain ⟨arrived, fails⟩ := sendArrives lenient [packet] p s
    obtain ⟨others, later⟩ := ih (send h [packet] p s).2.1 (send h [packet] p s).2.2
    simp only [sendEach, sent]
    exact ⟨by rw [others, arrived, List.flatMap_cons, List.append_assoc],
      List.forall_mem_cons.mpr ⟨⟨fun _ _ => ⟨packet, rfl⟩, Batch.excuse fails⟩, later⟩⟩

/-- What the pump takes. -/
def pumped (h : Handlers σ) (p : InProcess) (s : Server σ) : List Batch :=
  if p.isPumping then
    sent h (s.takeDeliveries p.session).1 p (s.takeDeliveries p.session).2
  else []

theorem pumpArrives (lenient : ∀ e ∈ h.extensions, e.Lenient) (settings : Settings)
    (p : InProcess) (s : Server σ) :
    (pump h settings p s).1.inbox.waiting =
        p.inbox.waiting ++ (pumped h p s).flatMap Batch.arrivals ∧
      ∀ b ∈ pumped h p s, b.Fair := by
  have each := sentArrives lenient (s.takeDeliveries p.session).1 p (s.takeDeliveries p.session).2
  unfold pump pumped
  cases pumping : p.isPumping with
  | false => exact ⟨by simp, by simp⟩
  | true =>
    simp only [Bool.not_true, Bool.false_eq_true, if_false, if_true]
    split
    · split <;> exact each
    · exact each

theorem sentDrains (offering : Offering h.process) {packets : List Packet} {p : InProcess}
    {s t : Server σ} (took : s.Drains p.session packets t) :
    Client.Drains (.inProcess p) packets s (.inProcess (sendEach h packets p t).1)
      (sendEach h packets p t).2 :=
  Client.drainsServes offering ⟨rfl, took⟩ (servesSendEach h packets p t)

theorem pumpDrains (offering : Offering h.process) (settings : Settings) (p : InProcess)
    (s : Server σ) :
    Client.Drains (.inProcess p) ((pumped h p s).flatMap Batch.packets) s
      (.inProcess (pump h settings p s).1) (pump h settings p s).2 := by
  have drained := sentDrains offering (Server.drainsTake s p.session)
  unfold pump pumped
  cases pumping : p.isPumping with
  | false => exact ⟨rfl, Server.drainsRefl s p.session⟩
  | true =>
    simp only [Bool.not_true, Bool.false_eq_true, if_false, if_true, sentPackets]
    split
    · split
      · exact ⟨drained.session, drained.server⟩
      · have closed := Client.drainsClose drained
        exact ⟨closed.session, closed.server⟩
    · exact drained

/-- What the pump takes in a single step. -/
def forwarded (h : Handlers σ) (p : InProcess) (s : Server σ) : List Batch :=
  if p.isPumping then
    sent h (s.takeDelivery p.session).1.toList p (s.takeDelivery p.session).2
  else []

theorem forwardArrives (lenient : ∀ e ∈ h.extensions, e.Lenient) (p : InProcess) (s : Server σ) :
    (forward h p s).1.inbox.waiting =
        p.inbox.waiting ++ (forwarded h p s).flatMap Batch.arrivals ∧
      ∀ b ∈ forwarded h p s, b.Fair := by
  have each := sentArrives lenient (s.takeDelivery p.session).1.toList p
    (s.takeDelivery p.session).2
  unfold forward forwarded
  cases pumping : p.isPumping with
  | false => exact ⟨by simp, by simp⟩
  | true => exact each

theorem forwardDrains (offering : Offering h.process) (p : InProcess) (s : Server σ) :
    Client.Drains (.inProcess p) ((forwarded h p s).flatMap Batch.packets) s
      (.inProcess (forward h p s).1) (forward h p s).2 := by
  have drained := sentDrains offering (Server.drainsTakeFirst s p.session)
  unfold forward forwarded
  cases pumping : p.isPumping with
  | false => exact ⟨rfl, Server.drainsRefl s p.session⟩
  | true =>
    simp only [Bool.not_true, Bool.false_eq_true, if_false, if_true, sentPackets]
    exact drained

theorem lookDrains (settings : Settings) (p : InProcess) (s : Server σ) :
    Client.Drains (.inProcess p) [] s (.inProcess (look settings p s).1) (look settings p s).2 := by
  have still : Client.Drains (.inProcess p) [] s (.inProcess p) s :=
    ⟨rfl, Server.drainsRefl s p.session⟩
  unfold look
  simp only
  split
  · split
    · exact ⟨still.session, still.server⟩
    · have closed := Client.drainsClose still
      exact ⟨closed.session, closed.server⟩
  · exact still

/-- What one operation takes out of the queue of the session. -/
def taken (h : Handlers σ) (p : InProcess) (s : Server σ) : Operation → List Batch
  | .pump => p.pumped h s
  | _ => []

theorem performDrains (offering : Offering h.process) (settings : Settings) (p : InProcess)
    (s : Server σ) (operation : Operation) :
    Client.Drains (.inProcess p) ((p.taken h s operation).flatMap Batch.packets) s
      (.inProcess (p.perform h settings s operation).1) (p.perform h settings s operation).2 := by
  cases operation with
  | inject m => exact Client.drainsNone offering (servesInject h m p s)
  | send packets => exact Client.drainsNone offering (servesSend h packets p s)
  | close => exact Client.drainsNone offering (servesClose h p s)
  | expire =>
    have untracked : Client.Drains (.inProcess p) [] s (.inProcess p)
        { s with inProcess := s.inProcess.erase p.session } :=
      Client.drainsNone offering ⟨rfl, Server.errandsOnce .unlisted⟩
    simp only [perform, expire]
    split
    · exact Client.drainsServes offering untracked (servesClose h p _)
    · exact ⟨rfl, Server.drainsRefl s p.session⟩
  | pump => exact pumpDrains offering settings p s
  | collect | setIdleTimeout | dropReader => exact ⟨rfl, Server.drainsRefl s p.session⟩

end InProcess

namespace Connection
variable {σ : Type} {h : Handlers σ} {settings : WebSocket.Settings} {c : Connection}
  {b : Client} {packets : List Packet} {s t : Server σ}

/-- What the loop takes when it is told of deliveries. -/
def drained (h : Handlers σ) (settings : WebSocket.Settings) (c : Connection) (s : Server σ) :
    List Batch :=
  let (packets, t) := s.takeDeliveries c.carrier.session
  if c.isOver || packets.isEmpty then []
  else
    [⟨.webSocket c.carrier, packets,
      (c.carrier.deliver h settings packets t).1.map fun _ => ()⟩]

theorem finishDrains (offering : Offering h.process)
    (before : b.Drains packets s (.webSocket c.carrier) t) :
    b.Drains packets s (.webSocket (c.finish h t).1.carrier) (c.finish h t).2 :=
  Client.drainsClose (Client.drainsServes offering before (WebSocket.servesOnClose h c.carrier t))

theorem onTextDrains (offering : Offering h.process) (content : String) (c : Connection)
    (s : Server σ) :
    Client.Drains (.webSocket c.carrier) [] s (.webSocket (c.onText h settings content s).1.carrier)
      (c.onText h settings content s).2 := by
  have drained := Client.drainsNone offering
    (WebSocket.servesOnText h settings content c.carrier s)
  unfold onText
  generalize WebSocket.onText h settings content c.carrier s = heard at drained ⊢
  obtain ⟨handled, w, t⟩ := heard
  have ends :=
    finishDrains offering (c := { c with carrier := w, idleAt := w.idleDeadline }) drained
  simp only
  split
  · split
    · exact ends
    · exact drained
  · exact drained
  · exact ends

theorem onDeliveriesDrains (offering : Offering h.process) (s : Server σ)
    (running : c.isOver = false) :
    Client.Drains (.webSocket c.carrier) ((c.drained h settings s).flatMap Batch.packets) s
      (.webSocket (c.onDeliveries h settings s).1.carrier) (c.onDeliveries h settings s).2 := by
  have took := Server.drainsTake s c.carrier.session
  unfold onDeliveries drained
  generalize s.takeDeliveries c.carrier.session = taking at took ⊢
  obtain ⟨packets, t⟩ := taking
  simp only [running, Bool.false_or] at took ⊢
  have taken : Client.Drains (.webSocket c.carrier) packets s (.webSocket c.carrier) t :=
    ⟨rfl, took⟩
  cases none : packets.isEmpty with
  | true =>
    rw [List.isEmpty_iff.mp none] at taken
    exact taken
  | false =>
    have drained := Client.drainsServes offering taken
      (WebSocket.servesDeliver h settings packets c.carrier t)
    simp only [Bool.false_eq_true, if_false, List.flatMap_singleton]
    generalize WebSocket.deliver h settings packets c.carrier t = done at drained ⊢
    obtain ⟨sent, w, u⟩ := done
    have ends := finishDrains offering (c := c.withCarrier w) drained
    simp only
    split
    · exact drained
    · exact drained
    · exact ends

theorem deliveriesArrive (lenient : ∀ e ∈ h.extensions, e.Lenient) (s : Server σ)
    (running : c.isOver = false) :
    (c.onDeliveries h settings s).1.carrier.sink.arrivedSince c.carrier.sink.calls.length =
        ((c.drained h settings s).flatMap Batch.arrivals).map .text ∧
      ∀ b ∈ c.drained h settings s, b.Fair := by
  unfold onDeliveries drained
  generalize s.takeDeliveries c.carrier.session = taking
  obtain ⟨packets, t⟩ := taking
  simp only [running, Bool.false_or]
  cases none : packets.isEmpty with
  | true => exact ⟨c.carrier.sink.arrivedNow, by simp⟩
  | false =>
    obtain ⟨arrived, fails⟩ := WebSocket.deliverArrives lenient settings packets c.carrier t
    simp only [Bool.false_eq_true, if_false, List.flatMap_singleton, List.forall_mem_singleton]
    generalize WebSocket.deliver h settings packets c.carrier t = done at arrived fails ⊢
    obtain ⟨sent, w, u⟩ := done
    refine ⟨?_, fun p same => ?_, Batch.excuse fails⟩
    · simp only
      split <;> exact arrived
    · cases same

theorem onTickDrains (offering : Offering h.process) (c : Connection) (s : Server σ) :
    Client.Drains (.webSocket c.carrier) [] s (.webSocket (c.onTick h s).1.carrier)
      (c.onTick h s).2 := by
  have shuts := WebSocket.shutsCloseIfIdle c.carrier s
  unfold onTick
  split
  · exact ⟨rfl, Server.drainsRefl s c.carrier.session⟩
  · generalize c.carrier.closeIfIdle s = closing at shuts ⊢
    obtain ⟨closed, w⟩ := closing
    have still : Client.Drains (.webSocket c.carrier) [] s (.webSocket w) s :=
      ⟨shuts.session, Server.drainsRefl s c.carrier.session⟩
    have ends := finishDrains offering (c := c.withCarrier w) still
    simp only
    split
    · exact still
    · exact ends
    · exact ends

/-- What one signal makes the loop take out of the queue of its session. -/
def taken (h : Handlers σ) (settings : WebSocket.Settings) (c : Connection) (s : Server σ) :
    Signal → List Batch
  | .deliveries => c.drained h settings s
  | _ => []

theorem stepArrives (lenient : ∀ e ∈ h.extensions, e.Lenient) (settings : WebSocket.Settings)
    (c : Connection) (s : Server σ) :
    (c.step h settings s .deliveries).1.carrier.sink.arrivedSince c.carrier.sink.calls.length =
        ((c.drained h settings s).flatMap Batch.arrivals).map .text ∧
      ∀ b ∈ c.drained h settings s, b.Fair := by
  cases running : c.isOver with
  | true =>
    have nothing : c.drained h settings s = [] := by simp [drained, running]
    rw [nothing, stepOver h settings s .deliveries running]
    exact ⟨c.carrier.sink.arrivedNow, by simp⟩
  | false =>
    simp only [step, running, Bool.false_eq_true, if_false]
    exact deliveriesArrive lenient s running

theorem stepDrains (offering : Offering h.process) (settings : WebSocket.Settings) (c : Connection)
    (s : Server σ) (signal : Signal) :
    Client.Drains (.webSocket c.carrier) ((c.taken h settings s signal).flatMap Batch.packets) s
      (.webSocket (c.step h settings s signal).1.carrier) (c.step h settings s signal).2 := by
  have still : Client.Drains (.webSocket c.carrier) [] s (.webSocket c.carrier) s :=
    ⟨rfl, Server.drainsRefl s c.carrier.session⟩
  cases running : c.isOver with
  | true =>
    have nothing : c.taken h settings s signal = [] := by
      cases signal <;> simp [taken, drained, running]
    rw [nothing, stepOver h settings s signal running]
    exact still
  | false =>
    simp only [step, running, Bool.false_eq_true, if_false]
    cases signal with
    | text content => exact onTextDrains offering content c s
    | binary | ping => exact still
    | close | broken => exact finishDrains offering still
    | deliveries => exact onDeliveriesDrains offering s running
    | tick => exact onTickDrains offering c s

end Connection
end Bayeux
