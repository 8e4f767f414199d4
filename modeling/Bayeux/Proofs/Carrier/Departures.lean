import Bayeux.Carrier.InProcess
import Bayeux.Processor.Standard
import Bayeux.Proofs.Carrier.Answers
import Bayeux.Proofs.Extension.Outgoing
import Bayeux.Proofs.Json.Equality
/-! Every way out of the server. What a WebSocket writes and what is put into an inbox went
through the extensions, message by message and each of them once, and so did the replies of
the processors to a client in the same process. Its refusals did not: a message on an
invalid channel or one that was denied is answered past the extensions. -/

namespace Bayeux

def Outbound.texts (messages : List Message) : List String :=
  (ofMessages? messages).toList.map Outbound.text

namespace WebSocket
variable {σ : Type} {h : Handlers σ} {settings : Settings} {x y z : Handling σ}

/-- The messages `built` for this client are written: those that went out, as they did. -/
structure Posts (h : Handlers σ) (built : List Message) (x : Handling σ) (out : List Message)
    (y : Handling σ) : Prop where
  goes : ∃ u waited, Extension.GoesOut h.extensions x.carrier.session built x.server out u ∧
    y.server = { u with clock := u.clock + waited }
  carrier : y.carrier = { x.carrier with sink := y.carrier.sink }
  offered : y.carrier.sink.offered =
    x.carrier.sink.offered ++ (Outbound.texts out).map .text

theorem writePosts (h : Handlers σ) (settings : Settings) (packets : List Packet)
    (x : Handling σ) : ∃ out,
      Posts h (packets.flatMap Packet.messages) x out (write h settings packets x).2 := by
  obtain ⟨out, goes, made⟩ :=
    Outbound.goesOut h.extensions x.carrier.session packets x.server
  obtain ⟨sink, waited, carrier, server⟩ := writeFrame h settings packets x
  refine ⟨out, ⟨_, waited, goes, server⟩, by rw [carrier], ?_⟩
  rw [offeredWrite, made, Outbound.texts, List.map_map]
  rfl

inductive Replies (h : Handlers σ) (settings : Settings) :
    List (Message × String) → Handling σ → List (List Message) → Handling σ → Prop where
  | done (x : Handling σ) : Replies h settings [] x [] x
  | answered {m : Message} {path : String} {rest : List (Message × String)} {x y z : Handling σ}
      {out : List Message} {others : List (List Message)} {routed : Routed} {s : Server σ}
      (made : answer h settings x.carrier.session x.carrier.peer m path x.server = (routed, s))
      (posts : Posts h (routed.packets.flatMap Packet.messages) { x.counted with server := s }
        out y)
      (later : Replies h settings rest (disconnectAfter routed.disconnect? y) others z) :
      Replies h settings ((m, path) :: rest) x (out :: others) z

theorem offeredDisconnect (channel? : Option Channel) (x : Handling σ) :
    (disconnectAfter channel? x).carrier.sink = x.carrier.sink := by
  cases channel? <;> rfl

theorem repliesOffered {heard : List (Message × String)} {outs : List (List Message)}
    (replies : Replies h settings heard x outs y) :
    y.carrier.sink.offered =
      x.carrier.sink.offered ++ (outs.flatMap Outbound.texts).map .text := by
  induction replies with
  | done x => simp
  | answered made posts later ih =>
    rw [ih, offeredDisconnect, posts.offered]
    simp [Handling.counted]

theorem concludeReplies (h : Handlers σ) (settings : Settings) (m : Message) (path : String)
    (x : Handling σ) : ∃ out, ∀ {rest : List (Message × String)} {others : List (List Message)}
      {z : Handling σ}, Replies h settings rest (conclude h settings
        (answer h settings x.carrier.session x.carrier.peer m path x.server) x.counted).2 others z →
      Replies h settings ((m, path) :: rest) x (out :: others) z := by
  cases made : answer h settings x.carrier.session x.carrier.peer m path x.server with
  | mk routed s =>
    obtain ⟨out, posts⟩ := writePosts h settings routed.packets { x.counted with server := s }
    exact ⟨out, fun later => .answered made posts later⟩

theorem dispatchReplies (h : Handlers σ) (settings : Settings) (batch : List Value)
    (x : Handling σ) : ∃ outs, Replies h settings (handedOn h settings batch x) x outs
      (dispatch h settings batch .empty x).2 := by
  have gone := dispatches h settings batch x
  generalize dispatch h settings batch .empty x = dispatched at gone ⊢
  obtain ⟨result, y⟩ := dispatched
  simp only at gone ⊢
  induction gone with
  | done x => exact ⟨[], .done x⟩
  | ended silent =>
    rw [handedOnEnded _ silent]
    exact ⟨[], .done _⟩
  | skipped connected read others ih =>
    rw [handedOnSkips _ connected read]
    exact ih
  | @failed _ _ m path x y _ connected read concluded =>
    obtain ⟨out, last⟩ := concludeReplies h settings m path x
    rw [concluded] at last
    rw [handedOnAnswers _ connected read, concluded]
    exact ⟨[out], last (.done y)⟩
  | @answered _ _ m path x y _ _ connected read concluded others ih =>
    obtain ⟨out, first⟩ := concludeReplies h settings m path x
    obtain ⟨outs, later⟩ := ih
    rw [concluded] at first
    rw [handedOnAnswers _ connected read, concluded]
    exact ⟨out :: outs, first later⟩

def entriesOf (settings : Settings) (text : String) (w : WebSocket) : List Value :=
  if w.isClosed || !w.isConnected || decide (settings.maxTextSize < text.utf8ByteSize) then []
  else
    match Frame.decodeBatch text.toUTF8 with
    | .error _ => []
    | .ok batch => batch

structure TextPosts (h : Handlers σ) (settings : Settings) (text : String) (w : WebSocket)
    (s : Server σ) (outs : List (List Message)) (x : Handling σ) : Prop where
  replies : Replies h settings
    (handedOn h settings (entriesOf settings text w) ⟨w.touch s, {}, s⟩) ⟨w.touch s, {}, s⟩ outs x
  offered : ∃ close? : Option (Nat × String), (onText h settings text w s).2.1.sink.offered =
    w.sink.offered ++ (outs.flatMap Outbound.texts).map .text ++
      close?.toList.map fun close => .close close.1 close.2
  server : (onText h settings text w s).2.2 = x.server

theorem offeredCloseSink (w : WebSocket) (code : Nat) (reason : String) :
    (closeSink w code reason).2.sink.offered = w.sink.offered ++ [.close code reason] := by
  rw [closeSinkFrame]
  exact Sink.offeredClose _ _ _

theorem offeredCloseDisconnected (x : Handling σ) :
    (closeDisconnected x).2.server = x.server ∧ ∃ close? : Option (Nat × String),
      (closeDisconnected x).2.carrier.sink.offered = x.carrier.sink.offered ++
        close?.toList.map fun close => .close close.1 close.2 := by
  cases connected : x.carrier.isConnected with
  | true => exact ⟨by rw [closeConnected connected], none, by simp [closeConnected connected]⟩
  | false =>
    cases closed : x.carrier.isClosed with
    | true => exact ⟨by simp [closeDisconnected, closed], none, by simp [closeDisconnected, closed]⟩
    | false =>
      obtain ⟨carrier, server⟩ := closeParted connected closed
      exact ⟨server, some (CloseCode.normal, ""), by rw [carrier, offeredCloseSink]; rfl⟩

theorem unreadPosts {text : String} {w : WebSocket} {s : Server σ}
    (unread : entriesOf settings text w = []) (server : (onText h settings text w s).2.2 = s)
    (close? : Option (Nat × String))
    (offered : (onText h settings text w s).2.1.sink.offered =
      w.sink.offered ++ close?.toList.map fun close => .close close.1 close.2) :
    ∃ outs x, TextPosts h settings text w s outs x := by
  refine ⟨[], ⟨w.touch s, {}, s⟩, ?_, ⟨close?, by simpa using offered⟩, server⟩
  rw [unread]
  exact .done _

theorem textPosts (h : Handlers σ) (settings : Settings) (text : String) (w : WebSocket)
    (s : Server σ) : ∃ outs x, TextPosts h settings text w s outs x := by
  have made := taken h settings text w s
  generalize heard : onText h settings text w s = ended at made
  cases made with
  | unheard finished =>
    have unread : entriesOf settings text w = [] := by
      rcases finished with closed | silent <;> simp [entriesOf, *]
    exact unreadPosts unread (by rw [heard]) none (by simp [heard, touch])
  | large opened connected beyond =>
    refine unreadPosts (by simp [entriesOf, beyond]) (by rw [heard])
      (some (CloseCode.messageTooBig, "Message too big")) ?_
    rw [heard, offeredCloseSink]
    rfl
  | garbled opened connected within undecoded =>
    have unread : entriesOf settings text w = [] := by
      simp only [entriesOf, undecoded, ite_self]
    exact unreadPosts unread (by rw [heard]) none (by simp [heard, touch])
  | @read batch opened connected within decoded =>
    have alive : (w.isClosed || !w.isConnected ||
        decide (settings.maxTextSize < text.utf8ByteSize)) = false := by
      simp [opened, connected, within]
    have entries : entriesOf settings text w = batch := by
      simp only [entriesOf, alive, Bool.false_eq_true, if_false, decoded]
    have ends := (congrArg Prod.snd heard).trans
      (onBatchEnds h settings batch ⟨w.touch s, {}, s⟩)
    obtain ⟨outs, replies⟩ := dispatchReplies h settings batch ⟨w.touch s, {}, s⟩
    obtain ⟨server, close?, offered⟩ :=
      offeredCloseDisconnected (dispatch h settings batch .empty ⟨w.touch s, {}, s⟩).2
    refine ⟨outs, _, ⟨by rw [entries]; exact replies, ⟨close?, ?_⟩, ?_⟩⟩
    · rw [ends]
      simp only
      rw [offered, repliesOffered replies]
      rfl
    · rw [ends]
      exact server

inductive DeliveryPosts (h : Handlers σ) (settings : Settings) (packets : List Packet)
    (w : WebSocket) (s : Server σ) : WebSocket → Server σ → Prop where
  | ended (finished : w.isClosed = true ∨ w.isConnected = false) :
      DeliveryPosts h settings packets w s w s
  | posted {out : List Message} {x : Handling σ} (opened : w.isClosed = false)
      (connected : w.isConnected = true)
      (posts : Posts h (packets.flatMap Packet.messages) ⟨w, {}, s⟩ out x) :
      DeliveryPosts h settings packets w s x.carrier x.server

theorem deliveryPosts (h : Handlers σ) (settings : Settings) (packets : List Packet)
    (w : WebSocket) (s : Server σ) : DeliveryPosts h settings packets w s
      (deliver h settings packets w s).2.1 (deliver h settings packets w s).2.2 := by
  obtain ⟨out, posts⟩ := writePosts h settings packets ⟨w, {}, s⟩
  unfold deliver
  cases alive : w.isClosed || !w.isConnected with
  | true => exact .ended (by simpa using alive)
  | false =>
    obtain ⟨opened, connected⟩ : w.isClosed = false ∧ w.isConnected = true := by simpa using alive
    simp only [Bool.false_eq_true, if_false]
    generalize write h settings packets ⟨w, {}, s⟩ = written at posts
    obtain ⟨result, x⟩ := written
    cases result <;> exact .posted opened connected posts

end WebSocket

namespace InProcess
variable {σ : Type} {h : Handlers σ}

inductive Sends (h : Handlers σ) (packets : List Packet) (p : InProcess) (s : Server σ) :
    Except TransportError Unit → InProcess → Server σ → Prop where
  | ended (connected : p.isConnected = false) :
      Sends h packets p s (.error .connectionClosed) p s
  | taken {out : List Message} {inbox : Queue String} {t : Server σ}
      (connected : p.isConnected = true)
      (goes : Extension.GoesOut h.extensions p.session (packets.flatMap Packet.messages) s out t)
      (waiting : inbox.waiting = p.inbox.waiting ++ Outbound.texts out) :
      Sends h packets p s (.ok ()) { p with inbox } t
  | lost {out : List Message} {inbox : Queue String} {t : Server σ} {e : TransportError}
      (connected : p.isConnected = true)
      (goes : Extension.GoesOut h.extensions p.session (packets.flatMap Packet.messages) s out t)
      (waiting : inbox.waiting = p.inbox.waiting) :
      Sends h packets p s (.error e) { p with inbox } t

theorem sends (h : Handlers σ) (packets : List Packet) (p : InProcess) (s : Server σ) :
    Sends h packets p s (send h packets p s).1 (send h packets p s).2.1
      (send h packets p s).2.2 := by
  unfold send
  by_cases connected : p.isConnected = true
  · obtain ⟨out, goes, made⟩ := Outbound.goesOut h.extensions p.session packets s
    rw [if_neg (by simp [connected])]
    generalize Outbound.ofPackets? h.extensions p.session packets s = outbound at goes made
    obtain ⟨outbound?, t⟩ := outbound
    simp only at goes made
    subst made
    cases text : Outbound.ofMessages? out with
    | none =>
      have waiting : p.inbox.waiting = p.inbox.waiting ++ Outbound.texts out := by
        simp [Outbound.texts, text]
      exact .taken connected goes waiting
    | some outbound =>
      have waiting := Queue.offerWaiting p.inbox outbound.text
      simp only
      generalize p.inbox.offer outbound.text = offered at waiting ⊢
      obtain ⟨accepted, inbox⟩ := offered
      cases accepted with
      | true => exact .taken connected goes (by simpa [Outbound.texts, text] using waiting)
      | false => exact .lost connected goes (by simpa using waiting)
  · rw [if_pos (by simpa using connected)]
    exact .ended (by simpa using connected)

inductive SendsEach (h : Handlers σ) :
    List Packet → InProcess → Server σ → InProcess → Server σ → Prop where
  | done (p : InProcess) (s : Server σ) : SendsEach h [] p s p s
  | sent {packet : Packet} {rest : List Packet} {p q r : InProcess} {s t u : Server σ}
      {result : Except TransportError Unit} (one : Sends h [packet] p s result q t)
      (later : SendsEach h rest q t r u) : SendsEach h (packet :: rest) p s r u

theorem sendsEach (h : Handlers σ) (packets : List Packet) (p : InProcess) (s : Server σ) :
    SendsEach h packets p s (sendEach h packets p s).1 (sendEach h packets p s).2 := by
  induction packets generalizing p s with
  | nil => exact .done p s
  | cons packet rest ih => exact .sent (sends h [packet] p s) (ih _ _)

inductive Pumps (h : Handlers σ) (p : InProcess) (s : Server σ) :
    InProcess → Server σ → Prop where
  | still (stopped : p.isPumping = false) : Pumps h p s p s
  | moved {q : InProcess} {t : Server σ} (pumping : p.isPumping = true) (looks : Nat)
      (each : SendsEach h (s.takeDeliveries p.session).1 p (s.takeDeliveries p.session).2 q t) :
      Pumps h p s { q with looks } t
  | stopped {q : InProcess} {t : Server σ} (pumping : p.isPumping = true) (looks : Nat)
      (each : SendsEach h (s.takeDeliveries p.session).1 p (s.takeDeliveries p.session).2 q t) :
      Pumps h p s { q with looks, isPumping := false } (t.closeDeliveries q.session)

theorem pumps (h : Handlers σ) (settings : Settings) (p : InProcess) (s : Server σ) :
    Pumps h p s (pump h settings p s).1 (pump h settings p s).2 := by
  unfold pump
  by_cases pumping : p.isPumping = true
  · have each := sendsEach h (s.takeDeliveries p.session).1 p (s.takeDeliveries p.session).2
    rw [if_neg (by simp [pumping])]
    simp only
    split
    · split
      · exact .moved pumping _ each
      · exact .stopped pumping _ each
    · exact .moved pumping _ each
  · rw [if_pos (by simpa using pumping)]
    exact .still (by simpa using pumping)

structure Addressed (p : InProcess) (m : Message) (channel : Channel) : Prop where
  connected : p.isConnected = true
  place : ∃ path, m.channel? = some path ∧ Channel.resolve path = .ok channel

/-- How an injected message is answered. The refusals are as they were built, and the server is
left as the extensions on the way in left it. -/
inductive Injects (h : Handlers σ) (m : Message) (p : InProcess) (s : Server σ) :
    Except TransportError (List Packet) → InProcess → Server σ → Prop where
  | ended (connected : p.isConnected = false) :
      Injects h m p s (.error .connectionClosed) { p with lastContact := s.clock } s
  | nameless (connected : p.isConnected = true) (named : m.channel? = none) :
      Injects h m p s (.error .noChannel) { p with lastContact := s.clock } s
  | invalid {path : String} {fault : ProtocolError} (connected : p.isConnected = true)
      (named : m.channel? = some path) (place : Channel.resolve path = .error fault) :
      Injects h m p s (.ok [p.refusal path Reply.invalidChannel m])
        { p with lastContact := s.clock } s
  | denied {channel : Channel} {c : Context} {t : Server σ} (addressed : Addressed p m channel)
      (pass : Extension.incomingPass h.extensions p.session ⟨transport, .inProcess, channel, m⟩ s =
        (false, c, t)) :
      Injects h m p s (.ok [p.refusal c.channel.path Reply.denied c.message])
        { p with lastContact := s.clock } t
  | failed {channel : Channel} {c : Context} {t u : Server σ} {e : ProcessingError}
      (addressed : Addressed p m channel)
      (pass : Extension.incomingPass h.extensions p.session ⟨transport, .inProcess, channel, m⟩ s =
        (true, c, t))
      (response : Router.respond h.process [transport] p.session c t = (.error e, u)) :
      Injects h m p s (.error (.processing e)) { p with lastContact := s.clock } u
  | stayed {channel : Channel} {c : Context} {t u v : Server σ} {routed : Routed}
      {packets : List Packet} (addressed : Addressed p m channel)
      (pass : Extension.incomingPass h.extensions p.session ⟨transport, .inProcess, channel, m⟩ s =
        (true, c, t))
      (response : Router.respond h.process [transport] p.session c t = (.ok routed, u))
      (stays : routed.disconnect? = none)
      (goes : Extension.GoesOut h.extensions p.session (routed.packets.flatMap Packet.messages) u
        (packets.flatMap Packet.messages) v) :
      Injects h m p s (.ok packets) { p with lastContact := s.clock } v
  | parted {channel path : Channel} {c : Context} {t u v : Server σ} {routed : Routed}
      {packets : List Packet} (addressed : Addressed p m channel)
      (pass : Extension.incomingPass h.extensions p.session ⟨transport, .inProcess, channel, m⟩ s =
        (true, c, t))
      (response : Router.respond h.process [transport] p.session c t = (.ok routed, u))
      (leaves : routed.disconnect? = some path)
      (goes : Extension.GoesOut h.extensions p.session (routed.packets.flatMap Packet.messages)
        (Router.applyDisconnect p.session path u) (packets.flatMap Packet.messages) v) :
      Injects h m p s (.ok packets)
        (close h { p with lastContact := s.clock, isConnected := false } v).1
        (close h { p with lastContact := s.clock, isConnected := false } v).2

theorem injectOnInjects {channel : Channel} {m : Message} {p : InProcess} {s : Server σ}
    (addressed : Addressed p m channel) :
    let ended := injectOn h channel m { p with lastContact := s.clock } s
    Injects h m p s ended.1 ended.2.1 ended.2.2 := by
  simp only [injectOn]
  cases pass : Extension.incomingPass h.extensions p.session ⟨transport, .inProcess, channel, m⟩
      s with
  | mk accepted left =>
    obtain ⟨c, t⟩ := left
    cases accepted with
    | false => exact .denied addressed pass
    | true =>
      simp only [route, if_true]
      cases response : Router.respond h.process [transport] p.session c t with
      | mk result u =>
        cases result with
        | error e => exact .failed addressed pass response
        | ok routed =>
          simp only [answer]
          cases leaving : routed.disconnect? with
          | none =>
            exact .stayed addressed pass response leaving
              (Extension.goesOutPackets h.extensions p.session routed.packets u)
          | some path =>
            exact .parted addressed pass response leaving
              (Extension.goesOutPackets h.extensions p.session routed.packets _)

theorem injects (h : Handlers σ) (m : Message) (p : InProcess) (s : Server σ) :
    Injects h m p s (inject h m p s).1 (inject h m p s).2.1 (inject h m p s).2.2 := by
  unfold inject
  simp only
  by_cases connected : p.isConnected = true
  · rw [if_neg (by simp [connected])]
    cases named : m.channel? with
    | none => exact .nameless connected named
    | some path =>
      simp only
      cases place : Channel.resolve path with
      | error fault => exact .invalid connected named place
      | ok channel => exact injectOnInjects ⟨connected, path, named, place⟩
  · rw [if_pos (by simpa using connected)]
    exact .ended (by simpa using connected)

end InProcess

structure WaysOut {σ : Type} (h : Handlers σ) : Prop where
  text : ∀ (settings : WebSocket.Settings) (text : String) (w : WebSocket) (s : Server σ),
    ∃ outs x, WebSocket.TextPosts h settings text w s outs x
  delivery : ∀ (settings : WebSocket.Settings) (packets : List Packet) (w : WebSocket)
    (s : Server σ), WebSocket.DeliveryPosts h settings packets w s
      (WebSocket.deliver h settings packets w s).2.1 (WebSocket.deliver h settings packets w s).2.2
  sending : ∀ (packets : List Packet) (p : InProcess) (s : Server σ),
    InProcess.Sends h packets p s (InProcess.send h packets p s).1
      (InProcess.send h packets p s).2.1 (InProcess.send h packets p s).2.2
  pumping : ∀ (settings : InProcess.Settings) (p : InProcess) (s : Server σ),
    InProcess.Pumps h p s (InProcess.pump h settings p s).1 (InProcess.pump h settings p s).2
  injection : ∀ (m : Message) (p : InProcess) (s : Server σ),
    InProcess.Injects h m p s (InProcess.inject h m p s).1 (InProcess.inject h m p s).2.1
      (InProcess.inject h m p s).2.2

theorem waysOut {σ : Type} (h : Handlers σ) : WaysOut h where
  text := WebSocket.textPosts h
  delivery := WebSocket.deliveryPosts h
  sending := InProcess.sends h
  pumping := InProcess.pumps h
  injection := InProcess.injects h

/-- An extension that marks whatever goes out. It is not asked about a refusal that is returned,
and is about the one that is written. -/
theorem refusalUnmarked :
    let marking : Extension Unit := { Extension.silent "marking" with
      outgoing := fun _ id m memory => (true, m.putExt "seen" (.string id), memory) }
    let h : Handlers Unit := ⟨Standard.process ⟨.current, .current, 0, 30000⟩, [marking]⟩
    let opened := InProcess.open ⟨30000, 1000, 1000, 16⟩ (Server.start ())
    let injected := InProcess.inject h (.forChannel "nowhere") opened.1 opened.2
    let socket := WebSocket.open ⟨-1, none, 65536, [WebSocket.transport], 16⟩ .inProcess
      (Server.start ())
    let written := WebSocket.onText h ⟨-1, none, 65536, [WebSocket.transport], 16⟩
      "\x7b\"channel\":\"nowhere\"\x7d" socket.1 socket.2
    injected.1.toOption.map (fun packets =>
        (packets.flatMap Packet.messages).map Message.visible) =
      some [.object [("successful", .bool false), ("channel", .string "nowhere"),
        ("error", .string "Invalid channel"), ("clientId", .string opened.1.session)]] ∧
      injected.2.2.notices = opened.2.notices ∧
      written.2.1.sink.calls.length = 1 ∧
      written.2.2.notices = .outgoing "marking" :: socket.2.notices := by
  decide +kernel

end Bayeux
