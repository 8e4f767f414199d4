import Bayeux.Proofs.Carrier.Accepting
import Bayeux.Proofs.Carrier.Departures
import Bayeux.Proofs.Carrier.InProcess
import Bayeux.Proofs.Extension.Lenient
import Bayeux.Proofs.Server.Beside
/-! One message on either carrier. Away from handshake and connect the transport does not matter,
so with extensions that let everything pass, what is returned to a client in the same process
is what is written to a WebSocket, and the server is left alike. -/

namespace Bayeux

namespace Router
variable {σ : Type}

/-- A disconnect that was asked for takes effect. -/
def parting (id : String) (channel? : Option Channel) (s : Server σ) : Server σ :=
  match channel? with
  | some channel => applyDisconnect id channel s
  | none => s

theorem failedStays (settings : Standard.Settings) {transports : List String} {id : String}
    {c : Context} {s t : Server σ} {e : ProcessingError}
    (failed : respond (Standard.process settings) transports id c s = (.error e, t)) : t = s := by
  have routing := Router.routing settings transports id c s
  rw [failed] at routing
  cases routing
  rfl

end Router

namespace WebSocket
variable {σ : Type} {h : Handlers σ} {settings : Settings} {x : Handling σ} {w : WebSocket}

theorem concludeLenient (lenient : ∀ e ∈ h.extensions, e.Lenient) (settings : Settings)
    (answered : Routed × Server σ) (x : Handling σ) :
    ∃ clock memory notices, let y := (conclude h settings answered x).2
      y.carrier.sink.offered = x.carrier.sink.offered ++
          (Packet.textOfAll? answered.1.packets).toList.map .text ∧
        y.carrier.isConnected = (x.carrier.isConnected && answered.1.disconnect?.isNone) ∧
        y.server = Router.parting x.carrier.session answered.1.disconnect?
          { answered.2 with clock, memory, notices } := by
  have offered : (write h settings answered.1.packets
      { x with server := answered.2 }).2.carrier.sink.offered = _ := offeredWrite _ _
  obtain ⟨sink, waited, carrier, server⟩ := writeFrame h settings answered.1.packets
    { x with server := answered.2 }
  obtain ⟨memory, notices, passed, text⟩ :=
    Extension.lenientPackets lenient x.carrier.session answered.1.packets answered.2
  simp only [Outbound.ofPackets?, passed] at offered server
  refine ⟨answered.2.clock + waited, memory, notices, ?_⟩
  unfold conclude
  generalize write h settings answered.1.packets { x with server := answered.2 } = written
    at offered carrier server
  obtain ⟨result, y⟩ := written
  simp only at offered carrier server ⊢
  have texts : y.carrier.sink.offered = x.carrier.sink.offered ++
      (Packet.textOfAll? answered.1.packets).toList.map .text := by
    rw [offered, text]
    cases Packet.textOfAll? answered.1.packets <;> rfl
  cases answered.1.disconnect? with
  | none => exact ⟨texts, by simp [disconnectAfter, carrier], server⟩
  | some channel =>
    have session : y.carrier.session = x.carrier.session := by rw [carrier]
    refine ⟨texts, by simp [disconnectAfter], ?_⟩
    simp only [disconnectAfter, Router.parting, session, server]

theorem closeServer (x : Handling σ) : (closeDisconnected x).2.server = x.server := by
  unfold closeDisconnected
  split
  · simp only
    split <;> rfl
  · rfl

/-- What comes of a frame of one message that is answered like this. -/
structure Hears (w : WebSocket) (routed : Routed) (answered : Server σ)
    (heard : Except TransportError Outcome × WebSocket × Server σ) : Prop where
  outcome : ∃ outcome, heard.1 = .ok outcome ∧ outcome.closed = routed.disconnect?.isSome
  offered : heard.2.1.sink.offered = w.sink.offered ++
    (Packet.textOfAll? routed.packets).toList.map .text ++
    (if routed.disconnect?.isSome then [.close CloseCode.normal ""] else [])
  closed : heard.2.1.isClosed = routed.disconnect?.isSome
  server : ∃ clock memory notices, heard.2.2 =
    Router.parting w.session routed.disconnect? { answered with clock, memory, notices }

theorem onTextOne (lenient : ∀ e ∈ h.extensions, e.Lenient) {text path : String} {m : Message}
    (s : Server σ) (opened : w.isClosed = false) (connected : w.isConnected = true)
    (accepts : w.sink.Accepts) (within : text.utf8ByteSize ≤ settings.maxTextSize)
    (read : Frame.decodeBatch text.toUTF8 = .ok [.object m.fields])
    (named : m.channel? = some path) :
    Hears w (answer h settings w.session w.peer m path s).1
      (answer h settings w.session w.peer m path s).2 (onText h settings text w s) := by
  have asked : messageOf? (.object m.fields) = some (m, path) := by
    simp [messageOf?, show Message.channel? ⟨m.fields⟩ = some path from named]
  let x : Handling σ := ⟨w.touch s, {}, s⟩
  let answered := answer h settings w.session w.peer m path s
  have heard : onText h settings text w s = (let y := (closeDisconnected
      (conclude h settings answered x.counted).2).2
      (.ok y.outcome, y.carrier, y.server)) := by
    rw [onTextRead opened connected within read,
      onBatchAccepted (x := x) h settings [.object m.fields] accepts opened,
      dispatchAccepted (x := x) [] asked accepts connected]
    rfl
  obtain ⟨clock, memory, notices, texts, leaving, server⟩ :=
    concludeLenient lenient settings answered x.counted
  have accepted := (concludeAccepted (x := x.counted) h settings accepts answered).2
  have still := (concludeClosed h settings answered x.counted).trans opened
  obtain ⟨written, counts⟩ := countsConclude (x := x.counted) h settings accepts answered
  obtain ⟨outcome, shut, -, offered⟩ := closeWritten accepted still counts.closed
  have parts : (!(conclude h settings answered x.counted).2.carrier.isConnected) =
      answered.1.disconnect?.isSome := by
    rw [leaving, show x.counted.carrier.isConnected = true from connected]
    cases answered.1.disconnect? <;> rfl
  have closed : (closeDisconnected (conclude h settings answered x.counted).2).2.outcome.closed =
      answered.1.disconnect?.isSome := by
    rw [outcome]
    exact parts
  rw [heard]
  refine ⟨⟨_, rfl, closed⟩, ?_, shut.trans closed, clock, memory, notices, ?_⟩
  · simp only [offered, closed, texts]
    rfl
  · simp only [closeServer, server]
    rfl

end WebSocket

section
variable {σ : Type} {h : Handlers σ} {settings : WebSocket.Settings}
  {processing : Standard.Settings} {s t : Server σ}

/- The two contexts differ in the transport and the peer, which no route but these two asks for. -/
theorem respondBeside (settings : WebSocket.Settings)
    (process : h.process = Standard.process processing)
    (lenient : ∀ e ∈ h.extensions, e.Lenient) {id : String} (beside : Server.Beside id s t)
    (peer : Peer) {channel : Channel} (m : Message)
    (place : channel.path ≠ Route.handshakePath ∧ channel.path ≠ Route.connectPath) :
    ∃ u answer v x, Extension.incomingPass h.extensions id
        ⟨InProcess.transport, .inProcess, channel, m⟩ s =
          (true, ⟨InProcess.transport, .inProcess, channel, m⟩, u) ∧
      Router.respond h.process [InProcess.transport] id
        ⟨InProcess.transport, .inProcess, channel, m⟩ u = (answer, v) ∧
      WebSocket.answerOn h settings id peer channel m t =
        ((match answer with
          | .ok routed => routed
          | .error _ => ⟨[], none⟩), x) ∧ Server.Beside id v x ∧
      ∀ e, answer = .error e → x.registry = t.registry ∧ x.sessions = t.sessions := by
  obtain ⟨memory, notices, left⟩ := Extension.lenientIncoming lenient id
    ⟨InProcess.transport, .inProcess, channel, m⟩ s
  obtain ⟨memory', notices', right⟩ := Extension.lenientIncoming lenient id
    ⟨WebSocket.transport, peer, channel, m⟩ t
  have passed := Server.besideAside beside s.clock t.clock memory memory' notices notices'
  have elsewhere : ∀ {route path}, Route.path? route = some path → channel.path ≠ path →
      Route.ofPath channel.path ≠ route := by
    intro route path only other same
    exact other (Route.pathOnly (same ▸ only))
  obtain ⟨answer, change, does, here, there⟩ := Router.respondInStep processing
    [InProcess.transport] settings.transports id
    (c := ⟨InProcess.transport, .inProcess, channel, m⟩)
    (d := ⟨WebSocket.transport, peer, channel, m⟩) ⟨rfl, rfl⟩
    (fun handshake => absurd handshake (elsewhere rfl place.1))
    (fun connect => absurd connect (elsewhere rfl place.2)) passed.state
    (Server.besideSubscribed passed channel)
  refine ⟨_, answer, _, _, left, process ▸ here, ?_, Server.besideChange does passed, ?_⟩
  · simp only [WebSocket.answerOn, right, if_true, WebSocket.answerRouted, process, there]
    cases answer <;> rfl
  · rintro e rfl
    rw [Router.failedStays processing there]
    exact ⟨rfl, rfl⟩

/-- What comes of injecting a message, on the one side, and of hearing it in a frame. -/
structure AnswersAlike (session : String)
    (injected : Except TransportError (List Packet) × InProcess × Server σ) (w : WebSocket)
    (t : Server σ) (heard : Except TransportError WebSocket.Outcome × WebSocket × Server σ) :
    Prop where
  returned : ∀ packets, injected.1 = .ok packets →
    heard.2.1.sink.offered = w.sink.offered ++ (Packet.textOfAll? packets).toList.map .text ++
      (if heard.2.1.isClosed then [.close CloseCode.normal ""] else [])
  failed : ∀ e, injected.1 = .error e → (∃ fault, e = .processing fault) ∧
    heard.2.1.sink.offered = w.sink.offered ∧ Server.Matches session t heard.2.2
  closes : heard.2.1.isClosed = injected.2.1.isClosed
  outcome : ∃ outcome, heard.1 = .ok outcome ∧ outcome.closed = injected.2.1.isClosed
  server : Server.Matches session injected.2.2 heard.2.2

theorem alikeReturned {session : String} {q : InProcess} {w : WebSocket} {routed : Routed}
    {packets : List Packet} {u x : Server σ}
    {heard : Except TransportError WebSocket.Outcome × WebSocket × Server σ}
    (hears : WebSocket.Hears w routed x heard)
    (texts : Packet.textOfAll? packets = Packet.textOfAll? routed.packets)
    (closes : q.isClosed = routed.disconnect?.isSome)
    (server : Server.Matches session u heard.2.2) :
    AnswersAlike session (.ok packets, q, u) w t heard where
  returned others same := by
    cases same
    rw [hears.offered, hears.closed, texts]
  failed e none := by cases none
  closes := hears.closed.trans closes.symm
  outcome := by
    obtain ⟨outcome, handled, closed⟩ := hears.outcome
    exact ⟨outcome, handled, closed.trans closes.symm⟩
  server := server

theorem alikeFailed {session : String} {q : InProcess} {w : WebSocket} {u x : Server σ}
    {fault : ProcessingError}
    {heard : Except TransportError WebSocket.Outcome × WebSocket × Server σ}
    (hears : WebSocket.Hears w ⟨[], none⟩ x heard) (opened : q.isClosed = false)
    (still : Server.Matches session t heard.2.2)
    (server : Server.Matches session u heard.2.2) :
    AnswersAlike session (.error (.processing fault), q, u) w t heard where
  returned packets none := by cases none
  failed e same := by
    cases same
    exact ⟨⟨fault, rfl⟩, hears.offered.trans (by simp [Packet.textOfAll?]), still⟩
  closes := hears.closed.trans opened.symm
  outcome := by
    obtain ⟨outcome, handled, closed⟩ := hears.outcome
    exact ⟨outcome, handled, closed.trans opened.symm⟩
  server := server

theorem closeMatches {q : InProcess} {r : Registry} (opened : q.isClosed = false)
    (silent : q.isConnected = false) (distinct : r.channels.Distinct)
    (left : s.registry = r.unsubscribeAll q.session) (beside : Server.Beside q.session s t) :
    Server.Matches q.session (q.close h s).2 t := by
  have frame := Extension.forgetPassFrame h.extensions q.session (s.removeSession q.session)
  have twice := Registry.unsubscribeAllTwice distinct q.session
  rw [← left] at twice
  simp only [InProcess.close, opened, silent, Bool.false_eq_true, if_false]
  rw [frame]
  refine ⟨beside.state, ?_, ?_, beside.others⟩
  · rw [beside.registry]
    exact (congrArg Registry.subscriptions twice).symm
  · rw [beside.registry]
    exact (congrArg Registry.channels twice).symm

/- A disconnect takes effect before the replies pass the extensions here and behind them there,
and here the session is taken off the list as well. -/
theorem alikeRouted (lenient : ∀ e ∈ h.extensions, e.Lenient) {p : InProcess} {w : WebSocket}
    {routed : Routed} {v x : Server σ}
    {heard : Except TransportError WebSocket.Outcome × WebSocket × Server σ}
    (hears : WebSocket.Hears w routed x heard) (same : w.session = p.session)
    (opened : p.isClosed = false) (beside : Server.Beside p.session v x) :
    AnswersAlike p.session (let answered := p.answer h routed v; (.ok answered.1, answered.2)) w t
      heard := by
  obtain ⟨clock, memory, notices, server⟩ := hears.server
  rw [same] at server
  cases leaving : routed.disconnect? with
  | none =>
    obtain ⟨memory', notices', passed, texts⟩ :=
      Extension.lenientPackets lenient p.session routed.packets v
    simp only [InProcess.answer, leaving]
    refine alikeReturned hears texts (by rw [leaving]; exact opened) ?_
    rw [server, leaving, passed]
    exact Server.matchesBeside
      (Server.besideAside beside v.clock clock memory' memory notices' notices)
  | some left =>
    obtain ⟨memory', notices', passed, texts⟩ := Extension.lenientPackets lenient p.session
      routed.packets (Router.applyDisconnect p.session left v)
    have parted := Server.besideParted
      (Server.besideAside beside v.clock clock v.memory memory v.notices notices) left
    have gone : (Router.applyDisconnect p.session left v).registry =
        v.registry.unsubscribeAll p.session := by
      simp only [Router.applyDisconnect, Server.disconnected, Server.onRegistry, Server.note,
        Server.markDisconnected]
      rw [Server.onSessionFrame]
    let q : InProcess := { p with isConnected := false }
    have shut : ∀ u : Server σ, (q.close h u).1.isClosed = true := by
      intro u
      rw [InProcess.closeFlags (p := q) h u opened]
    simp only [InProcess.answer, leaving, passed]
    refine alikeReturned hears texts ((shut _).trans (by rw [leaving]; rfl)) ?_
    rw [server, leaving]
    exact closeMatches (q := q) opened rfl beside.distinct gone
      (Server.besideAside parted _ _ memory' _ notices' _)

theorem injectRoutes {p : InProcess} {m : Message} {path : String} {channel : Channel}
    {c : Context} {u : Server σ} (alive : p.isConnected = true) (named : m.channel? = some path)
    (resolved : Channel.resolve path = .ok channel)
    (pass : Extension.incomingPass h.extensions p.session
      ⟨InProcess.transport, .inProcess, channel, m⟩ s = (true, c, u)) :
    p.inject h m s = InProcess.route h c { p with lastContact := s.clock } u := by
  simp only [InProcess.inject, alive, Bool.not_true, Bool.false_eq_true, if_false, named, resolved,
    InProcess.injectOn, pass, if_true]

/- Any registry and any state of the session. The servers may differ in the rest of the session,
and the carriers in all but its name. -/
theorem carriersAlike (process : h.process = Standard.process processing)
    (lenient : ∀ e ∈ h.extensions, e.Lenient) {p : InProcess} {w : WebSocket}
    {m : Message} {text path : String} (same : w.session = p.session)
    (distinct : s.registry.channels.Distinct) (registry : t.registry = s.registry)
    (state : t.stateOf p.session = s.stateOf p.session)
    (others : ∀ other, other ≠ p.session → t.session? other = s.session? other)
    (alive : p.isConnected = true ∧ p.isClosed = false)
    (connected : w.isConnected = true ∧ w.isClosed = false) (accepts : w.sink.Accepts)
    (within : text.utf8ByteSize ≤ settings.maxTextSize)
    (read : Frame.decodeBatch text.toUTF8 = .ok [.object m.fields])
    (named : m.channel? = some path)
    (place : path ≠ Route.handshakePath ∧ path ≠ Route.connectPath) :
    AnswersAlike p.session (p.inject h m s) w t (w.onText h settings text t) := by
  have beside : Server.Beside p.session s t := ⟨distinct, registry, state, others⟩
  have hears := WebSocket.onTextOne lenient t connected.2 connected.1 accepts within read named
  generalize w.onText h settings text t = heard at hears ⊢
  rw [same] at hears
  cases resolved : Channel.resolve path with
  | error fault =>
    have refused : p.inject h m s = (.ok [p.refusal path Reply.invalidChannel m],
        { p with lastContact := s.clock }, s) := by
      simp only [InProcess.inject, alive.1, Bool.not_true, Bool.false_eq_true, if_false, named,
        resolved]
      rfl
    rw [refused]
    simp only [WebSocket.answer, resolved] at hears
    obtain ⟨clock, memory, notices, server⟩ := hears.server
    refine alikeReturned hears rfl alive.2 ?_
    rw [server]
    exact Server.matchesBeside
      (Server.besideAside beside s.clock clock s.memory memory s.notices notices)
  | ok channel =>
    have there : channel.path ≠ Route.handshakePath ∧ channel.path ≠ Route.connectPath := by
      rw [Channel.parseOk (Channel.resolveOk.mp resolved)]
      exact place
    obtain ⟨arrived, decided, v, x, pass, response, answered, alongside, unheard⟩ :=
      respondBeside settings process lenient beside w.peer m there
    simp only [injectRoutes alive.1 named resolved pass, InProcess.route, response]
    simp only [WebSocket.answer, resolved, answered] at hears
    cases decided with
    | error e =>
      obtain ⟨clock, memory, notices, server⟩ := hears.server
      obtain ⟨registry, sessions⟩ := unheard e rfl
      have aside := Server.besideAside alongside v.clock clock v.memory memory v.notices notices
      refine alikeFailed hears alive.2 ?_ (by rw [server]; exact Server.matchesBeside aside)
      rw [server]
      refine ⟨?_, congrArg Registry.subscriptions registry, congrArg Registry.channels registry,
        fun other _ => congrArg (Table.get? · other) sessions⟩
      simp only [Router.parting, Server.stateOf, Server.session?, sessions]
    | ok routed =>
      let q : InProcess := { p with lastContact := s.clock }
      exact alikeRouted (p := q) lenient hears same alive.2 alongside

/- The reply to a disconnect, which closes both. -/
theorem carriersAlikeParting :
    let h : Handlers Unit := ⟨Standard.process ⟨.current, .current, 0, 30000⟩, [.silent "audit"]⟩
    let settings : WebSocket.Settings := ⟨-1, none, 65536, [WebSocket.transport], 16⟩
    let text := "[\x7b\"channel\":\"/meta/disconnect\",\"clientId\":\"x\",\"id\":\"7\"\x7d]"
    let asked := Json.object [("channel", .string "/meta/disconnect"), ("clientId", .string "x"),
      ("id", .string "7")]
    let m := Message.ofValue (.ofJson asked)
    let session := fun transport : String =>
      { Session.opened "x" transport true 4 with state := .connected }
    let s : Server Unit := ((Server.start ()).setSession "x" (session "local")).receiveAll
      [.added "x", .added "y", .subscribed "x" ⟨"/*", by decide⟩,
        .subscribed "y" ⟨"/*", by decide⟩]
    let t : Server Unit := { s.setSession "x" (session "websocket") with clock := 5 }
    let p : InProcess := ⟨"x", 0, 0, 0, true, false, .ofSize 4, 0, true⟩
    let w : WebSocket :=
      { (WebSocket.open settings .inProcess (Server.start ())).1 with session := "x" }
    (∀ e ∈ h.extensions, e.Lenient) ∧ s.registry.channels.Distinct ∧
      t.stateOf "x" = s.stateOf "x" ∧ w.sink.Accepts ∧
      Frame.decodeBatch text.toUTF8 = .ok [.object m.fields] ∧
      m.channel? = some Route.disconnectPath ∧
      (w.onText h settings text t).2.1.isClosed = true ∧
      (w.onText h settings text t).2.1.sink.offered.length = 2 ∧
      AnswersAlike p.session (p.inject h m s) w t (w.onText h settings text t) := by
  intro h settings text asked m session s t p w
  have lenient : ∀ e ∈ h.extensions, e.Lenient := by
    intro e member
    obtain rfl : e = .silent "audit" := List.mem_singleton.mp member
    exact ⟨fun _ _ _ _ => ⟨rfl, rfl⟩, fun _ _ _ _ => ⟨rfl, rfl⟩⟩
  have distinct : s.registry.channels.Distinct := by
    unfold Table.Distinct
    decide +kernel
  have others : ∀ other, other ≠ p.session → t.session? other = s.session? other :=
    fun other different => Table.getPutOther s.sessions (session "websocket") different
  have accepts : w.sink.Accepts := ⟨fun _ => rfl, fun _ => rfl⟩
  have read : Frame.decodeBatch text.toUTF8 = .ok (Value.ofItems [asked]) :=
    Frame.decodeBatchItems (by decide +kernel) (by decide +kernel)
  exact ⟨lenient, distinct, rfl, accepts, read, rfl, by decide +kernel, by decide +kernel,
    carriersAlike rfl lenient rfl distinct rfl rfl others ⟨rfl, rfl⟩ ⟨rfl, rfl⟩ accepts
      (by decide +kernel) read rfl ⟨by decide, by decide⟩⟩

end

end Bayeux
