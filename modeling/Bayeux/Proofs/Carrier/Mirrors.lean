import Bayeux.Proofs.Carrier.Answers
import Bayeux.Proofs.Server.Mirrors
import Bayeux.Carrier.InProcess
/-! One carrier on two servers that agree on the part of its session. A frame, an injected message
or the end of the connection has the same outcome on both, leaves the same carrier behind, and
the servers agree on the new part. -/

namespace Bayeux

namespace WebSocket
variable {σ : Type} {samples : σ → Timesync.Samples} {h : Handlers σ} {settings : Settings}
  {processing : Standard.Settings} {x : Handling σ} {w : WebSocket} {s t : Server σ}

/-- The handling is the same but for the server. -/
def HandledSame (samples : σ → Timesync.Samples) (session : String)
    (left right : Except TransportError Unit × Handling σ) : Prop :=
  ∃ result y t, left = (result, y) ∧ right = (result, { y with server := t }) ∧
    y.carrier.session = session ∧ Server.Mirrors samples session y.server t

theorem mirrorsWriteText (settings : Settings) (text : String)
    (mirrors : Server.Mirrors samples w.session s t) :
    ∃ result v s' t', writeText settings w text s = (result, v, s') ∧
      writeText settings w text t = (result, v, t') ∧ v.session = w.session ∧
      Server.Mirrors samples w.session s' t' := by
  unfold writeText
  generalize w.sink.text text = written
  obtain ⟨result, sink⟩ := written
  cases result with
  | written => exact ⟨_, _, s, t, rfl, rfl, rfl, mirrors⟩
  | failed reason => exact ⟨_, _, s, t, rfl, rfl, rfl, mirrors⟩
  | stalled =>
    exact ⟨_, _, _, _, rfl, rfl, rfl, Server.mirrorsAside mirrors
      (congrArg (· + settings.patience) mirrors.part.clock) _ _⟩

theorem mirrorsWrite (plain : ∀ e ∈ h.extensions, e.Plain samples) (settings : Settings)
    (packets : List Packet) (mirrors : Server.Mirrors samples x.carrier.session x.server t) :
    HandledSame samples x.carrier.session (write h settings packets x)
      (write h settings packets { x with server := t }) := by
  obtain ⟨left, s', t', here, there, between⟩ := Extension.mirrorsPackets plain mirrors packets
  unfold write Outbound.ofPackets?
  simp only [here, there]
  cases Packet.textOfAll? left with
  | none => exact ⟨_, _, t', rfl, rfl, rfl, between⟩
  | some text =>
    obtain ⟨result, v, u, u', wrote, wrote', session, after⟩ :=
      mirrorsWriteText settings text between
    simp only [Option.map_some, wrote, wrote']
    cases result <;> exact ⟨_, _, u', rfl, rfl, session, after⟩

theorem mirrorsAnswer (process : h.process = Standard.process processing)
    (plain : ∀ e ∈ h.extensions, e.Plain samples) (settings : Settings) {session : String}
    (peer : Peer) (m : Message) (path : String) (mirrors : Server.Mirrors samples session s t) :
    Server.InMirror samples session (answer h settings session peer m path s)
      (answer h settings session peer m path t) := by
  unfold answer answerOn answerRouted
  cases Channel.resolve path with
  | error fault => exact ⟨_, s, t, rfl, rfl, mirrors⟩
  | ok channel =>
    obtain ⟨s', t', here, there, passed⟩ :=
      Extension.mirrorsIncoming plain mirrors ⟨transport, peer, channel, m⟩
    obtain ⟨result, u, u', left, right, after⟩ := Server.mirrorsRespond process passed
      settings.transports ⟨transport, peer, channel, m⟩
    simp only [here, there, if_true, left, right]
    cases result <;> exact ⟨_, u, u', rfl, rfl, after⟩

theorem mirrorsConclude (plain : ∀ e ∈ h.extensions, e.Plain samples) (settings : Settings)
    (routed : Routed) (mirrors : Server.Mirrors samples x.carrier.session s t) (u : Server σ) :
    HandledSame samples x.carrier.session (conclude h settings (routed, s) x)
      (conclude h settings (routed, t) { x with server := u }) := by
  obtain ⟨result, y, t', here, there, session, after⟩ :=
    mirrorsWrite (x := { x with server := s }) plain settings routed.packets mirrors
  simp only [conclude, here, there]
  cases routed.disconnect? with
  | none => exact ⟨result, y, t', rfl, rfl, session, after⟩
  | some channel =>
    refine ⟨result, _, _, rfl, rfl, session, ?_⟩
    rw [← session] at after ⊢
    exact Server.mirrorsEnded after false (some channel)

theorem mirrorsDispatch (process : h.process = Standard.process processing)
    (plain : ∀ e ∈ h.extensions, e.Plain samples) (settings : Settings) (batch : List Value)
    (mirrors : Server.Mirrors samples x.carrier.session x.server t) :
    HandledSame samples x.carrier.session (dispatch h settings batch .empty x)
      (dispatch h settings batch .empty { x with server := t }) := by
  have still : ∀ {x : Handling σ} {t : Server σ},
      Server.Mirrors samples x.carrier.session x.server t →
        HandledSame samples x.carrier.session (.ok (), x) (.ok (), { x with server := t }) :=
    fun mirrors => ⟨_, _, _, rfl, rfl, rfl, mirrors⟩
  induction batch generalizing x t with
  | nil => exact still mirrors
  | cons entry rest ih =>
    let y : Handling σ := { x with server := t }
    cases connected : x.carrier.isConnected with
    | false =>
      rw [dispatchSilent _ _ _ _ connected, dispatchSilent (x := y) _ _ _ _ connected]
      exact still mirrors
    | true =>
      cases read : messageOf? entry with
      | none =>
        rw [dispatchSkips rest .empty read, dispatchSkips rest .empty read]
        exact ih mirrors
      | some asked =>
        obtain ⟨m, path⟩ := asked
        obtain ⟨routed, s', t', here, there, answered⟩ :=
          mirrorsAnswer process plain settings x.carrier.peer m path mirrors
        obtain ⟨result, z, u, left, right, session, after⟩ :=
          mirrorsConclude (x := x.counted) plain settings routed answered t
        rw [dispatchAnswers rest .empty read connected,
          dispatchAnswers (x := y) rest .empty read connected, here, there, left,
          show conclude h settings (routed, t') y.counted = (result, { z with server := u }) from
            right]
        cases result with
        | error e => exact ⟨_, z, u, rfl, rfl, session, after⟩
        | ok written =>
          have kept : z.carrier.session = x.carrier.session := session
          rw [← kept]
          exact ih (session ▸ after)

theorem mirrorsOnBatch (process : h.process = Standard.process processing)
    (plain : ∀ e ∈ h.extensions, e.Plain samples) (settings : Settings) (batch : List Value)
    (mirrors : Server.Mirrors samples x.carrier.session x.server t) :
    ∃ answer v s' t', onBatch h settings batch x = (answer, v, s') ∧
      onBatch h settings batch { x with server := t } = (answer, v, t') ∧
      Server.Mirrors samples x.carrier.session s' t' := by
  obtain ⟨dispatched, y, u, here, there, -, after⟩ :=
    mirrorsDispatch process plain settings batch mirrors
  -- The sink is closed for the carrier alone, and the server is not asked.
  have shut : ∃ closed, ∃ z : Handling σ,
      closeDisconnected y = (closed, { z with server := y.server }) ∧
      closeDisconnected { y with server := u } = (closed, { z with server := u }) := by
    unfold closeDisconnected
    simp only
    split
    · generalize closeSink y.carrier CloseCode.normal "" = closing
      obtain ⟨closed, v⟩ := closing
      cases closed with
      | error e => exact ⟨.error e, { y with carrier := v }, rfl, rfl⟩
      | ok done =>
        exact ⟨.ok (), { y with carrier := v, outcome := { y.outcome with closed := true } },
          rfl, rfl⟩
    · exact ⟨.ok (), y, rfl, rfl⟩
  obtain ⟨closed, z, left, right⟩ := shut
  simp only [onBatch, here, there, left, right]
  cases closed with
  | error e => exact ⟨_, _, _, _, rfl, rfl, after⟩
  | ok done => cases dispatched <;> exact ⟨_, _, _, _, rfl, rfl, after⟩

theorem mirrorsOnText (process : h.process = Standard.process processing)
    (plain : ∀ e ∈ h.extensions, e.Plain samples) (settings : Settings) (text : String)
    (mirrors : Server.Mirrors samples w.session s t) :
    ∃ answer v s' t', onText h settings text w s = (answer, v, s') ∧
      onText h settings text w t = (answer, v, t') ∧ Server.Mirrors samples w.session s' t' := by
  have touched : w.touch t = w.touch s := by simp only [touch, mirrors.part.clock]
  unfold onText
  simp only [touched]
  by_cases ended : ((w.touch s).isClosed || !(w.touch s).isConnected) = true
  · simp only [if_pos ended]
    exact ⟨_, _, s, t, rfl, rfl, mirrors⟩
  · simp only [if_neg ended]
    by_cases large : settings.maxTextSize < text.utf8ByteSize
    · simp only [if_pos large]
      exact ⟨_, _, s, t, rfl, rfl, mirrors⟩
    · simp only [if_neg large]
      cases Frame.decodeBatch text.toUTF8 with
      | error fault => exact ⟨_, _, s, t, rfl, rfl, mirrors⟩
      | ok batch =>
        exact mirrorsOnBatch (x := ⟨w.touch s, {}, s⟩) process plain settings batch mirrors

theorem mirrorsOnClose (plain : ∀ e ∈ h.extensions, e.Plain samples)
    (mirrors : Server.Mirrors samples w.session s t) :
    ∃ v s' t', onClose h w s = (v, s') ∧ onClose h w t = (v, t') ∧
      Server.Mirrors samples w.session s' t' := by
  have dismissed := Extension.mirrorsDismissed plain mirrors
  unfold onClose
  cases w.isConnected with
  | false => exact ⟨_, _, _, rfl, rfl, dismissed⟩
  | true => exact ⟨_, _, _, rfl, rfl, Server.mirrorsEnded dismissed true none⟩

end WebSocket

namespace InProcess
variable {σ : Type} {samples : σ → Timesync.Samples} {h : Handlers σ}
  {processing : Standard.Settings} {p : InProcess} {s t : Server σ}

theorem mirrorsClose (plain : ∀ e ∈ h.extensions, e.Plain samples)
    (mirrors : Server.Mirrors samples p.session s t) :
    ∃ q s' t', close h p s = (q, s') ∧ close h p t = (q, t') ∧
      Server.Mirrors samples p.session s' t' := by
  have dismissed := Extension.mirrorsDismissed plain mirrors
  unfold close
  cases p.isClosed with
  | true => exact ⟨p, s, t, rfl, rfl, mirrors⟩
  | false =>
    have unlisted := Server.mirrorsUnlisted dismissed
    cases p.isConnected with
    | false => exact ⟨_, _, _, rfl, rfl, unlisted _ _⟩
    | true => exact ⟨_, _, _, rfl, rfl, Server.mirrorsEnded (unlisted _ _) true none⟩

theorem mirrorsAnswer (plain : ∀ e ∈ h.extensions, e.Plain samples) (routed : Routed)
    (mirrors : Server.Mirrors samples p.session s t) :
    ∃ packets q s' t', answer h routed p s = (packets, q, s') ∧
      answer h routed p t = (packets, q, t') ∧ Server.Mirrors samples p.session s' t' := by
  unfold answer
  cases routed.disconnect? with
  | none =>
    obtain ⟨packets, u, u', here, there, after⟩ :=
      Extension.mirrorsPackets plain mirrors routed.packets
    simp only [here, there]
    exact ⟨packets, p, u, u', rfl, rfl, after⟩
  | some channel =>
    have parted := Server.mirrorsEnded mirrors false (some channel)
    obtain ⟨packets, u, u', here, there, after⟩ :=
      Extension.mirrorsPackets plain parted routed.packets
    obtain ⟨q, v, v', left, right, closed⟩ :=
      mirrorsClose (p := { p with isConnected := false }) plain after
    simp only [Router.applyDisconnect, here, there, left, right]
    exact ⟨packets, q, v, v', rfl, rfl, closed⟩

theorem mirrorsInject (process : h.process = Standard.process processing)
    (plain : ∀ e ∈ h.extensions, e.Plain samples) (m : Message)
    (mirrors : Server.Mirrors samples p.session s t) :
    ∃ answer q s' t', inject h m p s = (answer, q, s') ∧ inject h m p t = (answer, q, t') ∧
      Server.Mirrors samples p.session s' t' := by
  have still : ∀ answer : Except TransportError (List Packet), ∀ q : InProcess, ∃ answer' q' s' t',
      (answer, q, s) = (answer', q', s') ∧ (answer, q, t) = (answer', q', t') ∧
        Server.Mirrors samples p.session s' t' :=
    fun answer q => ⟨answer, q, s, t, rfl, rfl, mirrors⟩
  unfold inject
  simp only [mirrors.part.clock]
  by_cases ended : (!p.isConnected) = true
  · simp only [if_pos ended]
    exact still _ _
  · simp only [if_neg ended]
    cases m.channel? with
    | none => exact still _ _
    | some path =>
      simp only
      cases Channel.resolve path with
      | error fault => exact still _ _
      | ok channel =>
        obtain ⟨s', t', here, there, passed⟩ :=
          Extension.mirrorsIncoming plain mirrors ⟨transport, .inProcess, channel, m⟩
        obtain ⟨result, u, u', left, right, routed⟩ := Server.mirrorsRespond process passed
          [transport] ⟨transport, .inProcess, channel, m⟩
        simp only [injectOn, here, there, if_true, route, left, right]
        cases result with
        | error e => exact ⟨_, _, u, u', rfl, rfl, routed⟩
        | ok answered =>
          obtain ⟨packets, q, v, v', mine, yours, after⟩ := mirrorsAnswer
            (p := { p with lastContact := s.clock }) plain answered routed
          simp only [mine, yours]
          exact ⟨_, q, v, v', rfl, rfl, after⟩

end InProcess
end Bayeux
