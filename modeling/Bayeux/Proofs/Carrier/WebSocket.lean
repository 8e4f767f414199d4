import Bayeux.Carrier.WebSocket
import Bayeux.Proofs.Extension.Chain
import Bayeux.Proofs.Server.Requests
/-! What a frame does on the way: every function of a WebSocket carrier keeps its session, opens
nothing that was closed, and keeps the server orderly as long as the session is registered.
A carrier that has ended touches nothing any more. -/

namespace Bayeux

/-- What the server relies on in its extensions and processors. -/
structure Handlers.Proper {σ : Type} (samples : σ → Timesync.Samples) (h : Handlers σ) : Prop where
  timed : Extension.Timed samples h.extensions
  careful : Careful samples h.process

theorem Outbound.leaves {σ : Type} {samples : σ → Timesync.Samples}
    {extensions : List (Extension σ)} (each : ∀ e ∈ extensions, e.Fits samples) (id : String)
    (packets : List Packet) (s : Server σ) :
    s.Leaves samples (Outbound.ofPackets? extensions id packets s).2 :=
  Extension.leavesOutgoingPackets each id packets s

namespace WebSocket
variable {σ : Type} {samples : σ → Timesync.Samples} {h : Handlers σ} {x y z : Handling σ}

structure Onward (samples : σ → Timesync.Samples) (x y : Handling σ) : Prop where
  session : y.carrier.session = x.carrier.session
  closed : x.carrier.isClosed = true → y.carrier.isClosed = true
  connected : x.carrier.isConnected = false → y.carrier.isConnected = false
  keeps : x.server.Keeps samples x.carrier.session y.server

theorem onwardRefl (x : Handling σ) : Onward samples x x :=
  ⟨rfl, id, id, Server.leavesKeeps (Server.leavesRefl _)⟩

theorem onwardTrans (first : Onward samples x y) (second : Onward samples y z) :
    Onward samples x z where
  session := second.session.trans first.session
  closed before := second.closed (first.closed before)
  connected before := second.connected (first.connected before)
  keeps := Server.keepsTrans first.keeps (first.session ▸ second.keeps)

theorem onwardServer {s : Server σ} (keeps : x.server.Keeps samples x.carrier.session s) :
    Onward samples x { x with server := s } :=
  ⟨rfl, id, id, keeps⟩

theorem onwardWriteText (settings : Settings) (text : String) (x : Handling σ) :
    Onward samples x { x with
      carrier := (writeText settings x.carrier text x.server).2.1
      server := (writeText settings x.carrier text x.server).2.2 } := by
  unfold writeText
  cases x.carrier.sink.text text with
  | mk result sink =>
    cases result with
    | written => exact ⟨rfl, id, id, Server.leavesKeeps (Server.leavesRefl _)⟩
    | failed reason => exact ⟨rfl, id, id, Server.leavesKeeps (Server.leavesRefl _)⟩
    | stalled => exact ⟨rfl, id, id, Server.leavesKeeps (Server.leavesClock _ _)⟩

theorem onwardWrite (proper : h.Proper samples) (settings : Settings) (packets : List Packet)
    (x : Handling σ) : Onward samples x (write h settings packets x).2 := by
  have encoded : Onward samples x { x with
      server := (Outbound.ofPackets? h.extensions x.carrier.session packets x.server).2 } :=
    onwardServer (Server.leavesKeeps (Outbound.leaves proper.timed.each _ packets _))
  unfold write
  cases made : Outbound.ofPackets? h.extensions x.carrier.session packets x.server with
  | mk outbound? s =>
    rw [made] at encoded
    cases outbound? with
    | none => exact encoded
    | some outbound =>
      have written := onwardTrans encoded
        (onwardWriteText settings outbound.text { x with server := s })
      simp only at written ⊢
      cases ended : writeText settings x.carrier outbound.text s with
      | mk result after =>
        obtain ⟨w, t⟩ := after
        rw [ended] at written
        cases result with
        | error e => exact written
        | ok done => exact ⟨written.session, written.closed, written.connected, written.keeps⟩

theorem onwardDisconnectAfter (channel? : Option Channel) (x : Handling σ) :
    Onward samples x (disconnectAfter channel? x) := by
  cases channel? with
  | none => exact onwardRefl x
  | some channel =>
    exact ⟨rfl, id, fun _ => rfl, Server.leavesKeeps (Router.leavesApplyDisconnect _ _ _)⟩

theorem onwardRoute (proper : h.Proper samples) (settings : Settings) (c : Context)
    (x : Handling σ) : Onward samples x (route h settings c x).2 := by
  have responded := Router.keepsRespond proper.careful settings.transports x.carrier.session c
    x.server
  unfold route
  cases found : Router.respond h.process settings.transports x.carrier.session c x.server with
  | mk result s =>
    rw [found] at responded
    cases result with
    | error e => exact onwardServer responded
    | ok routed =>
      have written := onwardTrans (onwardServer responded)
        (onwardWrite proper settings routed.packets _)
      exact onwardTrans written (onwardDisconnectAfter _ _)

theorem onwardHandleOn (proper : h.Proper samples) (settings : Settings) (channel : Channel)
    (m : Message) (x : Handling σ) : Onward samples x (handleOn h settings channel m x).2 := by
  have passed := onwardServer (Extension.keepsIncomingPass proper.timed.each x.carrier.session
    ⟨transport, x.carrier.peer, channel, m⟩ x.server)
  unfold handleOn
  simp only
  split
  · exact onwardTrans passed (onwardRoute proper settings _ _)
  · exact onwardTrans passed (onwardWrite proper settings _ _)

theorem onwardHandle (proper : h.Proper samples) (settings : Settings) (m : Message)
    (path : String) (scope : FrameScope) (x : Handling σ) :
    Onward samples x (handle h settings m path scope x).2.2 := by
  have counted : Onward samples x
      { x with outcome := { x.outcome with messagesIn := x.outcome.messagesIn + 1 } } :=
    ⟨rfl, id, id, Server.leavesKeeps (Server.leavesRefl _)⟩
  unfold handle
  simp only
  split
  · exact onwardTrans counted (onwardHandleOn proper settings _ m _)
  · exact onwardTrans counted (onwardWrite proper settings _ _)

/- The loop over the entries of a frame keeps what each entry keeps. -/
theorem onwardDispatch (proper : h.Proper samples) (settings : Settings) (batch : List Value)
    (scope : FrameScope) (x : Handling σ) :
    Onward samples x (dispatch h settings batch scope x).2 := by
  induction batch generalizing scope x with
  | nil => exact onwardRefl x
  | cons entry rest ih =>
    unfold dispatch
    split
    · exact onwardRefl x
    · split
      · exact ih scope x
      · rename_i m path _
        have handled := onwardHandle proper settings m path scope x
        split
        · rename_i failed
          rw [failed] at handled
          exact handled
        · rename_i done
          rw [done] at handled
          exact onwardTrans handled (ih _ _)

theorem closeSinkFrame (w : WebSocket) (code : Nat) (reason : String) :
    (closeSink w code reason).2 =
      { w with isClosed := true, sink := (w.sink.close code reason).2 } := by
  unfold closeSink
  cases w.sink.close code reason with
  | mk fault? sink => cases fault? <;> rfl

/-- Closing the sink is all that closing a carrier does. -/
structure Shuts (w v : WebSocket) : Prop where
  session : v.session = w.session
  closed : w.isClosed = true → v.isClosed = true
  connected : v.isConnected = w.isConnected

theorem shutsCloseSink (w : WebSocket) (code : Nat) (reason : String) :
    Shuts w (closeSink w code reason).2 := by
  rw [closeSinkFrame]
  exact ⟨rfl, fun _ => rfl, rfl⟩

theorem shutsClose (w : WebSocket) : Shuts w w.close.2 := by
  unfold close
  split
  · exact ⟨rfl, id, rfl⟩
  · exact shutsCloseSink w _ _

theorem shutsCloseIfIdle (w : WebSocket) (s : Server σ) : Shuts w (w.closeIfIdle s).2 := by
  unfold closeIfIdle
  split
  · exact ⟨rfl, id, rfl⟩
  · split
    · exact ⟨rfl, id, rfl⟩
    · exact shutsCloseSink w _ _

theorem onwardCloseDisconnected (x : Handling σ) : Onward samples x (closeDisconnected x).2 := by
  have closed : Onward samples x
      { x with carrier := (closeSink x.carrier CloseCode.normal "").2 } := by
    have shuts := shutsCloseSink x.carrier CloseCode.normal ""
    exact ⟨shuts.session, shuts.closed, shuts.connected.trans, Server.leavesKeeps
      (Server.leavesRefl _)⟩
  unfold closeDisconnected
  split
  · simp only
    split <;> exact ⟨closed.session, closed.closed, closed.connected, closed.keeps⟩
  · exact onwardRefl x

theorem onwardOnText (proper : h.Proper samples) (settings : Settings) (text : String)
    (w : WebSocket) (s : Server σ) :
    Onward samples ⟨w, {}, s⟩
      ⟨(onText h settings text w s).2.1, {}, (onText h settings text w s).2.2⟩ := by
  have touched : Onward samples ⟨w, {}, s⟩ ⟨w.touch s, {}, s⟩ :=
    ⟨rfl, id, id, Server.leavesKeeps (Server.leavesRefl s)⟩
  unfold onText
  simp only
  split
  · exact touched
  · split
    · have shuts := shutsCloseSink (w.touch s) CloseCode.messageTooBig "Message too big"
      exact ⟨shuts.session, shuts.closed, shuts.connected.trans, Server.leavesKeeps
        (Server.leavesRefl s)⟩
    · split
      · exact touched
      · rename_i batch _
        have dispatched := onwardTrans touched
          (onwardDispatch proper settings batch .empty ⟨w.touch s, {}, s⟩)
        have ended := onwardTrans dispatched (onwardCloseDisconnected _)
        unfold onBatch
        simp only
        split <;> exact ⟨ended.session, ended.closed, ended.connected, ended.keeps⟩

theorem onTextEnded (h : Handlers σ) (settings : Settings) (text : String) {w : WebSocket}
    (s : Server σ) (closed : w.isClosed = true) : (onText h settings text w s).2.2 = s := by
  have ended : (w.touch s).isClosed = true := closed
  simp [onText, ended]

theorem onwardDeliver (proper : h.Proper samples) (settings : Settings) (packets : List Packet)
    (w : WebSocket) (s : Server σ) :
    Onward samples ⟨w, {}, s⟩
      ⟨(deliver h settings packets w s).2.1, {}, (deliver h settings packets w s).2.2⟩ := by
  have written := onwardWrite proper settings packets ⟨w, {}, s⟩
  unfold deliver
  split
  · exact onwardRefl _
  · split <;> rename_i found <;> rw [found] at written <;>
      exact ⟨written.session, written.closed, written.connected, written.keeps⟩

theorem deliverEnded (h : Handlers σ) (settings : Settings) (packets : List Packet)
    {w : WebSocket} (s : Server σ) (closed : w.isClosed = true) :
    (deliver h settings packets w s).2.2 = s := by
  simp [deliver, closed]

theorem onCloseWithout (proper : h.Proper samples) {w : WebSocket} {s : Server σ}
    (orderly : s.Orderly samples) (untracked : w.session ∉ s.inProcess) :
    (onClose h w s).2.Orderly samples ∧ s.Without w.session (onClose h w s).2 := by
  obtain ⟨dismissed, registry, inProcess, sessions⟩ :=
    Extension.dismissed proper.timed w.session orderly
  refine Server.withoutEnd w.isConnected dismissed ⟨fun other => ?_, fun other => ?_,
    congrArg Table.keys sessions⟩
  · rw [registry]
    exact orderly.indexed.sessions.mem_erase_iff.trans and_comm
  · rw [inProcess]
    exact ⟨fun inside => ⟨inside, fun same => untracked (same ▸ inside)⟩, And.left⟩

end WebSocket
end Bayeux
