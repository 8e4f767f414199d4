import Bayeux.Carrier.Outbound
import Bayeux.Carrier.Sink
import Bayeux.Frame
import Bayeux.FrameScope
import Bayeux.Idle
import Bayeux.Router
/-! The carrier of one WebSocket. A frame's messages are handled in their order until the
carrier is disconnected, and each one's replies are written before the next is looked at;
a disconnected carrier closes its sink. Once it is disconnected nothing is written. -/

namespace Bayeux

structure WebSocket where
  session : String
  peer : Peer
  idleTimeout : Int
  opened : Nat
  /-- Milliseconds after opening. -/
  lastInbound : Nat
  isConnected : Bool
  isClosed : Bool
  sink : Sink

namespace WebSocket
variable {σ : Type}

def transport : String := "websocket"

structure Settings where
  /-- Negative where the platform decides. -/
  maxInterval : Int
  /-- In milliseconds. -/
  sendTimeout? : Option Nat
  /-- In bytes: no larger text is looked at. -/
  maxTextSize : Nat
  transports : List String
  queueSize : Nat

/-- What happened while one frame was handled. -/
structure Outcome where
  messagesIn : Nat := 0
  messagesOut : Nat := 0
  bytesOut : Nat := 0
  /-- The channel is closed, so the connection should end. -/
  closed : Bool := false
  deriving DecidableEq, Repr

structure Handling (σ : Type) where
  carrier : WebSocket
  outcome : Outcome
  server : Server σ

def «open» (settings : Settings) (peer : Peer) (s : Server σ) : WebSocket × Server σ :=
  let (id, s) := s.openSession transport false settings.queueSize
  (⟨id, peer, Idle.timeout (-1) settings.maxInterval, s.clock, 0, true, false, .accepting⟩, s)

/-- Milliseconds from the opening to some time. What is left of the last one is dropped. -/
def elapsed (w : WebSocket) (time : Nat) : Nat := (time - w.opened) / Server.millisecond

def touch (w : WebSocket) (s : Server σ) : WebSocket :=
  { w with lastInbound := w.elapsed s.clock }

/-- When the connection expires if nothing more arrives. -/
def idleDeadline (w : WebSocket) : Nat :=
  w.opened + Server.millisecond * (w.lastInbound + w.idleTimeout.toNat)

def setIdleTimeout (settings : Settings) (w : WebSocket) (requested : Int) : WebSocket :=
  { w with idleTimeout := Idle.timeout requested settings.maxInterval }

def setDisconnected (w : WebSocket) : Bool × WebSocket :=
  (w.isConnected, { w with isConnected := false })

def closeSink (w : WebSocket) (code : Nat) (reason : String) :
    Except TransportError Unit × WebSocket :=
  let (fault?, sink) := w.sink.close code reason
  let w := { w with isClosed := true, sink }
  match fault? with
  | some fault => (.error (.closeFailed fault), w)
  | none => (.ok (), w)

/-- How long a write may stall. -/
def Settings.patience (settings : Settings) : Nat :=
  Server.millisecond * settings.sendTimeout?.getD 0

/-- A write that stalls ends at its time limit, and the clock has moved on by then. One without a
limit would never end, and its frame with it: such a run has no further step, and what stands
here for it is the run with a limit of no time at all. -/
def writeText (settings : Settings) (w : WebSocket) (text : String) (s : Server σ) :
    Except TransportError Unit × WebSocket × Server σ :=
  let (result, sink) := w.sink.text text
  let w := { w with sink }
  match result with
  | .written => (.ok (), w, s)
  | .failed reason => (.error (.sendFailed reason), w, s)
  | .stalled => (.error .timeout, w, { s with clock := s.clock + settings.patience })

def write (h : Handlers σ) (settings : Settings) (packets : List Packet) (x : Handling σ) :
    Except TransportError Unit × Handling σ :=
  let (outbound?, s) := Outbound.ofPackets? h.extensions x.carrier.session packets x.server
  match outbound? with
  | none => (.ok (), { x with server := s })
  | some outbound =>
    match writeText settings x.carrier outbound.text s with
    | (.error e, w, s) => (.error e, { x with carrier := w, server := s })
    | (.ok (), w, s) =>
      (.ok (), ⟨w, { x.outcome with
        messagesOut := x.outcome.messagesOut + outbound.messages
        bytesOut := x.outcome.bytesOut + outbound.text.utf8ByteSize }, s⟩)

def refuse (h : Handlers σ) (settings : Settings) (path reason : String) (m : Message)
    (x : Handling σ) : Except TransportError Unit × Handling σ :=
  write h settings [.single .response (Reply.refusal path reason m (some x.carrier.session))] x

/-- The disconnect takes effect whether its reply could be written or not. -/
def disconnectAfter (channel? : Option Channel) (x : Handling σ) : Handling σ :=
  match channel? with
  | some channel =>
    { x with
      carrier := { x.carrier with isConnected := false }
      server := Router.applyDisconnect x.carrier.session channel x.server }
  | none => x

/-- A request that cannot be processed goes without reply. -/
def route (h : Handlers σ) (settings : Settings) (c : Context) (x : Handling σ) :
    Except TransportError Unit × Handling σ :=
  match Router.respond h.process settings.transports x.carrier.session c x.server with
  | (.error _, s) => (.ok (), { x with server := s })
  | (.ok routed, s) =>
    let (written, x) := write h settings routed.packets { x with server := s }
    (written, disconnectAfter routed.disconnect? x)

def handleOn (h : Handlers σ) (settings : Settings) (channel : Channel) (m : Message)
    (x : Handling σ) : Except TransportError Unit × Handling σ :=
  let (accepted, c, s) := Extension.incomingPass h.extensions x.carrier.session
    ⟨transport, x.carrier.peer, channel, m⟩ x.server
  let x := { x with server := s }
  if accepted then route h settings c x
  else refuse h settings c.channel.path Reply.denied c.message x

/-- The message of a batch entry, and its path; other entries are passed over. -/
def messageOf? : Value → Option (Message × String)
  | .object fields => (Message.channel? ⟨fields⟩).map fun path => (⟨fields⟩, path)
  | _ => none

def handle (h : Handlers σ) (settings : Settings) (m : Message) (path : String)
    (scope : FrameScope) (x : Handling σ) : Except TransportError Unit × FrameScope × Handling σ :=
  let x := { x with outcome := { x.outcome with messagesIn := x.outcome.messagesIn + 1 } }
  let (channel, scope) := scope.resolve path
  match channel with
  | .ok channel =>
    let (handled, x) := handleOn h settings channel m x
    (handled, scope, x)
  | .error _ =>
    let (handled, x) := refuse h settings path Reply.invalidChannel m x
    (handled, scope, x)

/-- A failed write ends the frame. -/
def dispatch (h : Handlers σ) (settings : Settings) :
    List Value → FrameScope → Handling σ → Except TransportError Unit × Handling σ
  | [], _, x => (.ok (), x)
  | entry :: rest, scope, x =>
    if !x.carrier.isConnected then (.ok (), x)
    else
      match messageOf? entry with
      | none => dispatch h settings rest scope x
      | some (m, path) =>
        match handle h settings m path scope x with
        | (.error e, _, x) => (.error e, x)
        | (.ok (), scope, x) => dispatch h settings rest scope x

/-- A carrier that a frame has disconnected closes its sink. -/
def closeDisconnected (x : Handling σ) : Except TransportError Unit × Handling σ :=
  if !x.carrier.isConnected && !x.carrier.isClosed then
    let (closed, w) := closeSink x.carrier CloseCode.normal ""
    match closed with
    | .ok () => (.ok (), { x with carrier := w, outcome := { x.outcome with closed := true } })
    | .error e => (.error e, { x with carrier := w })
  else (.ok (), x)

def onBatch (h : Handlers σ) (settings : Settings) (batch : List Value) (x : Handling σ) :
    Except TransportError Outcome × WebSocket × Server σ :=
  let (dispatched, x) := dispatch h settings batch .empty x
  let (closed, x) := closeDisconnected x
  match closed, dispatched with
  | .error e, _ => (.error e, x.carrier, x.server)
  | .ok (), .error e => (.error e, x.carrier, x.server)
  | .ok (), .ok () => (.ok x.outcome, x.carrier, x.server)

def onText (h : Handlers σ) (settings : Settings) (text : String) (w : WebSocket) (s : Server σ) :
    Except TransportError Outcome × WebSocket × Server σ :=
  let w := w.touch s
  if w.isClosed || !w.isConnected then (.ok { closed := true }, w, s)
  else if settings.maxTextSize < text.utf8ByteSize then
    let (closed, w) := closeSink w CloseCode.messageTooBig "Message too big"
    (closed.map fun _ => { closed := true }, w, s)
  else
    match Frame.decodeBatch text.toUTF8 with
    | .error _ => (.ok {}, w, s)
    | .ok batch => onBatch h settings batch ⟨w, {}, s⟩

def deliver (h : Handlers σ) (settings : Settings) (packets : List Packet) (w : WebSocket)
    (s : Server σ) : Except TransportError Outcome × WebSocket × Server σ :=
  if w.isClosed || !w.isConnected then (.error .connectionClosed, w, s)
  else
    match write h settings packets ⟨w, {}, s⟩ with
    | (.ok (), x) => (.ok x.outcome, x.carrier, x.server)
    | (.error e, x) => (.error e, x.carrier, x.server)

def close (w : WebSocket) : Except TransportError Unit × WebSocket :=
  if w.isClosed then (.ok (), w) else closeSink w CloseCode.normal ""

/-- Close a carrier whose deadline has passed; whether it is closed. -/
def closeIfIdle (w : WebSocket) (s : Server σ) : Except TransportError Bool × WebSocket :=
  if s.clock < w.idleDeadline then (.ok false, w)
  else if w.isClosed then (.ok true, w)
  else
    let (closed, w) := closeSink w CloseCode.normal "Idle timeout"
    (closed.map fun _ => true, w)

/-- The connection is over. Unless a disconnect was handled before, it ended abruptly. -/
def onClose (h : Handlers σ) (w : WebSocket) (s : Server σ) : WebSocket × Server σ :=
  let s := Extension.forgetPass h.extensions w.session (s.removeSession w.session)
  let s :=
    if w.isConnected then (s.markDisconnected w.session).disconnected w.session true none else s
  ({ w with isClosed := true, isConnected := false }, s)

/-- What the scope remembers makes no difference. -/
theorem handleAnyScope (h : Handlers σ) (settings : Settings) (m : Message) (path : String)
    (scope : FrameScope) (x : Handling σ) :
    (handle h settings m path scope x).1 = (handle h settings m path .empty x).1 ∧
      (handle h settings m path scope x).2.2 = (handle h settings m path .empty x).2.2 := by
  simp only [handle, FrameScope.resolveAnswer]
  cases Channel.resolve path <;> exact ⟨rfl, rfl⟩

end WebSocket
end Bayeux
