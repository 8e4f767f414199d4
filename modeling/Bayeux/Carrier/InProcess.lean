import Bayeux.Carrier.Outbound
import Bayeux.Idle
import Bayeux.Router
/-! The carrier of a client in the same process. Requests come one message at a time and are
answered directly; deliveries are pumped into the client's inbox. A carrier that stays
silent for longer than its timeout is expired. -/

namespace Bayeux

structure InProcess where
  session : String
  idleTimeout : Int
  opened : Nat
  lastContact : Nat
  isConnected : Bool
  isClosed : Bool
  inbox : Queue String
  /-- Times the pump has looked at the connection; it stops when it finds it ended. -/
  looks : Nat
  isPumping : Bool

namespace InProcess
variable {σ : Type}

def transport : String := "local"

/-- Times are in milliseconds. -/
structure Settings where
  maxInterval : Nat
  /-- Period of the sweep for idle carriers. -/
  idleCheckCycle : Nat
  connectCheckCycle : Nat
  queueSize : Nat

def Settings.interval (settings : Settings) : Int := min settings.maxInterval Number.int64Max

def «open» (settings : Settings) (s : Server σ) : InProcess × Server σ :=
  let (id, s) := s.openSession transport true settings.queueSize
  (⟨id, Idle.timeout (-1) settings.interval, s.clock, s.clock, true, false,
    .ofSize settings.queueSize, 0, true⟩, { s with inProcess := s.inProcess ++ [id] })

def setIdleTimeout (settings : Settings) (p : InProcess) (requested : Int) : InProcess :=
  { p with idleTimeout := Idle.timeout requested settings.interval }

def setDisconnected (p : InProcess) : Bool × InProcess :=
  (p.isConnected, { p with isConnected := false })

def isExpired (p : InProcess) (now : Nat) : Bool :=
  decide (Server.millisecond * p.idleTimeout.toNat < now - p.lastContact)

/-- Nothing happens the second time. -/
def close (h : Handlers σ) (p : InProcess) (s : Server σ) : InProcess × Server σ :=
  if p.isClosed then (p, s)
  else
    let s := Extension.forgetPass h.extensions p.session (s.removeSession p.session)
    let s := { s with inProcess := s.inProcess.erase p.session }
    let s :=
      if p.isConnected then (s.markDisconnected p.session).disconnected p.session true none else s
    ({ p with isClosed := true, isConnected := false }, s)

def refusal (p : InProcess) (path reason : String) (m : Message) : Packet :=
  .single .response (Reply.refusal path reason m (some p.session))

/-- A disconnect takes effect before the replies pass the extensions, and closes the carrier
after them. -/
def answer (h : Handlers σ) (routed : Routed) (p : InProcess) (s : Server σ) :
    List Packet × InProcess × Server σ :=
  match routed.disconnect? with
  | some channel =>
    let s := Router.applyDisconnect p.session channel s
    let (packets, s) := Extension.outgoingPackets h.extensions p.session routed.packets s
    (packets, close h { p with isConnected := false } s)
  | none =>
    let (packets, s) := Extension.outgoingPackets h.extensions p.session routed.packets s
    (packets, p, s)

def route (h : Handlers σ) (c : Context) (p : InProcess) (s : Server σ) :
    Except TransportError (List Packet) × InProcess × Server σ :=
  match Router.respond h.process [transport] p.session c s with
  | (.error e, s) => (.error (.processing e), p, s)
  | (.ok routed, s) =>
    let (packets, p, s) := answer h routed p s
    (.ok packets, p, s)

def injectOn (h : Handlers σ) (channel : Channel) (m : Message) (p : InProcess) (s : Server σ) :
    Except TransportError (List Packet) × InProcess × Server σ :=
  let (accepted, c, s) := Extension.incomingPass h.extensions p.session
    ⟨transport, .inProcess, channel, m⟩ s
  if accepted then route h c p s
  else (.ok [p.refusal c.channel.path Reply.denied c.message], p, s)

def inject (h : Handlers σ) (m : Message) (p : InProcess) (s : Server σ) :
    Except TransportError (List Packet) × InProcess × Server σ :=
  let p := { p with lastContact := s.clock }
  if !p.isConnected then (.error .connectionClosed, p, s)
  else
    match m.channel? with
    | none => (.error .noChannel, p, s)
    | some path =>
      match Channel.resolve path with
      | .error _ => (.ok [p.refusal path Reply.invalidChannel m], p, s)
      | .ok channel => injectOn h channel m p s

def send (h : Handlers σ) (packets : List Packet) (p : InProcess) (s : Server σ) :
    Except TransportError Unit × InProcess × Server σ :=
  if !p.isConnected then (.error .connectionClosed, p, s)
  else
    let (outbound?, s) := Outbound.ofPackets? h.extensions p.session packets s
    match outbound? with
    | none => (.ok (), p, s)
    | some outbound =>
      let (taken, inbox) := p.inbox.offer outbound.text
      let failed : TransportError := if p.inbox.isOpen then .queueFull else .connectionClosed
      (if taken then .ok () else .error failed, { p with inbox }, s)

/-- One text per delivery; what cannot be sent is lost. -/
def sendEach (h : Handlers σ) : List Packet → InProcess → Server σ → InProcess × Server σ
  | [], p, s => (p, s)
  | packet :: rest, p, s =>
    let (_, p, s) := send h [packet] p s
    sendEach h rest p s

/-- How often the pump should have looked by now, the first time on opening. -/
def dueLooks (settings : Settings) (p : InProcess) (now : Nat) : Nat :=
  (now - p.opened) / (Server.millisecond * settings.connectCheckCycle) + 1

/-- Move what waits on the session into the inbox, and look at the connection if it is time. -/
def pump (h : Handlers σ) (settings : Settings) (p : InProcess) (s : Server σ) :
    InProcess × Server σ :=
  if !p.isPumping then (p, s)
  else
    let (packets, s) := s.takeDeliveries p.session
    let (p, s) := sendEach h packets p s
    let due := p.dueLooks settings s.clock
    if p.looks < due then
      if p.isConnected then ({ p with looks := due }, s)
      else ({ p with looks := due, isPumping := false }, s.closeDeliveries p.session)
    else (p, s)

end InProcess
end Bayeux
