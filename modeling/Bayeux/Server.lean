import Bayeux.Server.Registry
import Bayeux.Session
/-! What all carriers share: the clock, which counts nanoseconds, every session that was opened, the
registry and what the extensions remember. Each thing done to the server is noted, the newest
first. A session that is not known reads as disconnected, and changing it changes nothing. -/

namespace Bayeux

inductive Notice where
  | added (session : String)
  | removed (session : String)
  | connected (session transport : String)
  | disconnected (session : String) (abrupt : Bool) (channel? : Option String)
  | subscribed (session channel : String)
  | unsubscribed (session channel : String)
  | published (route? : Option String) (recipients : Nat)
  | incoming (extension : String)
  | outgoing (extension : String)
  | forgotten (extension session : String)
  deriving DecidableEq, Repr

structure Server (σ : Type) where
  /-- Nanoseconds since 1970. -/
  clock : Nat
  sessions : Table Session
  registry : Registry
  memory : σ
  notices : List Notice
  /-- Sessions of the in-process carriers that are still open. -/
  inProcess : List String

namespace Server
variable {σ : Type}

def millisecond : Nat := 1000000

/-- The time at which a new server starts. -/
def epoch : Nat := 1700000000000 * millisecond

def start (memory : σ) : Server σ := ⟨epoch, [], .empty, memory, [], []⟩

def note (s : Server σ) (notice : Notice) : Server σ := { s with notices := notice :: s.notices }

def session? (s : Server σ) (id : String) : Option Session := s.sessions.get? id

def stateOf (s : Server σ) (id : String) : SessionState :=
  match s.session? id with
  | some session => session.state
  | none => .disconnected

def isHandshook (s : Server σ) (id : String) : Bool :=
  s.stateOf id == .handshook || s.stateOf id == .connected

def setSession (s : Server σ) (id : String) (session : Session) : Server σ :=
  { s with sessions := s.sessions.put id session }

/-- Do something to a session; `missing` is the answer for one that is not known. -/
def onSession {β : Type} (s : Server σ) (id : String) (missing : β) (act : Session → β × Session) :
    β × Server σ :=
  match s.session? id with
  | some session => ((act session).1, s.setSession id (act session).2)
  | none => (missing, s)

def transition (s : Server σ) (id : String) (before after : SessionState) : Bool × Server σ :=
  s.onSession id false fun session => session.transition before after

def markDisconnected (s : Server σ) (id : String) : Server σ :=
  (s.onSession id false Session.markDisconnected).2

def deliver (s : Server σ) (id : String) (p : Packet) : Bool × Server σ :=
  s.onSession id false fun session => session.deliver p

def takeDeliveries (s : Server σ) (id : String) : List Packet × Server σ :=
  s.onSession id [] fun session =>
    (session.deliveries.takeAll.1, { session with deliveries := session.deliveries.takeAll.2 })

def takeDelivery (s : Server σ) (id : String) : Option Packet × Server σ :=
  s.onSession id none fun session =>
    (session.deliveries.take.1, { session with deliveries := session.deliveries.take.2 })

def closeDeliveries (s : Server σ) (id : String) : Server σ :=
  (s.onSession id () fun session =>
    ((), { session with deliveries := session.deliveries.close })).2

def onRegistry (s : Server σ) (act : Registry → Registry) : Server σ :=
  { s with registry := act s.registry }

def addSession (s : Server σ) (id : String) : Server σ :=
  (s.note (.added id)).onRegistry (·.add id)

def removeSession (s : Server σ) (id : String) : Server σ :=
  (s.note (.removed id)).onRegistry (·.remove id)

def connected (s : Server σ) (id transport : String) : Server σ := s.note (.connected id transport)

def disconnected (s : Server σ) (id : String) (abrupt : Bool) (channel? : Option Channel) :
    Server σ :=
  (s.note (.disconnected id abrupt (channel?.map Channel.path))).onRegistry (·.unsubscribeAll id)

def subscribed (s : Server σ) (id : String) (channel : Channel) : Server σ :=
  (s.note (.subscribed id channel.path)).onRegistry (·.subscribe id channel)

def unsubscribed (s : Server σ) (id : String) (channel : Channel) : Server σ :=
  (s.note (.unsubscribed id channel.path)).onRegistry (·.unsubscribe id channel)

def isSubscribed (s : Server σ) (id : String) (channel : Channel) : Bool :=
  s.registry.isSubscribed id channel

/-- Offer a packet to each of the registered sessions; how many took it. -/
def offerAll (p : Packet) : List String → Server σ → Nat × Server σ
  | [], s => (0, s)
  | id :: rest, s =>
    if s.registry.isRegistered id then
      let (taken, s) := s.deliver id p
      let (count, s) := offerAll p rest s
      (if taken then count + 1 else count, s)
    else offerAll p rest s

def recipients (s : Server σ) (sender? : Option String) (route : Channel) : List String :=
  (s.registry.subscribers route).filter fun id => some id != sender?

/-- The sender of a packet does not get it back. -/
def fanOut (s : Server σ) (sender? : Option String) (p : Packet) : Nat × Server σ :=
  match p.route? with
  | none => (0, s)
  | some route => offerAll p.freeze (s.recipients sender? route) s

def publish (s : Server σ) (sender? : Option String) (p : Packet) : Nat × Server σ :=
  let (count, s) := s.fanOut sender? p
  (count, s.note (.published (p.route?.map Channel.path) count))

/-- Sessions are named by the order in which they are opened. -/
def sessionId (serial : Nat) : String :=
  let digits := toString serial
  "session" ++ String.ofList (List.replicate (13 - digits.length) '0') ++ digits

def openSession (s : Server σ) (transport : String) (isLocal : Bool) (queueSize : Nat) :
    String × Server σ :=
  let id := sessionId (List.length s.sessions)
  (id, (s.setSession id (.opened id transport isLocal queueSize)).addSession id)

theorem stateSetSession (s : Server σ) (id : String) (session : Session) :
    (s.setSession id session).stateOf id = session.state := by
  simp [stateOf, session?, setSession, Table.getPutSame]

theorem stateSetOther (s : Server σ) {id other : String} (session : Session) (h : other ≠ id) :
    (s.setSession id session).stateOf other = s.stateOf other := by
  simp [stateOf, session?, setSession, Table.getPutOther _ _ h]

end Server
end Bayeux
