import Bayeux.Config
import Bayeux.Connection
import Bayeux.Extension.Timesync
import Bayeux.Http
/-! The whole server behind its HTTP surface: it keeps clocks in step, and every connection
has a life of its own. Connections are numbered as they are opened. Requests that are not
sound are not answered. Sums are checked, and one that does not fit costs a connection its life
and nothing else. -/

namespace Bayeux

structure Host where
  config : Config
  server : Server Timesync.Checked
  connections : List Connection

/-- What came of asking for a WebSocket. -/
inductive Opened where
  | connected (number : Nat)
  /-- The connection is over before it is registered. -/
  | lost (number : Nat)
  | refused (status : Http.Status)
  deriving DecidableEq, Repr

namespace Host

/-- There has to be a route to the WebSockets. -/
def start (config : Config) : Option Host :=
  if Http.isRoute config.webSocket.path then some ⟨config, .start .start, []⟩ else none

def handlers (config : Config) : Handlers Timesync.Checked where
  process := Standard.process config.processorSettings
  extensions := [Timesync.halting]

/-- A connection whose sum does not fit is over where it stands: it is not torn down. -/
def stepOne (config : Config) (c : Connection) (s : Server Timesync.Checked) (signal : Signal) :
    Connection × Server Timesync.Checked :=
  let (c, s) := c.step (handlers config) config.webSocketSettings s signal
  if s.memory.stopped then
    ({ c with isOver := true },
      { s with memory := { s.memory with stopped := false } }.closeDeliveries c.carrier.session)
  else (c, s)

/-- Each connection looks at the time and at its deliveries. -/
def settleAll (config : Config) : List Connection → Server Timesync.Checked →
    List Connection × Server Timesync.Checked
  | [], s => ([], s)
  | c :: rest, s =>
    let (c, s) := stepOne config c s .tick
    let (c, s) := stepOne config c s .deliveries
    let (rest, s) := settleAll config rest s
    (c :: rest, s)

def settle (h : Host) : Host :=
  let (connections, server) := settleAll h.config h.connections h.server
  { h with connections, server }

def request (h : Host) (r : Http.Request) : Option Http.Status :=
  if r.isSound then some (Http.status h.config.webSocket.path r) else none

def healthBody (h : Host) (r : Http.Request) : String :=
  Http.healthBody h.config.protocol.version h.server.registry.statistics h.server.inProcess.length r

/-- Deliveries need a queue that can be had. -/
def accept (h : Host) (peer : Peer) : Opened × Host :=
  let settings := h.config.webSocketSettings
  if Queue.canHold settings.queueSize then
    let (c, server) := Connection.open settings peer h.server
    (.connected h.connections.length,
      settle { h with server, connections := h.connections ++ [c] })
  else
    let c := Connection.lost settings peer h.server
    (.lost h.connections.length, { h with connections := h.connections ++ [c] })

/-- Ask for a WebSocket at a target with scheme and host. -/
def connect (h : Host) (peer : Peer) (target : String) : Option (Opened × Host) :=
  if Http.Target.isSound target then
    (Http.Target.asked? target).map fun asked =>
      match h.request ⟨"GET", asked, true⟩ with
      | some .switchingProtocols => h.accept peer
      | some status => (.refused status, h)
      | none => (.refused .badRequest, h)
  else none

/-- Whether the connection was there to get the signal. -/
def signal (h : Host) (number : Nat) (signal : Signal) : Bool × Host :=
  match h.connections[number]? with
  | some c =>
    if c.isOver then (false, h)
    else
      let (c, server) := stepOne h.config c h.server signal
      (true, settle { h with server, connections := h.connections.set number c })
  | none => (false, h)

def advance (h : Host) (milliseconds : Nat) : Host :=
  let clock := h.server.clock + Server.millisecond * milliseconds
  settle { h with server := { h.server with clock } }

end Host
end Bayeux
