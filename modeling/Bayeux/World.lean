import Bayeux.Carrier.InProcess
import Bayeux.Carrier.WebSocket
/-! A server with its clients. Clients are numbered as they are opened, and every one has a
carrier and a session of its own. A step is one action followed by a round of the pumps;
an action that does not fit its client does nothing. -/

namespace Bayeux

inductive Client where
  | webSocket (carrier : WebSocket)
  | inProcess (carrier : InProcess)

namespace Client

def session : Client → String
  | .webSocket w => w.session
  | .inProcess p => p.session

def isConnected : Client → Bool
  | .webSocket w => w.isConnected
  | .inProcess p => p.isConnected

def idleTimeout : Client → Int
  | .webSocket w => w.idleTimeout
  | .inProcess p => p.idleTimeout

end Client

structure Setup (σ : Type) where
  handlers : Handlers σ
  webSocket : WebSocket.Settings
  inProcess : InProcess.Settings

structure World (σ : Type) where
  server : Server σ
  clients : List Client

inductive Action where
  | openWebSocket (peer : Peer)
  | openInProcess
  | text (client : Nat) (content : String)
  | inject (client : Nat) (m : Message)
  /-- Write all deliveries that wait for a WebSocket as one batch. -/
  | flush (client : Nat)
  /-- Take what is in the inbox of a client in the same process. -/
  | collect (client : Nat)
  | send (client : Nat) (packets : List Packet)
  | close (client : Nat)
  | onClose (client : Nat)
  | closeIfIdle (client : Nat)
  | expireIdle
  | setIdleTimeout (client : Nat) (requested : Int)
  | setDisconnected (client : Nat)
  /-- Whoever reads a WebSocket's deliveries, or the inbox of the other kind, goes away. -/
  | dropReader (client : Nat)
  | setSink (client : Nat) (sink : Sink)
  | deliver (client : Nat) (p : Packet)
  | publish (sender? : Option Nat) (p : Packet)
  | register (client : Nat)
  | deregister (client : Nat)
  | subscribe (client : Nat) (channel : Channel)
  | unsubscribe (client : Nat) (channel : Channel)
  | advance (nanoseconds : Nat)

inductive Answer where
  | nothing
  | opened (client : Nat)
  /-- Nothing could be opened, as there are no queues of that size. -/
  | refused
  | handled (result : Except TransportError WebSocket.Outcome)
  | replies (result : Except TransportError (List Packet))
  | flushed (packets : Nat) (result : Except TransportError WebSocket.Outcome)
  | texts (contents : List String)
  | done (result : Except TransportError Unit)
  | closed (result : Except TransportError Bool)
  | flag (value : Bool)
  | count (value : Nat)
  | timeout (milliseconds : Int)

namespace World
variable {σ : Type}

def start (memory : σ) : World σ := ⟨.start memory, []⟩

def client? (world : World σ) (client : Nat) : Option Client := world.clients[client]?

def setClient (world : World σ) (client : Nat) (c : Client) (s : Server σ) : World σ :=
  ⟨s, world.clients.set client c⟩

def addClient (world : World σ) (c : Client) (s : Server σ) : Answer × World σ :=
  (.opened world.clients.length, ⟨s, world.clients ++ [c]⟩)

def onWebSocket (world : World σ) (client : Nat)
    (act : WebSocket → Server σ → Answer × WebSocket × Server σ) : Answer × World σ :=
  match world.client? client with
  | some (.webSocket w) =>
    let (answer, w, s) := act w world.server
    (answer, world.setClient client (.webSocket w) s)
  | _ => (.nothing, world)

def onInProcess (world : World σ) (client : Nat)
    (act : InProcess → Server σ → Answer × InProcess × Server σ) : Answer × World σ :=
  match world.client? client with
  | some (.inProcess p) =>
    let (answer, p, s) := act p world.server
    (answer, world.setClient client (.inProcess p) s)
  | _ => (.nothing, world)

def onCarrier (world : World σ) (client : Nat)
    (webSocket : WebSocket → Server σ → Answer × WebSocket × Server σ)
    (inProcess : InProcess → Server σ → Answer × InProcess × Server σ) : Answer × World σ :=
  match world.client? client with
  | some (.webSocket _) => world.onWebSocket client webSocket
  | some (.inProcess _) => world.onInProcess client inProcess
  | none => (.nothing, world)

def onServer (world : World σ) (client : Nat) (act : String → Server σ → Answer × Server σ) :
    Answer × World σ :=
  match world.client? client with
  | some c =>
    let (answer, s) := act c.session world.server
    (answer, { world with server := s })
  | none => (.nothing, world)

/- What holds of the world as it is, and after what is done to its client, holds behind the
action. -/

section
variable {P : World σ → Prop} {world : World σ} {client : Nat}

theorem onWebSocketKeeps (still : P world)
    {act : WebSocket → Server σ → Answer × WebSocket × Server σ}
    (acts : ∀ w, world.client? client = some (.webSocket w) → P (world.setClient client
      (.webSocket (act w world.server).2.1) (act w world.server).2.2)) :
    P (world.onWebSocket client act).2 := by
  unfold onWebSocket
  split
  · rename_i w here
    exact acts w here
  · exact still

theorem onInProcessKeeps (still : P world)
    {act : InProcess → Server σ → Answer × InProcess × Server σ}
    (acts : ∀ p, world.client? client = some (.inProcess p) → P (world.setClient client
      (.inProcess (act p world.server).2.1) (act p world.server).2.2)) :
    P (world.onInProcess client act).2 := by
  unfold onInProcess
  split
  · rename_i p here
    exact acts p here
  · exact still

theorem onCarrierKeeps (still : P world)
    {webSocket : WebSocket → Server σ → Answer × WebSocket × Server σ}
    {inProcess : InProcess → Server σ → Answer × InProcess × Server σ}
    (left : ∀ w, world.client? client = some (.webSocket w) → P (world.setClient client
      (.webSocket (webSocket w world.server).2.1) (webSocket w world.server).2.2))
    (right : ∀ p, world.client? client = some (.inProcess p) → P (world.setClient client
      (.inProcess (inProcess p world.server).2.1) (inProcess p world.server).2.2)) :
    P (world.onCarrier client webSocket inProcess).2 := by
  unfold onCarrier
  split
  · exact onWebSocketKeeps still left
  · exact onInProcessKeeps still right
  · exact still

theorem onServerKeeps (still : P world) {act : String → Server σ → Answer × Server σ}
    (acts : ∀ c, world.client? client = some c →
      P { world with server := (act c.session world.server).2 }) :
    P (world.onServer client act).2 := by
  unfold onServer
  split
  · rename_i c here
    exact acts c here
  · exact still

end

def flush (setup : Setup σ) (w : WebSocket) (s : Server σ) : Answer × WebSocket × Server σ :=
  let (packets, s) := s.takeDeliveries w.session
  let (result, w, s) := w.deliver setup.handlers setup.webSocket packets s
  (.flushed packets.length result, w, s)

/-- Close one client's carrier if it is in the same process, tracked and silent for too long. -/
def expire (h : Handlers σ) (c : Client) (s : Server σ) : Bool × Client × Server σ :=
  match c with
  | .inProcess p =>
    if decide (p.session ∈ s.inProcess) && p.isExpired s.clock then
      let (p, s) := p.close h { s with inProcess := s.inProcess.erase p.session }
      (true, .inProcess p, s)
    else (false, c, s)
  | .webSocket _ => (false, c, s)

def expireAll (h : Handlers σ) : List Client → Server σ → Nat × List Client × Server σ
  | [], s => (0, [], s)
  | c :: rest, s =>
    let (expired, c, s) := expire h c s
    let (count, rest, s) := expireAll h rest s
    (if expired then count + 1 else count, c :: rest, s)

def pumpAll (setup : Setup σ) : List Client → Server σ → List Client × Server σ
  | [], s => ([], s)
  | .inProcess p :: rest, s =>
    let (p, s) := p.pump setup.handlers setup.inProcess s
    let (rest, s) := pumpAll setup rest s
    (.inProcess p :: rest, s)
  | c :: rest, s =>
    let (rest, s) := pumpAll setup rest s
    (c :: rest, s)

/-- All pumps run until no delivery waits for a client in the same process. -/
def settle (setup : Setup σ) (world : World σ) : World σ :=
  let (clients, s) := pumpAll setup world.clients world.server
  ⟨s, clients⟩

def act (setup : Setup σ) (world : World σ) : Action → Answer × World σ
  | .openWebSocket peer =>
    if Queue.canHold setup.webSocket.queueSize then
      let (w, s) := WebSocket.open setup.webSocket peer world.server
      world.addClient (.webSocket w) s
    else (.refused, world)
  | .openInProcess =>
    if Queue.canHold setup.inProcess.queueSize then
      let (p, s) := InProcess.open setup.inProcess world.server
      world.addClient (.inProcess p) s
    else (.refused, world)
  | .text client content =>
    world.onWebSocket client fun w s =>
      let (result, w, s) := w.onText setup.handlers setup.webSocket content s
      (.handled result, w, s)
  | .inject client m =>
    world.onInProcess client fun p s =>
      let (result, p, s) := p.inject setup.handlers m s
      (.replies result, p, s)
  | .flush client => world.onWebSocket client (flush setup)
  | .collect client =>
    world.onInProcess client fun p s =>
      let (texts, inbox) := p.inbox.takeAll
      (.texts texts, { p with inbox }, s)
  | .send client packets =>
    world.onCarrier client
      (fun w s =>
        let (result, w, s) := w.deliver setup.handlers setup.webSocket packets s
        (.done (result.map fun _ => ()), w, s))
      (fun p s =>
        let (result, p, s) := p.send setup.handlers packets s
        (.done result, p, s))
  | .close client =>
    world.onCarrier client
      (fun w s => let (result, w) := w.close; (.done result, w, s))
      (fun p s => (.done (.ok ()), p.close setup.handlers s))
  | .onClose client =>
    world.onWebSocket client fun w s => (.nothing, w.onClose setup.handlers s)
  | .closeIfIdle client =>
    world.onWebSocket client fun w s =>
      let (result, w) := w.closeIfIdle s
      (.closed result, w, s)
  | .expireIdle =>
    let (count, clients, s) := expireAll setup.handlers world.clients world.server
    (.count count, ⟨s, clients⟩)
  | .setIdleTimeout client requested =>
    world.onCarrier client
      (fun w s =>
        let w := w.setIdleTimeout setup.webSocket requested
        (.timeout w.idleTimeout, w, s))
      (fun p s =>
        let p := p.setIdleTimeout setup.inProcess requested
        (.timeout p.idleTimeout, p, s))
  | .setDisconnected client =>
    world.onCarrier client
      (fun w s => let (was, w) := w.setDisconnected; (.flag was, w, s))
      (fun p s => let (was, p) := p.setDisconnected; (.flag was, p, s))
  | .dropReader client =>
    world.onCarrier client
      (fun w s => (.nothing, w, s.closeDeliveries w.session))
      (fun p s => (.nothing, { p with inbox := p.inbox.close }, s))
  | .setSink client sink =>
    world.onWebSocket client fun w s => (.nothing, { w with sink := w.sink.behaveAs sink }, s)
  | .deliver client p =>
    world.onServer client fun id s => let (taken, s) := s.deliver id p; (.flag taken, s)
  | .publish sender? p =>
    let sender? := (sender?.bind world.client?).map Client.session
    let (count, s) := world.server.publish sender? p
    (.count count, { world with server := s })
  | .register client => world.onServer client fun id s => (.nothing, s.addSession id)
  | .deregister client => world.onServer client fun id s => (.nothing, s.removeSession id)
  | .subscribe client channel =>
    world.onServer client fun id s => (.nothing, s.subscribed id channel)
  | .unsubscribe client channel =>
    world.onServer client fun id s => (.nothing, s.unsubscribed id channel)
  | .advance nanoseconds =>
    (.nothing, { world with server := { world.server with
      clock := world.server.clock + nanoseconds } })

def step (setup : Setup σ) (world : World σ) (action : Action) : Answer × World σ :=
  let (answer, world) := world.act setup action
  (answer, world.settle setup)

def run (setup : Setup σ) (world : World σ) (actions : List Action) : World σ :=
  actions.foldl (fun world action => (world.step setup action).2) world

end World
end Bayeux
