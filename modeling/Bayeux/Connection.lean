import Bayeux.Carrier.WebSocket
/-! The life of one WebSocket connection. It reacts to one signal after the other until one of
them ends it, and is torn down then; a write that takes too long does not end it. -/

namespace Bayeux

inductive Signal where
  | text (content : String)
  | binary
  | ping
  | close
  /-- The stream failed or came to its end. -/
  | broken
  | deliveries
  | tick
  deriving DecidableEq, Repr

structure Connection where
  carrier : WebSocket
  idleAt : Nat
  isOver : Bool

namespace Connection
variable {σ : Type}

def «open» (settings : WebSocket.Settings) (peer : Peer) (s : Server σ) : Connection × Server σ :=
  let (w, s) := WebSocket.open settings peer s
  (⟨w, w.idleDeadline, false⟩, s)

/-- A connection that gets no session. -/
def lost (settings : WebSocket.Settings) (peer : Peer) (s : Server σ) : Connection :=
  let w := (WebSocket.open settings peer s).1
  ⟨{ w with isClosed := true, isConnected := false }, w.idleDeadline, true⟩

/-- Nobody reads the deliveries of a connection that is over. -/
def finish (h : Handlers σ) (c : Connection) (s : Server σ) : Connection × Server σ :=
  let (w, s) := c.carrier.onClose h s
  ({ c with carrier := w, isOver := true }, s.closeDeliveries w.session)

def withCarrier (c : Connection) (w : WebSocket) : Connection := { c with carrier := w }

def onText (h : Handlers σ) (settings : WebSocket.Settings) (content : String) (c : Connection)
    (s : Server σ) : Connection × Server σ :=
  let (handled, w, s) := c.carrier.onText h settings content s
  let c := { c with carrier := w, idleAt := w.idleDeadline }
  match handled with
  | .ok outcome => if outcome.closed then c.finish h s else (c, s)
  | .error .timeout => (c, s)
  | .error _ => c.finish h s

/-- All waiting deliveries make one text. -/
def onDeliveries (h : Handlers σ) (settings : WebSocket.Settings) (c : Connection)
    (s : Server σ) : Connection × Server σ :=
  let (packets, s) := s.takeDeliveries c.carrier.session
  if packets.isEmpty then (c, s)
  else
    let (sent, w, s) := c.carrier.deliver h settings packets s
    let c := c.withCarrier w
    match sent with
    | .ok _ | .error .timeout => (c, s)
    | .error _ => c.finish h s

def onTick (h : Handlers σ) (c : Connection) (s : Server σ) : Connection × Server σ :=
  if s.clock < c.idleAt then (c, s)
  else
    let (closed, w) := c.carrier.closeIfIdle s
    match closed with
    | .ok false => ({ c with carrier := w, idleAt := w.idleDeadline }, s)
    | .ok true | .error _ => (c.withCarrier w).finish h s

def step (h : Handlers σ) (settings : WebSocket.Settings) (c : Connection) (s : Server σ)
    (signal : Signal) : Connection × Server σ :=
  if c.isOver then (c, s)
  else
    match signal with
    | .text content => c.onText h settings content s
    | .binary | .ping => (c, s)
    | .close | .broken => c.finish h s
    | .deliveries => c.onDeliveries h settings s
    | .tick => c.onTick h s

def run (h : Handlers σ) (settings : WebSocket.Settings) (start : Connection × Server σ)
    (signals : List Signal) : Connection × Server σ :=
  signals.foldl (fun (c, s) signal => step h settings c s signal) start

theorem stepOver (h : Handlers σ) (settings : WebSocket.Settings) {c : Connection}
    (s : Server σ) (signal : Signal) (ended : c.isOver = true) :
    c.step h settings s signal = (c, s) := by
  simp [step, ended]

end Connection
end Bayeux
