import Bayeux.Extension
import Bayeux.Processor
import Bayeux.Reply
/-! Routing of one message to the processor of its operation. The server hears of an event only
if it is the one that belongs to the operation; a disconnect is handed back, to take effect
when its reply has been written. -/

namespace Bayeux

structure Routed where
  packets : List Packet
  /-- The channel of the request that asks to disconnect. -/
  disconnect? : Option Channel

structure Handlers (σ : Type) where
  process : Processor σ
  extensions : List (Extension σ)

namespace Router
variable {σ : Type}

def refusal? : Route → Option String
  | .unknownMeta => some Reply.unknownMeta
  | .wildcardPublish => some Reply.wildcardPublish
  | _ => none

/-- The reply on a route without a processor. -/
def unprocessed (route : Route) (id : String) (c : Context) : Routed where
  packets := match refusal? route with
    | some reason => [.single .response (Reply.refusal c.channel.path reason c.message (some id))]
    | none => []
  disconnect? := none

def notify (id : String) (c : Context) (s : Server σ) : Request → Option SessionEvent → Server σ
  | .connect _, some .connected => s.connected id c.transport
  | .subscribe _, some (.subscribed channel) => s.subscribed id channel
  | .unsubscribe _, some (.unsubscribed channel) => s.unsubscribed id channel
  | _, _ => s

def disconnects (c : Context) : Request → Option SessionEvent → Option Channel
  | .disconnect _, some .disconnected => some c.channel
  | _, _ => none

def respond (process : Processor σ) (transports : List String) (id : String) (c : Context)
    (s : Server σ) : Except ProcessingError Routed × Server σ :=
  match Request.reader? (Route.ofPath c.channel.path) with
  | none => (.ok (unprocessed (Route.ofPath c.channel.path) id c), s)
  | some read =>
    match read c.message with
    | .error e => (.error e, s)
    | .ok request =>
      match process transports id c request s with
      | (.error e, s) => (.error e, s)
      | (.ok done, s) =>
        (.ok ⟨done.packets, disconnects c request done.event?⟩, notify id c s request done.event?)

/-- A disconnect takes effect: the session ends and its subscriptions go. -/
def applyDisconnect (id : String) (channel : Channel) (s : Server σ) : Server σ :=
  (s.markDisconnected id).disconnected id false (some channel)

end Router
end Bayeux
