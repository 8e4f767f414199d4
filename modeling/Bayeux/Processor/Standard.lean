import Bayeux.Processor
import Bayeux.Reply
import Bayeux.Version
/-! The standard processors. A session has to handshake, then to connect, and only then may it
subscribe and publish; a request that comes too early, or that speaks for another session,
is answered with a failure and has no effect. -/

namespace Bayeux.Standard
variable {σ : Type}

structure Settings where
  version : Version
  minimumVersion : Version
  /-- Advised pause between connects. -/
  interval : Nat
  /-- Advised time to wait for an answer to a connect. -/
  timeout : Nat

def handshakeCompleted : String := "Handshake was previously completed"
def handshakeTransport : String := "Handshake attempted on an unsupported transport"
def handshakeRequired : String := "Handshake required"
def connectTransport : String := "Connection requested on an unsupported transport"
def connectionRequired : String := "Connection required"
def missingSubscription : String := "Missing subscription"
def metaSubscription : String := "Attempt to subscribe to a meta channel"

def success (c : Context) (clientId : String) : Message :=
  Reply.success c.channel.path c.message (some clientId)

def failure (c : Context) (clientId? : Option String) (error : String)
    (reconnect? : Option String) : Message :=
  Reply.failure c.channel.path c.message clientId? error reconnect?

/-- The request speaks for its own session, which has completed the handshake. -/
def speaksFor (s : Server σ) (id : String) (clientId? : Option String) : Bool :=
  clientId? == some id && s.isHandshook id

def withVersions (settings : Settings) (transports : List String) (reply : Message) : Message :=
  ((reply.putText Field.version settings.version.text).putText Field.minimumVersion
    settings.minimumVersion.text).put Field.supportedConnectionTypes
      (.array (.plain (transports.map .string)))

def advised (settings : Settings) (reply : Message) : Message :=
  (reply.putAdvice Reply.Advice.interval (.integer settings.interval)).putAdvice
    Reply.Advice.timeout (.integer settings.timeout)

def handshakeReply (settings : Settings) (transports : List String) (id : String) (c : Context)
    (r : HandshakeRequest) (s : Server σ) : Message × Server σ :=
  if s.stateOf id ≠ .initialized then
    (failure c (some id) handshakeCompleted (some Reply.Advice.retry), s)
  else if !r.supportedConnectionTypes.any transports.contains then
    (failure c (some id) handshakeTransport (some Reply.Advice.handshake), s)
  else
    (advised settings ((success c id).putAdvice Reply.Advice.reconnect
      (.string Reply.Advice.retry)), (s.transition id .initialized .handshook).2)

def handshake (settings : Settings) (transports : List String) (id : String) (c : Context)
    (r : HandshakeRequest) (s : Server σ) : Processed × Server σ :=
  let (reply, s) := handshakeReply settings transports id c r s
  (.reply (withVersions settings transports reply), s)

/-- The first connect has to name the transport that carries it. -/
def connect (settings : Settings) (id : String) (c : Context) (r : ConnectRequest)
    (s : Server σ) : Processed × Server σ :=
  if !speaksFor s id r.clientId then
    (.reply (failure c r.clientId handshakeRequired (some Reply.Advice.handshake)), s)
  else
    let reply := Processed.reply (advised settings (success c id))
    if s.stateOf id = .handshook then
      if r.connectionType ≠ some c.transport then
        (.reply (failure c r.clientId connectTransport (some Reply.Advice.handshake)), s)
      else (reply.withEvent .connected, (s.transition id .handshook .connected).2)
    else (reply, s)

def disconnect (id : String) (c : Context) : Processed :=
  (Processed.reply ((success c id).putAdvice Reply.Advice.reconnect
    (.string Reply.Advice.none))).withEvent .disconnected

def withSubscription (reply : Message) (subscription : String) : Message :=
  reply.putText Field.subscription subscription

/-- The channel to subscribe to or to leave, or the failure to answer with. -/
def subscription (id : String) (c : Context) (r : SubscriptionRequest) (s : Server σ) :
    Except Message Channel :=
  match r.subscription with
  | none => .error (failure c r.clientId missingSubscription none)
  | some path =>
    let reject (error : String) (reconnect? : Option String) : Except Message Channel :=
      .error (withSubscription (failure c r.clientId error reconnect?) path)
    if !speaksFor s id r.clientId then reject handshakeRequired (some Reply.Advice.handshake)
    else if s.stateOf id ≠ .connected then reject connectionRequired (some Reply.Advice.retry)
    else if Channel.startsWith path Channel.metaRoot then reject metaSubscription none
    else
      match Channel.resolve path with
      | .ok channel => .ok channel
      | .error e => reject e.message none

def subscriptionReply (id : String) (c : Context) (r : SubscriptionRequest)
    (event : Channel → SessionEvent) (s : Server σ) : Processed :=
  match subscription id c r s with
  | .ok channel =>
    (Processed.reply (withSubscription (success c id) channel.path)).withEvent (event channel)
  | .error reply => .reply reply

/-- What subscribers get to see of a published message. -/
def deliveryOf (c : Context) : Message :=
  let delivery := Reply.withId (Message.forChannel c.channel.path) c.message
  match c.message.data? with
  | some data => delivery.put Field.data data
  | none => delivery

/-- The others get a delivery. The publisher gets an acknowledgement, and the message behind it
if the channel is one of its own. -/
def publish (id : String) (c : Context) (r : PublishRequest) (s : Server σ) :
    Processed × Server σ :=
  if !speaksFor s id r.clientId then
    (.reply (failure c r.clientId handshakeRequired (some Reply.Advice.handshake)), s)
  else if s.stateOf id ≠ .connected then
    (.reply (failure c r.clientId connectionRequired (some Reply.Advice.retry)), s)
  else
    let delivery := Packet.single .delivery (deliveryOf c)
    let (_, s) := s.publish (some id) ((delivery.withSender id).withRoute c.channel)
    let filtered? := if s.isSubscribed id c.channel then none else some c.channel
    let reply := Packet.single .response (success c id)
    (⟨[reply.merge (.single .response (deliveryOf c)) filtered?], none⟩, s)

def process (settings : Settings) : Processor σ := fun transports id c request s =>
  let done : Processed × Server σ := match request with
    | .handshake r => handshake settings transports id c r s
    | .connect r => connect settings id c r s
    | .disconnect _ => (disconnect id c, s)
    | .subscribe r => (subscriptionReply id c r .subscribed s, s)
    | .unsubscribe r => (subscriptionReply id c r .unsubscribed s, s)
    | .publish r => publish id c r s
  (.ok done.1, done.2)

end Bayeux.Standard
