import Bayeux.Decode
import Bayeux.Message
import Bayeux.Route
/-! Requests: what each operation takes from its message. A message that does not fit is
refused with the first fault in the order of its fields. -/

namespace Bayeux

structure HandshakeRequest where
  id : Option Json := none
  version : Option String := none
  minimumVersion : Option String := none
  supportedConnectionTypes : List String := []
  ext : Option Json := none

structure ConnectRequest where
  id : Option Json := none
  clientId : Option String := none
  connectionType : Option String := none
  advice : Option Json := none

structure DisconnectRequest where
  id : Option Json := none
  clientId : Option String := none

/-- To subscribe and to unsubscribe. -/
structure SubscriptionRequest where
  id : Option Json := none
  clientId : Option String := none
  subscription : Option String := none

structure PublishRequest where
  id : Option Json
  clientId : Option String
  channel : String

/-- A publish whose channel has not been met yet. -/
structure PublishDraft where
  id : Option Json := none
  clientId : Option String := none
  channel : Option String := none

inductive ProcessingError where
  | decode (channel : String) (fault : Decode.Fault)
  | protocol (error : ProtocolError)
  | failed (reason : String)

def ProcessingError.message : ProcessingError → String
  | .decode channel fault => "Failed to decode " ++ channel ++ " request: " ++ fault.message
  | .protocol error => "Protocol error: " ++ error.message
  | .failed reason => "Processor failed: " ++ reason

namespace Request
open Decode

def handshakeSlots : List (JsonSlot HandshakeRequest) :=
  [slot Field.id (optional anything) fun v r => { r with id := v },
   slot Field.version (optional text) fun v r => { r with version := v },
   slot Field.minimumVersion (optional text) fun v r => { r with minimumVersion := v },
   slot Field.supportedConnectionTypes textList
     fun v r => { r with supportedConnectionTypes := v },
   slot Field.ext (optional anything) fun v r => { r with ext := v }]

def connectSlots : List (JsonSlot ConnectRequest) :=
  [slot Field.id (optional anything) fun v r => { r with id := v },
   slot Field.clientId (optional text) fun v r => { r with clientId := v },
   slot Field.connectionType (optional text) fun v r => { r with connectionType := v },
   slot Field.advice (optional anything) fun v r => { r with advice := v }]

def disconnectSlots : List (JsonSlot DisconnectRequest) :=
  [slot Field.id (optional anything) fun v r => { r with id := v },
   slot Field.clientId (optional text) fun v r => { r with clientId := v }]

def subscriptionSlots : List (JsonSlot SubscriptionRequest) :=
  [slot Field.id (optional anything) fun v r => { r with id := v },
   slot Field.clientId (optional text) fun v r => { r with clientId := v },
   slot Field.subscription (optional text) fun v r => { r with subscription := v }]

def publishSlots : List (JsonSlot PublishDraft) :=
  [slot Field.id (optional anything) fun v r => { r with id := v },
   slot Field.clientId (optional text) fun v r => { r with clientId := v },
   slot Field.channel text fun v r => { r with channel := some v }]

def finishPublish (draft : PublishDraft) : Except Fault PublishRequest :=
  match draft.channel with
  | some channel => .ok ⟨draft.id, draft.clientId, channel⟩
  | none => .error (.missing Field.channel)

/-- A message without channel is named `<none>` in its error. -/
def fields {σ : Type} (slots : List (JsonSlot σ)) (initial : σ) (m : Message) :
    Except ProcessingError σ :=
  (struct "request" slots initial m.visible).mapError (.decode (m.channel?.getD "<none>"))

end Request

def HandshakeRequest.ofMessage (m : Message) : Except ProcessingError HandshakeRequest :=
  Request.fields Request.handshakeSlots {} m

def ConnectRequest.ofMessage (m : Message) : Except ProcessingError ConnectRequest :=
  Request.fields Request.connectSlots {} m

def DisconnectRequest.ofMessage (m : Message) : Except ProcessingError DisconnectRequest :=
  Request.fields Request.disconnectSlots {} m

def SubscriptionRequest.ofMessage (m : Message) : Except ProcessingError SubscriptionRequest :=
  Request.fields Request.subscriptionSlots {} m

def PublishRequest.ofMessage (m : Message) : Except ProcessingError PublishRequest :=
  match Request.fields Request.publishSlots {} m with
  | .error e => .error e
  | .ok draft => (Request.finishPublish draft).mapError (.decode (m.channel?.getD "<none>"))

inductive Request where
  | handshake (request : HandshakeRequest)
  | connect (request : ConnectRequest)
  | disconnect (request : DisconnectRequest)
  | subscribe (request : SubscriptionRequest)
  | unsubscribe (request : SubscriptionRequest)
  | publish (request : PublishRequest)

/-- How the request of a route is read; the other routes have none. -/
def Request.reader? : Route → Option (Message → Except ProcessingError Request)
  | .handshake => some fun m => (HandshakeRequest.ofMessage m).map .handshake
  | .connect => some fun m => (ConnectRequest.ofMessage m).map .connect
  | .disconnect => some fun m => (DisconnectRequest.ofMessage m).map .disconnect
  | .subscribe => some fun m => (SubscriptionRequest.ofMessage m).map .subscribe
  | .unsubscribe => some fun m => (SubscriptionRequest.ofMessage m).map .unsubscribe
  | .publish => some fun m => (PublishRequest.ofMessage m).map .publish
  | .unknownMeta | .wildcardPublish | .service => none

end Bayeux
