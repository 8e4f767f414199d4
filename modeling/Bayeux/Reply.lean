import Bayeux.Message
/-! Replies. Each one repeats the channel of its request, and its id exactly where the request
has one, whatever that id is. -/

namespace Bayeux.Reply

def unknownMeta : String := "Unknown meta channel"
def wildcardPublish : String := "Attempt to publish to a wildcard channel"
def denied : String := "Processing was denied"
def invalidChannel : String := "Invalid channel"

namespace Advice

def reconnect : String := "reconnect"
def interval : String := "interval"
def timeout : String := "timeout"
def retry : String := "retry"
def handshake : String := "handshake"
def none : String := "none"

end Advice

def withId (reply request : Message) : Message :=
  match request.get? Field.id with
  | some id => reply.put Field.id id
  | none => reply

def withClient (reply : Message) (clientId? : Option String) : Message :=
  match clientId? with
  | some clientId => reply.putText Field.clientId clientId
  | none => reply

/-- To a message that no operation takes. -/
def refusal (path reason : String) (request : Message) (clientId? : Option String) : Message :=
  let reply := ((Message.empty.put Field.successful (.bool false)).putText Field.channel path)
  withClient (withId (reply.putText Field.error reason) request) clientId?

def skeleton (path : String) (request : Message) (clientId? : Option String) : Message :=
  withClient (withId (Message.forChannel path) request) clientId?

def success (path : String) (request : Message) (clientId? : Option String) : Message :=
  (skeleton path request clientId?).put Field.successful (.bool true)

def failure (path : String) (request : Message) (clientId? : Option String) (error : String)
    (reconnect? : Option String) : Message :=
  let reply := ((skeleton path request clientId?).put Field.successful (.bool false)).putText
    Field.error error
  match reconnect? with
  | some reconnect => reply.putAdvice Advice.reconnect (.string reconnect)
  | none => reply

end Bayeux.Reply
