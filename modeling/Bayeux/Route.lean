import Bayeux.Channel
/-! Where a message goes, read off the text of its channel path. -/

namespace Bayeux

inductive Route where
  | handshake
  | connect
  | disconnect
  | subscribe
  | unsubscribe
  | unknownMeta
  | wildcardPublish
  | service
  | publish
  deriving DecidableEq, Repr

namespace Route

def handshakePath : String := "/meta/handshake"
def connectPath : String := "/meta/connect"
def disconnectPath : String := "/meta/disconnect"
def subscribePath : String := "/meta/subscribe"
def unsubscribePath : String := "/meta/unsubscribe"

def endsWith (path ending : String) : Bool := ending.toList.isSuffixOf path.toList

/-- The five operations, then the reserved root, then wildcards, then services. -/
def ofPath (path : String) : Route :=
  if path = handshakePath then .handshake
  else if path = connectPath then .connect
  else if path = disconnectPath then .disconnect
  else if path = subscribePath then .subscribe
  else if path = unsubscribePath then .unsubscribe
  else if Channel.startsWith path Channel.metaRoot then .unknownMeta
  else if endsWith path "/*" || endsWith path "/**" then .wildcardPublish
  else if Channel.startsWith path Channel.serviceRoot then .service
  else .publish

end Route
end Bayeux
