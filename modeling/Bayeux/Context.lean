import Bayeux.Address
import Bayeux.Message
/-! What is known of a message while it is handled, apart from its session. -/

namespace Bayeux

/-- The client at the other end of a connection. -/
structure Peer where
  address? : Option Address
  userAgent? : Option String

namespace Peer

def inProcess : Peer := ⟨none, none⟩

end Peer

structure Context where
  transport : String
  peer : Peer
  channel : Channel
  message : Message

end Bayeux
