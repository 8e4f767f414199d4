import Bayeux.Context
import Bayeux.Request
import Bayeux.Server
/-! Processors decide the outcome of a request. They answer with packets and may report an
event of the session, which is for the router to pass on. -/

namespace Bayeux

structure Processed where
  packets : List Packet
  event? : Option SessionEvent

namespace Processed

def reply (m : Message) : Processed := ⟨[.single .response m], none⟩

def withEvent (p : Processed) (event : SessionEvent) : Processed := { p with event? := some event }

end Processed

/-- Given the transports on offer, the session, the context of the message and the request. -/
abbrev Processor (σ : Type) :=
  List String → String → Context → Request → Server σ → Except ProcessingError Processed × Server σ

end Bayeux
