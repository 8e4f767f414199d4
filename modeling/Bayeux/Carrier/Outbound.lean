import Bayeux.Extension
import Bayeux.Request
/-! What a carrier writes: the text of all messages that pass the extensions on their way out. -/

namespace Bayeux

inductive TransportError where
  | connectionClosed
  | timeout
  | queueFull
  | sendFailed (reason : String)
  | processing (error : ProcessingError)
  | closeFailed (reason : String)
  | noChannel

def TransportError.message : TransportError → String
  | .connectionClosed => "Connection closed"
  | .timeout => "Send timed out"
  | .queueFull => "Queue full"
  | .sendFailed reason => "Send failed: " ++ reason
  | .processing error => "Processing error: " ++ error.message
  | .closeFailed reason => "Failed to close: " ++ reason
  | .noChannel => "message has no channel"

structure Outbound where
  text : String
  messages : Nat

namespace Outbound
variable {σ : Type}

/-- Nothing is written when no message passes. -/
def ofPackets? (extensions : List (Extension σ)) (id : String) (packets : List Packet)
    (s : Server σ) : Option Outbound × Server σ :=
  let (packets, s) := Extension.outgoingPackets extensions id packets s
  ((Packet.textOfAll? packets).map fun text =>
    ⟨text, (packets.flatMap Packet.messages).length⟩, s)

end Outbound
end Bayeux
