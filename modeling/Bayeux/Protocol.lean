import Bayeux.Channel
import Bayeux.Json.Reader
import Bayeux.Value
/-! What can go wrong between a frame and its messages, and the names of the fields that the
protocol reserves. -/

namespace Bayeux

/-- In bytes: no larger frame is read or written. -/
def maxFrameSize : Nat := 16 * 1024 * 1024

inductive ProtocolError where
  | frameTooLarge (size : Nat)
  | json (fault : Json.Fault)
  | invalidChannel (path : String) (fault : ChannelFault)
  | notABatch (found : ValueType)
  | invalidVersion (text : String)
  deriving DecidableEq

def ProtocolError.message : ProtocolError → String
  | .frameTooLarge size =>
    "Frame size " ++ toString size ++ " exceeds maximum " ++ toString maxFrameSize
  | .json fault => "JSON error: " ++ fault.message
  | .invalidChannel path fault => "Invalid channel '" ++ path ++ "': " ++ fault.message
  | .notABatch found => "Invalid frame: expected array or object, got " ++ found.name
  | .invalidVersion text => "Invalid frame: invalid version '" ++ text ++ "'"

/-- A channel, or the error that names the path. -/
def Channel.resolve (path : String) : Except ProtocolError Channel :=
  (Channel.parse path).mapError (.invalidChannel path)

theorem Channel.resolveOk {path : String} {c : Channel} :
    Channel.resolve path = .ok c ↔ Channel.parse path = .ok c := by
  unfold Channel.resolve
  cases Channel.parse path with
  | ok d => exact ⟨fun h => (by cases h; rfl), fun h => (by cases h; rfl)⟩
  | error fault => exact ⟨fun h => (by cases h), fun h => (by cases h)⟩

theorem Channel.resolveFault {path : String} {fault : ChannelFault}
    (h : Channel.parse path = .error fault) :
    Channel.resolve path = .error (.invalidChannel path fault) := by
  unfold Channel.resolve
  rw [h]
  rfl

namespace Field

def id : String := "id"
def clientId : String := "clientId"
def channel : String := "channel"
def successful : String := "successful"
def error : String := "error"
def advice : String := "advice"
def ext : String := "ext"
def data : String := "data"
def version : String := "version"
def minimumVersion : String := "minimumVersion"
def connectionType : String := "connectionType"
def supportedConnectionTypes : String := "supportedConnectionTypes"
def subscription : String := "subscription"

end Field
end Bayeux
