/-! The writing end of a connection. How a call ends is up to the connection and may depend on
the calls before it; all calls are kept, the newest first. -/

namespace Bayeux

namespace CloseCode

def normal : Nat := 1000
def messageTooBig : Nat := 1009

end CloseCode

inductive SinkFrame where
  | text (content : String)
  | close (code : Nat) (reason : String)
  deriving DecidableEq, Repr

inductive WriteResult where
  | written
  | failed (reason : String)
  /-- The write does not end by itself. -/
  | stalled
  deriving DecidableEq, Repr

structure SinkCall where
  frame : SinkFrame
  /-- Whether the other end gets the frame. -/
  arrived : Bool
  deriving DecidableEq, Repr

structure Sink where
  /-- How the writing of a text ends behind these calls. -/
  onText : List SinkCall → WriteResult
  /-- Why a close fails behind these calls. -/
  onClose : List SinkCall → Option String
  calls : List SinkCall

namespace Sink

def accepting : Sink := ⟨fun _ => .written, fun _ => none, []⟩

/-- From now on as `other`; what was called before stays. -/
def behaveAs (sink other : Sink) : Sink := { other with calls := sink.calls }

def failing (reason : String) : Sink := ⟨fun _ => .failed reason, fun _ => some reason, []⟩

def stalling : Sink := ⟨fun _ => .stalled, fun _ => none, []⟩

def text (sink : Sink) (content : String) : WriteResult × Sink :=
  let result := sink.onText sink.calls
  (result, { sink with calls := ⟨.text content, result == .written⟩ :: sink.calls })

/-- The close frame gets out even if the close then fails. -/
def close (sink : Sink) (code : Nat) (reason : String) : Option String × Sink :=
  (sink.onClose sink.calls, { sink with calls := ⟨.close code reason, true⟩ :: sink.calls })

/-- What the other end got since there were `before` calls. -/
def arrivedSince (sink : Sink) (before : Nat) : List SinkFrame :=
  (((sink.calls.take (sink.calls.length - before)).filter SinkCall.arrived).map
    SinkCall.frame).reverse

end Sink
end Bayeux
