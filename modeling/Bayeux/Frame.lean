import Bayeux.Packet
/-! Frames: one JSON value as bytes, within the frame size both ways. A frame of messages is
a list of candidates, or one object alone. -/

namespace Bayeux.Frame

def decode (frame : ByteArray) : Except ProtocolError Value :=
  if frame.size > maxFrameSize then .error (.frameTooLarge frame.size)
  else
    match Json.read frame.toList with
    | .ok j => .ok (.ofJson j)
    | .error fault => .error (.json fault)

def decodeBatch (frame : ByteArray) : Except ProtocolError (List Value) :=
  match decode frame with
  | .error e => .error e
  | .ok (.array items) => .ok items.items
  | .ok (.object fields) => .ok [.object fields]
  | .ok v => .error (.notABatch v.type)

def encode (v : Value) : Except ProtocolError String :=
  let text := v.visible.text
  if text.utf8ByteSize > maxFrameSize then .error (.frameTooLarge text.utf8ByteSize) else .ok text

end Bayeux.Frame
