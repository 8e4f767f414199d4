import Bayeux.Carrier.InProcess
import Bayeux.Carrier.WebSocket
import Bayeux.Decode
import Bayeux.Processor.Standard
/-! Configuration. Every setting has a default where it is missing in its section, and every
section has one where it is missing itself; settings that are not known do not matter. -/

namespace Bayeux

namespace Preset

def path : String := "/cometd"

/-- The platform decides. -/
def interval : Int64 := -1

def maxTextSize : UInt64 := 64 * 1024

def queueSize : UInt64 := .ofNat Session.defaultQueueSize

def inProcessInterval : UInt64 := 10000

def checkCycle : UInt64 := 1000

def timeout : UInt64 := 30000

def metricsEndpoint : UInt16 := 9090

end Preset

/-! Sections. The values beside the fields are those of a section that is missing, and those of
`unset` are the values of the settings that are missing in a section that is there. -/

structure WebSocketSection where
  path : String := Preset.path
  /-- Negative where the platform decides. -/
  maxInterval : Int64 := Preset.interval
  /-- Zero where a write may take any time. -/
  sendTimeout : UInt64 := 0
  maxTextSize : UInt64 := Preset.maxTextSize
  queueSize : UInt64 := Preset.queueSize
  deriving DecidableEq

def WebSocketSection.unset : WebSocketSection where
  path := Preset.path
  maxInterval := Preset.interval
  sendTimeout := 0
  maxTextSize := Preset.maxTextSize
  queueSize := Preset.queueSize

structure InProcessSection where
  maxInterval : UInt64 := Preset.inProcessInterval
  idleCheckCycle : UInt64 := Preset.checkCycle
  connectCheckCycle : UInt64 := Preset.checkCycle
  deriving DecidableEq

def InProcessSection.unset : InProcessSection where
  maxInterval := Preset.inProcessInterval
  idleCheckCycle := Preset.checkCycle
  connectCheckCycle := Preset.checkCycle

structure ProtocolSection where
  version : Version := Version.current
  minimumVersion : Version := Version.minimum
  interval : UInt64 := 0
  timeout : UInt64 := Preset.timeout
  deriving DecidableEq

def ProtocolSection.unset : ProtocolSection where
  version := Version.current
  minimumVersion := Version.minimum
  interval := 0
  timeout := Preset.timeout

structure MetricsSection where
  enabled : Bool := true
  endpoint : UInt16 := Preset.metricsEndpoint
  deriving DecidableEq

def MetricsSection.unset : MetricsSection where
  enabled := true
  endpoint := Preset.metricsEndpoint

structure Config where
  host : String
  endpoint : UInt16
  webSocket : WebSocketSection
  inProcess : InProcessSection
  protocol : ProtocolSection
  metrics : MetricsSection
  deriving DecidableEq

namespace Config
open Decode

/-- How leaves and sections are read from a tree. -/
structure Style (τ ε : Type) where
  text : τ → Except ε String
  version : τ → Except ε Version
  boolean : τ → Except ε Bool
  word16 : τ → Except ε UInt16
  word64 : τ → Except ε UInt64
  wordSize : τ → Except ε UInt64
  int64 : τ → Except ε Int64
  struct : (σ : Type) → String → List (Slot τ ε σ) → σ → τ → Except ε σ

def strict : Style Json Fault where
  text := Decode.text
  version := Decode.version
  boolean := Decode.boolean
  word16 := Decode.word16
  word64 := Decode.word64
  wordSize := Decode.wordSize
  int64 := Decode.int64
  struct _ := Decode.struct

section
variable {τ ε : Type}

def webSocketSlots (style : Style τ ε) : List (Slot τ ε WebSocketSection) :=
  [slot "websocket_path" style.text fun v s => { s with path := v },
   slot "max_interval_ms" style.int64 fun v s => { s with maxInterval := v },
   slot "async_send_timeout_ms" style.word64 fun v s => { s with sendTimeout := v },
   slot "max_text_message_buffer_size" style.wordSize fun v s => { s with maxTextSize := v },
   slot "max_message_queue_size" style.wordSize fun v s => { s with queueSize := v }]

def inProcessSlots (style : Style τ ε) : List (Slot τ ε InProcessSection) :=
  [slot "max_interval_ms" style.word64 fun v s => { s with maxInterval := v },
   slot "idle_check_cycle_ms" style.word64 fun v s => { s with idleCheckCycle := v },
   slot "connect_check_cycle_ms" style.word64 fun v s => { s with connectCheckCycle := v }]

def protocolSlots (style : Style τ ε) : List (Slot τ ε ProtocolSection) :=
  [slot "version" style.version fun v s => { s with version := v },
   slot "minimum_version" style.version fun v s => { s with minimumVersion := v },
   slot "interval_ms" style.word64 fun v s => { s with interval := v },
   slot "timeout_ms" style.word64 fun v s => { s with timeout := v }]

def metricsSlots (style : Style τ ε) : List (Slot τ ε MetricsSection) :=
  [slot "enabled" style.boolean fun v s => { s with enabled := v },
   slot "port" style.word16 fun v s => { s with endpoint := v }]

def slots (style : Style τ ε) : List (Slot τ ε Config) :=
  [slot "host" style.text fun v c => { c with host := v },
   slot "port" style.word16 fun v c => { c with endpoint := v },
   slot "transport" (style.struct _ "TransportConfig" (webSocketSlots style) .unset)
     fun v c => { c with webSocket := v },
   slot "local" (style.struct _ "LocalTransportConfig" (inProcessSlots style) .unset)
     fun v c => { c with inProcess := v },
   slot "bayeux" (style.struct _ "BayeuxConfig" (protocolSlots style) .unset)
     fun v c => { c with protocol := v },
   slot "metrics" (style.struct _ "MetricsConfig" (metricsSlots style) .unset)
     fun v c => { c with metrics := v }]

end

/-- Digits of a number below 65536, behind an optional plus. -/
def endpoint? (text : String) : Option UInt16 :=
  let digits := match text.toList with
    | '+' :: rest => rest
    | cs => cs
  if digits ≠ [] ∧ digits.all Version.isDigit ∧ Version.digitsValue digits < 65536 then
    some (.ofNat (Version.digitsValue digits))
  else none

def defaultHost (environment : Table String) : String :=
  (environment.get? "METEOR_HOST").getD "127.0.0.1"

def defaultEndpoint (environment : Table String) : UInt16 :=
  ((environment.get? "METEOR_PORT").bind endpoint?).getD 8080

/-- The whole configuration where nothing is set. Only host and endpoint have defaults that the
environment may set. -/
def default (environment : Table String) : Config where
  host := defaultHost environment
  endpoint := defaultEndpoint environment
  webSocket := {}
  inProcess := {}
  protocol := {}
  metrics := {}

/-- What stands for each setting and for each section that is missing. -/
def unset (environment : Table String) : Config where
  host := defaultHost environment
  endpoint := defaultEndpoint environment
  webSocket := {}
  inProcess := {}
  protocol := {}
  metrics := {}

def read {τ ε : Type} (style : Style τ ε) (environment : Table String) : τ → Except ε Config :=
  style.struct _ "Config" (slots style) (unset environment)

def ofJson (environment : Table String) : Reader Config := read strict environment

def integer (n : Nat) : Json := .number (.integer n)

def webSocketJson (s : WebSocketSection) : Json :=
  .object
    [("websocket_path", .string s.path),
     ("max_interval_ms", .number (.integer s.maxInterval.toInt)),
     ("async_send_timeout_ms", integer s.sendTimeout.toNat),
     ("max_text_message_buffer_size", integer s.maxTextSize.toNat),
     ("max_message_queue_size", integer s.queueSize.toNat)]

def inProcessJson (s : InProcessSection) : Json :=
  .object
    [("max_interval_ms", integer s.maxInterval.toNat),
     ("idle_check_cycle_ms", integer s.idleCheckCycle.toNat),
     ("connect_check_cycle_ms", integer s.connectCheckCycle.toNat)]

def protocolJson (s : ProtocolSection) : Json :=
  .object
    [("version", .string s.version.text),
     ("minimum_version", .string s.minimumVersion.text),
     ("interval_ms", integer s.interval.toNat),
     ("timeout_ms", integer s.timeout.toNat)]

def metricsJson (s : MetricsSection) : Json :=
  .object [("enabled", .bool s.enabled), ("port", integer s.endpoint.toNat)]

def toJson (c : Config) : Json :=
  .object
    [("host", .string c.host),
     ("port", integer c.endpoint.toNat),
     ("transport", webSocketJson c.webSocket),
     ("local", inProcessJson c.inProcess),
     ("bayeux", protocolJson c.protocol),
     ("metrics", metricsJson c.metrics)]

/-- There is always room for one delivery. -/
def queueSize (c : Config) : Nat := max c.webSocket.queueSize.toNat 1

def webSocketSettings (c : Config) : WebSocket.Settings where
  maxInterval := c.webSocket.maxInterval.toInt
  sendTimeout? := if c.webSocket.sendTimeout = 0 then none else some c.webSocket.sendTimeout.toNat
  maxTextSize := c.webSocket.maxTextSize.toNat
  transports := [Bayeux.WebSocket.transport]
  queueSize := c.queueSize

/-- A cycle takes a millisecond at least. -/
def inProcessSettings (c : Config) : InProcess.Settings where
  maxInterval := c.inProcess.maxInterval.toNat
  idleCheckCycle := max c.inProcess.idleCheckCycle.toNat 1
  connectCheckCycle := max c.inProcess.connectCheckCycle.toNat 1
  queueSize := c.queueSize

def processorSettings (c : Config) : Standard.Settings where
  version := c.protocol.version
  minimumVersion := c.protocol.minimumVersion
  interval := c.protocol.interval.toNat
  timeout := c.protocol.timeout.toNat

def hostAndEndpoint (c : Config) : String := c.host ++ ":" ++ toString c.endpoint.toNat

/-- Where to listen; otherwise why that is not known. -/
def bindAddress (c : Config) : Except String Address :=
  match Address.parse? c.hostAndEndpoint with
  | some address => .ok address
  | none => .error ("Invalid bind address " ++ c.hostAndEndpoint)

theorem sendTimeoutPositive {c : Config} {limit : Nat}
    (h : c.webSocketSettings.sendTimeout? = some limit) : 0 < limit := by
  simp only [webSocketSettings] at h
  split at h
  · cases h
  · rename_i nonzero
    cases h
    exact Nat.pos_of_ne_zero fun zero => nonzero (UInt64.toNat_inj.mp zero)

end Config
end Bayeux
