import Bayeux.Config
import Bayeux.Proofs.Request.Leaves
import Bayeux.Proofs.Version.Grammar
/-! The settings of a configuration as leaves, section by section, and what is written of them read
back. -/

namespace Bayeux

namespace Decode

theorem natInteger {n : Nat} {type : IntegerType} (low : type.low = 0) (high : n ≤ type.high) :
    Decode.integer type (Config.integer n) = .ok n := by
  have inside : type.low ≤ (n : Int) ∧ (n : Int) ≤ type.high := ⟨by omega, high⟩
  simp only [Decode.integer, Config.integer, if_pos inside]

theorem word16Written (n : UInt16) : word16 (Config.integer n.toNat) = .ok n := by
  have high : (n.toNat : Int) ≤ IntegerType.u16.high :=
    Int.ofNat_le.mpr (Nat.le_of_lt_succ n.toNat_lt)
  rw [word16, natInteger rfl high]
  exact congrArg Except.ok UInt16.ofNat_toNat

theorem wordHigh (n : UInt64) : (n.toNat : Int) ≤ Number.uint64Max :=
  Int.ofNat_le.mpr (Nat.le_of_lt_succ n.toNat_lt)

theorem word64Written (n : UInt64) : word64 (Config.integer n.toNat) = .ok n := by
  rw [word64, natInteger rfl (wordHigh n)]
  exact congrArg Except.ok UInt64.ofNat_toNat

theorem wordSizeWritten (n : UInt64) : wordSize (Config.integer n.toNat) = .ok n := by
  rw [wordSize, natInteger rfl (wordHigh n)]
  exact congrArg Except.ok UInt64.ofNat_toNat

theorem int64Written (n : Int64) : int64 (.number (.integer n.toInt)) = .ok n := by
  have inside : IntegerType.i64.low ≤ n.toInt ∧ n.toInt ≤ IntegerType.i64.high :=
    ⟨n.le_toInt, Int.le_of_lt_add_one n.toInt_lt⟩
  simp only [int64, Decode.integer, if_pos inside]
  exact congrArg Except.ok n.ofInt_toInt

theorem versionWritten (v : Version) : version (.string v.text) = .ok v := by
  simp only [version, text, Version.parseText]
  rfl

end Decode

namespace Config
open Decode

def webSocketLeaves : List (Leaf WebSocketSection) :=
  [⟨"websocket_path", text, WebSocketSection.path, fun v s => { s with path := v }⟩,
   ⟨"max_interval_ms", int64, WebSocketSection.maxInterval,
    fun v s => { s with maxInterval := v }⟩,
   ⟨"async_send_timeout_ms", word64, WebSocketSection.sendTimeout,
    fun v s => { s with sendTimeout := v }⟩,
   ⟨"max_text_message_buffer_size", wordSize, WebSocketSection.maxTextSize,
    fun v s => { s with maxTextSize := v }⟩,
   ⟨"max_message_queue_size", wordSize, WebSocketSection.queueSize,
    fun v s => { s with queueSize := v }⟩]

def inProcessLeaves : List (Leaf InProcessSection) :=
  [⟨"max_interval_ms", word64, InProcessSection.maxInterval,
    fun v s => { s with maxInterval := v }⟩,
   ⟨"idle_check_cycle_ms", word64, InProcessSection.idleCheckCycle,
    fun v s => { s with idleCheckCycle := v }⟩,
   ⟨"connect_check_cycle_ms", word64, InProcessSection.connectCheckCycle,
    fun v s => { s with connectCheckCycle := v }⟩]

def protocolLeaves : List (Leaf ProtocolSection) :=
  [⟨"version", version, ProtocolSection.version, fun v s => { s with version := v }⟩,
   ⟨"minimum_version", version, ProtocolSection.minimumVersion,
    fun v s => { s with minimumVersion := v }⟩,
   ⟨"interval_ms", word64, ProtocolSection.interval, fun v s => { s with interval := v }⟩,
   ⟨"timeout_ms", word64, ProtocolSection.timeout, fun v s => { s with timeout := v }⟩]

def metricsLeaves : List (Leaf MetricsSection) :=
  [⟨"enabled", boolean, MetricsSection.enabled, fun v s => { s with enabled := v }⟩,
   ⟨"port", Decode.word16, MetricsSection.endpoint, fun v s => { s with endpoint := v }⟩]

def readWebSocket : Reader WebSocketSection :=
  struct "TransportConfig" (webSocketLeaves.map Leaf.slot) .unset

def readInProcess : Reader InProcessSection :=
  struct "LocalTransportConfig" (inProcessLeaves.map Leaf.slot) .unset

def readProtocol : Reader ProtocolSection :=
  struct "BayeuxConfig" (protocolLeaves.map Leaf.slot) .unset

def readMetrics : Reader MetricsSection :=
  struct "MetricsConfig" (metricsLeaves.map Leaf.slot) .unset

def leaves : List (Leaf Config) :=
  [⟨"host", text, Config.host, fun v c => { c with host := v }⟩,
   ⟨"port", Decode.word16, Config.endpoint, fun v c => { c with endpoint := v }⟩,
   ⟨"transport", readWebSocket, Config.webSocket, fun v c => { c with webSocket := v }⟩,
   ⟨"local", readInProcess, Config.inProcess, fun v c => { c with inProcess := v }⟩,
   ⟨"bayeux", readProtocol, Config.protocol, fun v c => { c with protocol := v }⟩,
   ⟨"metrics", readMetrics, Config.metrics, fun v c => { c with metrics := v }⟩]

theorem readLeaves (environment : Table String) :
    ofJson environment = struct "Config" (leaves.map Leaf.slot) (unset environment) := rfl

theorem leavesLawful : (∀ leaf ∈ webSocketLeaves, leaf.Lawful) ∧
    (∀ leaf ∈ inProcessLeaves, leaf.Lawful) ∧ (∀ leaf ∈ protocolLeaves, leaf.Lawful) ∧
    (∀ leaf ∈ metricsLeaves, leaf.Lawful) ∧ ∀ leaf ∈ leaves, leaf.Lawful := by
  simp only [webSocketLeaves, inProcessLeaves, protocolLeaves, metricsLeaves, leaves,
    List.forall_mem_cons, List.not_mem_nil, IsEmpty.forall_iff, implies_true, and_true]
  and_intros
  all_goals exact ⟨fun _ _ => rfl, fun _ => rfl⟩

theorem leavesBeside : webSocketLeaves.Pairwise Leaf.Beside ∧
    inProcessLeaves.Pairwise Leaf.Beside ∧ protocolLeaves.Pairwise Leaf.Beside ∧
    metricsLeaves.Pairwise Leaf.Beside ∧ leaves.Pairwise Leaf.Beside := by
  simp only [webSocketLeaves, inProcessLeaves, protocolLeaves, metricsLeaves, leaves,
    List.pairwise_cons, List.forall_mem_cons, List.not_mem_nil, IsEmpty.forall_iff, implies_true,
    List.Pairwise.nil, and_true]
  and_intros
  all_goals exact ⟨by decide, fun _ _ _ => rfl⟩

theorem webSocketCovers : Covers webSocketLeaves where
  lawful := leavesLawful.1
  beside := leavesBeside.1
  whole := by
    rintro ⟨⟩ ⟨⟩ same
    simpa [webSocketLeaves] using same

theorem inProcessCovers : Covers inProcessLeaves where
  lawful := leavesLawful.2.1
  beside := leavesBeside.2.1
  whole := by
    rintro ⟨⟩ ⟨⟩ same
    simpa [inProcessLeaves] using same

theorem protocolCovers : Covers protocolLeaves where
  lawful := leavesLawful.2.2.1
  beside := leavesBeside.2.2.1
  whole := by
    rintro ⟨⟩ ⟨⟩ same
    simpa [protocolLeaves] using same

theorem metricsCovers : Covers metricsLeaves where
  lawful := leavesLawful.2.2.2.1
  beside := leavesBeside.2.2.2.1
  whole := by
    rintro ⟨⟩ ⟨⟩ same
    simpa [metricsLeaves] using same

theorem configCovers : Covers leaves where
  lawful := leavesLawful.2.2.2.2
  beside := leavesBeside.2.2.2.2
  whole := by
    rintro ⟨⟩ ⟨⟩ same
    simpa [leaves] using same

theorem webSocketWritten (s : WebSocketSection) : readWebSocket (webSocketJson s) = .ok s := by
  refine webSocketCovers.written "TransportConfig" ?_
  simp [webSocketLeaves, Leaf.Carries, text, int64Written, word64Written, wordSizeWritten]

theorem inProcessWritten (s : InProcessSection) : readInProcess (inProcessJson s) = .ok s := by
  refine inProcessCovers.written "LocalTransportConfig" ?_
  simp [inProcessLeaves, Leaf.Carries, word64Written]

theorem protocolWritten (s : ProtocolSection) : readProtocol (protocolJson s) = .ok s := by
  refine protocolCovers.written "BayeuxConfig" ?_
  simp [protocolLeaves, Leaf.Carries, versionWritten, word64Written]

theorem metricsWritten (s : MetricsSection) : readMetrics (metricsJson s) = .ok s := by
  refine metricsCovers.written "MetricsConfig" ?_
  simp [metricsLeaves, Leaf.Carries, boolean, word16Written]

theorem readWritten (environment : Table String) (c : Config) :
    ofJson environment c.toJson = .ok c := by
  rw [readLeaves]
  refine configCovers.written "Config" ?_
  simp [leaves, Leaf.Carries, text, word16Written, webSocketWritten, inProcessWritten,
    protocolWritten, metricsWritten]

end Config
end Bayeux
