import Bayeux.Proofs.Config.Settings
import Bayeux.Proofs.Json.Sameness
import Bayeux.Proofs.Value.Layers
/-! Configurations with settings taken away. What is missing stands as it does where nothing is
set at all, whether it is missing alone or with its whole section, and what is not known may
come and go. -/

namespace Bayeux

namespace Json
variable {gone : String → Bool} {inner : String → Json → Json}

def thinned (gone : String → Bool) (inner : String → Json → Json) (fields : Table Json) :
    Table Json :=
  (fields.filter fun entry => !gone entry.1).map fun entry => (entry.1, inner entry.1 entry.2)

/-- An object without some of its fields, each of the others changed. -/
def thin (gone : String → Bool) (inner : String → Json → Json) : Json → Json
  | .object fields => .object (thinned gone inner fields)
  | j => j

theorem thinnedCons (name : String) (j : Json) (rest : Table Json) :
    thinned gone inner ((name, j) :: rest) =
      if gone name then thinned gone inner rest
      else (name, inner name j) :: thinned gone inner rest := by
  cases lost : gone name <;> simp [thinned, lost]

theorem getThinned (fields : Table Json) (name : String) :
    (thinned gone inner fields).get? name =
      if gone name then none else (fields.get? name).map (inner name) := by
  induction fields with
  | nil => simp [thinned, Table.get?]
  | cons entry rest ih =>
    obtain ⟨k, j⟩ := entry
    rw [thinnedCons]
    by_cases own : k = name
    · subst own
      cases lost : gone k <;> simp [Table.get?, ih, lost]
    · cases gone k <;> simp [Table.get?, own, ih]

theorem distinctThinned {fields : Table Json} (distinct : fields.Distinct) :
    (thinned gone inner fields).Distinct := by
  have keys : (thinned gone inner fields).keys =
      (fields.filter fun entry => !gone entry.1).map Prod.fst := by
    simp [thinned, Table.keys, Function.comp_def]
  rw [Table.Distinct, keys]
  exact distinct.sublist (List.filter_sublist.map Prod.fst)

theorem thinNothing (j : Json) : thin (fun _ => false) (fun _ j => j) j = j := by
  cases j <;> simp [thin, thinned]

end Json

namespace Decode
open Json (thin thinned)
variable {σ α : Type} {absent s after : σ} {leaves : List (Leaf σ)} {gone : String → Bool}
  {inner : String → Json → Json}

/-! Fields that no slot is for. -/

theorem fromFieldsUnknown {slots : List (JsonSlot σ)} (kept : ∀ slot ∈ slots,
      gone slot.name = false ∧ ∀ j s, slot.store (inner slot.name j) s = slot.store j s)
    (fields : Table Json) (s : σ) :
    fromFields slots (thinned gone inner fields) s = fromFields slots fields s := by
  induction fields generalizing s with
  | nil => rfl
  | cons entry rest ih =>
    obtain ⟨name, j⟩ := entry
    rw [Json.thinnedCons]
    cases found : Slot.find? slots name with
    | none => cases gone name <;> simp [fromFields, found, ih]
    | some slot =>
      have named : slot.name = name := by simpa using List.find?_some found
      obtain ⟨stays, same⟩ := kept slot (List.mem_of_find?_eq_some found)
      rw [named] at stays same
      simp [fromFields, found, stays, same, ih]

theorem structUnknown (name : String) (kept : ∀ leaf ∈ leaves,
      gone leaf.name = false ∧ ∀ j, leaf.reader (inner leaf.name j) = leaf.reader j) (j : Json) :
    struct name (leaves.map Leaf.slot) absent (thin gone inner j) =
      struct name (leaves.map Leaf.slot) absent j := by
  cases j with
  | object fields =>
    refine fromFieldsUnknown (fun slot inside => ?_) fields absent
    obtain ⟨leaf, member, rfl⟩ := List.mem_map.mp inside
    obtain ⟨stays, same⟩ := kept leaf member
    exact ⟨stays, fun j s => congrArg (Except.map fun a => leaf.set a s) (same j)⟩
  | null | bool | number | string | array => rfl

/-! Fields that some leaf is read from. -/

theorem Covers.structThinned (covers : Covers leaves) (name : String) {fields : Table Json}
    (distinct : fields.Distinct)
    (read : struct name (leaves.map Leaf.slot) absent (.object fields) = .ok s)
    (each : ∀ leaf ∈ leaves,
      Reads leaf.reader (leaf.get absent) (fields.get? leaf.name) (leaf.get s) →
      Reads leaf.reader (leaf.get absent)
        (if gone leaf.name then none else (fields.get? leaf.name).map (inner leaf.name))
        (leaf.get after)) :
    struct name (leaves.map Leaf.slot) absent (.object (thinned gone inner fields)) =
      .ok after := by
  refine (covers.structIff name (Json.distinctThinned distinct)).mpr fun leaf inside => ?_
  rw [Json.getThinned]
  exact each leaf inside ((covers.structIff name distinct).mp read leaf inside)

theorem readsThinned {reader : Reader α} {absent a b : α} {found : Option Json}
    {inner : Json → Json} (gone : Bool) (away : gone = true ∨ found = none → b = absent)
    (changed : gone = false → ∀ j, found = some j → reader j = .ok a → reader (inner j) = .ok b)
    (reads : Reads reader absent found a) :
    Reads reader absent (if gone then none else found.map inner) b := by
  cases gone with
  | true => exact away (.inl rfl)
  | false =>
    cases found with
    | none => exact away (.inr rfl)
    | some j => exact changed rfl j rfl reads

theorem leafReads {reader : Reader α} (plain : ∀ fields a, reader (.object fields) ≠ .ok a)
    {absent a : α} {found : Option Json} (gone : Bool) (within : String → Bool)
    (reads : Reads reader absent found a) :
    Reads reader absent (if gone then none else found.map (thin within fun _ j => j))
      (if gone then absent else a) := by
  refine readsThinned gone ?_ ?_ reads
  · rintro (rfl | rfl)
    · rfl
    · rw [show a = absent from reads, ite_self]
  · rintro rfl j _ read
    cases j with
    | object fields => exact absurd read (plain fields a)
    | null | bool | number | string | array => exact read

/-- The leaves that are gone are those of `d`, the others those of `s`. -/
def Resets (leaves : List (Leaf σ)) (gone : String → Bool) (d s after : σ) : Prop :=
  ∀ leaf ∈ leaves, leaf.get after = if gone leaf.name then leaf.get d else leaf.get s

theorem Covers.sectionThinned (covers : Covers leaves) (name : String)
    (resets : Resets leaves gone absent s after) {j : Json} (distinct : j.Distinct)
    (object : ∃ fields, j = .object fields)
    (read : struct name (leaves.map Leaf.slot) absent j = .ok s) :
    struct name (leaves.map Leaf.slot) absent (thin gone (fun _ j => j) j) = .ok after := by
  obtain ⟨fields, rfl⟩ := object
  refine covers.structThinned name distinct.1 read fun leaf inside reads => ?_
  rw [resets leaf inside]
  refine readsThinned _ ?_ ?_ reads
  · rintro (lost | missing)
    · exact if_pos lost
    · rw [missing] at reads
      rw [show leaf.get s = leaf.get absent from reads, ite_self]
  · intro stays j found read
    rw [stays]
    exact read

/-- A section within a structure, which may be gone as a whole. -/
theorem Covers.sectionReads (covers : Covers leaves) (name : String)
    (reset : (String → Bool) → σ → σ → σ)
    (resets : ∀ gone s, Resets leaves gone absent s (reset gone absent s)) (gone : Bool)
    (within : String → Bool) {found : Option Json}
    (object : ∀ j, found = some j → j.Distinct ∧ ∃ fields, j = .object fields)
    (reads : Reads (struct name (leaves.map Leaf.slot) absent) absent found s) :
    Reads (struct name (leaves.map Leaf.slot) absent) absent
      (if gone then none else found.map (thin within fun _ j => j))
      (reset (fun leaf => gone || within leaf) absent s) := by
  refine readsThinned gone ?_ ?_ reads
  · rintro (rfl | rfl)
    · exact covers.whole _ _ fun leaf inside => resets _ s leaf inside
    · rw [show s = absent from reads]
      exact covers.whole _ _ fun leaf inside => (resets _ absent leaf inside).trans (ite_self _)
  · rintro rfl j found read
    obtain ⟨distinct, object⟩ := object j found
    exact covers.sectionThinned name (resets within s) distinct object read

end Decode

namespace Config
open Decode
open Json (thin)

inductive Key where
  | top (name : String)
  | within (group name : String)

/-- The tree without some keys at either level. -/
def dropKeys (gone : Key → Bool) : Json → Json :=
  thin (fun name => gone (.top name)) fun group =>
    thin (fun name => gone (.within group name)) fun _ j => j

def knownWithin : Table (List String) :=
  [("transport", ["websocket_path", "max_interval_ms", "async_send_timeout_ms",
    "max_text_message_buffer_size", "max_message_queue_size"]),
   ("local", ["max_interval_ms", "idle_check_cycle_ms", "connect_check_cycle_ms"]),
   ("bayeux", ["version", "minimum_version", "interval_ms", "timeout_ms"]),
   ("metrics", ["enabled", "port"])]

def unknownTop (name : String) : Bool := decide (name ∉ ["host", "port"] ++ knownWithin.keys)

/-- No setting and no section is known by that name, or the section around it is not known. -/
def Key.unknown : Key → Bool
  | .top name => unknownTop name
  | .within group name =>
    match knownWithin.get? group with
    | some known => decide (name ∉ known)
    | none => unknownTop group

def resetWebSocket (gone : String → Bool) (d s : WebSocketSection) : WebSocketSection where
  path := if gone "websocket_path" then d.path else s.path
  maxInterval := if gone "max_interval_ms" then d.maxInterval else s.maxInterval
  sendTimeout := if gone "async_send_timeout_ms" then d.sendTimeout else s.sendTimeout
  maxTextSize := if gone "max_text_message_buffer_size" then d.maxTextSize else s.maxTextSize
  queueSize := if gone "max_message_queue_size" then d.queueSize else s.queueSize

def resetInProcess (gone : String → Bool) (d s : InProcessSection) : InProcessSection where
  maxInterval := if gone "max_interval_ms" then d.maxInterval else s.maxInterval
  idleCheckCycle := if gone "idle_check_cycle_ms" then d.idleCheckCycle else s.idleCheckCycle
  connectCheckCycle :=
    if gone "connect_check_cycle_ms" then d.connectCheckCycle else s.connectCheckCycle

def resetProtocol (gone : String → Bool) (d s : ProtocolSection) : ProtocolSection where
  version := if gone "version" then d.version else s.version
  minimumVersion := if gone "minimum_version" then d.minimumVersion else s.minimumVersion
  interval := if gone "interval_ms" then d.interval else s.interval
  timeout := if gone "timeout_ms" then d.timeout else s.timeout

def resetMetrics (gone : String → Bool) (d s : MetricsSection) : MetricsSection where
  enabled := if gone "enabled" then d.enabled else s.enabled
  endpoint := if gone "port" then d.endpoint else s.endpoint

/-- A key goes with its section. -/
def lost (gone : Key → Bool) (group name : String) : Bool :=
  gone (.top group) || gone (.within group name)

/-- The settings whose keys are gone as they are in `d`. -/
def reset (c : Config) (gone : Key → Bool) (d : Config) : Config where
  host := if gone (.top "host") then d.host else c.host
  endpoint := if gone (.top "port") then d.endpoint else c.endpoint
  webSocket := resetWebSocket (lost gone "transport") d.webSocket c.webSocket
  inProcess := resetInProcess (lost gone "local") d.inProcess c.inProcess
  protocol := resetProtocol (lost gone "bayeux") d.protocol c.protocol
  metrics := resetMetrics (lost gone "metrics") d.metrics c.metrics

theorem webSocketResets (gone : String → Bool) (d s : WebSocketSection) :
    Resets webSocketLeaves gone d s (resetWebSocket gone d s) := by
  simp [Resets, webSocketLeaves, resetWebSocket]

theorem inProcessResets (gone : String → Bool) (d s : InProcessSection) :
    Resets inProcessLeaves gone d s (resetInProcess gone d s) := by
  simp [Resets, inProcessLeaves, resetInProcess]

theorem protocolResets (gone : String → Bool) (d s : ProtocolSection) :
    Resets protocolLeaves gone d s (resetProtocol gone d s) := by
  simp [Resets, protocolLeaves, resetProtocol]

theorem metricsResets (gone : String → Bool) (d s : MetricsSection) :
    Resets metricsLeaves gone d s (resetMetrics gone d s) := by
  simp [Resets, metricsLeaves, resetMetrics]

/- What stands for a missing section is what stands for each of its settings. -/
theorem defaultUnset (environment : Table String) : default environment =
    ⟨defaultHost environment, defaultEndpoint environment, .unset, .unset, .unset, .unset⟩ := rfl

theorem unsetDefault (environment : Table String) : unset environment = default environment := rfl

theorem resetRead (environment : Table String) {fields : Table Json} {c : Config}
    (distinct : Json.Distinct (.object fields))
    (sections : ∀ group ∈ knownWithin.keys, ∀ j, fields.get? group = some j →
      ∃ inner, j = .object inner)
    (read : ofJson environment (.object fields) = .ok c) (gone : Key → Bool) :
    ofJson environment (dropKeys gone (.object fields)) =
      .ok (c.reset gone (default environment)) := by
  have object : ∀ group ∈ knownWithin.keys, ∀ j, fields.get? group = some j →
      j.Distinct ∧ ∃ inner, j = .object inner := fun group known j found =>
    ⟨(Json.distinctFieldsIff fields).mp distinct.2 _ (Table.memOfGet found),
      sections group known j found⟩
  rw [readLeaves, unsetDefault, defaultUnset] at read ⊢
  refine configCovers.structThinned "Config" distinct.1 read ?_
  simp only [leaves, List.forall_mem_cons, List.not_mem_nil, IsEmpty.forall_iff, implies_true,
    and_true]
  refine ⟨?host, ?endpoint, ?webSocket, ?inProcess, ?protocol, ?metrics⟩
  case host => exact leafReads (by simp [text]) _ _
  case endpoint => exact leafReads (by simp [Decode.word16, Decode.integer, Except.map]) _ _
  case webSocket =>
    exact webSocketCovers.sectionReads _ resetWebSocket (webSocketResets · _ ·) _ _
      (object "transport" (by decide))
  case inProcess =>
    exact inProcessCovers.sectionReads _ resetInProcess (inProcessResets · _ ·) _ _
      (object "local" (by decide))
  case protocol =>
    exact protocolCovers.sectionReads _ resetProtocol (protocolResets · _ ·) _ _
      (object "bayeux" (by decide))
  case metrics =>
    exact metricsCovers.sectionReads _ resetMetrics (metricsResets · _ ·) _ _
      (object "metrics" (by decide))

/-- The keys that are gone are none that a setting or a section is known by. -/
def Spares (gone : Key → Bool) : Prop := ∀ key, gone key = true → key.unknown = true

section
variable {gone : Key → Bool}

theorem knownKept (spares : Spares gone) {key : Key} (known : key.unknown = false) :
    gone key = false :=
  Bool.eq_false_iff.mpr fun lost => Bool.false_ne_true (known.symm.trans (spares key lost))

theorem leafSpared (spares : Spares gone) {group : String}
    (known : ∀ name, Key.unknown (.within group name) = false) (j : Json) :
    thin (fun name => gone (.within group name)) (fun _ j => j) j = j := by
  have nothing : (fun name => gone (.within group name)) = fun _ => false :=
    funext fun name => knownKept spares (known name)
  rw [nothing, Json.thinNothing]

theorem sectionSpared {σ : Type} {leaves : List (Leaf σ)} {absent : σ} (spares : Spares gone)
    {group : String} (known : ∀ leaf ∈ leaves, Key.unknown (.within group leaf.name) = false)
    (name : String) (j : Json) :
    struct name (leaves.map Leaf.slot) absent
        (thin (fun name => gone (.within group name)) (fun _ j => j) j) =
      struct name (leaves.map Leaf.slot) absent j :=
  structUnknown name (fun leaf inside => ⟨knownKept spares (known leaf inside), fun _ => rfl⟩) j

theorem unknownRead (environment : Table String) (spares : Spares gone) (j : Json) :
    ofJson environment (dropKeys gone j) = ofJson environment j := by
  rw [readLeaves]
  refine structUnknown "Config" (fun leaf inside => ⟨?kept, ?same⟩) j
  case kept =>
    have known : ∀ leaf ∈ leaves, Key.unknown (.top leaf.name) = false := by decide
    exact knownKept spares (known leaf inside)
  case same =>
    revert leaf
    simp only [leaves, List.forall_mem_cons, List.not_mem_nil, IsEmpty.forall_iff, implies_true,
      and_true]
    refine ⟨?host, ?endpoint, ?webSocket, ?inProcess, ?protocol, ?metrics⟩
    case host => exact fun j => congrArg text (leafSpared spares (fun _ => rfl) j)
    case endpoint => exact fun j => congrArg Decode.word16 (leafSpared spares (fun _ => rfl) j)
    case webSocket => exact sectionSpared spares (by decide) _
    case inProcess => exact sectionSpared spares (by decide) _
    case protocol => exact sectionSpared spares (by decide) _
    case metrics => exact sectionSpared spares (by decide) _

end

/-- Queues have room, cycles take time, and a write that is cut short has had some. -/
structure Positive (c : Config) : Prop where
  webSocketQueue : 1 ≤ c.webSocketSettings.queueSize
  inProcessQueue : 1 ≤ c.inProcessSettings.queueSize
  idleCheck : 1 ≤ c.inProcessSettings.idleCheckCycle
  connectCheck : 1 ≤ c.inProcessSettings.connectCheckCycle
  sendTimeout : ∀ limit, c.webSocketSettings.sendTimeout? = some limit → 0 < limit

theorem alwaysPositive (c : Config) : c.Positive where
  webSocketQueue := Nat.le_max_right _ _
  inProcessQueue := Nat.le_max_right _ _
  idleCheck := Nat.le_max_right _ _
  connectCheck := Nat.le_max_right _ _
  sendTimeout _ some_ := sendTimeoutPositive some_

theorem defaultsAgree (environment : Table String) :
    (∀ c, ofJson environment c.toJson = .ok c) ∧
    (∀ (fields : Table Json) c, Json.Distinct (.object fields) →
      (∀ group ∈ knownWithin.keys, ∀ j, fields.get? group = some j → ∃ inner, j = .object inner) →
      ofJson environment (.object fields) = .ok c → ∀ gone,
        ofJson environment (dropKeys gone (.object fields)) =
          .ok (c.reset gone (default environment))) ∧
    (∀ gone, Spares gone → ∀ j, ofJson environment (dropKeys gone j) = ofJson environment j) ∧
    ∀ c : Config, c.Positive :=
  ⟨readWritten environment,
    fun _ _ distinct sections read gone => resetRead environment distinct sections read gone,
    fun _ spares j => unknownRead environment spares j, alwaysPositive⟩

/- One setting missing in its section, one section missing, and two keys that are not known. -/
theorem defaultsAgreePartly :
    let transport : Table Json := [("websocket_path", .string "/ws"),
      ("max_message_queue_size", integer 0), ("color", .null)]
    let fields : Table Json := [("port", integer 9000), ("transport", .object transport),
      ("extra", .array []), ("bayeux", .object [("timeout_ms", integer 5)])]
    let c : Config := { default [] with
      endpoint := 9000
      webSocket := { path := "/ws", queueSize := 0 }
      protocol := { timeout := 5 } }
    let gone : Key → Bool
      | .top name => name == "bayeux"
      | .within group name => group == "transport" && name == "websocket_path"
    ofJson [] (.object fields) = .ok c ∧
      ofJson [] (dropKeys gone (.object fields)) =
        .ok { default [] with endpoint := 9000, webSocket := { queueSize := 0 } } ∧
      ofJson [] (dropKeys Key.unknown (.object fields)) = .ok c ∧
      c.queueSize = 1 := by
  intro transport fields c gone
  obtain ⟨-, taken, unknown, -⟩ := defaultsAgree []
  have distinct : Json.Distinct (.object fields) :=
    ⟨by decide, trivial, ⟨by decide, trivial, trivial, trivial, trivial⟩, trivial,
      ⟨by decide, trivial, trivial⟩, trivial⟩
  have sections : ∀ group ∈ knownWithin.keys, ∀ j, Table.get? fields group = some j →
      ∃ inner, j = .object inner := by
    simp [knownWithin, Table.keys, fields, Table.get?]
  have read : ofJson [] (.object fields) = .ok c := rfl
  exact ⟨read, taken fields c distinct sections read gone,
    (unknown _ (fun _ lost => lost) _).trans read, rfl⟩

end Config
end Bayeux
