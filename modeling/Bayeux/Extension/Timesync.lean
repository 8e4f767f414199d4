import Bayeux.Extension
import Bayeux.Route
/-! Clock synchronisation. A handshake or connect request may carry the client's time, latency
and offset; the reply to the same id carries the time of receipt, the time taken and the
client's apparent offset. One sample waits per session, the one with the newest client
time. Times are signed 64-bit milliseconds. What a sum does that leaves their range was settled
when the program was built: it wraps, or it stops the program. -/

namespace Bayeux.Timesync

def extensionName : String := "timesync"

structure Sample where
  id : Value
  /-- Client time, latency and offset as the client gave them. -/
  tc : Int
  l : Int
  o : Int
  /-- Time of receipt. -/
  ts : Int

abbrev Samples := Table Sample

def pending (samples : Samples) : Nat := List.length samples

def reading (clock : Nat) : Int := min (clock / Server.millisecond : Nat) Number.int64Max

def isTimed (m : Message) : Bool :=
  m.channel? == some Route.handshakePath || m.channel? == some Route.connectPath

def isId : Value → Bool
  | .string _ | .number _ => true
  | _ => false

/-- Only a text or a number serves to match a reply with its request. -/
def requestId? (m : Message) : Option Value := (m.get? Field.id).filter isId

def sample? (now : Int) (m : Message) : Option Sample := do
  let id ← requestId? m
  let ext ← m.ext?
  let times ← (ext.get? extensionName).bind Value.asObject?
  let tc ← (times.get? "tc").bind Value.asInt64?
  let l ← (times.get? "l").bind Value.asInt64?
  let o ← (times.get? "o").bind Value.asInt64?
  return ⟨id, tc, l, o, now⟩

/-- An older sample stays only if its client time is later. -/
def newer (waiting? : Option Sample) (sample : Sample) : Sample :=
  match waiting? with
  | some waiting => if waiting.tc ≤ sample.tc then sample else waiting
  | none => sample

def record (now : Int) (session : String) (m : Message) (samples : Samples) : Samples :=
  if isTimed m then
    match sample? now m with
    | some sample => samples.put session (newer (samples.get? session) sample)
    | none => samples
  else samples

def wrapped (n : Int) : Int := n.bmod 0x1_0000_0000_0000_0000

def elapsed (now : Int) (s : Sample) : Int := wrapped (now - s.ts)

def apparentOffset (s : Sample) : Int := wrapped (s.tc + s.o + s.l - s.ts)

def stamp (now : Int) (s : Sample) : Value :=
  .object (.plain [("tc", .integer s.tc), ("ts", .integer s.ts), ("p", .integer (elapsed now s)),
    ("a", .integer (apparentOffset s))])

def answered? (session : String) (m : Message) (samples : Samples) : Option Sample :=
  if isTimed m then
    match requestId? m, samples.get? session with
    | some id, some sample => if sample.id.same id then some sample else none
    | _, _ => none
  else none

def answer (now : Int) (session : String) (m : Message) (samples : Samples) : Message × Samples :=
  match answered? session m samples with
  | some sample => (m.putExt extensionName (stamp now sample), samples.remove session)
  | none => (m, samples)

def extension : Extension Samples where
  name := extensionName
  incoming clock session c samples := (true, c, record (reading clock) session c.message samples)
  outgoing clock session m samples := (true, answer (reading clock) session m samples)
  forget session samples := samples.remove session

/-! The same in a program that checks its sums. -/

def fits? (n : Int) : Option Int :=
  if Number.int64Min ≤ n ∧ n ≤ Number.int64Max then some n else none

def elapsed? (now : Int) (s : Sample) : Option Int := fits? (now - s.ts)

/-- Each sum has to fit, not the last one alone. -/
def offset? (s : Sample) : Option Int := do
  let sent ← fits? (s.tc + s.o)
  let arrived ← fits? (sent + s.l)
  fits? (arrived - s.ts)

def overflows (now : Int) (s : Sample) : Bool := (elapsed? now s).isNone || (offset? s).isNone

structure Checked where
  samples : Samples
  /-- The program has come to its end: nothing of what would follow is ever seen. -/
  stopped : Bool

namespace Checked

def start : Checked := ⟨[], false⟩

def withSamples (memory : Checked) (samples : Samples) : Checked := { memory with samples }

end Checked

/-- The sample is gone when the sums are made. -/
def checked : Extension Checked where
  name := extensionName
  incoming clock session c memory :=
    let (accepted, c, samples) := extension.incoming clock session c memory.samples
    (accepted, c, memory.withSamples samples)
  outgoing clock session m memory :=
    let (accepted, reply, samples) := extension.outgoing clock session m memory.samples
    let stops := (answered? session m memory.samples).any (overflows (reading clock))
    (accepted, reply, ⟨samples, memory.stopped || stops⟩)
  forget session memory := memory.withSamples (extension.forget session memory.samples)

/-- No message passes a program that has stopped. -/
def halting : Extension Checked where
  name := extensionName
  incoming clock session c memory :=
    if memory.stopped then (false, c, memory) else checked.incoming clock session c memory
  outgoing clock session m memory :=
    let (accepted, reply, memory) := checked.outgoing clock session m memory
    (accepted && !memory.stopped, reply, memory)
  forget := checked.forget

theorem recordOther {now : Int} {session other : String} {m : Message} {samples : Samples}
    (h : other ≠ session) : (record now session m samples).get? other = samples.get? other := by
  unfold record
  split
  · split
    · exact Table.getPutOther _ _ h
    · rfl
  · rfl

theorem answerOther {now : Int} {session other : String} {m : Message} {samples : Samples}
    (h : other ≠ session) : (answer now session m samples).2.get? other = samples.get? other := by
  unfold answer
  split
  · exact Table.getRemoveOther _ h
  · rfl

end Bayeux.Timesync
