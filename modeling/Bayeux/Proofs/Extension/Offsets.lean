import Bayeux.Proofs.Extension.Bookkeeping
/-! The times a reply tells. The time taken is always exact. The apparent offset is a sum of what
the client sent, which may be any three numbers of the 64-bit range. A program that checks its
sums tells it exactly or stops, the latter as soon as one of them leaves the range. One that does
not check them tells it as it has wrapped around the range. -/

namespace Bayeux

namespace Number

def FitsInt64 (n : Int) : Prop := int64Min ≤ n ∧ n ≤ int64Max

instance (n : Int) : Decidable (FitsInt64 n) := inferInstanceAs (Decidable (_ ∧ _))

end Number

open Number (FitsInt64)

theorem Value.fitsInt64 {v : Value} {n : Int} (read : v.asInt64? = some n) : FitsInt64 n := by
  cases v with
  | number m =>
    cases m with
    | integer i =>
      simp only [asInt64?, Number.asInt64] at read
      split at read
      · rename_i fits
        cases read
        exact fits
      · cases read
    | real d => cases read
  | null | bool | string | array | object => cases read

namespace Timesync

def Tells (reply : Message) (p a : Int) : Prop :=
  ∃ times, reply.ext?.bind (·.get? extensionName) = some (.object times) ∧
    times.get? "p" = some (.integer p) ∧ times.get? "a" = some (.integer a)

/-- The offset that the times of the sample amount to. -/
def exactOffset (s : Sample) : Int := s.tc + s.o + s.l - s.ts

/-- Every sum on the way to it is a 64-bit number, the first one and the last one too. -/
structure SumsFit (s : Sample) : Prop where
  sent : FitsInt64 (s.tc + s.o)
  arrived : FitsInt64 (s.tc + s.o + s.l)
  offset : FitsInt64 (exactOffset s)

/-- The offset as four additions and subtractions of 64-bit words give it. -/
structure Wraps (s : Sample) (a : Int) : Prop where
  steps : a = wrapped (wrapped (wrapped (s.tc + s.o) + s.l) - s.ts)
  fits : FitsInt64 a
  congruent : a % 0x1_0000_0000_0000_0000 = exactOffset s % 0x1_0000_0000_0000_0000
  exact : a = exactOffset s ↔ FitsInt64 (exactOffset s)

/-- What comes of the reply that a sample is owed to, with sums that are checked and without. -/
structure Reckons (clock : Nat) (session : String) (m : Message) (sample : Sample)
    (memory : Checked) : Prop where
  elapsed : FitsInt64 (reading clock - sample.ts)
  stops : (checked.outgoing clock session m memory).2.2.stopped = true ↔ ¬SumsFit sample
  exact : SumsFit sample → Tells (checked.outgoing clock session m memory).2.1
    (reading clock - sample.ts) (exactOffset sample)
  unchecked : ∃ a, Wraps sample a ∧
    Tells (extension.outgoing clock session m memory.samples).2.1 (reading clock - sample.ts) a

/-- What a call leaves behind in an extension. -/
def Call.on {σ : Type} (e : Extension σ) (memory : σ) : Call → σ
  | .incoming clock session c => (e.incoming clock session c memory).2.2
  | .outgoing clock session m => (e.outgoing clock session m memory).2.2
  | .forget session => e.forget session memory

def performChecked (calls : List Call) : Checked := calls.foldl (Call.on checked) .start

variable {n k : Int} {clock : Nat} {session : String} {m : Message} {id : Value} {tc l o : Int}
  {sample : Sample} {memory : Checked} {calls : List Call}

theorem wrappedFits (n : Int) : FitsInt64 (wrapped n) := by
  have low := @Int.le_bmod n 0x1_0000_0000_0000_0000 (by decide)
  have high := @Int.bmod_lt n 0x1_0000_0000_0000_0000 (by decide)
  simp only [FitsInt64, Number.int64Min, Number.int64Max, wrapped]
  omega

theorem wrappedIff : wrapped n = n ↔ FitsInt64 n := by
  constructor
  · intro same
    rw [← same]
    exact wrappedFits n
  · rintro ⟨low, high⟩
    simp only [Number.int64Min, Number.int64Max] at low high
    exact Int.bmod_eq_of_le (by omega) (by omega)

/- Wrapping after each operation or once at the end is the same. -/
theorem offsetWraps (s : Sample) : Wraps s (apparentOffset s) where
  steps := by
    simp only [wrapped, apparentOffset, Int.bmod_sub_bmod, Int.bmod_add_bmod]
  fits := wrappedFits _
  congruent := Int.bmod_emod
  exact := wrappedIff

theorem fitsIff : fits? n = some k ↔ FitsInt64 n ∧ n = k := by
  simp [fits?, FitsInt64]

theorem offsetIff : offset? sample = some k ↔ SumsFit sample ∧ exactOffset sample = k := by
  simp only [offset?, Option.bind_eq_bind, Option.bind_eq_some_iff, fitsIff]
  constructor
  · rintro ⟨_, ⟨sent, rfl⟩, _, ⟨arrived, rfl⟩, offset, same⟩
    exact ⟨⟨sent, arrived, offset⟩, same⟩
  · rintro ⟨⟨sent, arrived, offset⟩, same⟩
    exact ⟨_, ⟨sent, rfl⟩, _, ⟨arrived, rfl⟩, offset, same⟩

theorem readingFits (clock : Nat) : 0 ≤ reading clock ∧ reading clock ≤ Number.int64Max := by
  have past : 0 ≤ ((clock / Server.millisecond : Nat) : Int) := Int.natCast_nonneg _
  simp only [reading, Number.int64Max]
  omega

theorem elapsedFits (clock : Nat) (received : 0 ≤ sample.ts ∧ sample.ts ≤ Number.int64Max) :
    FitsInt64 (reading clock - sample.ts) := by
  have now := readingFits clock
  simp only [FitsInt64, Number.int64Min, Number.int64Max] at *
  omega

theorem overflowsIff (elapsed : FitsInt64 (reading clock - sample.ts)) :
    overflows (reading clock) sample = true ↔ ¬SumsFit sample := by
  have passed : elapsed? (reading clock) sample = some (reading clock - sample.ts) :=
    fitsIff.mpr ⟨elapsed, rfl⟩
  simp only [overflows, passed, Option.isNone_some, Bool.false_or]
  cases sum : offset? sample with
  | none => exact iff_of_true rfl fun fits => nomatch sum.symm.trans (offsetIff.mpr ⟨fits, rfl⟩)
  | some a => exact iff_of_false nofun (not_not.mpr (offsetIff.mp sum).1)

theorem asksFits (asks : Asks m id tc l o) : FitsInt64 tc ∧ FitsInt64 l ∧ FitsInt64 o := by
  obtain ⟨ext, times, -, -, early, between, late⟩ := asks.times
  obtain ⟨early', -, early⟩ := Option.bind_eq_some_iff.mp early
  obtain ⟨between', -, between⟩ := Option.bind_eq_some_iff.mp between
  obtain ⟨late', -, late⟩ := Option.bind_eq_some_iff.mp late
  exact ⟨Value.fitsInt64 early, Value.fitsInt64 between, Value.fitsInt64 late⟩

/- What waits has come in with one of the calls. -/
theorem waitingBrought (waits : (performAll calls).get? session = some sample) :
    ∃ call ∈ calls, call.Brings session sample := by
  obtain ⟨recent, since, newest⟩ := newestSince session calls
  rw [waits] at newest
  cases newest with
  | @some before behind call _ split brings older newer =>
    refine ⟨call, ?_, brings⟩
    cases since with
    | latest found => rw [found.split, split]; simp
    | never none => rw [split]; simp

theorem bringsFits {call : Call} (brings : call.Brings session sample) :
    (0 ≤ sample.ts ∧ sample.ts ≤ Number.int64Max) ∧
      FitsInt64 sample.tc ∧ FitsInt64 sample.l ∧ FitsInt64 sample.o := by
  cases brings with
  | request timed asks now =>
    rw [now]
    exact ⟨readingFits _, asksFits asks⟩

/- Checking the sums makes no difference to the samples, nor to what is said of them. -/
theorem checkedSynchronises : checked.Synchronises Checked.samples :=
  ⟨fun _ _ _ _ => rfl, fun _ _ _ _ => rfl, fun _ _ => rfl⟩

theorem samplesOn {σ : Type} {samples : σ → Samples} {e : Extension σ}
    (sync : e.Synchronises samples) (memory : σ) (call : Call) :
    samples (call.on e memory) = perform (samples memory) call := by
  cases call with
  | incoming clock session c =>
    exact congrArg (·.2.2) (sync.incoming clock session c memory)
  | outgoing clock session m =>
    exact congrArg (·.2.2) (sync.outgoing clock session m memory)
  | forget session => exact sync.forget session memory

theorem samplesChecked (calls : List Call) :
    (performChecked calls).samples = performAll calls := by
  induction calls using List.reverseRecOn with
  | nil => rfl
  | append_singleton calls call ih =>
    rw [performSnoc, ← ih, ← samplesOn checkedSynchronises]
    simp [performChecked]

theorem tellsStamp (now : Int) (m : Message) (sample : Sample) :
    Tells (m.putExt extensionName (stamp now sample)) (elapsed now sample)
      (apparentOffset sample) :=
  ⟨_, Message.getPutWithinOwn m Field.ext extensionName _, rfl, rfl⟩

theorem reckons (clock : Nat) (received : 0 ≤ sample.ts ∧ sample.ts ≤ Number.int64Max)
    (owes : answered? session m memory.samples = some sample) (running : memory.stopped = false) :
    Reckons clock session m sample memory := by
  have elapsed := elapsedFits clock received
  have tells : Tells (extension.outgoing clock session m memory.samples).2.1
      (reading clock - sample.ts) (apparentOffset sample) := by
    have told := tellsStamp (reading clock) m sample
    rw [Timesync.elapsed, wrappedIff.mpr elapsed] at told
    simpa only [extension, answer, owes] using told
  refine ⟨elapsed, ?stops, fun fits => ?exact, _, offsetWraps sample, tells⟩
  case stops =>
    simp only [checked, owes, running, Option.any_some, Bool.false_or]
    exact overflowsIff elapsed
  case exact =>
    rw [← wrappedIff.mpr fits.offset]
    exact tells

theorem offsetExactOrStops (clock : Nat)
    (waits : (performChecked calls).samples.get? session = some sample) (own : Matches m sample)
    (running : (performChecked calls).stopped = false) :
    (∃ call ∈ calls, call.Brings session sample) ∧
      (FitsInt64 sample.tc ∧ FitsInt64 sample.l ∧ FitsInt64 sample.o) ∧
      Reckons clock session m sample (performChecked calls) := by
  have owes : answered? session m (performChecked calls).samples = some sample :=
    owedIff.mpr ⟨waits, own⟩
  obtain ⟨call, inside, brings⟩ := waitingBrought (samplesChecked calls ▸ waits)
  obtain ⟨received, fits⟩ := bringsFits brings
  exact ⟨⟨call, inside, brings⟩, fits, reckons clock received owes running⟩

/- Twenty hours ahead, and answered twelve milliseconds later. -/
theorem offsetExactTwentyHours :
    let request : Message := ⟨.plain [(Field.channel, .string Route.connectPath),
      (Field.id, .string "1"), (Field.ext, .object (.plain [(extensionName, .object (.plain
        [("tc", .integer 1700072000000), ("l", .integer 20), ("o", .integer (-5))]))]))]⟩
    let reply : Message := ⟨.plain [(Field.channel, .string Route.connectPath),
      (Field.id, .string "1")]⟩
    let sample : Sample := ⟨.string "1", 1700072000000, 20, -5, 1700000000000⟩
    let calls : List Call := [.incoming Server.epoch "a"
      ⟨"websocket", .inProcess, ⟨Route.connectPath, by decide⟩, request⟩]
    let later := Server.epoch + 12 * Server.millisecond
    (performChecked calls).samples.get? "a" = some sample ∧ Matches reply sample ∧
      (performChecked calls).stopped = false ∧ SumsFit sample ∧
      (∃ call ∈ calls, call.Brings "a" sample) ∧
      (FitsInt64 sample.tc ∧ FitsInt64 sample.l ∧ FitsInt64 sample.o) ∧
      Reckons later "a" reply sample (performChecked calls) := by
  intro request reply sample calls later
  have waits : (performChecked calls).samples.get? "a" = some sample := rfl
  have own : Matches reply sample := ⟨.inr rfl, .string "1", rfl, rfl, rfl⟩
  have fits : SumsFit sample := ⟨by decide, by decide, by decide⟩
  exact ⟨waits, own, rfl, fits, offsetExactOrStops later waits own rfl⟩

/- Two times the largest number is past the range. -/
theorem offsetOverflows :
    let request : Message := ⟨.plain [(Field.channel, .string Route.handshakePath),
      (Field.id, .string "1"), (Field.ext, .object (.plain [(extensionName, .object (.plain
        [("tc", .integer Number.int64Max), ("l", .integer 0),
          ("o", .integer Number.int64Max)]))]))]⟩
    let reply : Message := ⟨.plain [(Field.channel, .string Route.handshakePath),
      (Field.id, .string "1")]⟩
    let sample : Sample :=
      ⟨.string "1", Number.int64Max, 0, Number.int64Max, 1700000000000⟩
    let calls : List Call := [.incoming Server.epoch "a"
      ⟨"websocket", .inProcess, ⟨Route.handshakePath, by decide⟩, request⟩]
    let memory := performChecked calls
    memory.samples.get? "a" = some sample ∧ Matches reply sample ∧ memory.stopped = false ∧
      (checked.outgoing Server.epoch "a" reply memory).2.2.stopped = true ∧
      ∃ p a, Tells (extension.outgoing Server.epoch "a" reply memory.samples).2.1 p a ∧
        a = -1700000000002 ∧ a ≠ exactOffset sample := by
  intro request reply sample calls memory
  exact ⟨rfl, ⟨.inl rfl, .string "1", rfl, rfl, rfl⟩, rfl, rfl, _, _, tellsStamp _ reply sample,
    by decide, by decide⟩

end Timesync
end Bayeux
