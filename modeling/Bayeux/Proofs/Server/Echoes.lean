import Bayeux.Proofs.Extension.Samples
import Bayeux.Proofs.Server.Changes
import Bayeux.Proofs.Server.Correlation
/-! What a reply to a handshake or a connect has of its request: the channel, the id if there is
one, and no extension data. Such a request is answered by one reply or cannot be read, and no
request touches the clock or what the extensions remember. -/

namespace Bayeux

namespace Server
variable {σ : Type} {id : String}

/-- The clock and what the extensions remember stand as they did. -/
def SameTimes (s t : Server σ) : Prop := t.memory = s.memory ∧ t.clock = s.clock

theorem sameTimesOnSession {β : Type} (s : Server σ) (id : String) (missing : β)
    (act : Session → β × Session) : SameTimes s (s.onSession id missing act).2 := by
  rw [onSessionFrame]
  exact ⟨rfl, rfl⟩

theorem sameTimesTrans {s t u : Server σ} (first : SameTimes s t) (second : SameTimes t u) :
    SameTimes s u :=
  ⟨second.1.trans first.1, second.2.trans first.2⟩

theorem sameTimesPublish (s : Server σ) (sender? : Option String) (p : Packet) :
    SameTimes s (s.publish sender? p).2 :=
  publishKeeps (R := SameTimes) (fun _ => ⟨rfl, rfl⟩) sameTimesTrans
    (fun s id _ => sameTimesOnSession s id false _) (fun _ _ _ => ⟨rfl, rfl⟩) s sender? p

end Server

namespace Router
variable {σ : Type} {transports : List String} {id : String} {c : Context} {s : Server σ}

theorem sameTimesRespond (settings : Standard.Settings) (transports : List String) (id : String)
    (c : Context) (s : Server σ) :
    s.SameTimes (respond (Standard.process settings) transports id c s).2 :=
  respondStandard (R := Server.SameTimes) (fun _ => ⟨rfl, rfl⟩) Server.sameTimesTrans
    Server.sameTimesOnSession (fun _ _ _ => ⟨rfl, rfl⟩) settings transports id c s

/-- The answer to a handshake or a connect. -/
inductive Timed (c : Context) : Except ProcessingError Routed → Prop where
  | unread (e : ProcessingError) : Timed c (.error e)
  | replied {reply : Message} (repeats : Reply.Repeats c.channel.path c.message reply) :
      Timed c (.ok ⟨[.single .response reply], none⟩)

theorem respondTimed (settings : Standard.Settings) (transports : List String) (id : String)
    (s : Server σ)
    (timed : c.channel.path = Route.handshakePath ∨ c.channel.path = Route.connectPath) :
    Timed c (respond (Standard.process settings) transports id c s).1 := by
  unfold respond
  rcases timed with path | path
  · have route : Route.ofPath c.channel.path = .handshake := by rw [path]; rfl
    simp only [route, Request.reader?]
    cases HandshakeRequest.ofMessage c.message with
    | error e => exact .unread e
    | ok r =>
      obtain ⟨verdict, reply, made, correlates⟩ :=
        Standard.handshakeReplies settings transports id c r s
      simp only [Except.map, Standard.process, made]
      exact .replied correlates.toRepeats
  · have route : Route.ofPath c.channel.path = .connect := by rw [path]; rfl
    simp only [route, Request.reader?]
    cases ConnectRequest.ofMessage c.message with
    | error e => exact .unread e
    | ok r =>
      obtain ⟨verdict, reply, made, correlates⟩ := Standard.connectReplies settings id c r s
      simp only [Except.map, Standard.process, made]
      exact .replied correlates.toRepeats

end Router

namespace Timesync
variable {now : Int} {m reply : Message} {path : String} {waiting? : Option Sample}

/-- The request says this about the clock of the client, and its id is a text or a number. -/
structure Asks (m : Message) (id : Value) (tc l o : Int) : Prop where
  found : m.get? Field.id = some id
  named : isId id = true
  times : ∃ ext times, m.ext? = some ext ∧ ext.get? extensionName = some (.object times) ∧
    (times.get? "tc").bind Value.asInt64? = some tc ∧
    (times.get? "l").bind Value.asInt64? = some l ∧ (times.get? "o").bind Value.asInt64? = some o

/-- The reply gives the time of a client and the time at which it came in. -/
def Told (reply : Message) (tc ts : Int) : Prop :=
  ∃ times, reply.ext?.bind (·.get? extensionName) = some (.object times) ∧
    times.get? "tc" = some (.integer tc) ∧ times.get? "ts" = some (.integer ts)

def Untold (reply : Message) : Prop := reply.ext?.bind (·.get? extensionName) = none

theorem sampleAsks {sample : Sample} : sample? now m = some sample ↔
    Asks m sample.id sample.tc sample.l sample.o ∧ sample.ts = now := by
  obtain ⟨id, tc, l, o, ts⟩ := sample
  constructor
  · intro sampled
    simp only [sample?, requestId?, bind, pure, Option.bind_eq_some_iff, Option.some.injEq,
      Sample.mk.injEq, Option.filter_eq_some_iff] at sampled
    obtain ⟨_, ⟨found, named⟩, ext, here, _, ⟨value, inside, opened⟩, _, early, _, between, _, late,
      rfl, rfl, rfl, rfl, rfl⟩ := sampled
    cases value <;> simp only [Value.asObject?, reduceCtorEq, Option.some.injEq] at opened
    subst opened
    exact ⟨⟨found, named, ext, _, here, inside, Option.bind_eq_some_iff.mpr early,
      Option.bind_eq_some_iff.mpr between, Option.bind_eq_some_iff.mpr late⟩, rfl⟩
  · rintro ⟨⟨found, named, ext, times, here, inside, early, between, late⟩, rfl⟩
    have own : requestId? m = some id := Option.filter_eq_some_iff.mpr ⟨found, named⟩
    simp [sample?, own, here, inside, early, between, late, Value.asObject?]

theorem notAsked (unasked : ∀ id tc l o, ¬Asks m id tc l o) : sample? now m = none := by
  cases sampled : sample? now m with
  | none => rfl
  | some sample => exact absurd (sampleAsks.mp sampled).1 (unasked _ _ _ _)

theorem sampleId {sample : Sample} (sampled : sample? now m = some sample) :
    requestId? m = some sample.id ∧ sample.id.same sample.id = true := by
  obtain ⟨asks, -⟩ := sampleAsks.mp sampled
  refine ⟨Option.filter_eq_some_iff.mpr ⟨asks.found, asks.named⟩, ?_⟩
  have named := asks.named
  generalize sample.id = id at named
  cases id with
  | string s => simp [Value.same]
  | number n => simp [Value.same, Number.sameRefl]
  | null | bool | array | object => cases named

/- A reply that leaves takes along what its own request has brought in. -/
theorem leftNoted {sample : Sample} (waits : left m (noted now m waiting?) = some sample) :
    waiting? = some sample := by
  have found := leftOld waits
  rcases notedCases found with old | ⟨timed, sampled⟩
  · exact old
  · obtain ⟨named, same⟩ := sampleId sampled
    have owes : owed m (noted now m waiting?) = some sample := by
      rw [found]
      simp [owed, timed, named, same]
    simp [left, owes] at waits

theorem channelRepeats (named : m.channel? = some path) (repeats : Reply.Repeats path m reply) :
    reply.channel? = some path := by
  obtain ⟨-, filled⟩ := Option.filter_eq_some_iff.mp named
  simpa [Message.channel?, Message.textField?, repeats.channel, Value.asString?] using filled

theorem owedRepeats (named : m.channel? = some path) (repeats : Reply.Repeats path m reply)
    (waiting? : Option Sample) : owed reply waiting? = owed m waiting? := by
  simp only [owed, isTimed, requestId?, channelRepeats named repeats, named, repeats.id]

theorem toldOwed {sample : Sample} (owes : owed reply waiting? = some sample) :
    Told (stamped now reply waiting?) sample.tc sample.ts := by
  rw [stamped, owes]
  exact ⟨_, Message.getPutWithinOwn reply Field.ext extensionName _, rfl, rfl⟩

theorem untoldOwed (repeats : Reply.Repeats path m reply) (owes : owed reply waiting? = none) :
    Untold (stamped now reply waiting?) := by
  rw [stamped, owes]
  simp [Untold, Message.ext?, Message.object?, repeats.ext]

/-- What the reply says to a request that came in at this time, given what waited before: the
newest of the samples, if it has the id of the request. -/
structure Answers (now : Int) (m : Message) (waiting? : Option Sample) (reply : Message) :
    Prop where
  asked : ∀ {id tc l o}, Asks m id tc l o → (∀ waiting ∈ waiting?, waiting.tc ≤ tc) →
    Told reply tc now
  overtaken : ∀ {id tc l o waiting}, Asks m id tc l o → waiting? = some waiting →
    tc < waiting.tc → if waiting.id.same id = true then Told reply waiting.tc waiting.ts
      else Untold reply
  late : ∀ {waiting id}, (∀ id tc l o, ¬Asks m id tc l o) → waiting? = some waiting →
    requestId? m = some id → waiting.id.same id = true → Told reply waiting.tc waiting.ts
  silent : (∀ id tc l o, ¬Asks m id tc l o) →
    (∀ waiting id, waiting? = some waiting → requestId? m = some id →
      waiting.id.same id = false) → Untold reply

theorem answersStamped (timed : isTimed m = true) (named : m.channel? = some path)
    (repeats : Reply.Repeats path m reply) :
    Answers now m waiting? (stamped now reply (noted now m waiting?)) := by
  have told : ∀ {sample}, owed m (noted now m waiting?) = some sample →
      Told (stamped now reply (noted now m waiting?)) sample.tc sample.ts := fun owes =>
    toldOwed ((owedRepeats named repeats _).trans owes)
  have untold : owed m (noted now m waiting?) = none →
      Untold (stamped now reply (noted now m waiting?)) := fun owes =>
    untoldOwed repeats ((owedRepeats named repeats _).trans owes)
  refine ⟨fun {id tc l o} asks newest => ?_, fun {id tc l o waiting} asks waits older => ?_,
    fun {waiting id} unasked waits own same => ?_, fun unasked strange => ?_⟩
  · have sampled : sample? now m = some ⟨id, tc, l, o, now⟩ := sampleAsks.mpr ⟨asks, rfl⟩
    obtain ⟨own, same⟩ := sampleId sampled
    have waits : noted now m waiting? = some ⟨id, tc, l, o, now⟩ := by
      cases waiting? with
      | none => simp [noted, timed, sampled, newer]
      | some waiting => simp [noted, timed, sampled, newer, newest waiting rfl]
    have owes : owed m (noted now m waiting?) = some ⟨id, tc, l, o, now⟩ := by
      simpa [owed, timed, waits, own] using same
    exact told owes
  · have sampled : sample? now m = some ⟨id, tc, l, o, now⟩ := sampleAsks.mpr ⟨asks, rfl⟩
    obtain ⟨own, -⟩ := sampleId sampled
    have stays : noted now m waiting? = some waiting := by
      simp [noted, timed, sampled, newer, waits, Int.not_le.mpr older]
    split
    · rename_i same
      exact told (by simpa [owed, timed, stays, own] using same)
    · rename_i other
      exact untold (by simpa [owed, timed, stays, own] using other)
  · have stays : noted now m waiting? = some waiting := by
      simp [noted, notAsked unasked, waits]
    exact told (by simpa [owed, timed, stays, own] using same)
  · have stays : noted now m waiting? = waiting? := by simp [noted, notAsked unasked]
    refine untold ?_
    cases own : requestId? m with
    | none => simp [owed, own]
    | some id =>
      cases waiting? with
      | none => simp [owed, stays]
      | some waiting => simp [owed, stays, own, strange waiting id rfl own]

end Timesync
end Bayeux
