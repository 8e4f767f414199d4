import Bayeux.Proofs.Latest
import Bayeux.Proofs.Server.Echoes
/-! The clock synchronisation by itself, through any calls for any sessions. What waits for a
session is the newest of the samples that came in since its reply took one along or the session
went, and only the reply to that sample is changed. -/

namespace Bayeux.Timesync

inductive Call where
  | incoming (clock : Nat) (session : String) (c : Context)
  | outgoing (clock : Nat) (session : String) (m : Message)
  | forget (session : String)

def perform (samples : Samples) : Call → Samples
  | .incoming clock session c => (extension.incoming clock session c samples).2.2
  | .outgoing clock session m => (extension.outgoing clock session m samples).2.2
  | .forget session => extension.forget session samples

def performAll (calls : List Call) : Samples := calls.foldl perform []

/-- A handshake or a connect, request or reply. -/
def Timed (m : Message) : Prop :=
  m.channel? = some Route.handshakePath ∨ m.channel? = some Route.connectPath

/-- The reply to the request that brought the sample. -/
structure Matches (m : Message) (sample : Sample) : Prop where
  timed : Timed m
  named : ∃ id, m.get? Field.id = some id ∧ isId id = true ∧ sample.id.same id = true

inductive Call.Brings (session : String) (sample : Sample) : Call → Prop where
  | request {clock : Nat} {c : Context} (timed : Timed c.message)
      (asks : Asks c.message sample.id sample.tc sample.l sample.o)
      (now : sample.ts = reading clock) : Brings session sample (.incoming clock session c)

/-- The call ends what the session was waiting for. -/
inductive Clears (session : String) (before : List Call) : Call → Prop where
  | answered {clock : Nat} {m : Message} {sample : Sample}
      (waits : (performAll before).get? session = some sample) (own : Matches m sample) :
      Clears session before (.outgoing clock session m)
  | forgotten : Clears session before (.forget session)

/-- The sample with the latest client time that these calls bring to the session, the last of
those with the same time. -/
inductive Newest (session : String) (recent : List Call) : Option Sample → Prop where
  | none (unbrought : ∀ call ∈ recent, ∀ sample, ¬call.Brings session sample) :
      Newest session recent none
  | some {before since : List Call} {call : Call} {sample : Sample}
      (split : recent = before ++ call :: since) (brings : call.Brings session sample)
      (older : ∀ early ∈ before, ∀ other, early.Brings session other → other.tc ≤ sample.tc)
      (newer : ∀ late ∈ since, ∀ other, late.Brings session other → other.tc < sample.tc) :
      Newest session recent (some sample)

/-- The message with the times of the sample in its extension data, and as it was elsewhere. -/
structure Stamped (m : Message) (sample : Sample) (reply : Message) : Prop where
  told : Told reply sample.tc sample.ts
  entries : ∀ entry, entry ≠ extensionName →
    reply.ext?.bind (·.get? entry) = m.ext?.bind (·.get? entry)
  fields : ∀ field, field ≠ Field.ext → reply.get? field = m.get? field

/-- What each call answers with these samples waiting, and what then waits. -/
structure Bookkeeping (samples : Samples) : Prop where
  once : samples.Distinct
  incoming : ∀ clock session c, ∃ after,
    extension.incoming clock session c samples = (true, c, after) ∧
      ∀ other, other ≠ session → after.get? other = samples.get? other
  answers : ∀ clock {session m sample}, samples.get? session = some sample → Matches m sample →
    ∃ reply after, extension.outgoing clock session m samples = (true, reply, after) ∧
      Stamped m sample reply ∧ after.get? session = none ∧
        ∀ other, other ≠ session → after.get? other = samples.get? other
  silent : ∀ clock {session m}, (∀ sample, samples.get? session = some sample → ¬Matches m sample) →
    extension.outgoing clock session m samples = (true, m, samples)
  forgets : ∀ session, (extension.forget session samples).get? session = none ∧
    ∀ other, other ≠ session → (extension.forget session samples).get? other = samples.get? other

section
variable {m : Message} {clock : Nat} {id session : String} {c : Context} {sample other : Sample}
  {waiting? : Option Sample} {samples : Samples} {call : Call} {calls recent : List Call}

theorem isTimedIff : isTimed m = true ↔ Timed m := by
  simp [isTimed, Timed]

theorem owedIff : owed m waiting? = some sample ↔ waiting? = some sample ∧ Matches m sample := by
  constructor
  · intro owes
    unfold owed at owes
    split at owes
    · rename_i timed
      split at owes
      · rename_i id waiting named
        obtain ⟨found, isId⟩ := Option.filter_eq_some_iff.mp named
        split at owes
        · rename_i same
          cases owes
          exact ⟨rfl, isTimedIff.mp timed, id, found, isId, same⟩
        · cases owes
      · cases owes
    · cases owes
  · rintro ⟨rfl, timed, id, found, isId, same⟩
    have named : requestId? m = some id := Option.filter_eq_some_iff.mpr ⟨found, isId⟩
    simp [owed, isTimedIff.mpr timed, named, same]

theorem bringsIff : (Call.incoming clock id c).Brings session sample ↔
    id = session ∧ isTimed c.message = true ∧ sample? (reading clock) c.message = some sample := by
  rw [isTimedIff, sampleAsks]
  constructor
  · rintro ⟨timed, asks, now⟩
    exact ⟨rfl, timed, asks, now⟩
  · rintro ⟨rfl, timed, asks, now⟩
    exact .request timed asks now

theorem bringsOnce (first : call.Brings session sample) (second : call.Brings session other) :
    other = sample := by
  cases call with
  | incoming clock id c =>
    obtain ⟨-, -, here⟩ := bringsIff.mp first
    obtain ⟨-, -, there⟩ := bringsIff.mp second
    exact Option.some.inj (there.symm.trans here)
  | outgoing | forget => cases first

/- A sample is replaced by one that is as new, so the last one wins among equals. -/
theorem newestBrought (newest : Newest session recent waiting?)
    (brings : call.Brings session sample) :
    Newest session (recent ++ [call]) (some (newer waiting? sample)) := by
  cases newest with
  | none unbrought =>
    exact .some rfl brings (fun early inside other brought => absurd brought (unbrought _ inside _))
      (by simp)
  | @some before since held waiting split brought older newer' =>
    by_cases late : waiting.tc ≤ sample.tc
    · have replaced : newer (some waiting) sample = sample := if_pos late
      rw [replaced]
      refine .some rfl brings (fun early inside other own => ?_) (by simp)
      rw [split] at inside
      rcases List.mem_append.mp inside with inside | inside
      · exact (older early inside other own).trans late
      · rcases List.mem_cons.mp inside with rfl | inside
        · exact bringsOnce brought own ▸ late
        · exact (newer' early inside other own).le.trans late
    · have stays : newer (some waiting) sample = waiting := if_neg late
      have regrouped : recent ++ [call] = before ++ held :: (since ++ [call]) := by simp [split]
      rw [stays]
      refine .some regrouped brought older fun later inside other own => ?_
      rcases List.mem_append.mp inside with inside | inside
      · exact newer' later inside other own
      · obtain rfl := List.mem_singleton.mp inside
        exact bringsOnce brings own ▸ Int.not_le.mp late

theorem newestIdle (newest : Newest session recent waiting?)
    (idle : ∀ sample, ¬call.Brings session sample) :
    Newest session (recent ++ [call]) waiting? := by
  have behind : ∀ {since : List Call}, ∀ late ∈ since ++ [call], ∀ sample,
      late.Brings session sample → late ∈ since := by
    intro since late inside sample brings
    rcases List.mem_append.mp inside with inside | last
    · exact inside
    · obtain rfl := List.mem_singleton.mp last
      exact absurd brings (idle sample)
  cases newest with
  | none unbrought =>
    exact .none fun late inside sample brings =>
      unbrought late (behind late inside sample brings) sample brings
  | @some before since held waiting split brings older newer' =>
    have regrouped : recent ++ [call] = before ++ held :: (since ++ [call]) := by simp [split]
    exact .some regrouped brings older fun late inside other own =>
      newer' late (behind late inside other own) other own

theorem newestNoted (newest : Newest session recent waiting?) :
    Newest session (recent ++ [.incoming clock session c])
      (noted (reading clock) c.message waiting?) := by
  unfold noted
  split
  · rename_i timed
    split
    · rename_i sample sampled
      exact newestBrought newest (bringsIff.mpr ⟨rfl, timed, sampled⟩)
    · rename_i unsampled
      refine newestIdle newest fun sample brings => ?_
      obtain ⟨-, -, sampled⟩ := bringsIff.mp brings
      exact nomatch unsampled.symm.trans sampled
  · rename_i untimed
    exact newestIdle newest fun sample brings => untimed (bringsIff.mp brings).2.1

theorem performSnoc (calls : List Call) (call : Call) :
    performAll (calls ++ [call]) = perform (performAll calls) call := by
  simp [performAll]

theorem distinctPerform (distinct : samples.Distinct) (call : Call) :
    (perform samples call).Distinct := by
  cases call with
  | incoming clock session c =>
    change (record (reading clock) session c.message samples).Distinct
    unfold record
    split
    · split
      · exact Table.distinctPut distinct _ _
      · exact distinct
    · exact distinct
  | outgoing clock session m =>
    change (answer (reading clock) session m samples).2.Distinct
    unfold answer
    split
    · exact Table.distinctRemove distinct _
    · exact distinct
  | forget session => exact Table.distinctRemove distinct _

theorem distinctPerformAll (calls : List Call) : (performAll calls).Distinct := by
  induction calls using List.reverseRecOn with
  | nil => exact List.nodup_nil
  | append_singleton calls call ih =>
    rw [performSnoc]
    exact distinctPerform ih call

theorem getClears (clears : Clears session calls call) :
    (perform (performAll calls) call).get? session = none := by
  have distinct := distinctPerformAll calls
  cases clears with
  | @answered clock m sample waits own =>
    have owes : owed m ((performAll calls).get? session) = some sample := owedIff.mpr ⟨waits, own⟩
    refine (getAnswer (reading clock) session m distinct).2.trans ?_
    simp [left, owes]
  | forgotten => exact Table.getRemoveSame distinct session

/- A call that clears nothing of the session can only bring something. -/
theorem newestPerform (newest : Newest session recent ((performAll calls).get? session))
    (keeps : ¬Clears session calls call) :
    Newest session (recent ++ [call]) ((perform (performAll calls) call).get? session) := by
  cases call with
  | incoming clock id c =>
    by_cases own : id = session
    · subst own
      have after : (perform (performAll calls) (.incoming clock id c)).get? id =
          noted (reading clock) c.message ((performAll calls).get? id) := getRecord _ _ _ _
      rw [after]
      exact newestNoted newest
    · have after : (perform (performAll calls) (.incoming clock id c)).get? session =
          (performAll calls).get? session := recordOther (Ne.symm own)
      rw [after]
      exact newestIdle newest fun sample brings => own (bringsIff.mp brings).1
  | outgoing clock id m =>
    have after : (perform (performAll calls) (.outgoing clock id m)).get? session =
        (performAll calls).get? session := by
      by_cases own : id = session
      · subst own
        refine (getAnswer (reading clock) id m (distinctPerformAll calls)).2.trans ?_
        cases owes : owed m ((performAll calls).get? id) with
        | none => simp [left, owes]
        | some sample =>
          obtain ⟨waits, matched⟩ := owedIff.mp owes
          exact absurd (.answered waits matched) keeps
      · exact answerOther (Ne.symm own)
    rw [after]
    refine newestIdle newest fun sample brings => ?_
    cases brings
  | forget id =>
    have other : session ≠ id := by
      rintro rfl
      exact keeps .forgotten
    have after : (perform (performAll calls) (.forget id)).get? session =
        (performAll calls).get? session := Table.getRemoveOther _ other
    rw [after]
    refine newestIdle newest fun sample brings => ?_
    cases brings

theorem newestSince (session : String) (calls : List Call) : ∃ recent,
    Since (Clears session) calls recent ∧
      Newest session recent ((performAll calls).get? session) := by
  induction calls using List.reverseRecOn with
  | nil => exact ⟨[], .never neverNil, .none (by simp)⟩
  | append_singleton calls call ih =>
    obtain ⟨recent, since, newest⟩ := ih
    rw [performSnoc]
    by_cases clears : Clears session calls call
    · rw [getClears clears]
      exact ⟨[], sinceHere clears, .none (by simp)⟩
    · exact ⟨recent ++ [call], sinceSnoc since clears, newestPerform newest clears⟩

theorem stampedStamp (now : Int) (m : Message) (sample : Sample) :
    Stamped m sample (m.putExt extensionName (stamp now sample)) where
  told := ⟨_, Message.getPutWithinOwn m Field.ext extensionName _, rfl, rfl⟩
  entries _ different := Message.getPutWithinBeside m Field.ext _ different
  fields _ different := Message.getPutWithin m extensionName _ different

theorem bookkeeping (distinct : samples.Distinct) : Bookkeeping samples where
  once := distinct
  incoming clock session c := ⟨_, rfl, fun other different => recordOther different⟩
  answers clock session m sample waits own := by
    have owes : answered? session m samples = some sample := owedIff.mpr ⟨waits, own⟩
    refine ⟨m.putExt extensionName (stamp (reading clock) sample), samples.remove session, ?_,
      stampedStamp _ m sample, Table.getRemoveSame distinct session,
      fun other different => Table.getRemoveOther _ different⟩
    simp only [extension, answer, owes]
  silent clock session m strange := by
    have owes : answered? session m samples = none := by
      rw [answeredOwed, Option.eq_none_iff_forall_ne_some]
      intro sample owes
      obtain ⟨waits, own⟩ := owedIff.mp owes
      exact strange sample waits own
    simp only [extension, answer, owes]
  forgets session := ⟨Table.getRemoveSame distinct session,
    fun other different => Table.getRemoveOther _ different⟩

end

theorem newestWaits (calls : List Call) : Bookkeeping (performAll calls) ∧
    ∀ session, ∃ recent, Since (Clears session) calls recent ∧
      Newest session recent ((performAll calls).get? session) :=
  ⟨bookkeeping (distinctPerformAll calls), fun session => newestSince session calls⟩

end Bayeux.Timesync
