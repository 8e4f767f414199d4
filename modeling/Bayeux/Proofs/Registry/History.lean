import Bayeux.Proofs.Registry.Index
import Bayeux.Server
import Mathlib.Data.Finset.Image
/-! What the registry holds after any calls of the server: the pairs of a session and a pattern
that were subscribed and not given up since. The statistics count these pairs. -/

namespace Bayeux

namespace Registry

structure InverseOver (r : Registry) (pairs : Finset (String × String)) : Prop where
  bySession : ∀ session pattern, (session, pattern) ∈ pairs ↔
    ∃ patterns, r.channels.get? session = some patterns ∧ pattern ∈ patterns
  byPattern : ∀ session pattern, (session, pattern) ∈ pairs ↔
    ∃ s, r.subscriptions.get? pattern = some s ∧ session ∈ s.sessions
  noEmptySession : ∀ session patterns, r.channels.get? session = some patterns → patterns ≠ []
  noEmptyPattern : ∀ pattern s, r.subscriptions.get? pattern = some s → s.sessions ≠ []
  path : ∀ pattern s, r.subscriptions.get? pattern = some s → s.channel.path = pattern
  channelCount : r.statistics.channels = (pairs.image Prod.snd).card
  subscriptionCount : r.statistics.subscriptions = pairs.card
  countedByPattern : (r.subscriptions.flatMap fun entry => entry.2.sessions).length = pairs.card

def heldPairs (r : Registry) : Finset (String × String) := (Table.pairs r.channels).toFinset

theorem memHeldPairs {r : Registry} (indexed : Indexed r) (session pattern : String) :
    (session, pattern) ∈ r.heldPairs ↔ r.Holds session pattern := by
  rw [heldPairs, List.mem_toFinset, Table.memPairs indexed.channels.distinct, holdsIff]

theorem patternsWithMembers {r : Registry} (indexed : Indexed r) :
    r.heldPairs.image Prod.snd = (Table.keys r.subscriptions).toFinset := by
  ext pattern
  simp only [Finset.mem_image, List.mem_toFinset, ← Table.isSomeIff, Option.isSome_iff_exists]
  constructor
  · rintro ⟨⟨session, p⟩, held, rfl⟩
    rw [memHeldPairs indexed, ← indexed.inverse, memMembersIn] at held
    obtain ⟨s, found, _⟩ := held
    exact ⟨s, found⟩
  · rintro ⟨s, found⟩
    obtain ⟨session, inside⟩ := List.exists_mem_of_ne_nil _
      (indexed.subscriptions.filled pattern s found)
    refine ⟨(session, pattern), ?_, rfl⟩
    rw [memHeldPairs indexed, ← indexed.inverse, memMembersIn]
    exact ⟨s, found, inside⟩

/- The same pairs turned around, as the patterns list them. -/
theorem swappedPairs {r : Registry} (indexed : Indexed r) :
    r.heldPairs.image Prod.swap =
      (Table.pairs (Table.mapValues Subscription.sessions r.subscriptions)).toFinset := by
  have distinct : (Table.mapValues Subscription.sessions r.subscriptions).Distinct := by
    unfold Table.Distinct
    rw [Table.keysMapValues]
    exact indexed.subscriptions.distinct
  ext ⟨pattern, session⟩
  simp only [Finset.mem_image, List.mem_toFinset, Table.memPairs distinct, Table.getMapValues,
    Prod.exists, Prod.swap_prod_mk, Prod.mk.injEq, ↓existsAndEq, and_true]
  rw [memHeldPairs indexed, ← indexed.inverse, memMembersIn]
  simp

theorem countByPattern {r : Registry} (indexed : Indexed r) :
    (r.subscriptions.flatMap fun entry => entry.2.sessions).length = r.heldPairs.card := by
  have distinct : (Table.mapValues Subscription.sessions r.subscriptions).Distinct := by
    unfold Table.Distinct
    rw [Table.keysMapValues]
    exact indexed.subscriptions.distinct
  have once : ∀ pattern sessions,
      (Table.mapValues Subscription.sessions r.subscriptions).get? pattern = some sessions →
        sessions.Nodup := by
    intro pattern sessions found
    rw [Table.getMapValues] at found
    obtain ⟨s, there, rfl⟩ := Option.map_eq_some_iff.mp found
    exact indexed.subscriptions.once pattern s there
  have turned := Finset.card_image_of_injective r.heldPairs Prod.swap_injective
  rw [swappedPairs indexed, Table.cardPairs distinct once] at turned
  simpa only [Table.mapValues, List.flatMap_map] using turned

theorem inverseOver {r : Registry} (indexed : Indexed r) : InverseOver r r.heldPairs where
  bySession session pattern := (memHeldPairs indexed session pattern).trans holdsIff
  byPattern session pattern := by
    rw [memHeldPairs indexed, ← indexed.inverse, memMembersIn]
  noEmptySession := indexed.channels.filled
  noEmptyPattern := indexed.subscriptions.filled
  path := indexed.subscriptions.path
  channelCount := by
    rw [patternsWithMembers indexed, List.toFinset_card_of_nodup indexed.subscriptions.distinct]
    simp [statistics, Table.keys]
  subscriptionCount := by
    rw [heldPairs, Table.cardPairs indexed.channels.distinct indexed.channels.once]
    rfl
  countedByPattern := countByPattern indexed

end Registry

namespace Server
variable {σ : Type}

inductive Call where
  | added (session : String)
  | removed (session : String)
  | connected (session transport : String)
  | disconnected (session : String) (abrupt : Bool) (channel? : Option Channel)
  | subscribed (session : String) (channel : Channel)
  | unsubscribed (session : String) (channel : Channel)
  | published (sender? : Option String) (p : Packet)

def receive (s : Server σ) : Call → Server σ
  | .added session => s.addSession session
  | .removed session => s.removeSession session
  | .connected session transport => s.connected session transport
  | .disconnected session abrupt channel? => s.disconnected session abrupt channel?
  | .subscribed session channel => s.subscribed session channel
  | .unsubscribed session channel => s.unsubscribed session channel
  | .published sender? p => (s.publish sender? p).2

def receiveAll (s : Server σ) (calls : List Call) : Server σ := calls.foldl receive s

/-- The call takes the pattern away from the session. -/
def Call.Drops (session pattern : String) : Call → Prop
  | .removed id => session = id
  | .disconnected id _ _ => session = id
  | .unsubscribed id channel => session = id ∧ pattern = channel.path
  | _ => False

def Call.Gives (session pattern : String) : Call → Prop
  | .subscribed id channel => session = id ∧ pattern = channel.path
  | _ => False

/-- Subscribed at some point, and not given up since. -/
def Held (calls : List Call) (session pattern : String) : Prop :=
  ∃ before call after, calls = before ++ call :: after ∧ call.Gives session pattern ∧
    ∀ later ∈ after, ¬later.Drops session pattern

theorem heldNil (session pattern : String) : ¬Held [] session pattern := by
  rintro ⟨before, call, after, same, _⟩
  simp at same

theorem heldSnoc (calls : List Call) (call : Call) (session pattern : String) :
    Held (calls ++ [call]) session pattern ↔
      call.Gives session pattern ∨ (Held calls session pattern ∧ ¬call.Drops session pattern) := by
  constructor
  · rintro ⟨before, given, after, same, gives, kept⟩
    rcases List.eq_nil_or_concat after with rfl | ⟨rest, last, rfl⟩
    · obtain ⟨_, ends⟩ := List.append_inj' same rfl
      cases ends
      exact .inl gives
    · simp only [List.concat_eq_append] at same kept
      rw [← List.cons_append, ← List.append_assoc] at same
      obtain ⟨rfl, ends⟩ := List.append_inj' same rfl
      cases ends
      exact .inr ⟨⟨before, given, rest, rfl, gives, fun later inside =>
        kept later (List.mem_append_left _ inside)⟩, kept call (by simp)⟩
  · rintro (gives | ⟨⟨before, given, after, rfl, gives, kept⟩, keeps⟩)
    · exact ⟨calls, call, [], rfl, gives, by simp⟩
    · refine ⟨before, given, after ++ [call], by simp, gives, fun later inside => ?_⟩
      rcases List.mem_append.mp inside with old | new
      · exact kept later old
      · exact List.mem_singleton.mp new ▸ keeps

/- Doing something to a session changes the table of sessions alone, and no name in it. -/
theorem onSessionFrame {β : Type} (s : Server σ) (id : String) (missing : β)
    (act : Session → β × Session) : (s.onSession id missing act).2 =
      { s with sessions := (s.onSession id missing act).2.sessions } := by
  unfold onSession
  cases s.session? id <;> rfl

theorem keysOnSession {β : Type} (s : Server σ) (id : String) (missing : β)
    (act : Session → β × Session) :
    Table.keys (s.onSession id missing act).2.sessions = Table.keys s.sessions := by
  unfold onSession
  cases found : s.session? id with
  | none => rfl
  | some x => exact Table.putPresent _ ((Table.isSomeIff _ _).mp (Option.isSome_of_eq_some found))

theorem sessionOnSession {β : Type} (s : Server σ) (id other : String) (missing : β)
    (act : Session → β × Session) :
    (s.onSession id missing act).2.session? other =
      if other = id then (s.session? id).map fun x => (act x).2 else s.session? other := by
  unfold onSession
  cases found : s.session? id with
  | none =>
    by_cases same : other = id
    · simp [same, found]
    · simp [same]
  | some x => simp only [session?, setSession, Table.getPut, Option.map_some]

theorem registryDeliver (s : Server σ) (id : String) (p : Packet) :
    (s.deliver id p).2.registry = s.registry := by
  unfold deliver
  rw [onSessionFrame]

/- A publish is deliveries and a note, so it keeps what these keep. -/
theorem publishKeeps {R : Server σ → Server σ → Prop} (refl : ∀ s, R s s)
    (trans : ∀ {s t u}, R s t → R t u → R s u) (delivered : ∀ s id p, R s (s.deliver id p).2)
    (noted : ∀ s route? count, R s (s.note (.published route? count))) (s : Server σ)
    (sender? : Option String) (p : Packet) : R s (s.publish sender? p).2 := by
  have offered : ∀ p ids s, R s (offerAll p ids s).2 := by
    intro p ids
    induction ids with
    | nil => exact refl
    | cons id rest ih =>
      intro s
      simp only [offerAll]
      split
      · exact trans (delivered s id p) (ih _)
      · exact ih s
  unfold publish fanOut
  refine trans ?_ (noted _ _ _)
  cases p.route? with
  | none => exact refl s
  | some route => exact offered _ _ s

theorem registryPublish (s : Server σ) (sender? : Option String) (p : Packet) :
    (s.publish sender? p).2.registry = s.registry :=
  publishKeeps (R := fun s t => t.registry = s.registry) (fun _ => rfl)
    (fun first second => second.trans first) registryDeliver (fun _ _ _ => rfl) s sender? p

/- One call: the invariant stays, and the pairs change as the call says. -/
theorem receiveIndexed {s : Server σ} (indexed : s.registry.Indexed) (call : Call) :
    (s.receive call).registry.Indexed := by
  cases call with
  | added session => exact Registry.indexedAdd indexed session
  | removed session => exact Registry.indexedRemove indexed session
  | connected session transport => exact indexed
  | disconnected session abrupt channel? => exact Registry.indexedUnsubscribeAll indexed session
  | subscribed session channel => exact Registry.indexedSubscribe indexed session channel
  | unsubscribed session channel => exact Registry.indexedUnsubscribe indexed session channel
  | published sender? p =>
    rw [receive, registryPublish]
    exact indexed

theorem receiveHolds {s : Server σ} (indexed : s.registry.Indexed) (call : Call)
    (session pattern : String) :
    (s.receive call).registry.Holds session pattern ↔ call.Gives session pattern ∨
      (s.registry.Holds session pattern ∧ ¬call.Drops session pattern) := by
  cases call with
  | added id =>
    refine (Registry.holdsAdd s.registry id session pattern).trans ?_
    simp [Call.Gives, Call.Drops]
  | removed id =>
    refine (Registry.holdsRemove indexed id session pattern).trans ?_
    simp [Call.Gives, Call.Drops]
  | connected id transport => simp [receive, connected, note, Call.Gives, Call.Drops]
  | disconnected id abrupt channel? =>
    refine (Registry.holdsUnsubscribeAll indexed id session pattern).trans ?_
    simp [Call.Gives, Call.Drops]
  | subscribed id channel =>
    refine (Registry.holdsSubscribe s.registry id channel session pattern).trans ?_
    simp [Call.Gives, Call.Drops, or_comm]
  | unsubscribed id channel =>
    refine (Registry.holdsUnsubscribe indexed id channel session pattern).trans ?_
    simp [Call.Gives, Call.Drops]
  | published sender? p =>
    rw [receive, registryPublish]
    simp [Call.Gives, Call.Drops]

theorem receiveAllSnoc (s : Server σ) (calls : List Call) (call : Call) :
    s.receiveAll (calls ++ [call]) = (s.receiveAll calls).receive call := by
  simp [receiveAll]

theorem receiveAllIndexed {s : Server σ} (indexed : s.registry.Indexed) (calls : List Call) :
    (s.receiveAll calls).registry.Indexed := by
  induction calls generalizing s with
  | nil => exact indexed
  | cons call rest ih => exact ih (receiveIndexed indexed call)

theorem startIndexed (memory : σ) : (start memory).registry.Indexed := Registry.indexedEmpty

theorem holdsHeld (memory : σ) (calls : List Call) (session pattern : String) :
    ((start memory).receiveAll calls).registry.Holds session pattern ↔
      Held calls session pattern := by
  induction calls using List.reverseRecOn with
  | nil =>
    simp only [heldNil, iff_false]
    simp [receiveAll, start, Registry.Holds, Registry.patternsOf, Registry.empty, Table.get?]
  | append_singleton calls call ih =>
    rw [receiveAllSnoc, receiveHolds (receiveAllIndexed (startIndexed memory) calls), heldSnoc, ih]

theorem indexesInverse (memory : σ) (calls : List Call) :
    ∃ pairs : Finset (String × String),
      (∀ session pattern, (session, pattern) ∈ pairs ↔ Held calls session pattern) ∧
        ((start memory).receiveAll calls).registry.InverseOver pairs := by
  have indexed := receiveAllIndexed (startIndexed memory) calls
  refine ⟨_, fun session pattern => ?_, Registry.inverseOver indexed⟩
  rw [Registry.memHeldPairs indexed, holdsHeld]

end Server
end Bayeux
