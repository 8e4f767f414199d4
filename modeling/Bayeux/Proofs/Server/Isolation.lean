import Bayeux.Proofs.Extension.Plain
import Bayeux.Proofs.Server.Beside
import Bayeux.Proofs.Server.Errands
/-! Sessions apart. What is done in the name of one session leaves the others their state, their
subscriptions and their samples; all that reaches them is what that session publishes, in
the queues of those who are subscribed to it. -/

namespace Bayeux

def Queue.offerEach {α : Type} (q : Queue α) (items : List α) : Queue α :=
  items.foldl (fun q item => (q.offer item).2) q

namespace Registry

/-- Done for one session. The others keep what they hold, and what the session holds
afterwards depends on what it held. -/
structure ActsFor (session : String) (act : Registry → Registry) : Prop where
  indexed : ∀ {r : Registry}, r.Indexed → (act r).Indexed
  sessions : ∀ (r : Registry) other, other ≠ session →
    (other ∈ (act r).sessions ↔ other ∈ r.sessions)
  others : ∀ {r : Registry}, r.Indexed → ∀ other, other ≠ session → ∀ pattern,
    (act r).Holds other pattern ↔ r.Holds other pattern
  own : ∀ {r r' : Registry}, r.Indexed → r'.Indexed →
    (∀ pattern, r'.Holds session pattern ↔ r.Holds session pattern) →
      ∀ pattern, (act r').Holds session pattern ↔ (act r).Holds session pattern

theorem actsSubscribe (session : String) (channel : Channel) :
    ActsFor session (·.subscribe session channel) where
  indexed indexed := indexedSubscribe indexed session channel
  sessions _ _ _ := Iff.rfl
  others indexed other different pattern := by
    rw [holdsSubscribe]
    exact or_iff_left fun added => different added.1
  own indexed indexed' same pattern := by
    rw [holdsSubscribe, holdsSubscribe, same]

theorem actsUnsubscribe (session : String) (channel : Channel) :
    ActsFor session (·.unsubscribe session channel) where
  indexed indexed := indexedUnsubscribe indexed session channel
  sessions _ _ _ := Iff.rfl
  others indexed other different pattern := by
    rw [holdsUnsubscribe indexed]
    exact and_iff_left fun taken => different taken.1
  own indexed indexed' same pattern := by
    rw [holdsUnsubscribe indexed, holdsUnsubscribe indexed', same]

theorem actsUnsubscribeAll (session : String) : ActsFor session (·.unsubscribeAll session) where
  indexed indexed := indexedUnsubscribeAll indexed session
  sessions _ _ _ := Iff.rfl
  others indexed other different pattern := by
    rw [holdsUnsubscribeAll indexed]
    exact and_iff_left different
  own indexed indexed' same pattern := by
    rw [holdsUnsubscribeAll indexed, holdsUnsubscribeAll indexed', same]

theorem actsRemove (session : String) : ActsFor session (·.remove session) where
  indexed indexed := indexedRemove indexed session
  sessions _ _ different := List.mem_erase_of_ne different
  others := (actsUnsubscribeAll session).others
  own := (actsUnsubscribeAll session).own

theorem subscribedToHolds {r : Registry} (indexed : Indexed r) (session : String)
    (channel : Channel) : r.SubscribedTo session channel ↔
      ∃ pattern : Channel, r.Holds session pattern.path ∧ pattern.covers channel = true := by
  constructor
  · rintro ⟨path, s, found, member, covers⟩
    refine ⟨s.channel, ?_, covers⟩
    rw [indexed.subscriptions.path path s found]
    exact (indexed.inverse session path).mp (memMembersIn.mpr ⟨s, found, member⟩)
  · rintro ⟨pattern, held, covers⟩
    obtain ⟨s, found, member⟩ := memMembersIn.mp ((indexed.inverse session pattern.path).mpr held)
    have same : s.channel = pattern :=
      Channel.pathInjective (indexed.subscriptions.path pattern.path s found)
    exact ⟨pattern.path, s, found, member, same ▸ covers⟩

end Registry

namespace Server
variable {σ : Type} {samples : σ → Timesync.Samples} {h : Handlers σ} {id : String}
  {s t u : Server σ}

structure Sound (samples : σ → Timesync.Samples) (s : Server σ) : Prop where
  indexed : s.registry.Indexed
  distinct : (samples s.memory).Distinct

/-- Published by the one session on a channel that the other is subscribed to. -/
structure Addressed (id other : String) (s : Server σ) (p : Packet) : Prop where
  sender : p.sender? = some id
  subscribed : ∃ route pattern : Channel, p.route? = some route ∧
    s.registry.Holds other pattern.path ∧ pattern.covers route = true

structure Bystanders (samples : σ → Timesync.Samples) (id : String) (s t : Server σ) : Prop where
  sessions : ∀ other, other ≠ id → ∃ packets : List Packet,
    (∀ p ∈ packets, s.Addressed id other p) ∧ t.session? other =
      (s.session? other).map fun x => { x with deliveries := x.deliveries.offerEach packets }
  holds : ∀ other, other ≠ id → ∀ pattern,
    t.registry.Holds other pattern ↔ s.registry.Holds other pattern
  registered : ∀ other, other ≠ id → (other ∈ t.registry.sessions ↔ other ∈ s.registry.sessions)
  sampled : ∀ other, other ≠ id → (samples t.memory).get? other = (samples s.memory).get? other
  tracked : ∀ other, other ≠ id → (other ∈ t.inProcess ↔ other ∈ s.inProcess)

theorem offeredNothing (id : String) {other : String} (same : t.session? other = s.session? other) :
    ∃ packets : List Packet, (∀ p ∈ packets, s.Addressed id other p) ∧ t.session? other =
      (s.session? other).map fun x => { x with deliveries := x.deliveries.offerEach packets } := by
  refine ⟨[], by simp, ?_⟩
  rw [same]
  cases s.session? other <;> rfl

theorem bystandersRefl (s : Server σ) : Bystanders samples id s s where
  sessions _ _ := offeredNothing id rfl
  holds _ _ _ := Iff.rfl
  registered _ _ := Iff.rfl
  sampled _ _ := rfl
  tracked _ _ := Iff.rfl

theorem bystandersTrans (first : Bystanders samples id s t) (second : Bystanders samples id t u) :
    Bystanders samples id s u where
  sessions other different := by
    obtain ⟨early, addressed, between⟩ := first.sessions other different
    obtain ⟨late, addressed', after⟩ := second.sessions other different
    refine ⟨early ++ late, fun p inside => ?_, ?_⟩
    · rcases List.mem_append.mp inside with old | new
      · exact addressed p old
      · obtain ⟨sender, route, pattern, routed, held, covers⟩ := addressed' p new
        have before := (first.holds other different pattern.path).mp held
        exact ⟨sender, route, pattern, routed, before, covers⟩
    · rw [after, between, Option.map_map]
      simp only [Queue.offerEach, List.foldl_append]
      rfl
  holds other different pattern :=
    (second.holds other different pattern).trans (first.holds other different pattern)
  registered other different :=
    (second.registered other different).trans (first.registered other different)
  sampled other different := (second.sampled other different).trans (first.sampled other different)
  tracked other different := (second.tracked other different).trans (first.tracked other different)

/-- What one session does to a server that is sound. -/
structure Minds (samples : σ → Timesync.Samples) (id : String) (s t : Server σ) : Prop where
  others : Bystanders samples id s t
  sound : t.Sound samples

theorem mindsTrans (first : Minds samples id s t) (second : Minds samples id t u) :
    Minds samples id s u :=
  ⟨bystandersTrans first.others second.others, second.sound⟩

theorem mindsAside (sound : s.Sound samples) (clock : Nat) (notices : List Notice) :
    Minds samples id s { s with clock, notices } :=
  ⟨{ bystandersRefl s with }, { sound with }⟩

theorem mindsMemory (sound : s.Sound samples) (notices : List Notice) {memory : σ}
    (distinct : (samples memory).Distinct)
    (others : ∀ other, other ≠ id → (samples memory).get? other = (samples s.memory).get? other) :
    Minds samples id s { s with memory, notices } := by
  have still : Bystanders samples id s s := bystandersRefl s
  exact ⟨{ still with sampled := others }, ⟨sound.indexed, distinct⟩⟩

theorem mindsOnSession (sound : s.Sound samples) (id : String) {β : Type} (missing : β)
    (act : Session → β × Session) : Minds samples id s (s.onSession id missing act).2 := by
  have others : ∀ other, other ≠ id →
      (s.onSession id missing act).2.session? other = s.session? other := by
    intro other different
    rw [sessionOnSession, if_neg different]
  have frame := onSessionFrame s id missing act
  generalize (s.onSession id missing act).2 = t at others frame ⊢
  rw [frame] at others ⊢
  have delivered := fun other different => offeredNothing id (others other different)
  exact ⟨{ bystandersRefl s with sessions := delivered }, { sound with }⟩

theorem mindsOnRegistry (sound : s.Sound samples) {act : Registry → Registry}
    (acts : Registry.ActsFor id act) (notice : Notice) :
    Minds samples id s ((s.note notice).onRegistry act) where
  others := { bystandersRefl s with
    holds := acts.others sound.indexed
    registered := acts.sessions s.registry }
  sound := ⟨acts.indexed sound.indexed, sound.distinct⟩

theorem mindsPublish (sound : s.Sound samples) {p : Packet} {route : Channel}
    (routed : p.route? = some route) (sent : p.sender? = some id) :
    Minds samples id s (s.publish (some id) p).2 := by
  have fans := fansOut sound.indexed (some id) routed
  have registry := registryPublish s (some id) p
  have delivered : ∀ other, other ≠ id → ∃ packets : List Packet,
      (∀ p ∈ packets, s.Addressed id other p) ∧ (s.publish (some id) p).2.session? other =
        (s.session? other).map fun x =>
          { x with deliveries := x.deliveries.offerEach packets } := by
    intro other different
    by_cases recipient : s.Recipient (some id) route other
    · obtain ⟨pattern, held, covers⟩ :=
        (Registry.subscribedToHolds sound.indexed other route).mp recipient.2.2
      have addressed : s.Addressed id other p.freeze := ⟨sent, route, pattern, routed, held, covers⟩
      refine ⟨[p.freeze], List.forall_mem_singleton.mpr addressed, ?_⟩
      rw [sessionPublish s (some id) routed,
        if_pos ((memRecipients sound.indexed (some id) route other).mpr recipient)]
      rfl
    · exact offeredNothing id (fans.others other recipient)
  refine ⟨⟨delivered, ?_, ?_, ?_, ?_⟩, ⟨registry ▸ sound.indexed, ?_⟩⟩
  · intro other _ pattern
    rw [registry]
  · intro other _
    rw [registry]
  all_goals rw [fans.frame]
  · intro other _
    rfl
  · intro other _
    rfl
  · exact sound.distinct

theorem mindsChange {change : Server σ → Server σ} (does : Change id change)
    (sound : s.Sound samples) : Minds samples id s (change s) := by
  induction does generalizing s with
  | nothing => exact ⟨bystandersRefl s, sound⟩
  | moved after alive => exact mindsOnSession sound id false _
  | published c => exact mindsPublish sound rfl rfl
  | connected transport => exact mindsAside sound s.clock _
  | subscribed channel => exact mindsOnRegistry sound (Registry.actsSubscribe id channel) _
  | unsubscribed channel => exact mindsOnRegistry sound (Registry.actsUnsubscribe id channel) _
  | followed one other left right =>
    have first := left sound
    exact mindsTrans first (right first.sound)

theorem mindsErrand {processing : Standard.Settings}
    (process : h.process = Standard.process processing)
    (fits : ∀ e ∈ h.extensions, e.Fits samples) (sound : s.Sound samples)
    (errand : Errand h id s t) : Minds samples id s t := by
  cases errand with
  | @incoming e member c =>
    have moves := Extension.movesIncoming (fits e member) s.clock id c s.memory
    exact mindsMemory sound _ (moves.distinct sound.distinct) fun other =>
      Extension.incomingOther (fits e member) s.clock c
  | @outgoing e member m =>
    have moves := Extension.movesOutgoing (fits e member) s.clock id m s.memory
    exact mindsMemory sound _ (moves.distinct sound.distinct) fun other =>
      Extension.outgoingOther (fits e member) s.clock m
  | @forgets e member =>
    have moves := Extension.movesForget (fits e member) id s.memory
    exact mindsMemory sound _ (moves.distinct sound.distinct) fun other =>
      Extension.forgetOther (fits e member)
  | request transports c =>
    obtain ⟨answer, change, does, responded, -⟩ := Router.respondInStep processing
      transports transports id (c := c) (s := s) ⟨rfl, rfl⟩ (fun _ => rfl) (fun _ => rfl) rfl rfl
    rw [process, responded]
    exact mindsChange does sound
  | waits nanoseconds => exact mindsAside sound _ s.notices
  | marked => exact mindsOnSession sound id false _
  | parted abrupt channel? => exact mindsOnRegistry sound (Registry.actsUnsubscribeAll id) _
  | removed => exact mindsOnRegistry sound (Registry.actsRemove id) _
  | unlisted =>
    have tracked := fun (other : String) (different : other ≠ id) =>
      List.mem_erase_of_ne (l := s.inProcess) different
    exact ⟨{ bystandersRefl s with tracked }, { sound with }⟩

theorem mindsErrands {processing : Standard.Settings}
    (process : h.process = Standard.process processing)
    (fits : ∀ e ∈ h.extensions, e.Fits samples) (sound : s.Sound samples)
    (errands : Errands h id s t) : Minds samples id s t := by
  induction errands with
  | refl => exact ⟨bystandersRefl s, sound⟩
  | tail _ errand ih => exact mindsTrans ih (mindsErrand process fits ih.sound errand)

end Server
end Bayeux
