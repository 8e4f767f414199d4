import Bayeux.Proofs.Registry.History
/-! A published packet is offered once to each registered session with a covering subscription,
the sender left out, in whatever order sessions and subscriptions are gone through. The
look-up from the side of the session agrees with the one from the side of the patterns
because the two indexes are inverse. -/

namespace Bayeux

/-- An offer is taken at the end if there is room, counted if there is none, and lost without
a reader. -/
structure Queue.Offered {α : Type} (before after : Queue α) (item : α) : Prop where
  taken : before.isOpen = true → before.waiting.length < before.capacity →
    after = { before with waiting := before.waiting ++ [item] }
  counted : before.isOpen = true → before.capacity ≤ before.waiting.length →
    after = { before with refused := before.refused + 1 }
  lost : before.isOpen = false → after = before

theorem Queue.offered {α : Type} (q : Queue α) (item : α) : q.Offered (q.offer item).2 item where
  taken reader room := by simp [offer, isFull, reader, Nat.not_le.mpr room]
  counted reader full := by simp [offer, isFull, reader, full]
  lost reader := by simp [offer, reader]

theorem Queue.offerGrows {α : Type} (q : Queue α) (item : α) :
    q.waiting.length < (q.offer item).2.waiting.length ↔ (q.offer item).1 = true := by
  rw [offerWaiting]
  cases (q.offer item).1 <;> simp

namespace Registry

def SubscribedTo (r : Registry) (session : String) (channel : Channel) : Prop :=
  ∃ pattern s, r.subscriptions.get? pattern = some s ∧ session ∈ s.sessions ∧
    s.channel.covers channel = true

/-- The same content in another order, of the sessions, of the patterns, and of the sessions of
each pattern. -/
structure Shuffled (r other : Registry) : Prop where
  sessions : r.sessions.Perm other.sessions
  subscriptions : ∃ middle, List.Forall₂ (fun a b => a.1 = b.1 ∧ a.2.channel = b.2.channel ∧
    a.2.sessions.Perm b.2.sessions) r.subscriptions middle ∧ middle.Perm other.subscriptions

theorem nodupEraseDups : (items : List String) → items.eraseDups.Nodup
  | [] => by simp
  | item :: rest => by
    rw [List.eraseDups_cons, List.nodup_cons]
    exact ⟨by simp [List.mem_eraseDups], nodupEraseDups _⟩
termination_by items => items.length
decreasing_by
  have shorter := List.length_filter_le (fun other => !other == item) rest
  simp only [List.length_cons]
  omega

theorem memSubscribers (r : Registry) (channel : Channel) (session : String) :
    session ∈ r.subscribers channel ↔
      ∃ entry ∈ r.subscriptions, entry.2.channel.covers channel = true ∧
        session ∈ entry.2.sessions := by
  simp only [subscribers, List.mem_eraseDups, List.mem_flatMap, List.mem_filter, and_assoc]

theorem subscribersExact {r : Registry} (indexed : Indexed r) (channel : Channel)
    (session : String) : session ∈ r.subscribers channel ↔ r.SubscribedTo session channel := by
  rw [memSubscribers]
  constructor
  · rintro ⟨⟨pattern, s⟩, inside, covers, member⟩
    exact ⟨pattern, s, Table.getOfMem indexed.subscriptions.distinct inside, member, covers⟩
  · rintro ⟨pattern, s, found, member, covers⟩
    exact ⟨(pattern, s), Table.memOfGet found, covers, member⟩

theorem isSubscribedExact {r : Registry} (indexed : Indexed r) (session : String)
    (channel : Channel) :
    r.isSubscribed session channel = true ↔ r.SubscribedTo session channel := by
  simp only [isSubscribed, List.any_eq_true]
  constructor
  · rintro ⟨pattern, held, covers⟩
    obtain ⟨s, found, member⟩ := memMembersIn.mp ((indexed.inverse session pattern).mpr held)
    rw [found] at covers
    exact ⟨pattern, s, found, member, covers⟩
  · rintro ⟨pattern, s, found, member, covers⟩
    refine ⟨pattern, (indexed.inverse session pattern).mp ?_, ?_⟩
    · exact memMembersIn.mpr ⟨s, found, member⟩
    · rw [found]
      exact covers

theorem shuffledSubscribers {r other : Registry} (shuffled : Shuffled r other)
    (channel : Channel) : (r.subscribers channel).Perm (other.subscribers channel) := by
  refine (List.perm_ext_iff_of_nodup (nodupEraseDups _) (nodupEraseDups _)).mpr fun session => ?_
  obtain ⟨middle, pairwise, perm⟩ := shuffled.subscriptions
  rw [← subscribers, ← subscribers, memSubscribers, memSubscribers]
  simp only [← perm.mem_iff]
  clear perm shuffled
  generalize r.subscriptions = entries at pairwise
  induction pairwise with
  | nil => rfl
  | cons same _ ih =>
    obtain ⟨_, channels, sessions⟩ := same
    simp only [List.mem_cons, exists_eq_or_imp, channels, sessions.mem_iff, ih]

theorem shuffledRegistered {r other : Registry} (shuffled : Shuffled r other) (session : String) :
    other.isRegistered session = r.isRegistered session := by
  unfold isRegistered
  exact decide_eq_decide.mpr shuffled.sessions.mem_iff.symm

end Registry

namespace Server
variable {σ : Type}

theorem sessionDeliver (s : Server σ) (id other : String) (p : Packet) :
    (s.deliver id p).2.session? other =
      if other = id then (s.session? id).map fun x => (x.deliver p).2 else s.session? other :=
  sessionOnSession s id other false _

def takes (s : Server σ) (p : Packet) (id : String) : Bool :=
  match s.session? id with
  | some x => (x.deliver p).1
  | none => false

theorem takesDeliver (s : Server σ) (id : String) (p : Packet) :
    (s.deliver id p).1 = s.takes p id := by
  unfold deliver onSession takes
  cases s.session? id <;> rfl

theorem offerAllFrame (p : Packet) (ids : List String) (s : Server σ) :
    (offerAll p ids s).2 = { s with sessions := (offerAll p ids s).2.sessions } := by
  induction ids generalizing s with
  | nil => rfl
  | cons id rest ih =>
    simp only [offerAll]
    split
    · have frame := onSessionFrame s id false fun session => session.deliver p
      have inner := ih (s.deliver id p).2
      unfold deliver at inner ⊢
      rw [frame] at inner ⊢
      exact inner
    · exact ih s

theorem keysOfferAll (p : Packet) (ids : List String) (s : Server σ) :
    Table.keys (offerAll p ids s).2.sessions = Table.keys s.sessions := by
  induction ids generalizing s with
  | nil => rfl
  | cons id rest ih =>
    simp only [offerAll]
    split
    · exact (ih _).trans (keysOnSession s id false _)
    · exact ih s

theorem sessionOfferAll (p : Packet) {ids : List String} (once : ids.Nodup) (s : Server σ)
    (other : String) :
    (offerAll p ids s).2.session? other =
      if other ∈ ids ∧ s.registry.isRegistered other = true then
        (s.session? other).map fun x => (x.deliver p).2
      else s.session? other := by
  induction ids generalizing s with
  | nil => simp [offerAll]
  | cons id rest ih =>
    obtain ⟨fresh, once⟩ := List.nodup_cons.mp once
    simp only [offerAll]
    split
    · rename_i registered
      simp only [ih once, registryDeliver, sessionDeliver]
      by_cases h : other = id
      · simp [h, fresh, registered]
      · simp [h]
    · rename_i absent
      rw [ih once]
      by_cases h : other = id
      · simp [h, absent]
      · simp [h]

theorem takesOther (s : Server σ) {a b : String} (p : Packet) (different : b ≠ a) :
    (s.deliver a p).2.takes p b = s.takes p b := by
  simp only [takes, sessionDeliver, if_neg different]

theorem countOfferAll (p : Packet) {ids : List String} (once : ids.Nodup) (s : Server σ) :
    (offerAll p ids s).1 =
      (ids.filter fun id => s.registry.isRegistered id && s.takes p id).length := by
  induction ids generalizing s with
  | nil => rfl
  | cons id rest ih =>
    obtain ⟨fresh, once⟩ := List.nodup_cons.mp once
    have others : ∀ other ∈ rest, (s.deliver id p).2.takes p other = s.takes p other :=
      fun other inside => takesOther s p fun same => fresh (same ▸ inside)
    simp only [offerAll]
    split
    · rename_i registered
      have same : (rest.filter fun other =>
          s.registry.isRegistered other && (s.deliver id p).2.takes p other) =
          rest.filter fun other => s.registry.isRegistered other && s.takes p other :=
        List.filter_congr fun other inside => by rw [others other inside]
      simp only [ih once, registryDeliver, takesDeliver, same, List.filter_cons, registered,
        Bool.true_and]
      split <;> simp
    · rename_i absent
      simp [ih once, absent]

/- Two neighbours may change places: two sessions are two entries of the table. -/
theorem deliverComm (s : Server σ) {a b : String} (p : Packet) (different : a ≠ b) :
    ((s.deliver a p).2.deliver b p).2 = ((s.deliver b p).2.deliver a p).2 := by
  have onA := sessionDeliver s b a p
  have onB := sessionDeliver s a b p
  rw [if_neg different] at onA
  rw [if_neg different.symm] at onB
  unfold deliver onSession at *
  cases foundA : s.session? a with
  | none =>
    cases foundB : s.session? b with
    | none => simp [foundA]
    | some y => simp_all
  | some x =>
    cases foundB : s.session? b with
    | none => simp_all
    | some y =>
      simp only [foundA, foundB] at onA onB ⊢
      simp only [onA, onB]
      have hereA := (Table.isSomeIff s.sessions a).mp (Option.isSome_of_eq_some foundA)
      have hereB := (Table.isSomeIff s.sessions b).mp (Option.isSome_of_eq_some foundB)
      simp only [setSession]
      rw [Table.putComm _ _ different hereA hereB]

theorem offerAllSwap (p : Packet) (a b : String) (rest : List String) (s : Server σ) :
    offerAll p (a :: b :: rest) s = offerAll p (b :: a :: rest) s := by
  by_cases same : a = b
  · rw [same]
  · simp only [offerAll, registryDeliver]
    cases s.registry.isRegistered a <;> cases s.registry.isRegistered b
    · rfl
    · rfl
    · rfl
    · simp only [if_true, takesDeliver, takesOther s p same, takesOther s p (Ne.symm same),
        deliverComm s p same]
      cases s.takes p a <;> cases s.takes p b <;> rfl

theorem offerAllPerm (p : Packet) {ids others : List String} (perm : ids.Perm others)
    (s : Server σ) : offerAll p ids s = offerAll p others s := by
  induction perm generalizing s with
  | nil => rfl
  | cons id _ ih => simp only [offerAll, ih]
  | swap a b rest => exact offerAllSwap p b a rest s
  | trans _ _ left right => exact (left s).trans (right s)

def withRegistry (s : Server σ) (r : Registry) : Server σ := { s with registry := r }

theorem deliverWithRegistry (s : Server σ) (r : Registry) (id : String) (p : Packet) :
    (s.withRegistry r).deliver id p =
      ((s.deliver id p).1, (s.deliver id p).2.withRegistry r) := by
  unfold deliver onSession
  change (match s.session? id with | some _ => _ | none => _) = _
  cases s.session? id <;> rfl

theorem offerAllWithRegistry (p : Packet) (ids : List String) {r : Registry} (s : Server σ)
    (same : ∀ id, r.isRegistered id = s.registry.isRegistered id) :
    offerAll p ids (s.withRegistry r) =
      ((offerAll p ids s).1, (offerAll p ids s).2.withRegistry r) := by
  induction ids generalizing s with
  | nil => rfl
  | cons id rest ih =>
    have inner := ih (s.deliver id p).2 fun other => by rw [registryDeliver, same]
    have here : (s.withRegistry r).registry.isRegistered id = s.registry.isRegistered id := same id
    simp only [offerAll, here, deliverWithRegistry, inner, ih s same]
    split <;> rfl

theorem recipientsShuffled {s : Server σ} {r : Registry} (shuffled : s.registry.Shuffled r)
    (sender? : Option String) (route : Channel) :
    (s.recipients sender? route).Perm ((s.withRegistry r).recipients sender? route) :=
  (Registry.shuffledSubscribers shuffled route).filter _

theorem publishShuffled {s : Server σ} {r : Registry} (shuffled : s.registry.Shuffled r)
    (sender? : Option String) (p : Packet) :
    (s.withRegistry r).publish sender? p =
      ((s.publish sender? p).1, (s.publish sender? p).2.withRegistry r) := by
  unfold publish fanOut
  cases p.route? with
  | none => rfl
  | some route =>
    have registered := Registry.shuffledRegistered shuffled
    simp only [← offerAllPerm p.freeze (recipientsShuffled shuffled sender? route),
      offerAllWithRegistry p.freeze _ s registered]
    rfl

/-- Registered, not the sender, and with a covering subscription. -/
def Recipient (s : Server σ) (sender? : Option String) (route : Channel) (id : String) : Prop :=
  id ∈ s.registry.sessions ∧ some id ≠ sender? ∧ s.registry.SubscribedTo id route

def waitingFor (s : Server σ) (id : String) : Nat :=
  match s.session? id with
  | some session => session.deliveries.waiting.length
  | none => 0

structure FansOut (s : Server σ) (sender? : Option String) (route : Channel) (p : Packet)
    (count : Nat) (after : Server σ) : Prop where
  recipients : ∀ id session, s.Recipient sender? route id → s.session? id = some session →
    ∃ deliveries, after.session? id = some { session with deliveries } ∧
      session.deliveries.Offered deliveries p.freeze
  others : ∀ id, ¬s.Recipient sender? route id → after.session? id = s.session? id
  ids : Table.keys after.sessions = Table.keys s.sessions
  frame : after = { s with sessions := after.sessions, notices := after.notices }
  encoding : p.freeze.text = p.text ∧ p.freeze.type = p.type ∧ p.freeze.sender? = p.sender? ∧
    p.freeze.route? = p.route?
  grown : ∃ ids : Finset String, (∀ id, id ∈ ids ↔ s.waitingFor id < after.waitingFor id) ∧
    count = ids.card
  anyOrderOfRecipients : ∀ ids, ids.Perm (s.recipients sender? route) →
    (count, after) = (let done := offerAll p.freeze ids s
      (done.1, done.2.note (.published (some route.path) done.1)))
  anyOrderOfRegistry : ∀ r, s.registry.Shuffled r →
    (s.withRegistry r).publish sender? p = (count, after.withRegistry r)

theorem memRecipients {s : Server σ} (indexed : s.registry.Indexed) (sender? : Option String)
    (route : Channel) (id : String) :
    (id ∈ s.recipients sender? route ∧ s.registry.isRegistered id = true) ↔
      s.Recipient sender? route id := by
  simp only [recipients, List.mem_filter, Registry.subscribersExact indexed, bne_iff_ne,
    Registry.isRegistered, decide_eq_true_eq, Recipient]
  tauto

theorem waitingGrows {s after : Server σ} {p : Packet} {id : String} {offered : Prop}
    [Decidable offered]
    (step : after.session? id =
      if offered then (s.session? id).map fun x => (x.deliver p).2 else s.session? id) :
    s.waitingFor id < after.waitingFor id ↔ offered ∧ s.takes p id = true := by
  unfold waitingFor takes
  rw [step]
  by_cases h : offered
  · simp only [h, true_and]
    cases s.session? id with
    | none => simp
    | some x => exact Queue.offerGrows x.deliveries p
  · simp [h]

theorem fansOut {s : Server σ} (indexed : s.registry.Indexed) (sender? : Option String)
    {route : Channel} {p : Packet} (routed : p.route? = some route) :
    s.FansOut sender? route p (s.publish sender? p).1 (s.publish sender? p).2 := by
  have once : (s.recipients sender? route).Nodup := (Registry.nodupEraseDups _).filter _
  have done : s.publish sender? p =
      ((offerAll p.freeze (s.recipients sender? route) s).1,
        (offerAll p.freeze (s.recipients sender? route) s).2.note
          (.published (some route.path) (offerAll p.freeze (s.recipients sender? route) s).1)) := by
    simp only [publish, fanOut, routed, Option.map_some]
  have session := sessionOfferAll p.freeze once s
  refine ⟨?_, ?_, ?_, ?_, ⟨Packet.freezeText p, rfl, rfl, rfl⟩, ?_, ?_,
    fun r shuffled => publishShuffled shuffled sender? p⟩
  · intro id x recipient found
    have after := session id
    rw [if_pos ((memRecipients indexed sender? route id).mpr recipient), found] at after
    rw [done]
    exact ⟨_, after, x.deliveries.offered p.freeze⟩
  · intro id other
    have after := session id
    rw [if_neg fun inside => other ((memRecipients indexed sender? route id).mp inside)] at after
    rw [done]
    exact after
  · rw [done]
    exact keysOfferAll p.freeze _ s
  · rw [done]
    simp only [note]
    rw [offerAllFrame]
  · refine ⟨((s.recipients sender? route).filter fun id =>
      s.registry.isRegistered id && s.takes p.freeze id).toFinset, fun id => ?_, ?_⟩
    · have grows := waitingGrows (session id)
      rw [done]
      refine Iff.trans ?_ grows.symm
      simp [and_assoc]
    · rw [List.toFinset_card_of_nodup (once.filter _), done]
      exact countOfferAll p.freeze once s
  · intro ids perm
    rw [offerAllPerm p.freeze perm, done]

/- In whatever way the registry came about. -/
theorem publishExact {τ : Type} {s : Server σ} (memory : τ) (calls : List Call)
    (reached : s.registry = ((start memory).receiveAll calls).registry)
    (sender? : Option String) (p : Packet) :
    (∀ route, p.route? = some route →
        s.FansOut sender? route p (s.publish sender? p).1 (s.publish sender? p).2) ∧
      (p.route? = none → (s.publish sender? p).1 = 0 ∧
        (s.publish sender? p).2 = { s with notices := (s.publish sender? p).2.notices }) ∧
      ∀ id channel, s.isSubscribed id channel = true ↔ id ∈ s.registry.subscribers channel := by
  have indexed : s.registry.Indexed := reached ▸ receiveAllIndexed (startIndexed memory) calls
  refine ⟨fun route routed => fansOut indexed sender? routed, fun unrouted => ?_,
    fun id channel => ?_⟩
  · have nothing : s.publish sender? p = (0, s.note (.published none 0)) := by
      simp only [publish, fanOut, unrouted, Option.map_none]
    rw [nothing]
    exact ⟨rfl, rfl⟩
  · rw [Registry.subscribersExact indexed]
    exact Registry.isSubscribedExact indexed id channel

/- Two patterns of one session cover the channel, and the other session is the sender. -/
theorem publishExactOverlapping :
    let room : Channel := ⟨"/a", by decide⟩
    let all : Channel := ⟨"/*", by decide⟩
    let calls : List Call := [.added "x", .added "y", .subscribed "x" room, .subscribed "x" all,
      .subscribed "y" room]
    let s : Server Unit := (((start ()).setSession "x" (.opened "x" "local" true 1)).setSession "y"
      (.opened "y" "local" true 1)).receiveAll calls
    let p := (Packet.empty .delivery).withRoute room
    s.registry = ((start ()).receiveAll calls).registry ∧
      s.FansOut (some "y") room p (s.publish (some "y") p).1 (s.publish (some "y") p).2 ∧
      (s.publish (some "y") p).1 = 1 := by
  intro room all calls s p
  have reached : s.registry = ((start ()).receiveAll calls).registry := rfl
  exact ⟨reached, (publishExact () calls reached (some "y") p).1 room rfl, by decide⟩

end Server
end Bayeux
