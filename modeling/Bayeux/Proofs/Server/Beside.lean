import Bayeux.Proofs.Registry.FanOut
import Bayeux.Proofs.Server.Announcements
import Bayeux.Proofs.Server.Changes
/-! Two servers side by side that differ only in what one session is apart from its state. What a
request of that session does to them leaves them side by side. A session that is also taken
off the list has nothing more to lose in the indexes. -/

namespace Bayeux

theorem Registry.unsubscribeAllTwice {r : Registry} (distinct : r.channels.Distinct)
    (session : String) :
    (r.unsubscribeAll session).unsubscribeAll session = r.unsubscribeAll session := by
  have none : (r.unsubscribeAll session).channels.get? session = none :=
    Table.getRemoveSame distinct session
  have patterns := patternsUnsubscribeAll distinct session
  generalize r.unsubscribeAll session = left at none patterns
  simp only [unsubscribeAll, patterns, List.foldl_nil, Table.removeAbsent none]

namespace Server
variable {σ : Type} {id : String} {s t : Server σ}

theorem stateTransition {before : SessionState} (s : Server σ) (id : String)
    (after : SessionState) (alive : before ≠ .disconnected) :
    (s.transition id before after).2.stateOf id =
      if s.stateOf id = before then after else s.stateOf id := by
  have session := sessionOnSession s id id false fun x => x.transition before after
  rw [if_pos rfl] at session
  obtain missing | ⟨x, found⟩ := Option.eq_none_or_eq_some (s.session? id)
  · simp [stateOf, transition, session, missing, Ne.symm alive]
  · simp only [stateOf, transition, session, found, Option.map_some]
    unfold Session.transition
    split <;> rfl

theorem sessionPublish (s : Server σ) (sender? : Option String) {p : Packet} {route : Channel}
    (routed : p.route? = some route) (other : String) :
    (s.publish sender? p).2.session? other =
      if other ∈ s.recipients sender? route ∧ s.registry.isRegistered other = true then
        (s.session? other).map fun x => (x.deliver p.freeze).2
      else s.session? other := by
  have once : (s.recipients sender? route).Nodup := (Registry.nodupEraseDups _).filter _
  rw [← sessionOfferAll p.freeze once]
  simp only [publish, fanOut, routed]
  rfl

theorem sessionSender (s : Server σ) {p : Packet} {route : Channel}
    (routed : p.route? = some route) :
    (s.publish (some id) p).2.session? id = s.session? id := by
  rw [sessionPublish s (some id) routed, if_neg]
  simp [recipients]

structure Beside (id : String) (s t : Server σ) : Prop where
  distinct : s.registry.channels.Distinct
  registry : t.registry = s.registry
  state : t.stateOf id = s.stateOf id
  others : ∀ other, other ≠ id → t.session? other = s.session? other

theorem besideAside (beside : Beside id s t) (clock clock' : Nat) (memory memory' : σ)
    (notices notices' : List Notice) :
    Beside id { s with clock, memory, notices }
      { t with clock := clock', memory := memory', notices := notices' } :=
  ⟨beside.distinct, beside.registry, beside.state, beside.others⟩

theorem besideSubscribed (beside : Beside id s t) (channel : Channel) :
    t.isSubscribed id channel = s.isSubscribed id channel := by
  simp only [isSubscribed, beside.registry]

theorem besidePublish (beside : Beside id s t) {p : Packet} {route : Channel}
    (routed : p.route? = some route) :
    Beside id (s.publish (some id) p).2 (t.publish (some id) p).2 where
  distinct := by
    rw [registryPublish]
    exact beside.distinct
  registry := by rw [registryPublish, registryPublish, beside.registry]
  state := by
    have own := beside.state
    simpa only [stateOf, sessionSender _ routed] using own
  others other different := by
    have recipients : t.recipients (some id) route = s.recipients (some id) route := by
      simp only [recipients, beside.registry]
    rw [sessionPublish _ _ routed, sessionPublish _ _ routed, recipients, beside.registry,
      beside.others other different]

theorem besideOnRegistry (beside : Beside id s t) (act : Registry → Registry)
    (keeps : ∀ r : Registry, r.channels.Distinct → (act r).channels.Distinct) (notice : Notice) :
    Beside id ((s.note notice).onRegistry act) ((t.note notice).onRegistry act) :=
  ⟨keeps _ beside.distinct, congrArg act beside.registry, beside.state, beside.others⟩

theorem besideOnSession (beside : Beside id s t) {β : Type} (missing : β)
    (act : Session → β × Session)
    (state : (t.onSession id missing act).2.stateOf id =
      (s.onSession id missing act).2.stateOf id) :
    Beside id (s.onSession id missing act).2 (t.onSession id missing act).2 where
  distinct := by
    rw [onSessionFrame]
    exact beside.distinct
  registry := by
    rw [onSessionFrame t, onSessionFrame s]
    exact beside.registry
  state := state
  others other different := by
    rw [sessionOnSession, sessionOnSession, if_neg different, if_neg different]
    exact beside.others other different

theorem besideChange {change : Server σ → Server σ} (does : Change id change)
    (beside : Beside id s t) : Beside id (change s) (change t) := by
  induction does generalizing s t with
  | nothing => exact beside
  | moved after alive =>
    refine besideOnSession beside false _ ?_
    have moved := fun u : Server σ => stateTransition u id after alive
    simp only [transition] at moved
    rw [moved, moved, beside.state]
  | published c => exact besidePublish beside rfl
  | connected transport => exact { beside with }
  | subscribed channel =>
    exact besideOnRegistry beside _ (fun r distinct => Table.distinctPut distinct _ _) _
  | unsubscribed channel =>
    refine besideOnRegistry beside _ (fun r distinct => ?_) _
    unfold Registry.unsubscribe
    simp only
    split
    · exact Table.distinctRemove distinct _
    · exact Table.distinctPut distinct _ _
  | followed one other left right => exact right (left beside)

theorem besideParted (beside : Beside id s t) (channel : Channel) :
    Beside id (Router.applyDisconnect id channel s) (Router.applyDisconnect id channel t) := by
  have marked : Beside id (s.markDisconnected id) (t.markDisconnected id) := by
    refine besideOnSession beside false _ ?_
    exact (stateMarked t id).trans (stateMarked s id).symm
  exact besideOnRegistry marked (·.unsubscribeAll id)
    (fun r distinct => Table.distinctRemove distinct id) _

/-- What is left to see of a request: the state of the session, who is subscribed to what, and
the other sessions with their queues. -/
structure Matches (id : String) (s t : Server σ) : Prop where
  state : t.stateOf id = s.stateOf id
  subscriptions : t.registry.subscriptions = s.registry.subscriptions
  channels : t.registry.channels = s.registry.channels
  others : ∀ other, other ≠ id → t.session? other = s.session? other

theorem matchesBeside (beside : Beside id s t) : Matches id s t :=
  ⟨beside.state, congrArg Registry.subscriptions beside.registry,
    congrArg Registry.channels beside.registry, beside.others⟩

end Server
end Bayeux
