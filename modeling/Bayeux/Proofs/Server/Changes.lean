import Bayeux.Proofs.Registry.History
import Bayeux.Proofs.Server.Effects
import Bayeux.Proofs.Server.Routes
/-! Requests side by side. How a message is answered, and what change it makes, is decided by the
message, the state of its session and whether that is subscribed to the channel; the transport
counts in a handshake and in a connect. Two servers that agree on these give one answer and
go through one change, and what else they hold makes no difference. -/

namespace Bayeux

namespace Server
variable {σ : Type}

/-- A published message on its way to the others. -/
def deliveryFrom (id : String) (c : Context) : Packet :=
  ((Packet.single .delivery (Standard.deliveryOf c)).withSender id).withRoute c.channel

inductive Change (id : String) : (Server σ → Server σ) → Prop where
  | nothing : Change id fun s => s
  | moved {before : SessionState} (after : SessionState) (alive : before ≠ .disconnected) :
      Change id fun s => (s.transition id before after).2
  | published (c : Context) : Change id fun s => (s.publish (some id) (deliveryFrom id c)).2
  | connected (transport : String) : Change id fun s => s.connected id transport
  | subscribed (channel : Channel) : Change id fun s => s.subscribed id channel
  | unsubscribed (channel : Channel) : Change id fun s => s.unsubscribed id channel
  | followed {first second : Server σ → Server σ} (one : Change id first)
      (other : Change id second) : Change id fun s => second (first s)

/- A change works on sessions, on the registry and on what was told. -/
theorem changeRelated {R : Server σ → Server σ → Prop} (refl : ∀ s, R s s)
    (trans : ∀ {s t u}, R s t → R t u → R s u)
    (worked : ∀ s id (missing : Bool) act, R s (s.onSession id missing act).2)
    (aside : ∀ (s : Server σ) registry notices, R s { s with registry, notices }) {id : String}
    {change : Server σ → Server σ} (does : Change id change) (s : Server σ) : R s (change s) := by
  induction does generalizing s with
  | nothing => exact refl s
  | moved after alive => exact worked s id false _
  | published c =>
    exact publishKeeps refl trans (fun s other p => worked s other false _)
      (fun s _ _ => aside s s.registry _) s _ _
  | connected transport => exact aside s s.registry _
  | subscribed channel | unsubscribed channel => exact aside s _ _
  | followed one other first second => exact trans (first s) (second _)

/-- Two runs of one kind, the same answer and the same change. -/
def InStep {α : Type} (id : String) (s t : Server σ) (left right : α × Server σ) : Prop :=
  ∃ answer change, Change id change ∧ left = (answer, change s) ∧ right = (answer, change t)

theorem inStepStill {α : Type} {id : String} {s t : Server σ} (answer : α) :
    InStep id s t (answer, s) (answer, t) :=
  ⟨answer, fun s => s, .nothing, rfl, rfl⟩

end Server

namespace Standard
variable {σ : Type} {settings : Settings} {transports : List String} {id : String} {c d : Context}
  {s t : Server σ}

theorem handshakeInStep (request : c.channel = d.channel ∧ c.message = d.message)
    (state : t.stateOf id = s.stateOf id) (r : HandshakeRequest) :
    Server.InStep id s t (handshake settings transports id c r s)
      (handshake settings transports id d r t) := by
  obtain ⟨transport, peer, channel, m⟩ := c
  obtain ⟨transport', peer', channel', m'⟩ := d
  obtain ⟨rfl, rfl⟩ := request
  simp only [handshake, handshakeReply, state]
  by_cases done : s.stateOf id ≠ .initialized
  · simp only [if_pos done]
    exact Server.inStepStill _
  · simp only [if_neg done]
    by_cases strange : (!r.supportedConnectionTypes.any transports.contains) = true
    · simp only [if_pos strange]
      exact Server.inStepStill _
    · simp only [if_neg strange]
      exact ⟨_, _, .moved .handshook (by decide), rfl, rfl⟩

theorem speaksSame (state : t.stateOf id = s.stateOf id) (clientId? : Option String) :
    speaksFor t id clientId? = speaksFor s id clientId? := by
  simp only [speaksFor, Server.isHandshook, state]

theorem connectInStep (request : c.channel = d.channel ∧ c.message = d.message)
    (carried : c.transport = d.transport) (state : t.stateOf id = s.stateOf id)
    (r : ConnectRequest) :
    Server.InStep id s t (connect settings id c r s) (connect settings id d r t) := by
  obtain ⟨transport, peer, channel, m⟩ := c
  obtain ⟨transport', peer', channel', m'⟩ := d
  obtain ⟨rfl, rfl⟩ := request
  obtain rfl := carried
  unfold connect
  rw [speaksSame state, state]
  simp only
  split
  · exact Server.inStepStill _
  · split
    · split
      · exact Server.inStepStill _
      · exact ⟨_, _, .moved .connected (by decide), rfl, rfl⟩
    · exact Server.inStepStill _

theorem subscriptionSame (request : c.channel = d.channel ∧ c.message = d.message)
    (state : t.stateOf id = s.stateOf id) (r : SubscriptionRequest)
    (event : Channel → SessionEvent) :
    subscriptionReply id d r event t = subscriptionReply id c r event s := by
  obtain ⟨transport, peer, channel, m⟩ := c
  obtain ⟨transport', peer', channel', m'⟩ := d
  obtain ⟨rfl, rfl⟩ := request
  have found : subscription id ⟨transport', peer', channel, m⟩ r t =
      subscription id ⟨transport, peer, channel, m⟩ r s := by
    unfold subscription
    rw [speaksSame state, state]
    rfl
  unfold subscriptionReply
  rw [found]
  rfl

/- The publisher is looked up behind the publish, which leaves the registry as it is. -/
theorem publishDone {r : PublishRequest} (speaks : speaksFor s id r.clientId = true)
    (connected : s.stateOf id = .connected) :
    publish id c r s = (⟨[(Packet.single .response (success c id)).merge
        (.single .response (deliveryOf c))
          (if s.isSubscribed id c.channel then none else some c.channel)], none⟩,
      (s.publish (some id) (Server.deliveryFrom id c)).2) := by
  have still : (s.publish (some id) (Server.deliveryFrom id c)).2.isSubscribed id c.channel =
      s.isSubscribed id c.channel := by
    rw [Server.isSubscribed, Server.registryPublish]
    rfl
  simp only [publish, speaks, connected, Bool.not_true, Bool.false_eq_true, if_false, ne_eq,
    not_true_eq_false, ← still]
  rfl

theorem publishInStep (request : c.channel = d.channel ∧ c.message = d.message)
    (state : t.stateOf id = s.stateOf id)
    (subscribed : t.isSubscribed id c.channel = s.isSubscribed id c.channel) (r : PublishRequest) :
    Server.InStep id s t (publish id c r s) (publish id d r t) := by
  obtain ⟨transport, peer, channel, m⟩ := c
  obtain ⟨transport', peer', channel', m'⟩ := d
  obtain ⟨rfl, rfl⟩ := request
  have alike := speaksSame state r.clientId
  cases speaks : speaksFor s id r.clientId with
  | false =>
    simp only [publish, alike, speaks, Bool.not_false, if_true]
    exact Server.inStepStill _
  | true =>
    by_cases connected : s.stateOf id = .connected
    · rw [publishDone speaks connected, publishDone (alike.trans speaks) (state.trans connected)]
      simp only [subscribed]
      exact ⟨_, _, .published ⟨transport, peer, channel, m⟩, rfl, rfl⟩
    · simp only [publish, alike, speaks, state, Bool.not_true, Bool.false_eq_true, if_false, ne_eq,
        if_pos connected]
      exact Server.inStepStill _

theorem processInStep (settings : Settings) (request : Request)
    (same : c.channel = d.channel ∧ c.message = d.message)
    {others : List String} (offered : ∀ r, request = .handshake r → transports = others)
    (carried : ∀ r, request = .connect r → c.transport = d.transport)
    (state : t.stateOf id = s.stateOf id)
    (subscribed : t.isSubscribed id c.channel = s.isSubscribed id c.channel) :
    Server.InStep id s t (process settings transports id c request s)
      (process settings others id d request t) := by
  have ready : ∀ {left right : Processed × Server σ}, Server.InStep id s t left right →
      Server.InStep (α := Except ProcessingError Processed) id s t (.ok left.1, left.2)
        (.ok right.1, right.2) := by
    rintro left right ⟨answer, change, does, rfl, rfl⟩
    exact ⟨_, change, does, rfl, rfl⟩
  cases request with
  | handshake r =>
    obtain rfl := offered r rfl
    exact ready (handshakeInStep same state r)
  | connect r => exact ready (connectInStep same (carried r rfl) state r)
  | disconnect r =>
    obtain ⟨transport, peer, channel, m⟩ := c
    obtain ⟨transport', peer', channel', m'⟩ := d
    obtain ⟨rfl, rfl⟩ := same
    exact Server.inStepStill _
  | subscribe r =>
    simp only [process, subscriptionSame same state r]
    exact Server.inStepStill _
  | unsubscribe r =>
    simp only [process, subscriptionSame same state r]
    exact Server.inStepStill _
  | publish r => exact ready (publishInStep same state subscribed r)

end Standard

namespace Router
variable {σ : Type} {transports : List String} {id : String} {c d : Context} {s t : Server σ}

theorem notifyChange (id : String) (c : Context) (request : Request)
    (event? : Option SessionEvent) :
    Server.Change (σ := σ) id fun s => notify id c s request event? := by
  unfold notify
  split
  · exact .connected c.transport
  · exact .subscribed _
  · exact .unsubscribed _
  · exact .nothing

theorem notifySame {request : Request}
    (carried : ∀ r, request = .connect r → c.transport = d.transport)
    (event? : Option SessionEvent) (u : Server σ) :
    notify id d u request event? = notify id c u request event? := by
  cases event? with
  | none => rw [notifyNothing, notifyNothing]
  | some event =>
    cases request with
    | connect r => simp only [notify, carried r rfl]
    | _ => cases event <;> rfl

theorem respondInStep (settings : Standard.Settings) (transports others : List String)
    (id : String) (same : c.channel = d.channel ∧ c.message = d.message)
    (offered : Route.ofPath c.channel.path = .handshake → transports = others)
    (carried : Route.ofPath c.channel.path = .connect → c.transport = d.transport)
    (state : t.stateOf id = s.stateOf id)
    (subscribed : t.isSubscribed id c.channel = s.isSubscribed id c.channel) :
    Server.InStep id s t (respond (Standard.process settings) transports id c s)
      (respond (Standard.process settings) others id d t) := by
  unfold respond
  rw [← same.1, ← same.2]
  cases reader : Request.reader? (Route.ofPath c.channel.path) with
  | none =>
    have refused : unprocessed (Route.ofPath c.channel.path) id d =
        unprocessed (Route.ofPath c.channel.path) id c := by
      simp only [unprocessed, same]
    simp only [refused]
    exact Server.inStepStill _
  | some read =>
    simp only
    cases found : read c.message with
    | error e => exact Server.inStepStill _
    | ok request =>
      have asked := Request.readAs reader found
      generalize Route.ofPath c.channel.path = route at asked offered carried
      have shaken : ∀ r, request = .handshake r → transports = others := by
        rintro r rfl
        cases asked
        exact offered rfl
      have joined : ∀ r, request = .connect r → c.transport = d.transport := by
        rintro r rfl
        cases asked
        exact carried rfl
      obtain ⟨done, change, does, left, right⟩ := Standard.processInStep settings request
        same shaken joined state subscribed
      simp only [left, right]
      cases done with
      | error e => exact ⟨_, change, does, rfl, rfl⟩
      | ok done =>
        have leaving : disconnects d request done.event? = disconnects c request done.event? := by
          simp only [disconnects, same.1]
        simp only [notifySame joined, leaving]
        exact ⟨_, _, .followed does (notifyChange id c request done.event?), rfl, rfl⟩

theorem respondStandard {R : Server σ → Server σ → Prop} (refl : ∀ s, R s s)
    (trans : ∀ {s t u}, R s t → R t u → R s u)
    (worked : ∀ s id (missing : Bool) act, R s (s.onSession id missing act).2)
    (aside : ∀ (s : Server σ) registry notices, R s { s with registry, notices })
    (settings : Standard.Settings) (transports : List String) (id : String) (c : Context)
    (s : Server σ) : R s (respond (Standard.process settings) transports id c s).2 := by
  obtain ⟨answer, change, does, responded, -⟩ := respondInStep settings transports transports id
    (c := c) (s := s) ⟨rfl, rfl⟩ (fun _ => rfl) (fun _ => rfl) rfl rfl
  rw [responded]
  exact Server.changeRelated refl trans worked aside does s

end Router
end Bayeux
