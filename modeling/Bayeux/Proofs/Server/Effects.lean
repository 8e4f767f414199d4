import Bayeux.Proofs.Server.Dispatch
import Bayeux.Proofs.Server.Replies
/-! All that a request can do. The standard processors refuse a request and leave the server as it
is, or accept it in one of seven ways, each with the state it needs and the one change it
makes. Whatever else is said of requests is read off these cases. -/

namespace Bayeux

namespace Standard
variable {σ : Type} {transports : List String} {id : String} {c : Context} {s : Server σ}

inductive Effect (transports : List String) (id : String) (c : Context) (s : Server σ) :
    Request → Processed → Server σ → Prop where
  | refused {request : Request} {reply : Message} (failed : reply.Reports false) :
      Effect transports id c s request (.reply reply) s
  | handshook {r : HandshakeRequest} {reply : Message} (succeeded : reply.Reports true)
      (state : s.stateOf id = .initialized)
      (shared : ∃ transport ∈ r.supportedConnectionTypes, transport ∈ transports) :
      Effect transports id c s (.handshake r) (.reply reply)
        (s.transition id .initialized .handshook).2
  | connected {r : ConnectRequest} {reply : Message} (succeeded : reply.Reports true)
      (own : r.clientId = some id) (state : s.stateOf id = .handshook)
      (transport : r.connectionType = some c.transport) :
      Effect transports id c s (.connect r) ((Processed.reply reply).withEvent .connected)
        (s.transition id .handshook .connected).2
  | reconnected {r : ConnectRequest} {reply : Message} (succeeded : reply.Reports true)
      (own : r.clientId = some id) (state : s.stateOf id = .connected) :
      Effect transports id c s (.connect r) (.reply reply) s
  | leaving {r : DisconnectRequest} {reply : Message} (succeeded : reply.Reports true) :
      Effect transports id c s (.disconnect r) ((Processed.reply reply).withEvent .disconnected) s
  | subscribed {r : SubscriptionRequest} {reply : Message} {channel : Channel}
      (succeeded : reply.Reports true) (own : r.clientId = some id)
      (state : s.stateOf id = .connected) (asked : r.subscription = some channel.path) :
      Effect transports id c s (.subscribe r)
        ((Processed.reply reply).withEvent (.subscribed channel)) s
  | unsubscribed {r : SubscriptionRequest} {reply : Message} {channel : Channel}
      (succeeded : reply.Reports true) (own : r.clientId = some id)
      (state : s.stateOf id = .connected) (asked : r.subscription = some channel.path) :
      Effect transports id c s (.unsubscribe r)
        ((Processed.reply reply).withEvent (.unsubscribed channel)) s
  | published {r : PublishRequest} {packet p : Packet} {reply : Message} {echo : List Message}
      (succeeded : reply.Reports true) (own : r.clientId = some id)
      (state : s.stateOf id = .connected) (answer : packet.messages = reply :: echo)
      (routed : p.route? = some c.channel) :
      Effect transports id c s (.publish r) ⟨[packet], none⟩ (s.publish (some id) p).2

section
variable {path : String} {request reply : Message} {verdict : Bool}

theorem correlatesSucceeded (c : Context) (id : String) :
    Reply.Correlates c.channel.path c.message true (success c id) :=
  Reply.correlatesSuccess _ _ _

theorem correlatesFailed (c : Context) (clientId? : Option String) (error : String)
    (reconnect? : Option String) :
    Reply.Correlates c.channel.path c.message false (failure c clientId? error reconnect?) :=
  Reply.correlatesFailure _ _ _ _ _

theorem correlatesAdvised (settings : Settings)
    (correlates : Reply.Correlates path request verdict reply) :
    Reply.Correlates path request verdict (advised settings reply) :=
  Reply.correlatesPutAdvice (Reply.correlatesPutAdvice correlates _ _) _ _

theorem correlatesVersions (settings : Settings) (transports : List String)
    (correlates : Reply.Correlates path request verdict reply) :
    Reply.Correlates path request verdict (withVersions settings transports reply) := by
  have first := Reply.correlatesPut correlates (show Field.version ∉ Reply.correlated by decide)
    (.string settings.version.text)
  have second := Reply.correlatesPut first (show Field.minimumVersion ∉ _ by decide)
    (.string settings.minimumVersion.text)
  exact Reply.correlatesPut second (by decide) _

theorem correlatesSubscription (correlates : Reply.Correlates path request verdict reply)
    (subscription : String) :
    Reply.Correlates path request verdict (withSubscription reply subscription) :=
  Reply.correlatesPut correlates (by decide) _

end

theorem speaksForOf {clientId? : Option String} (speaks : speaksFor s id clientId? = true) :
    clientId? = some id ∧ (s.stateOf id = .handshook ∨ s.stateOf id = .connected) := by
  simpa [speaksFor, Server.isHandshook] using speaks

theorem handshakeEffect (settings : Settings) (r : HandshakeRequest) :
    Effect transports id c s (.handshake r) (handshake settings transports id c r s).1
      (handshake settings transports id c r s).2 := by
  simp only [handshake, handshakeReply]
  split
  · exact .refused (correlatesVersions _ _ (correlatesFailed _ _ _ _)).successful
  · rename_i state
    split
    · exact .refused (correlatesVersions _ _ (correlatesFailed _ _ _ _)).successful
    · rename_i shared
      have succeeded := Reply.correlatesPutAdvice (correlatesSucceeded c id)
        Reply.Advice.reconnect (.string Reply.Advice.retry)
      refine .handshook (correlatesVersions _ _ (correlatesAdvised settings succeeded)).successful
        (not_not.mp state) ?_
      simpa using shared

theorem connectEffect (settings : Settings) (r : ConnectRequest) :
    Effect transports id c s (.connect r) (connect settings id c r s).1
      (connect settings id c r s).2 := by
  unfold connect
  split
  · exact .refused (correlatesFailed _ _ _ _).successful
  · rename_i speaks
    obtain ⟨own, alive⟩ := speaksForOf (by simpa using speaks)
    have succeeded := (correlatesAdvised settings (correlatesSucceeded c id)).successful
    simp only
    split
    · rename_i state
      split
      · exact .refused (correlatesFailed _ _ _ _).successful
      · rename_i transport
        exact .connected succeeded own state (not_not.mp transport)
    · rename_i state
      exact .reconnected succeeded own (alive.resolve_left state)

theorem subscriptionFound {r : SubscriptionRequest} {channel : Channel}
    (found : subscription id c r s = .ok channel) :
    r.clientId = some id ∧ s.stateOf id = .connected ∧ r.subscription = some channel.path := by
  unfold subscription at found
  cases asked : r.subscription with
  | none => simp [asked] at found
  | some path =>
    simp only [asked] at found
    split at found
    · cases found
    · rename_i speaks
      split at found
      · cases found
      · rename_i state
        split at found
        · cases found
        · cases resolved : Channel.resolve path with
          | error e => simp [resolved] at found
          | ok resolvedChannel =>
            simp only [resolved, Except.ok.injEq] at found
            subst found
            have path := Channel.parseOk (Channel.resolveOk.mp resolved)
            exact ⟨(speaksForOf (by simpa using speaks)).1, not_not.mp state, by rw [path]⟩

theorem subscriptionRefused {r : SubscriptionRequest} {reply : Message}
    (found : subscription id c r s = .error reply) :
    Reply.Correlates c.channel.path c.message false reply := by
  have rejected := fun path error reconnect? =>
    correlatesSubscription (correlatesFailed c r.clientId error reconnect?) path
  unfold subscription at found
  cases asked : r.subscription with
  | none =>
    simp only [asked, Except.error.injEq] at found
    exact found ▸ correlatesFailed _ _ _ _
  | some path =>
    simp only [asked] at found
    split at found
    · exact Except.error.inj found ▸ rejected _ _ _
    · split at found
      · exact Except.error.inj found ▸ rejected _ _ _
      · split at found
        · exact Except.error.inj found ▸ rejected _ _ _
        · split at found
          · cases found
          · exact Except.error.inj found ▸ rejected _ _ _

theorem subscriptionReplyEffect (r : SubscriptionRequest) (event : Channel → SessionEvent)
    {request : Request}
    (accepted : ∀ {reply channel}, Message.Reports reply true → r.clientId = some id →
      s.stateOf id = .connected → r.subscription = some channel.path →
      Effect transports id c s request ((Processed.reply reply).withEvent (event channel)) s) :
    Effect transports id c s request (subscriptionReply id c r event s) s := by
  unfold subscriptionReply
  cases found : subscription id c r s with
  | error reply => exact .refused (subscriptionRefused found).successful
  | ok channel =>
    obtain ⟨own, state, asked⟩ := subscriptionFound found
    have succeeded := correlatesSubscription (correlatesSucceeded c id) channel.path
    exact accepted succeeded.successful own state asked

theorem publishEffect (r : PublishRequest) :
    Effect transports id c s (.publish r) (publish id c r s).1 (publish id c r s).2 := by
  unfold publish
  split
  · exact .refused (correlatesFailed _ _ _ _).successful
  · rename_i speaks
    split
    · exact .refused (correlatesFailed _ _ _ _).successful
    · rename_i state
      obtain ⟨own, -⟩ := speaksForOf (by simpa using speaks)
      exact .published (correlatesSucceeded c id).successful own (not_not.mp state)
        (Packet.mergeMessages _ _ _)
        (p := ((Packet.single .delivery (deliveryOf c)).withSender id).withRoute c.channel) rfl

theorem disconnectEffect (r : DisconnectRequest) :
    Effect transports id c s (.disconnect r) (disconnect id c) s :=
  .leaving (Reply.correlatesPutAdvice (correlatesSucceeded c id) _ _).successful

theorem processEffect (settings : Settings) (transports : List String) (id : String) (c : Context)
    (request : Request) (s : Server σ) :
    ∃ done after, process settings transports id c request s = (.ok done, after) ∧
      Effect transports id c s request done after := by
  refine ⟨_, _, rfl, ?_⟩
  cases request with
  | handshake r => exact handshakeEffect settings r
  | connect r => exact connectEffect settings r
  | disconnect r => exact disconnectEffect r
  | subscribe r => exact subscriptionReplyEffect r _ .subscribed
  | unsubscribe r => exact subscriptionReplyEffect r _ .unsubscribed
  | publish r => exact publishEffect r

end Standard

namespace Router
variable {σ : Type} {transports : List String} {id : String} {c : Context} {s : Server σ}

/-- What comes of routing a message with the standard processors. -/
inductive Routing (transports : List String) (id : String) (c : Context) (s : Server σ) :
    Except ProcessingError Routed → Server σ → Prop where
  | unprocessed :
      Routing transports id c s (.ok (unprocessed (Route.ofPath c.channel.path) id c)) s
  | undecodable (e : ProcessingError) : Routing transports id c s (.error e) s
  | processed {request : Request} {done : Processed} {after : Server σ}
      (read : Request.ReadAs c.message (Route.ofPath c.channel.path) request)
      (effect : Standard.Effect transports id c s request done after) :
      Routing transports id c s (.ok ⟨done.packets, disconnects c request done.event?⟩)
        (notify id c after request done.event?)

theorem routing (settings : Standard.Settings) (transports : List String) (id : String)
    (c : Context) (s : Server σ) :
    Routing transports id c s (respond (Standard.process settings) transports id c s).1
      (respond (Standard.process settings) transports id c s).2 := by
  obtain ⟨result, after, outcome, handled⟩ := handled (Standard.process settings) transports id c s
  rw [outcome]
  cases handled with
  | unprocessed closed => exact .unprocessed
  | undecodable reader fault => exact .undecodable _
  | @failed request e after read answer =>
    obtain ⟨done, other, processed, -⟩ :=
      Standard.processEffect settings transports id c request s
    cases answer.symm.trans processed
  | @answered request done after read answer =>
    obtain ⟨other, reached, processed, effect⟩ :=
      Standard.processEffect settings transports id c request s
    cases answer.symm.trans processed
    exact .processed read effect

end Router
end Bayeux
