import Bayeux.Proofs.Request.Reading
import Bayeux.Proofs.Server.Effects
/-! Requests and their replies. Whatever becomes of a request that can be read, its answer begins
with one reply that a client can match with it; behind a publish there may be the publisher's
own copy. Only channels of services are left without a reply. -/

namespace Bayeux

namespace Standard
variable {σ : Type} {settings : Settings} {transports : List String} {id : String} {c : Context}

/-- One reply, and nothing else. -/
def Replies (c : Context) (done : Processed) : Prop :=
  ∃ verdict reply, done.packets = [.single .response reply] ∧
    Reply.Correlates c.channel.path c.message verdict reply

theorem handshakeReplies (settings : Settings) (transports : List String) (id : String)
    (c : Context) (r : HandshakeRequest) (s : Server σ) :
    Replies c (handshake settings transports id c r s).1 := by
  have failed := fun error advice => correlatesVersions settings transports
    (correlatesFailed c (some id) error (some advice))
  have accepted := Reply.correlatesPutAdvice (correlatesSucceeded c id) Reply.Advice.reconnect
    (.string Reply.Advice.retry)
  simp only [handshake, handshakeReply]
  split
  · exact ⟨false, _, rfl, failed _ _⟩
  · split
    · exact ⟨false, _, rfl, failed _ _⟩
    · exact ⟨true, _, rfl, correlatesVersions _ _ (correlatesAdvised settings accepted)⟩

theorem connectReplies (settings : Settings) (id : String) (c : Context) (r : ConnectRequest)
    (s : Server σ) : Replies c (connect settings id c r s).1 := by
  have failed := fun error => correlatesFailed c r.clientId error (some Reply.Advice.handshake)
  have accepted := correlatesAdvised settings (correlatesSucceeded c id)
  unfold connect
  split
  · exact ⟨false, _, rfl, failed _⟩
  · simp only
    split
    · split
      · exact ⟨false, _, rfl, failed _⟩
      · exact ⟨true, _, rfl, accepted⟩
    · exact ⟨true, _, rfl, accepted⟩

theorem disconnectReplies (id : String) (c : Context) : Replies c (disconnect id c) :=
  ⟨true, _, rfl, Reply.correlatesPutAdvice (correlatesSucceeded c id) _ _⟩

theorem subscriptionReplies (id : String) (c : Context) (r : SubscriptionRequest)
    (event : Channel → SessionEvent) (s : Server σ) :
    Replies c (subscriptionReply id c r event s) := by
  unfold subscriptionReply
  cases found : subscription id c r s with
  | error reply => exact ⟨false, reply, rfl, subscriptionRefused found⟩
  | ok channel => exact ⟨true, _, rfl, correlatesSubscription (correlatesSucceeded c id) _⟩

/-- The messages that a request is answered with. -/
inductive Answers (c : Context) : Request → List Message → Prop where
  | alone {request : Request} {verdict : Bool} {reply : Message}
      (correlates : Reply.Correlates c.channel.path c.message verdict reply) :
      Answers c request [reply]
  | echoed {r : PublishRequest} {reply : Message}
      (correlates : Reply.Correlates c.channel.path c.message true reply) :
      Answers c (.publish r) [reply, deliveryOf c]

theorem answersReplies {request : Request} {done : Processed} (replies : Replies c done) :
    Answers c request (done.packets.flatMap Packet.messages) := by
  obtain ⟨verdict, reply, packets, correlates⟩ := replies
  rw [packets]
  exact .alone correlates

theorem publishAnswers (id : String) (c : Context) (r : PublishRequest) (s : Server σ) :
    Answers c (.publish r) ((publish id c r s).1.packets.flatMap Packet.messages) := by
  unfold publish
  split
  · exact .alone (correlatesFailed _ _ _ _)
  · split
    · exact .alone (correlatesFailed _ _ _ _)
    · simp only [List.flatMap_singleton, Packet.mergeMessages, Packet.single]
      generalize Packet.qualifies _ = passes
      cases own : passes (deliveryOf c) with
      | true =>
        simp only [List.filter_cons, own]
        exact .echoed (correlatesSucceeded c id)
      | false =>
        simp only [List.filter_cons, own]
        exact .alone (correlatesSucceeded c id)

theorem processAnswers (settings : Settings) (transports : List String) (id : String)
    (c : Context) (request : Request) (s : Server σ) :
    ∃ done after, process settings transports id c request s = (.ok done, after) ∧
      Answers c request (done.packets.flatMap Packet.messages) := by
  refine ⟨_, _, rfl, ?_⟩
  cases request with
  | handshake r => exact answersReplies (handshakeReplies settings transports id c r s)
  | connect r => exact answersReplies (connectReplies settings id c r s)
  | disconnect r => exact answersReplies (disconnectReplies id c)
  | subscribe r => exact answersReplies (subscriptionReplies id c r _ s)
  | unsubscribe r => exact answersReplies (subscriptionReplies id c r _ s)
  | publish r => exact publishAnswers id c r s

end Standard

namespace Router
variable {σ : Type} {c : Context}

/-- What comes back for a message on a channel. Patterns below the root of the services are no
channels of services: they are refused like all other patterns. -/
inductive Answered (c : Context) : Except ProcessingError Routed → Prop where
  | undecodable {read : Message → Except ProcessingError Request} {fault : Decode.Fault}
      (reader : Request.reader? (Route.ofPath c.channel.path) = some read)
      (refused : read c.message = .error (.decode (c.message.channel?.getD "<none>") fault)) :
      Answered c (.error (.decode (c.message.channel?.getD "<none>") fault))
  | silent {routed : Routed} (service : Route.ofPath c.channel.path = .service)
      (nothing : routed.packets = []) : Answered c (.ok routed)
  | replied {routed : Routed} {verdict : Bool} {reply : Message} {echo : List Message}
      (served : Route.ofPath c.channel.path ≠ .service)
      (messages : routed.packets.flatMap Packet.messages = reply :: echo)
      (correlates : Reply.Correlates c.channel.path c.message verdict reply)
      (behind : echo = [] ∨ Route.ofPath c.channel.path = .publish ∧ verdict = true ∧
        echo = [Standard.deliveryOf c]) : Answered c (.ok routed)

theorem unprocessedAnswered (id : String)
    (closed : Request.reader? (Route.ofPath c.channel.path) = none) :
    Answered c (.ok (unprocessed (Route.ofPath c.channel.path) id c)) := by
  have refused : ∀ reason, refusal? (Route.ofPath c.channel.path) = some reason →
      Route.ofPath c.channel.path ≠ .service →
      Answered c (.ok (unprocessed (Route.ofPath c.channel.path) id c)) := by
    intro reason given served
    refine .replied served ?_ (Reply.correlatesRefusal _ reason _ (some id)) (.inl rfl)
    simp only [unprocessed, given]
    rfl
  cases route : Route.ofPath c.channel.path with
  | service => exact .silent route rfl
  | unknownMeta => exact route ▸ refused Reply.unknownMeta (by rw [route]; rfl) (by simp [route])
  | wildcardPublish =>
    exact route ▸ refused Reply.wildcardPublish (by rw [route]; rfl) (by simp [route])
  | handshake | connect | disconnect | subscribe | unsubscribe | publish =>
    rw [route] at closed
    cases closed

theorem answered (settings : Standard.Settings) (transports : List String) (id : String)
    (c : Context) (s : Server σ) :
    Answered c (respond (Standard.process settings) transports id c s).1 := by
  obtain ⟨result, after, outcome, handled⟩ := handled (Standard.process settings) transports id c s
  rw [outcome]
  cases handled with
  | unprocessed closed => exact unprocessedAnswered id closed
  | undecodable reader fault =>
    obtain ⟨why, rfl⟩ := Request.readRefused reader fault
    exact .undecodable reader fault
  | @failed request e after read answer =>
    obtain ⟨done, other, processed, -⟩ :=
      Standard.processAnswers settings transports id c request s
    cases answer.symm.trans processed
  | @answered request done after read answer =>
    obtain ⟨other, reached, processed, answers⟩ :=
      Standard.processAnswers settings transports id c request s
    cases answer.symm.trans processed
    have served : Route.ofPath c.channel.path ≠ .service := fun service => by
      rw [service] at read
      cases read
    generalize messages : done.packets.flatMap Packet.messages = all at answers
    cases answers with
    | alone correlates => exact .replied served messages correlates (.inl rfl)
    | echoed correlates =>
      have publish : Route.ofPath c.channel.path = .publish := by
        generalize Route.ofPath c.channel.path = route at read ⊢
        cases read
        rfl
      exact .replied served messages correlates (.inr ⟨publish, rfl, rfl⟩)

end Router
end Bayeux
