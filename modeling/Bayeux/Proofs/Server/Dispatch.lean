import Bayeux.Router
/-! The way of one message through the router, whatever the processor. There are four: no request
belongs to its channel, the message does not read as one, the processor fails, or it answers.
What requests do to a server is read off these. -/

namespace Bayeux

inductive Request.ReadAs (m : Message) : Route → Request → Prop where
  | handshake {r} (read : HandshakeRequest.ofMessage m = .ok r) :
      ReadAs m .handshake (.handshake r)
  | connect {r} (read : ConnectRequest.ofMessage m = .ok r) : ReadAs m .connect (.connect r)
  | disconnect {r} (read : DisconnectRequest.ofMessage m = .ok r) :
      ReadAs m .disconnect (.disconnect r)
  | subscribe {r} (read : SubscriptionRequest.ofMessage m = .ok r) :
      ReadAs m .subscribe (.subscribe r)
  | unsubscribe {r} (read : SubscriptionRequest.ofMessage m = .ok r) :
      ReadAs m .unsubscribe (.unsubscribe r)
  | publish {r} (read : PublishRequest.ofMessage m = .ok r) : ReadAs m .publish (.publish r)

theorem Request.readAs {route : Route} {read : Message → Except ProcessingError Request}
    {m : Message} {request : Request} (reader : reader? route = some read)
    (found : read m = .ok request) : ReadAs m route request := by
  have opened : ∀ {α : Type} {made : α → Request} {x : Except ProcessingError α},
      x.map made = .ok request → ∃ r, x = .ok r ∧ made r = request := by
    intro α made x mapped
    cases x with
    | error e => cases mapped
    | ok r => exact ⟨r, rfl, Except.ok.inj mapped⟩
  cases route <;> cases reader <;> obtain ⟨r, read, rfl⟩ := opened found
  · exact .handshake read
  · exact .connect read
  · exact .disconnect read
  · exact .subscribe read
  · exact .unsubscribe read
  · exact .publish read

theorem Request.readerOf {route : Route} {m : Message} {request : Request}
    (read : ReadAs m route request) :
    ∃ reader, reader? route = some reader ∧ reader m = .ok request := by
  cases read with
  | handshake read | connect read | disconnect read | subscribe read | unsubscribe read
  | publish read => exact ⟨_, rfl, by rw [read]; rfl⟩

namespace Router
variable {σ : Type} {process : Processor σ} {transports : List String} {id : String} {c : Context}
  {s after : Server σ} {request : Request}

theorem notifyNothing (id : String) (c : Context) (s : Server σ) (request : Request) :
    notify id c s request none = s := by
  cases request <;> rfl

theorem disconnectsNothing (c : Context) (request : Request) :
    disconnects c request none = none := by
  cases request <;> rfl

/- One equation for each way. -/
theorem respondUnprocessed (closed : Request.reader? (Route.ofPath c.channel.path) = none) :
    respond process transports id c s =
      (.ok (unprocessed (Route.ofPath c.channel.path) id c), s) := by
  simp only [respond, closed]

theorem respondUndecodable {read : Message → Except ProcessingError Request} {e : ProcessingError}
    (reader : Request.reader? (Route.ofPath c.channel.path) = some read)
    (fault : read c.message = .error e) :
    respond process transports id c s = (.error e, s) := by
  simp only [respond, reader, fault]

theorem respondFailed {e : ProcessingError}
    (read : Request.ReadAs c.message (Route.ofPath c.channel.path) request)
    (answer : process transports id c request s = (.error e, after)) :
    respond process transports id c s = (.error e, after) := by
  obtain ⟨reader, found, ok⟩ := Request.readerOf read
  simp only [respond, found, ok, answer]

theorem respondAnswered {done : Processed}
    (read : Request.ReadAs c.message (Route.ofPath c.channel.path) request)
    (answer : process transports id c request s = (.ok done, after)) :
    respond process transports id c s =
      (.ok ⟨done.packets, disconnects c request done.event?⟩,
        notify id c after request done.event?) := by
  obtain ⟨reader, found, ok⟩ := Request.readerOf read
  simp only [respond, found, ok, answer]

inductive Handled (process : Processor σ) (transports : List String) (id : String) (c : Context)
    (s : Server σ) : Except ProcessingError Routed → Server σ → Prop where
  | unprocessed (closed : Request.reader? (Route.ofPath c.channel.path) = none) :
      Handled process transports id c s
        (.ok (unprocessed (Route.ofPath c.channel.path) id c)) s
  | undecodable {read : Message → Except ProcessingError Request} {e : ProcessingError}
      (reader : Request.reader? (Route.ofPath c.channel.path) = some read)
      (fault : read c.message = .error e) : Handled process transports id c s (.error e) s
  | failed {request : Request} {e : ProcessingError} {after : Server σ}
      (read : Request.ReadAs c.message (Route.ofPath c.channel.path) request)
      (answer : process transports id c request s = (.error e, after)) :
      Handled process transports id c s (.error e) after
  | answered {request : Request} {done : Processed} {after : Server σ}
      (read : Request.ReadAs c.message (Route.ofPath c.channel.path) request)
      (answer : process transports id c request s = (.ok done, after)) :
      Handled process transports id c s
        (.ok ⟨done.packets, disconnects c request done.event?⟩)
        (notify id c after request done.event?)

theorem handled (process : Processor σ) (transports : List String) (id : String) (c : Context)
    (s : Server σ) :
    ∃ result after, respond process transports id c s = (result, after) ∧
      Handled process transports id c s result after := by
  cases reader : Request.reader? (Route.ofPath c.channel.path) with
  | none => exact ⟨_, _, respondUnprocessed reader, .unprocessed reader⟩
  | some read =>
    cases found : read c.message with
    | error e => exact ⟨_, _, respondUndecodable reader found, .undecodable reader found⟩
    | ok request =>
      have asked := Request.readAs reader found
      cases answer : process transports id c request s with
      | mk result after =>
        cases result with
        | error e => exact ⟨_, _, respondFailed asked answer, .failed asked answer⟩
        | ok done => exact ⟨_, _, respondAnswered asked answer, .answered asked answer⟩

/-- What a processor keeps of a server, and notifying it keeps too, routing keeps. -/
theorem respondRelated {R : Server σ → Server σ → Prop} (refl : ∀ s, R s s)
    (trans : ∀ {s t u}, R s t → R t u → R s u)
    (processed : ∀ request, R s (process transports id c request s).2)
    (notified : ∀ t request event?, R t (notify id c t request event?)) :
    R s (respond process transports id c s).2 := by
  obtain ⟨result, after, outcome, handled⟩ := handled process transports id c s
  rw [outcome]
  cases handled with
  | unprocessed closed => exact refl _
  | undecodable reader fault => exact refl _
  | @failed request e after read answer =>
    have kept := processed request
    rwa [answer] at kept
  | @answered request done after read answer =>
    have kept := processed request
    rw [answer] at kept
    exact trans kept (notified _ _ _)

end Router
end Bayeux
