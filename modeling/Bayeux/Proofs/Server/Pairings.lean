import Bayeux.Proofs.Server.Announcements
/-! Which processor is asked, and which of its events count, whatever the processors do. A processor
that keeps a record of its calls gives the same answers, and its record says who was asked
what. An event counts on the route it belongs to and is passed over on every other. -/

namespace Bayeux

def Server.holding {σ τ : Type} (s : Server σ) (memory : τ) : Server τ :=
  ⟨s.clock, s.sessions, s.registry, memory, s.notices, s.inProcess⟩

structure Asked where
  transports : List String
  session : String
  context : Context
  request : Request

def Processor.recording {σ : Type} (process : Processor σ) : Processor (σ × List Asked) :=
  fun transports id c request s =>
    let (answer, after) := process transports id c request (s.holding s.memory.1)
    (answer, after.holding (after.memory, s.memory.2 ++ [⟨transports, id, c, request⟩]))

namespace Router
variable {σ τ : Type} {process : Processor σ} {transports : List String} {id : String}
  {c : Context} {s t after : Server σ}

def pairs : Route → SessionEvent → Bool
  | .connect, .connected => true
  | .disconnect, .disconnected => true
  | .subscribe, .subscribed _ => true
  | .unsubscribe, .unsubscribed _ => true
  | _, _ => false

/-- What follows from the event an operation ends with: what the server is told, the disconnect
that is put off, and the server after. -/
inductive Follows (id : String) (c : Context) (t : Server σ) :
    Route → Option SessionEvent → Option Notice → Option Channel → Server σ → Prop where
  | connected : Follows id c t .connect (some .connected)
      (some (.connected id c.transport)) none (t.connected id c.transport)
  | disconnected : Follows id c t .disconnect (some .disconnected) none (some c.channel) t
  | subscribed (channel : Channel) : Follows id c t .subscribe (some (.subscribed channel))
      (some (.subscribed id channel.path)) none (t.subscribed id channel)
  | unsubscribed (channel : Channel) : Follows id c t .unsubscribe (some (.unsubscribed channel))
      (some (.unsubscribed id channel.path)) none (t.unsubscribed id channel)
  | ignored {route : Route} {event? : Option SessionEvent}
      (unpaired : event?.any (pairs route) = false) : Follows id c t route event? none none t

/-- The ways of a message through the router, each with the calls made on it. -/
inductive Paired (process : Processor σ) (transports : List String) (id : String) (c : Context)
    (s : Server σ) : List Asked → Except ProcessingError Routed → Server σ → Prop where
  | unprocessed
      (route : Route.ofPath c.channel.path ∈ [.unknownMeta, .wildcardPublish, .service]) :
      Paired process transports id c s []
        (.ok (unprocessed (Route.ofPath c.channel.path) id c)) s
  | undecodable {read : Message → Except ProcessingError Request} {e : ProcessingError}
      (reader : Request.reader? (Route.ofPath c.channel.path) = some read)
      (fault : read c.message = .error e) : Paired process transports id c s [] (.error e) s
  | failed {request : Request} {e : ProcessingError} {after : Server σ}
      (read : Request.ReadAs c.message (Route.ofPath c.channel.path) request)
      (answer : process transports id c request s = (.error e, after)) :
      Paired process transports id c s [⟨transports, id, c, request⟩] (.error e) after
  | answered {request : Request} {done : Processed} {told? : Option Notice}
      {later? : Option Channel} {t after : Server σ}
      (read : Request.ReadAs c.message (Route.ofPath c.channel.path) request)
      (answer : process transports id c request s = (.ok done, t))
      (follows : Follows id c t (Route.ofPath c.channel.path) done.event? told? later? after)
      (notices : after.notices = told?.toList ++ t.notices) :
      Paired process transports id c s [⟨transports, id, c, request⟩]
        (.ok ⟨done.packets, later?⟩) after

theorem followsRead (id : String) {route : Route} {request : Request}
    (read : Request.ReadAs c.message route request) (event? : Option SessionEvent)
    (t : Server σ) :
    ∃ told?, Follows id c t route event? told? (disconnects c request event?)
      (notify id c t request event?) := by
  cases event? with
  | none =>
    rw [notifyNothing, disconnectsNothing]
    exact ⟨none, .ignored rfl⟩
  | some event =>
    cases read with
    | handshake read => exact ⟨none, .ignored rfl⟩
    | publish read => exact ⟨none, .ignored rfl⟩
    | connect read =>
      cases event with
      | connected => exact ⟨_, .connected⟩
      | disconnected | subscribed | unsubscribed => exact ⟨none, .ignored rfl⟩
    | disconnect read =>
      cases event with
      | disconnected => exact ⟨_, .disconnected⟩
      | connected | subscribed | unsubscribed => exact ⟨none, .ignored rfl⟩
    | subscribe read =>
      cases event with
      | subscribed channel => exact ⟨_, .subscribed channel⟩
      | connected | disconnected | unsubscribed => exact ⟨none, .ignored rfl⟩
    | unsubscribe read =>
      cases event with
      | unsubscribed channel => exact ⟨_, .unsubscribed channel⟩
      | connected | disconnected | subscribed => exact ⟨none, .ignored rfl⟩

theorem followsNotices {route : Route} {event? : Option SessionEvent} {told? : Option Notice}
    {later? : Option Channel} (follows : Follows id c t route event? told? later? after) :
    after.notices = told?.toList ++ t.notices := by
  cases follows <;> rfl

theorem notifyHolding (id : String) (c : Context) (s : Server σ) (request : Request)
    (event? : Option SessionEvent) (memory : τ) :
    notify id c (s.holding memory) request event? =
      (notify id c s request event?).holding memory := by
  unfold notify
  split <;> rfl

theorem recordingAnswers {request : Request} {result : Except ProcessingError Processed}
    (before : List Asked) (answer : process transports id c request s = (result, after)) :
    process.recording transports id c request (s.holding (s.memory, before)) =
      (result, after.holding (after.memory, before ++ [⟨transports, id, c, request⟩])) := by
  change ((process transports id c request s).1, (process transports id c request s).2.holding
    ((process transports id c request s).2.memory, before ++ _)) = _
  rw [answer]

theorem memoryNotify (id : String) (c : Context) (s : Server σ) (request : Request)
    (event? : Option SessionEvent) : (notify id c s request event?).memory = s.memory := by
  unfold notify
  split <;> rfl

theorem unread {route : Route} :
    Request.reader? route = none ↔ route ∈ [.unknownMeta, .wildcardPublish, .service] := by
  cases route <;> decide

/-- The way of a message is the same with a record kept, which grows by the calls made on it. -/
theorem recorded (process : Processor σ) (transports : List String) (id : String) (c : Context)
    (s : Server σ) (before : List Asked) :
    ∃ asked result after,
      respond process transports id c s = (result, after) ∧
      respond process.recording transports id c (s.holding (s.memory, before)) =
        (result, after.holding (after.memory, before ++ asked)) ∧
      Paired process transports id c s asked result after := by
  obtain ⟨result, after, outcome, handled⟩ := handled process transports id c s
  rw [outcome]
  cases handled with
  | unprocessed closed =>
    refine ⟨[], _, _, rfl, ?_, .unprocessed (unread.mp closed)⟩
    rw [respondUnprocessed closed, List.append_nil]
  | undecodable reader fault =>
    refine ⟨[], _, _, rfl, ?_, .undecodable reader fault⟩
    rw [respondUndecodable reader fault, List.append_nil]
  | failed read answer =>
    refine ⟨[_], _, _, rfl, ?_, .failed read answer⟩
    exact respondFailed read (recordingAnswers before answer)
  | @answered request done t read answer =>
    obtain ⟨told?, follows⟩ := followsRead id read done.event? t
    refine ⟨[_], _, notify id c t request done.event?, rfl, ?_,
      .answered read answer follows (followsNotices follows)⟩
    rw [respondAnswered read (recordingAnswers before answer), notifyHolding, memoryNotify]

theorem noticesApplied (id : String) (channel : Channel) (s : Server σ) :
    (applyDisconnect id channel s).notices =
      .disconnected id false (some channel.path) :: s.notices := by
  have marked : (s.markDisconnected id).notices = s.notices := by
    rw [Server.markDisconnected, Server.onSessionFrame]
  exact congrArg (_ :: ·) marked

theorem eventsPaired (process : Processor σ) (transports : List String) (id : String)
    (c : Context) (s : Server σ) (before : List Asked) :
    (∃ asked result after,
      respond process transports id c s = (result, after) ∧
      respond process.recording transports id c (s.holding (s.memory, before)) =
        (result, after.holding (after.memory, before ++ asked)) ∧
      Paired process transports id c s asked result after) ∧
    ∀ channel (t : Server σ),
      (applyDisconnect id channel t).stateOf id = .disconnected ∧
      (applyDisconnect id channel t).notices =
        .disconnected id false (some channel.path) :: t.notices := by
  refine ⟨recorded process transports id c s before, fun channel t => ⟨?_, ?_⟩⟩
  · exact Server.stateMarked t id
  · exact noticesApplied id channel t

end Router
end Bayeux
