import Bayeux.Proofs.Registry.FanOut
import Bayeux.Proofs.Server.Effects
/-! The verdict of a request and its effect agree. A request that is not answered with success
leaves the server exactly as it was; one that is changes the one thing that its operation is
about, for its own session, and nothing else. -/

namespace Bayeux

def Routed.reply? (routed : Routed) : Option Message :=
  (routed.packets.flatMap Packet.messages).head?

namespace Server
variable {σ : Type} {s : Server σ} {id : String}

/-- The state of one session and the pairs of the index may have changed; all else, the queues
and their counts included, has not. -/
structure Becomes (s : Server σ) (id : String) (state : SessionState → SessionState)
    (holds : String → String → Prop) (after : Server σ) : Prop where
  own : after.session? id = (s.session? id).map fun x => { x with state := state x.state }
  others : ∀ other, other ≠ id → after.session? other = s.session? other
  names : Table.keys after.sessions = Table.keys s.sessions
  registered : after.registry.sessions = s.registry.sessions
  indexed : after.registry.Indexed
  pairs : ∀ session pattern, after.registry.Holds session pattern ↔ holds session pattern
  frame : after = { s with
    sessions := after.sessions, registry := after.registry, notices := after.notices }

theorem becomesOnSession {β : Type} (indexed : s.registry.Indexed) (missing : β)
    {act : Session → β × Session} {state : SessionState → SessionState}
    (moves : ∀ x, s.session? id = some x → (act x).2 = { x with state := state x.state }) :
    s.Becomes id state s.registry.Holds (s.onSession id missing act).2 := by
  have frame := onSessionFrame s id missing act
  have session := fun other => sessionOnSession s id other missing act
  have names := keysOnSession s id missing act
  generalize (s.onSession id missing act).2 = after at *
  have registry : after.registry = s.registry := by rw [frame]
  refine ⟨?_, fun other different => ?_, names, by rw [registry], registry ▸ indexed, ?_, ?_⟩
  · rw [session, if_pos rfl]
    cases found : s.session? id with
    | none => rfl
    | some x => rw [Option.map_some, Option.map_some, moves x found]
  · rw [session, if_neg different]
  · exact fun session pattern => by rw [registry]
  · rw [frame]

theorem becomesTransition (indexed : s.registry.Indexed) {before next : SessionState}
    (state : s.stateOf id = before) :
    s.Becomes id (fun _ => next) s.registry.Holds (s.transition id before next).2 := by
  refine becomesOnSession indexed false fun x found => ?_
  have here : x.state = before := by simpa only [stateOf, found] using state
  simp [Session.transition, here]

theorem becomesNoted {state : SessionState → SessionState} {holds : String → String → Prop}
    {after : Server σ} (becomes : s.Becomes id state holds after) (notice : Notice) :
    s.Becomes id state holds (after.note notice) := by
  obtain ⟨own, others, names, registered, indexed, pairs, frame⟩ := becomes
  refine ⟨own, others, names, registered, indexed, pairs, ?_⟩
  rw [frame]
  rfl

theorem becomesOnRegistry {state : SessionState → SessionState} {holds : String → String → Prop}
    {after : Server σ} (becomes : s.Becomes id state holds after) (act : Registry → Registry)
    (sessions : (act after.registry).sessions = after.registry.sessions)
    (indexed : (act after.registry).Indexed) :
    s.Becomes id state (act after.registry).Holds (after.onRegistry act) := by
  obtain ⟨own, others, names, registered, -, -, frame⟩ := becomes
  refine ⟨own, others, names, sessions.trans registered, indexed, fun _ _ => Iff.rfl, ?_⟩
  rw [frame]
  rfl

theorem becomesPairs {state : SessionState → SessionState} {holds more : String → String → Prop}
    {after : Server σ} (becomes : s.Becomes id state holds after)
    (same : ∀ session pattern, holds session pattern ↔ more session pattern) :
    s.Becomes id state more after :=
  { becomes with pairs := fun session pattern =>
      (becomes.pairs session pattern).trans (same session pattern) }

theorem becomesRefl (s : Server σ) (id : String) (indexed : s.registry.Indexed) :
    s.Becomes id (fun state => state) s.registry.Holds s :=
  ⟨by cases s.session? id <;> rfl, fun _ _ => rfl, rfl, rfl, indexed, fun _ _ => Iff.rfl, rfl⟩

theorem becomesSubscribed (indexed : s.registry.Indexed) (id : String) (channel : Channel) :
    s.Becomes id (fun state => state)
      (fun session pattern => s.registry.Holds session pattern ∨
        session = id ∧ pattern = channel.path) (s.subscribed id channel) := by
  have noted := becomesNoted (becomesRefl s id indexed) (.subscribed id channel.path)
  exact becomesPairs
    (becomesOnRegistry noted (·.subscribe id channel) rfl
      (Registry.indexedSubscribe indexed id channel))
    (Registry.holdsSubscribe s.registry id channel)

theorem becomesUnsubscribed (indexed : s.registry.Indexed) (id : String) (channel : Channel) :
    s.Becomes id (fun state => state)
      (fun session pattern => s.registry.Holds session pattern ∧
        ¬(session = id ∧ pattern = channel.path)) (s.unsubscribed id channel) := by
  have noted := becomesNoted (becomesRefl s id indexed) (.unsubscribed id channel.path)
  exact becomesPairs
    (becomesOnRegistry noted (·.unsubscribe id channel) rfl
      (Registry.indexedUnsubscribe indexed id channel))
    (Registry.holdsUnsubscribe indexed id channel)

theorem becomesDisconnected (indexed : s.registry.Indexed) (id : String) (channel : Channel) :
    s.Becomes id (fun _ => .disconnected)
      (fun session pattern => s.registry.Holds session pattern ∧ session ≠ id)
      (Router.applyDisconnect id channel s) := by
  have marked : s.Becomes id (fun _ => .disconnected) s.registry.Holds (s.markDisconnected id) :=
    becomesOnSession indexed false fun _ _ => rfl
  have noted := becomesNoted marked (.disconnected id false (some channel.path))
  have same : (s.markDisconnected id).registry = s.registry := by
    unfold markDisconnected
    rw [onSessionFrame]
  have dropped := becomesOnRegistry noted (·.unsubscribeAll id) rfl
    (Registry.indexedUnsubscribeAll noted.indexed id)
  refine becomesPairs dropped fun session pattern => ?_
  refine (Registry.holdsUnsubscribeAll noted.indexed id session pattern).trans ?_
  rw [note, same]

end Server

namespace Router
variable {σ : Type} {transports : List String} {id : String} {c : Context} {s after : Server σ}

/-- No answer with success: a failure, no reply, or a first reply that says no. -/
def Rejects : Except ProcessingError Routed → Prop
  | .error _ => True
  | .ok routed => ∀ reply, routed.reply? = some reply → reply.isSuccessful = false

def Accepts : Except ProcessingError Routed → Prop
  | .error _ => False
  | .ok routed => ∃ reply, routed.reply? = some reply ∧ reply.isSuccessful = true

def disconnectOf? : Except ProcessingError Routed → Option Channel
  | .error _ => none
  | .ok routed => routed.disconnect?

/-- What an accepted request of each route does, and the disconnect that it defers. -/
inductive Accepted (id : String) (c : Context) (s : Server σ) :
    Route → Option Channel → Server σ → Prop where
  | handshake {after : Server σ} (before : s.stateOf id = .initialized)
      (becomes : s.Becomes id (fun _ => .handshook) s.registry.Holds after) :
      Accepted id c s .handshake none after
  | connect {after : Server σ} (before : s.stateOf id = .handshook)
      (becomes : s.Becomes id (fun _ => .connected) s.registry.Holds after) :
      Accepted id c s .connect none after
  | reconnect (before : s.stateOf id = .connected) : Accepted id c s .connect none s
  | subscribe {r : SubscriptionRequest} {after : Server σ} {channel : Channel}
      (read : SubscriptionRequest.ofMessage c.message = .ok r)
      (asked : r.subscription = some channel.path)
      (becomes : s.Becomes id (fun state => state) (fun session pattern =>
        s.registry.Holds session pattern ∨ session = id ∧ pattern = channel.path) after) :
      Accepted id c s .subscribe none after
  | unsubscribe {r : SubscriptionRequest} {after : Server σ} {channel : Channel}
      (read : SubscriptionRequest.ofMessage c.message = .ok r)
      (asked : r.subscription = some channel.path)
      (becomes : s.Becomes id (fun state => state) (fun session pattern =>
        s.registry.Holds session pattern ∧ ¬(session = id ∧ pattern = channel.path)) after) :
      Accepted id c s .unsubscribe none after
  | publish {after : Server σ} {p : Packet} {count : Nat}
      (fansOut : s.FansOut (some id) c.channel p count after) :
      Accepted id c s .publish none after
  | disconnect (later : s.Becomes id (fun _ => .disconnected)
        (fun session pattern => s.registry.Holds session pattern ∧ session ≠ id)
        (applyDisconnect id c.channel s)) :
      Accepted id c s .disconnect (some c.channel) s

theorem rejectsRefusal (route : Route) (id : String) (c : Context) :
    Rejects (.ok (unprocessed route id c)) := by
  intro reply first
  unfold unprocessed at first
  cases reason : refusal? route with
  | none => simp [reason, Routed.reply?] at first
  | some reason' =>
    simp only [reason, Routed.reply?, Packet.single, List.flatMap_cons, List.flatMap_nil,
      List.append_nil, List.head?_cons, Option.some.injEq] at first
    exact first ▸ Message.isSuccessfulOf (Reply.correlatesRefusal _ _ _ _).successful

theorem notRejects {packets : List Packet} {disconnect? : Option Channel} {reply : Message}
    {echo : List Message} (messages : packets.flatMap Packet.messages = reply :: echo)
    (succeeded : reply.Reports true) : ¬Rejects (.ok ⟨packets, disconnect?⟩) := by
  intro rejected
  have verdict := rejected reply (by simp [Routed.reply?, messages])
  rw [Message.isSuccessfulOf succeeded] at verdict
  cases verdict

theorem rejectsIff (result : Except ProcessingError Routed) : Rejects result ↔ ¬Accepts result := by
  cases result with
  | error e => simp [Rejects, Accepts]
  | ok routed => simp [Rejects, Accepts]

theorem rejectedUnchanged {result : Except ProcessingError Routed}
    (routing : Routing transports id c s result after) (rejected : Rejects result) :
    after = s ∧ disconnectOf? result = none := by
  cases routing with
  | unprocessed => exact ⟨rfl, rfl⟩
  | undecodable e => exact ⟨rfl, rfl⟩
  | processed read effect =>
    cases effect with
    | refused failed => exact ⟨notifyNothing id c s _, disconnectsNothing c _⟩
    | handshook succeeded => exact (notRejects rfl succeeded rejected).elim
    | connected succeeded => exact (notRejects rfl succeeded rejected).elim
    | reconnected succeeded => exact (notRejects rfl succeeded rejected).elim
    | leaving succeeded => exact (notRejects rfl succeeded rejected).elim
    | subscribed succeeded => exact (notRejects rfl succeeded rejected).elim
    | unsubscribed succeeded => exact (notRejects rfl succeeded rejected).elim
    | published succeeded own state answer =>
      exact (notRejects (by simpa using answer) succeeded rejected).elim

theorem acceptedExact (indexed : s.registry.Indexed) {result : Except ProcessingError Routed}
    (routing : Routing transports id c s result after) (accepted : Accepts result) :
    Accepted id c s (Route.ofPath c.channel.path) (disconnectOf? result) after := by
  cases routing with
  | unprocessed => exact ((rejectsIff _).mp (rejectsRefusal _ _ _) accepted).elim
  | undecodable e => exact accepted.elim
  | processed read effect =>
    generalize Route.ofPath c.channel.path = route at read
    cases effect with
    | refused failed =>
      obtain ⟨reply, first, succeeded⟩ := accepted
      rw [← Option.some.inj first, Message.isSuccessfulOf failed] at succeeded
      cases succeeded
    | handshook succeeded state =>
      cases read
      exact .handshake state (Server.becomesTransition indexed state)
    | connected succeeded own state =>
      cases read
      exact .connect state (Server.becomesNoted (Server.becomesTransition indexed state) _)
    | reconnected succeeded own state =>
      cases read
      exact .reconnect state
    | leaving succeeded =>
      cases read
      exact .disconnect (Server.becomesDisconnected indexed id c.channel)
    | subscribed succeeded own state asked =>
      cases read with
      | subscribe read => exact .subscribe read asked (Server.becomesSubscribed indexed id _)
    | unsubscribed succeeded own state asked =>
      cases read with
      | unsubscribe read => exact .unsubscribe read asked (Server.becomesUnsubscribed indexed id _)
    | published succeeded own state answer routed =>
      cases read
      exact .publish (Server.fansOut indexed (some id) routed)

/- Whatever the sessions are, and in whatever way the registry came about. -/
theorem verdictExact {τ : Type} (settings : Standard.Settings) (memory : τ)
    (calls : List Server.Call)
    (reached : s.registry = ((Server.start memory).receiveAll calls).registry)
    (transports : List String) (id : String) (c : Context) :
    (Rejects (respond (Standard.process settings) transports id c s).1 →
      (respond (Standard.process settings) transports id c s).2 = s ∧
        disconnectOf? (respond (Standard.process settings) transports id c s).1 = none) ∧
    (Accepts (respond (Standard.process settings) transports id c s).1 →
      Accepted id c s (Route.ofPath c.channel.path)
        (disconnectOf? (respond (Standard.process settings) transports id c s).1)
        (respond (Standard.process settings) transports id c s).2) := by
  have indexed : s.registry.Indexed :=
    reached ▸ Server.receiveAllIndexed (Server.startIndexed memory) calls
  have routing := routing settings transports id c s
  exact ⟨rejectedUnchanged routing, acceptedExact indexed routing⟩

theorem verdictExactSubscribe :
    let calls : List Server.Call := [.added "x", .connected "x" "websocket"]
    let x : Session := { Session.opened "x" "websocket" false 1 with state := .connected }
    let s : Server Unit := ((Server.start ()).setSession "x" x).receiveAll calls
    let request := (Message.forChannel Route.subscribePath).putText Field.clientId "x"
    let c : Context := ⟨"websocket", .inProcess, ⟨Route.subscribePath, by decide⟩,
      request.putText Field.subscription "/a/*"⟩
    let early : Context := { c with message := request }
    let answer := fun c => respond (Standard.process ⟨.current, .current, 0, 30000⟩) ["websocket"]
      "x" c s
    s.registry = ((Server.start ()).receiveAll calls).registry ∧
      Rejects (answer early).1 ∧ (answer early).2 = s ∧
      Accepts (answer c).1 ∧ Accepted "x" c s .subscribe none (answer c).2 := by
  intro calls x s request c early answer
  have reached : s.registry = ((Server.start ()).receiveAll calls).registry := rfl
  have exact_ := fun c => verdictExact ⟨.current, .current, 0, 30000⟩ () calls reached
    ["websocket"] "x" c
  have rejected : Rejects (answer early).1 := by
    intro reply first
    cases first
    decide +kernel
  have accepted : Accepts (answer c).1 := ⟨_, rfl, by decide +kernel⟩
  exact ⟨reached, rejected, ((exact_ early).1 rejected).1, accepted, (exact_ c).2 accepted⟩

end Router
end Bayeux
