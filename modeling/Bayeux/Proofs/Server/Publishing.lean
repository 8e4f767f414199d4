import Bayeux.Proofs.Registry.FanOut
import Bayeux.Proofs.Request.Reading
import Bayeux.Proofs.Server.Changes
/-! What comes of a publish. The publisher finds its own copy behind the acknowledgement if it is
subscribed itself, all other subscribers have theirs offered, and every copy shows the channel,
the id and the payload of the request and nothing more. Both halves of the subscribers come
from one index, read once from either side. The id alone can spoil a publish, and only before it
is processed: by an embedded document that cannot be read, which no id has that came as text. -/

namespace Bayeux

namespace PublishRequest
variable {m : Message} {who path : String}

theorem readable (distinct : m.fields.Distinct) (settles : Request.Settles m .publish)
    (client : m.get? Field.clientId = some (.string who))
    (channel : m.get? Field.channel = some (.string path)) :
    ∃ r, ofMessage m = .ok r ∧ r.clientId = some who := by
  obtain ⟨id, given⟩ := Request.anyGiven.mpr (settles Field.id (by decide))
  have whose : m.shown? Field.clientId = some (.string who) :=
    congrArg (Option.map Value.visible) client
  have carries : Request.Carries m .publish (.publish ⟨id, some who, path⟩) :=
    .publish ⟨given, whose ▸ .carried nofun rfl, congrArg (Option.map Value.visible) channel⟩
  have reader : Request.reader? .publish = some _ := rfl
  have ok := (Request.readIff reader (Record.namesOnce distinct)).mpr carries
  cases Request.readAs reader ok with
  | publish read => exact ⟨_, read, rfl⟩

theorem unreadable (distinct : m.fields.Distinct) (unsettled : ¬Request.Settles m .publish) :
    ∃ fault, ofMessage m = .error (.decode (m.channel?.getD "<none>") fault) := by
  have reader : Request.reader? .publish = some _ := rfl
  cases read : ofMessage m with
  | error e =>
    obtain ⟨fault, rfl⟩ := Request.publishRefused read
    exact ⟨fault, rfl⟩
  | ok r =>
    have ok : (ofMessage m).map Request.publish = .ok (.publish r) := by rw [read]; rfl
    have carries := (Request.readIff reader (Record.namesOnce distinct)).mp ok
    exact absurd (Request.carriesIffFits.mp ⟨_, carries⟩).2 unsettled

end PublishRequest

namespace Standard
variable {σ : Type} {settings : Settings} {transports : List String} {id : String} {c : Context}
  {s : Server σ}

/-- All that is shown of a request. -/
def shown (c : Context) : Table Value :=
  [(Field.channel, .string c.channel.path)] ++
    (c.message.get? Field.id).toList.map (Field.id, ·) ++
    (c.message.get? Field.data).toList.map (Field.data, ·)

theorem deliveryShows (c : Context) : (deliveryOf c).fields.entries = shown c := by
  unfold deliveryOf Reply.withId shown
  simp only [Message.data?]
  cases c.message.get? Field.id <;> cases c.message.get? Field.data <;> rfl

theorem channelOf (c : Context) : (deliveryOf c).channel? = some c.channel.path := by
  have named : c.channel.path ≠ "" := by
    have slash := c.channel.pathSlash
    intro empty
    simp [empty] at slash
  have shows : (deliveryOf c).get? Field.channel = some (.string c.channel.path) := by
    have entries := Record.getEntries (deliveryOf c).fields Field.channel
    rw [deliveryShows] at entries
    exact entries.symm
  simp [Message.channel?, Message.textField?, shows, Value.asString?, named]

/-- One reply with the acknowledgement, and behind it the copy of a publisher that is subscribed;
one packet with the same copy for each of the others. -/
structure Published (id : String) (c : Context) (s : Server σ) (packet : Packet)
    (copy : Message) (count : Nat) (after : Server σ) : Prop where
  acknowledged : ∃ ack echo, packet.messages = ack :: echo ∧ ack.isSuccessful = true ∧
    ((s.registry.SubscribedTo id c.channel ∧ echo = [copy]) ∨
      (¬s.registry.SubscribedTo id c.channel ∧ echo = []))
  fields : copy.fields.entries = shown c
  alike : copy.overlay.fields.entries = shown c ∧ copy.overlay.visible = copy.visible
  offered : ∃ p : Packet, p.freeze = ⟨.delivery, some id, some c.channel, [copy.overlay]⟩ ∧
    s.FansOut (some id) c.channel p count after

theorem publishPublished (indexed : s.registry.Indexed) {r : PublishRequest}
    (own : r.clientId = some id) (connected : s.stateOf id = .connected) :
    ∃ packet count, (publish id c r s).1 = ⟨[packet], none⟩ ∧
      Published id c s packet (deliveryOf c) count (publish id c r s).2 := by
  have speaks : speaksFor s id r.clientId = true := by
    simp [speaksFor, own, Server.isHandshook, connected]
  rw [publishDone speaks connected]
  refine ⟨_, (s.publish (some id) (Server.deliveryFrom id c)).1, rfl, ?acknowledged,
    deliveryShows c, ?alike, Server.deliveryFrom id c, rfl, Server.fansOut indexed (some id) rfl⟩
  case acknowledged =>
    refine ⟨success c id, _, Packet.mergeMessages _ _ _,
      Message.isSuccessfulOf (correlatesSucceeded c id).successful, ?_⟩
    have exact_ := Registry.isSubscribedExact indexed id c.channel
    cases subscribed : s.isSubscribed id c.channel with
    | true => exact .inl ⟨exact_.mp subscribed, rfl⟩
    | false =>
      refine .inr ⟨fun held => ?_, ?_⟩
      · rw [Server.isSubscribed, exact_.mpr held] at subscribed
        cases subscribed
      · simp [Packet.single, Packet.qualifies, channelOf]
  case alike =>
    exact ⟨(Record.entriesOverlay _).trans (deliveryShows c), Message.visibleOverlay _⟩

end Standard

namespace Router
variable {σ : Type} {s : Server σ}

/-- What comes of a publish from a session that is connected: of any request that was read, and of
any message, which is read unless its id cannot be. None that came as text is of that kind. -/
structure PublishesOnce (settings : Standard.Settings) (transports : List String) (id : String)
    (c : Context) (s : Server σ) : Prop where
  processed : ∀ r : PublishRequest, r.clientId = some id → ∃ packet copy count after,
    Standard.process settings transports id c (.publish r) s = (.ok ⟨[packet], none⟩, after) ∧
      Standard.Published id c s packet copy count after
  routed : Request.Settles c.message .publish → ∃ packet copy count after,
    respond (Standard.process settings) transports id c s = (.ok ⟨[packet], none⟩, after) ∧
      Standard.Published id c s packet copy count after
  arrived : ∀ frame batch, Frame.decodeBatch frame = .ok batch →
    .object c.message.fields ∈ batch → Request.Settles c.message .publish
  refused : ¬Request.Settles c.message .publish → ∃ fault,
    respond (Standard.process settings) transports id c s =
      (.error (.decode (c.message.channel?.getD "<none>") fault), s)

/- Any sessions, and a registry that any calls may have made. -/
theorem publishOnceToEach {τ : Type} (settings : Standard.Settings) (memory : τ)
    (calls : List Server.Call)
    (reached : s.registry = ((Server.start memory).receiveAll calls).registry)
    (transports : List String) {id path : String} {c : Context}
    (distinct : c.message.fields.Distinct)
    (application : c.channel.kind = .application)
    (named : c.message.get? Field.channel = some (.string path))
    (own : c.message.get? Field.clientId = some (.string id))
    (connected : s.stateOf id = .connected) : PublishesOnce settings transports id c s := by
  have indexed : s.registry.Indexed :=
    reached ▸ Server.receiveAllIndexed (Server.startIndexed memory) calls
  have route : Route.ofPath c.channel.path = .publish :=
    (Route.agrees c.channel).publish.mpr application
  refine ⟨fun r client => ?processed, fun settles => ?routed, fun frame batch decoded inside =>
    Request.settlesPlain (Request.plainArrived decoded inside), fun unsettled => ?refused⟩
  case processed =>
    obtain ⟨packet, count, answered, published⟩ :=
      Standard.publishPublished (c := c) indexed client connected
    exact ⟨packet, _, count, _, by simp only [Standard.process, answered], published⟩
  case routed =>
    obtain ⟨r, read, client⟩ := PublishRequest.readable distinct settles own named
    obtain ⟨packet, count, answered, published⟩ :=
      Standard.publishPublished (c := c) indexed client connected
    refine ⟨packet, _, count, _, ?_, published⟩
    simp only [respond, route, Request.reader?, read, Except.map, Standard.process, answered,
      notifyNothing, disconnectsNothing]
  case refused =>
    obtain ⟨fault, read⟩ := PublishRequest.unreadable distinct unsettled
    exact ⟨fault, by simp only [respond, route, Request.reader?, read, Except.map]⟩

/- The publisher holds one covering pattern, the second session two, and the third none. -/
theorem publishOnceToEachThreeSessions :
    let room : Channel := ⟨"/a", by decide⟩
    let all : Channel := ⟨"/*", by decide⟩
    let calls : List Server.Call := [.added "x", .added "y", .added "z", .subscribed "x" all,
      .subscribed "y" room, .subscribed "y" all, .subscribed "z" ⟨"/b", by decide⟩]
    let session := fun name : String =>
      { Session.opened name "local" true 4 with state := .connected }
    let s : Server Unit := ((((Server.start ()).setSession "x" (session "x")).setSession "y"
      (session "y")).setSession "z" (session "z")).receiveAll calls
    let m := ((((Message.forChannel "/a").putText Field.clientId "x").putText Field.id "7").put
      Field.data (.bool true)).putText Field.ext "secret"
    let c : Context := ⟨"local", .inProcess, room, m⟩
    let answered := respond (Standard.process ⟨.current, .current, 0, 30000⟩) ["local"] "x" c s
    s.registry = ((Server.start ()).receiveAll calls).registry ∧ m.fields.Distinct ∧
      room.kind = .application ∧ m.get? Field.channel = some (.string "/a") ∧
      m.get? Field.clientId = some (.string "x") ∧ s.stateOf "x" = .connected ∧
      ["x", "y", "z"].map answered.2.waitingFor = [0, 1, 0] ∧
      (answered.1.toOption.map fun routed => (routed.packets.map Packet.messages).map List.length) =
        some [2] ∧
      Request.Settles m .publish ∧
      PublishesOnce ⟨.current, .current, 0, 30000⟩ ["local"] "x" c s := by
  intro room all calls session s m c answered
  have reached : s.registry = ((Server.start ()).receiveAll calls).registry := rfl
  have distinct : m.fields.Distinct := by
    change Table.Distinct _
    unfold Table.Distinct
    decide
  have settles : Request.Settles m .publish :=
    Request.settlesPlain (List.forall_mem_singleton.mpr (by rintro _ ⟨⟩; trivial))
  exact ⟨reached, distinct, by decide, rfl, rfl, rfl, by decide +kernel, by decide +kernel, settles,
    publishOnceToEach ⟨.current, .current, 0, 30000⟩ () calls reached ["local"] distinct (by decide)
      rfl rfl rfl⟩

end Router
end Bayeux
