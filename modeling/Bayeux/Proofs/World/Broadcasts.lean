import Bayeux.Proofs.Server.Effects
import Bayeux.Proofs.Server.Routes
import Bayeux.Proofs.World.Chores
import Bayeux.Proofs.World.Lifecycle
/-! Only application channels are broadcast. A message comes to the publish processor by the route
of its channel, which is an application channel then, so how that processor treats others
makes no difference, and whatever it publishes goes to the channel it was called with. -/

namespace Bayeux

/-- One processor may differ from the other where it is asked to publish to something else than
an application channel. -/
def Processor.Alike {σ : Type} (p q : Processor σ) : Prop :=
  ∀ transports id c request s,
    (∀ r, request = .publish r → c.channel.kind = .application) →
      p transports id c request s = q transports id c request s

namespace Router
variable {σ : Type} {p q : Processor σ}

theorem readApplication {c : Context} {request : Request} {r : PublishRequest}
    (read : Request.ReadAs c.message (Route.ofPath c.channel.path) request)
    (publish : request = .publish r) : c.channel.kind = .application := by
  subst publish
  generalize found : Route.ofPath c.channel.path = route at read
  cases read
  exact Route.publishKind found

theorem respondSame (alike : p.Alike q) : respond p = respond q := by
  funext transports id c s
  unfold respond
  cases reader : Request.reader? (Route.ofPath c.channel.path) with
  | none => rfl
  | some read =>
    simp only
    cases found : read c.message with
    | error e => rfl
    | ok request =>
      have called := alike transports id c request s fun r publish =>
        readApplication (Request.readAs reader found) publish
      simp only [called]

end Router

/- Handlers that route alike are alike to the carriers, which do not look behind the router. -/
section
variable {σ : Type} {p q : Processor σ} {extensions : List (Extension σ)}

namespace WebSocket

theorem handleSame (same : Router.respond p = Router.respond q) :
    handle ⟨p, extensions⟩ = handle ⟨q, extensions⟩ := by
  have routed : route ⟨p, extensions⟩ = route ⟨q, extensions⟩ := by
    funext settings c x
    unfold route
    rw [same]
    rfl
  have handled : handleOn ⟨p, extensions⟩ = handleOn ⟨q, extensions⟩ := by
    funext settings channel m x
    unfold handleOn
    rw [routed]
    rfl
  funext settings m path scope x
  unfold handle
  rw [handled]
  rfl

theorem dispatchSame (same : Router.respond p = Router.respond q) (settings : Settings)
    (batch : List Value) (scope : FrameScope) (x : Handling σ) :
    dispatch ⟨p, extensions⟩ settings batch scope x =
      dispatch ⟨q, extensions⟩ settings batch scope x := by
  induction batch generalizing scope x with
  | nil => rfl
  | cons entry rest ih => simp only [dispatch, handleSame same, ih]

theorem onTextSame (same : Router.respond p = Router.respond q) :
    onText ⟨p, extensions⟩ = onText ⟨q, extensions⟩ := by
  funext settings text w s
  simp only [onText, onBatch, dispatchSame same]

end WebSocket

namespace InProcess

theorem injectSame (same : Router.respond p = Router.respond q) :
    inject ⟨p, extensions⟩ = inject ⟨q, extensions⟩ := by
  have routed : route ⟨p, extensions⟩ = route ⟨q, extensions⟩ := by
    funext c p s
    unfold route
    rw [same]
    rfl
  funext m p s
  unfold inject injectOn
  rw [routed]

end InProcess

namespace World

theorem expireAllSame (clients : List Client) (s : Server σ) :
    expireAll ⟨p, extensions⟩ clients s = expireAll ⟨q, extensions⟩ clients s := by
  induction clients generalizing s with
  | nil => rfl
  | cons c rest ih => simp only [expireAll, ih]; rfl

theorem pumpAllSame (webSocket : WebSocket.Settings) (inProcess : InProcess.Settings)
    (clients : List Client) (s : Server σ) :
    pumpAll ⟨⟨p, extensions⟩, webSocket, inProcess⟩ clients s =
      pumpAll ⟨⟨q, extensions⟩, webSocket, inProcess⟩ clients s := by
  have sends : InProcess.sendEach ⟨p, extensions⟩ = InProcess.sendEach ⟨q, extensions⟩ := by
    funext packets
    induction packets with
    | nil => rfl
    | cons packet rest ih => funext p s; simp only [InProcess.sendEach, ih]; rfl
  induction clients generalizing s with
  | nil => rfl
  | cons c rest ih => cases c <;> simp only [pumpAll, InProcess.pump, sends, ih]

theorem stepSame (same : Router.respond p = Router.respond q) (webSocket : WebSocket.Settings)
    (inProcess : InProcess.Settings) (world : World σ) (action : Action) :
    step ⟨⟨p, extensions⟩, webSocket, inProcess⟩ world action =
      step ⟨⟨q, extensions⟩, webSocket, inProcess⟩ world action := by
  have acted : act ⟨⟨p, extensions⟩, webSocket, inProcess⟩ world action =
      act ⟨⟨q, extensions⟩, webSocket, inProcess⟩ world action := by
    cases action with
    | text client content => simp only [act, WebSocket.onTextSame same]
    | inject client m => simp only [act, InProcess.injectSame same]
    | expireIdle => simp only [act, expireAllSame (p := p) (q := q)]
    | _ => rfl
  simp only [step, settle, acted, pumpAllSame (p := p) (q := q)]

end World
end

namespace Server
variable {σ : Type} {h : Handlers σ} {processing : Standard.Settings} {id : String}
  {s t u : Server σ}

/-- What was published between the two went to application channels. -/
def Broadcasts (s t : Server σ) : Prop :=
  ∃ fresh, t.notices = fresh ++ s.notices ∧ ∀ route? count, .published route? count ∈ fresh →
    ∃ channel : Channel, route? = some channel.path ∧ channel.kind = .application

theorem broadcastsStill (still : t.notices = s.notices) : s.Broadcasts t :=
  ⟨[], still, by simp⟩

theorem broadcastsTrans (first : s.Broadcasts t) (second : t.Broadcasts u) : s.Broadcasts u := by
  obtain ⟨early, same, left⟩ := first
  obtain ⟨late, more, right⟩ := second
  refine ⟨late ++ early, by rw [more, same, List.append_assoc], fun route? count inside => ?_⟩
  rcases List.mem_append.mp inside with new | old
  · exact right route? count new
  · exact left route? count old

theorem broadcastsNote {notice : Notice} (noted : t.notices = notice :: s.notices)
    (silent : ∀ route? count, notice ≠ .published route? count) : s.Broadcasts t := by
  refine ⟨[notice], noted, fun route? count inside => ?_⟩
  exact absurd (List.mem_singleton.mp inside).symm (silent route? count)

theorem broadcastsOnSession {β : Type} (s : Server σ) (id : String) (missing : β)
    (act : Session → β × Session) : s.Broadcasts (s.onSession id missing act).2 := by
  refine broadcastsStill ?_
  rw [onSessionFrame]

theorem broadcastsPublish {sender? : Option String} {p : Packet} {channel : Channel}
    (routed : p.route? = some channel) (kind : channel.kind = .application) :
    s.Broadcasts (s.publish sender? p).2 := by
  have notices : (offerAll p.freeze (s.recipients sender? channel) s).2.notices = s.notices := by
    rw [offerAllFrame]
  unfold publish fanOut
  simp only [routed]
  refine ⟨[.published (some channel.path) _], congrArg (_ :: ·) notices,
    fun route? count inside => ⟨channel, ?_, kind⟩⟩
  cases List.mem_singleton.mp inside
  rfl

theorem broadcastsNotify (id : String) (c : Context) (s : Server σ) (request : Request)
    (event? : Option SessionEvent) : s.Broadcasts (Router.notify id c s request event?) := by
  unfold Router.notify
  split
  · exact broadcastsNote rfl (by simp)
  · exact broadcastsNote rfl (by simp)
  · exact broadcastsNote rfl (by simp)
  · exact broadcastsStill rfl

theorem broadcastsRespond (processing : Standard.Settings) (transports : List String) (id : String)
    (c : Context) (s : Server σ) :
    s.Broadcasts (Router.respond (Standard.process processing) transports id c s).2 := by
  have routing := Router.routing processing transports id c s
  generalize Router.respond (Standard.process processing) transports id c s = response at routing
  obtain ⟨result, after⟩ := response
  simp only at routing ⊢
  cases routing with
  | unprocessed => exact broadcastsStill rfl
  | undecodable e => exact broadcastsStill rfl
  | @processed request done between read effect =>
    refine broadcastsTrans ?_ (broadcastsNotify id c between request done.event?)
    cases effect with
    | refused | reconnected | leaving | subscribed | unsubscribed => exact broadcastsStill rfl
    | handshook => exact broadcastsOnSession s id false _
    | connected => exact broadcastsOnSession s id false _
    | published succeeded own state answer routed =>
      exact broadcastsPublish routed (Router.readApplication read rfl)

theorem errandBroadcasts (process : h.process = Standard.process processing)
    (errand : Errand h id s t) : s.Broadcasts t := by
  cases errand with
  | incoming | outgoing | forgets | parted | removed => exact broadcastsNote rfl (by simp)
  | request transports c => exact process ▸ broadcastsRespond processing transports id c s
  | waits | unlisted => exact broadcastsStill rfl
  | marked => exact broadcastsOnSession s id false _

theorem choreBroadcasts (process : h.process = Standard.process processing) (chore : Chore h s t) :
    s.Broadcasts t := by
  cases chore with
  | errand done => exact errandBroadcasts process done
  | queue id missing act => exact broadcastsOnSession s id missing _
  | placed | listed => exact broadcastsStill rfl
  | added | subscribed | unsubscribed => exact broadcastsNote rfl (by simp)

theorem choresBroadcasts (process : h.process = Standard.process processing)
    (chores : Chores h s t) : s.Broadcasts t := by
  induction chores with
  | refl => exact broadcastsStill rfl
  | tail _ chore ih => exact broadcastsTrans ih (choreBroadcasts process chore)

end Server

def Setup.withProcess {σ : Type} (setup : Setup σ) (process : Processor σ) : Setup σ :=
  { setup with handlers := { setup.handlers with process } }

namespace World
variable {σ : Type} {setup : Setup σ} {processing : Standard.Settings}

theorem runSame {other : Processor σ} (alike : other.Alike setup.handlers.process)
    (world : World σ) (actions : List Action) :
    run (setup.withProcess other) world actions = run setup world actions := by
  have steps : ∀ world action,
      step (setup.withProcess other) world action = step setup world action :=
    stepSame (Router.respondSame alike) setup.webSocket setup.inProcess
  simp only [run, steps]

/-- Along a run: the publish processor is called for application channels only, as it makes no
difference what it does for others, and nothing else is given to the registry. -/
structure Broadcasting (setup : Setup σ) (memory : σ) (actions : List Action) : Prop where
  processor : ∀ other : Processor σ, other.Alike setup.handlers.process →
    ∀ early action late, actions = early ++ action :: late →
      (run (setup.withProcess other) (start memory) early).step (setup.withProcess other) action =
        (run setup (start memory) early).step setup action
  registry : ∀ early action late, actions = early ++ action :: late → action.isPublish = false →
    (run setup (start memory) early).server.Broadcasts
      (run setup (start memory) (early ++ [action])).server

theorem applicationsBroadcast (process : setup.handlers.process = Standard.process processing)
    (memory : σ) (actions : List Action) :
    (∀ path c, Channel.parse path = .ok c → (Route.ofPath path).Agrees c) ∧
      Broadcasting setup memory actions := by
  refine ⟨fun path c parsed => ?_, fun other alike early action late _ => ?_,
    fun early action late _ past => ?_⟩
  · exact Channel.parseOk parsed ▸ Route.agrees c
  · rw [runSame alike]
    exact stepSame (Router.respondSame alike) setup.webSocket setup.inProcess _ action
  · rw [runAppend]
    exact Server.choresBroadcasts process (choresStep setup _ past)

/- An application channel, a service, a reserved channel without operation and a wildcard. -/
theorem applicationsBroadcastFourChannels :
    let setup : Setup Timesync.Samples :=
      ⟨⟨Standard.process ⟨.current, .current, 0, 30000⟩, [Timesync.extension]⟩,
        ⟨-1, none, 65536, [WebSocket.transport], 16⟩, ⟨60000, 1000, 1000, 16⟩⟩
    let asking := fun path : String =>
      (Message.forChannel path).putText Field.clientId (Server.sessionId 0)
    let handshake := (asking Route.handshakePath).put Field.supportedConnectionTypes
      (.array (.plain [.string InProcess.transport]))
    let connect := (asking Route.connectPath).putText Field.connectionType InProcess.transport
    let actions : List Action := [.openInProcess, .inject 0 handshake, .inject 0 connect,
      .inject 0 (asking "/a"), .inject 0 (asking "/service/a"), .inject 0 (asking "/meta/a"),
      .inject 0 (asking "/a/*")]
    setup.handlers.process = Standard.process ⟨.current, .current, 0, 30000⟩ ∧
      (run setup (start []) actions).server.notices.filter (fun
        | .published _ _ => true
        | _ => false) = [.published (some "/a") 0] ∧
      ["/a", "/service/a", "/meta/a", "/a/*"].map Route.ofPath =
        [.publish, .service, .unknownMeta, .wildcardPublish] ∧
      (∀ path c, Channel.parse path = .ok c → (Route.ofPath path).Agrees c) ∧
      Broadcasting setup [] actions := by
  intro setup asking handshake connect actions
  exact ⟨rfl, by decide +kernel, by decide, applicationsBroadcast rfl [] actions⟩

end World
end Bayeux
