import Bayeux.Proofs.Carrier.Timed
import Bayeux.Proofs.Json.Equality
import Bayeux.Proofs.World.Chores
import Bayeux.Proofs.World.Lifecycle
/-! The clock synchronisation in a world of clients. Whatever they do, what waits for the session of
a WebSocket was brought by an earlier request of its own that went without a reply; a
request that is answered hears of its own times unless such a sample is in its way. -/

namespace Bayeux.World
variable {σ : Type} {samples : σ → Timesync.Samples} {setup : Setup σ}
  {processing : Standard.Settings} {world : World σ} {memory : σ}

/-- The samples that an action may leave behind. -/
def Brings (setup : Setup σ) (world : World σ) : Action → String → Timesync.Sample → Prop
  | .text client content, id, sample => ∃ w, world.client? client = some (.webSocket w) ∧
      w.session = id ∧
      w.LeavesOpen setup.handlers setup.webSocket content world.server sample
  | .inject client _, id, _ => ∃ p, world.client? client = some (.inProcess p) ∧ p.session = id
  | _, _, _ => False

theorem recallsAct (process : setup.handlers.process = Standard.process processing)
    (synced : Extension.Synced samples setup.handlers.extensions) (world : World σ)
    (action : Action) :
    world.server.Recalls samples (Brings setup world action) (world.act setup action).2.server := by
  have each := fun e inside => Extension.plainFits (synced.plain e inside)
  have refl : ∀ s : Server σ, s.Recalls samples (Brings setup world action) s :=
    Server.recallsRefl
  cases action with
  | text client content =>
    refine serverOnWebSocket refl fun w here => ?_
    have recalls := WebSocket.recallsOnText process synced setup.webSocket content w world.server
    exact Timesync.recallsMore (fun id sample ⟨own, open_⟩ => ⟨w, here, own.symm, open_⟩) recalls
  | inject client m =>
    refine serverOnInProcess refl fun p here => ?_
    have recalls := InProcess.recallsInject process synced m p world.server
    exact Timesync.recallsMore (fun id sample own => ⟨p, here, own.symm⟩) recalls
  | openWebSocket peer =>
    unfold act
    simp only
    split <;> exact refl _
  | openInProcess =>
    unfold act
    simp only
    split <;> exact refl _
  | flush client =>
    refine serverOnWebSocket refl fun w _ => ?_
    have took : world.server.Recalls samples (Brings setup world (.flush client))
        (world.server.takeDeliveries w.session).2 :=
      Server.recallsSame (Server.sameTimesTake world.server w.session).1
    exact Server.recallsTrans took (WebSocket.recallsDeliver each _ w _)
  | collect client => exact serverOnInProcess refl fun p _ => refl _
  | send client packets =>
    exact serverOnCarrier refl (fun w => WebSocket.recallsDeliver each packets w _)
      fun p => InProcess.recallsSend each packets p _
  | close client =>
    exact serverOnCarrier refl (fun w => refl _)
      fun p => InProcess.recallsClose each p _
  | onClose client => exact serverOnWebSocket refl fun w _ => WebSocket.recallsOnClose each w _
  | closeIfIdle client => exact serverOnWebSocket refl fun w _ => refl _
  | expireIdle =>
    exact serverExpireAll refl Server.recallsTrans
      (fun p s => InProcess.recallsClose each p { s with inProcess := s.inProcess.erase p.session })
      world.clients world.server
  | setIdleTimeout client requested =>
    exact serverOnCarrier refl (fun w => refl _) fun p => refl _
  | setDisconnected client =>
    exact serverOnCarrier refl (fun w => refl _) fun p => refl _
  | dropReader client =>
    exact serverOnCarrier refl
      (fun w => Server.recallsSame (Server.sameTimesOnSession _ w.session () _).1)
      fun p => refl _
  | setSink client sink => exact serverOnWebSocket refl fun w _ => refl _
  | deliver client p =>
    exact serverOnServer refl fun id =>
      Server.recallsSame (Server.sameTimesOnSession world.server id false _).1
  | publish sender? p =>
    exact Server.recallsSame (Server.sameTimesPublish world.server _ p).1
  | register client => exact serverOnServer refl fun id => Server.recallsSame rfl
  | deregister client => exact serverOnServer refl fun id => Server.recallsSame rfl
  | subscribe client channel => exact serverOnServer refl fun id => Server.recallsSame rfl
  | unsubscribe client channel => exact serverOnServer refl fun id => Server.recallsSame rfl
  | advance nanoseconds => exact refl _

theorem recallsStep (process : setup.handlers.process = Standard.process processing)
    (synced : Extension.Synced samples setup.handlers.extensions) (world : World σ)
    (action : Action) :
    world.server.Recalls samples (Brings setup world action)
      (world.step setup action).2.server :=
  Server.recallsTrans (recallsAct process synced world action)
    (serverSettle Server.recallsRefl Server.recallsTrans
      (InProcess.recallsPump (fun e inside => Extension.plainFits (synced.plain e inside))
        setup.inProcess) _)

/- What waits along a run was brought by one of its actions. -/
theorem broughtRun (process : setup.handlers.process = Standard.process processing)
    (synced : Extension.Synced samples setup.handlers.extensions) (fresh : samples memory = [])
    (actions : List Action) :
    (samples (run setup (start memory) actions).server.memory).Distinct ∧ ∀ id sample,
      (samples (run setup (start memory) actions).server.memory).get? id = some sample →
        ∃ early action late, actions = early ++ action :: late ∧
          Brings setup (run setup (start memory) early) action id sample := by
  induction actions using List.reverseRecOn with
  | nil =>
    have nothing : samples (run setup (start memory) []).server.memory = [] := fresh
    rw [nothing]
    exact ⟨List.nodup_nil, fun id sample waits => by cases waits⟩
  | append_singleton early action ih =>
    obtain ⟨distinct, brought⟩ := ih
    have step := recallsStep process synced (run setup (start memory) early) action
    rw [runAppend]
    refine ⟨step.distinct distinct, fun id sample waits => ?_⟩
    rcases step.known distinct id sample waits with old | new
    · obtain ⟨first, other, late, rfl, brings⟩ := brought id sample old
      exact ⟨first, other, late ++ [action], by simp, brings⟩
    · exact ⟨early, action, [], rfl, new⟩

/- Of which kind the clients are is settled as they come. -/

def kinds (clients : List Client) : List Bool :=
  clients.map fun c => match c with
    | .webSocket _ => true
    | .inProcess _ => false

theorem kindsSet {clients : List Client} {i : Nat} {c d : Client} (here : clients[i]? = some c)
    (same : kinds [d] = kinds [c]) : kinds (clients.set i d) = kinds clients := by
  refine List.ext_getElem? fun j => ?_
  simp only [kinds, List.getElem?_map, List.getElem?_set]
  split
  · rename_i own
    subst own
    obtain ⟨inside, rfl⟩ := List.getElem?_eq_some_iff.mp here
    simpa [kinds, inside] using same
  · rfl

theorem kindsOnWebSocket (world : World σ) (client : Nat)
    (act : WebSocket → Server σ → Answer × WebSocket × Server σ) :
    kinds (world.onWebSocket client act).2.clients = kinds world.clients :=
  onWebSocketKeeps (P := fun next : World σ => kinds next.clients = _) rfl
    fun _ here => kindsSet here rfl

theorem kindsOnInProcess (world : World σ) (client : Nat)
    (act : InProcess → Server σ → Answer × InProcess × Server σ) :
    kinds (world.onInProcess client act).2.clients = kinds world.clients :=
  onInProcessKeeps (P := fun next : World σ => kinds next.clients = _) rfl
    fun _ here => kindsSet here rfl

theorem kindsOnCarrier (world : World σ) (client : Nat)
    (webSocket : WebSocket → Server σ → Answer × WebSocket × Server σ)
    (inProcess : InProcess → Server σ → Answer × InProcess × Server σ) :
    kinds (world.onCarrier client webSocket inProcess).2.clients = kinds world.clients :=
  onCarrierKeeps (P := fun next : World σ => kinds next.clients = _) rfl
    (fun _ here => kindsSet here rfl) fun _ here => kindsSet here rfl

theorem kindsOnServer (world : World σ) (client : Nat)
    (act : String → Server σ → Answer × Server σ) :
    kinds (world.onServer client act).2.clients = kinds world.clients :=
  onServerKeeps (P := fun next : World σ => kinds next.clients = _) rfl fun _ _ => rfl

theorem kindsExpireAll (h : Handlers σ) (clients : List Client) (s : Server σ) :
    kinds (expireAll h clients s).2.1 = kinds clients := by
  induction clients generalizing s with
  | nil => rfl
  | cons c rest ih =>
    have one : kinds [(expire h c s).2.1] = kinds [c] := by
      cases c with
      | webSocket w => rfl
      | inProcess p =>
        unfold expire
        simp only
        split <;> rfl
    exact congrArg₂ (· ++ ·) one (ih _)

theorem kindsSettle (setup : Setup σ) (world : World σ) :
    kinds (world.settle setup).clients = kinds world.clients := by
  obtain ⟨s, clients⟩ := world
  simp only [settle]
  induction clients generalizing s with
  | nil => rfl
  | cons c rest ih =>
    cases c with
    | webSocket w => exact congrArg (true :: ·) (ih s)
    | inProcess p => exact congrArg (false :: ·) (ih _)

theorem kindsAct (setup : Setup σ) (world : World σ) (action : Action) :
    ∃ more, kinds (world.act setup action).2.clients = kinds world.clients ++ more := by
  have still : ∀ {clients : List Client}, kinds clients = kinds world.clients →
      ∃ more, kinds clients = kinds world.clients ++ more := fun same =>
    ⟨[], same.trans (List.append_nil _).symm⟩
  cases action with
  | openWebSocket peer =>
    unfold act
    simp only
    split
    · exact ⟨[true], List.map_append⟩
    · exact still rfl
  | openInProcess =>
    unfold act
    simp only
    split
    · exact ⟨[false], List.map_append⟩
    · exact still rfl
  | expireIdle => exact still (kindsExpireAll _ _ _)
  | publish | advance => exact still rfl
  | text | flush | onClose | closeIfIdle | setSink => exact still (kindsOnWebSocket _ _ _)
  | inject | collect => exact still (kindsOnInProcess _ _ _)
  | send | close | setIdleTimeout | setDisconnected | dropReader =>
    exact still (kindsOnCarrier _ _ _ _)
  | deliver | register | deregister | subscribe | unsubscribe =>
    exact still (kindsOnServer _ _ _)

theorem kindsRun (setup : Setup σ) (world : World σ) (actions : List Action) :
    ∃ more, kinds (run setup world actions).clients = kinds world.clients ++ more := by
  induction actions generalizing world with
  | nil => exact ⟨[], (List.append_nil _).symm⟩
  | cons action rest ih =>
    obtain ⟨first, acted⟩ := kindsAct setup world action
    obtain ⟨later, ran⟩ := ih (world.step setup action).2
    have stepped : kinds (world.step setup action).2.clients = kinds world.clients ++ first :=
      (kindsSettle setup _).trans acted
    exact ⟨first ++ later, ran.trans (by rw [stepped, List.append_assoc])⟩

theorem keepsKind {setup : Setup σ} {actions : List Action} {i : Nat} {p : InProcess}
    (here : world.client? i = some (.inProcess p)) (w : WebSocket) :
    (run setup world actions).client? i ≠ some (.webSocket w) := by
  intro there
  obtain ⟨more, same⟩ := kindsRun setup world actions
  have before : (kinds world.clients)[i]? = some false := by
    simp only [kinds, List.getElem?_map]
    exact congrArg (Option.map _) here
  have after : (kinds (run setup world actions).clients)[i]? = some true := by
    simp only [kinds, List.getElem?_map]
    exact congrArg (Option.map _) there
  have inside := (List.getElem?_eq_some_iff.mp before).1
  rw [same, List.getElem?_append_left inside, before] at after
  cases after

/- For a WebSocket, one of its own texts. -/
theorem broughtByText (process : setup.handlers.process = Standard.process processing)
    (synced : Extension.Synced samples setup.handlers.extensions) (fresh : samples memory = [])
    (actions : List Action) {client : Nat} {w : WebSocket}
    (here : (run setup (start memory) actions).client? client = some (.webSocket w))
    {sample : Timesync.Sample}
    (waits : (samples (run setup (start memory) actions).server.memory).get? w.session =
      some sample) :
    ∃ early content late v, actions = early ++ .text client content :: late ∧
      (run setup (start memory) early).client? client = some (.webSocket v) ∧
      v.LeavesOpen setup.handlers setup.webSocket content (run setup (start memory) early).server
        sample := by
  have named := fun actions => namedRun process (namedStart memory) actions
  obtain ⟨early, action, late, rfl, brings⟩ :=
    (broughtRun process synced fresh actions).2 w.session sample waits
  have own : ∀ {i c}, (run setup (start memory) early).client? i = some c →
      c.session = w.session → i = client := by
    intro i c there same
    have left := (named early).sessions i c there
    have right := (named _).sessions client _ here
    exact Server.sessionIdInjective (left.symm.trans (same.trans right))
  cases action with
  | text i content =>
    obtain ⟨v, there, same, leaves⟩ := brings
    obtain rfl := own there same
    exact ⟨early, content, late, v, rfl, there, leaves⟩
  | inject i m =>
    obtain ⟨p, there, same⟩ := brings
    obtain rfl := own there same
    rw [runAppend] at here
    exact absurd here (keepsKind there w)
  | _ => exact brings.elim

/-- A handshake or a connect that comes in with a text, when it is answered. -/
structure Answered (samples : σ → Timesync.Samples) (setup : Setup σ) (memory : σ)
    (actions : List Action) (client : Nat) (w : WebSocket) (text : String) (done : List Value)
    (x : WebSocket.Handling σ) (m : Message) (path : String) (reply : Message) : Prop where
  single : WebSocket.replies setup.handlers setup.webSocket m path x = [reply]
  offered : ∃ later, (w.onText setup.handlers setup.webSocket text
      (run setup (start memory) actions).server).2.1.sink.offered =
    x.carrier.sink.offered ++ .text (Packet.messagesText [reply]) :: later
  /-- No time has passed since the text came in. -/
  received : x.server.clock = (run setup (start memory) actions).server.clock
  answers : Timesync.Answers
    (Timesync.reading (run setup (start memory) actions).server.clock) m
    ((samples x.server.memory).get? w.session) reply
  /-- What waited was left by an earlier request of the client, in this text or in another. -/
  left : ∀ waiting, (samples x.server.memory).get? w.session = some waiting →
    WebSocket.Unanswered setup.handlers setup.webSocket done
        ⟨w.touch (run setup (start memory) actions).server, {},
          (run setup (start memory) actions).server⟩ waiting ∨
      ∃ early content late v, actions = early ++ .text client content :: late ∧
        (run setup (start memory) early).client? client = some (.webSocket v) ∧
        v.LeavesOpen setup.handlers setup.webSocket content
          (run setup (start memory) early).server waiting

theorem timesyncAnswers (process : setup.handlers.process = Standard.process processing)
    (synced : Extension.Synced samples setup.handlers.extensions) (fresh : samples memory = [])
    (actions : List Action) {client : Nat} {w : WebSocket}
    (here : (run setup (start memory) actions).client? client = some (.webSocket w))
    (accepts : w.sink.Accepts) {text : String} {done : List Value} {x : WebSocket.Handling σ}
    {m : Message} {path : String}
    (comes : WebSocket.Comes setup.handlers setup.webSocket
      (WebSocket.entriesOf setup.webSocket text w)
      ⟨w.touch (run setup (start memory) actions).server, {},
        (run setup (start memory) actions).server⟩ done x m path)
    (timed : Timesync.isTimed m = true)
    (answered : WebSocket.replies setup.handlers setup.webSocket m path x ≠ []) :
    ∃ reply, Answered samples setup memory actions client w text done x m path reply := by
  have distinct := (broughtRun process synced fresh actions).1
  obtain ⟨reply, made⟩ := WebSocket.timedReply process synced distinct accepts comes timed answered
  obtain ⟨later, offered⟩ := made.offered
  obtain ⟨more, wrote⟩ := (WebSocket.onTextDispatch setup.handlers setup.webSocket text w
    (run setup (start memory) actions).server).2
  refine ⟨reply, made.single, ⟨later ++ more, ?_⟩, made.received, made.answers,
    fun waiting waits => ?_⟩
  · rw [wrote, offered]
    simp
  · rcases made.left waiting waits with old | new
    · exact .inr (broughtByText process synced fresh actions here old)
    · exact .inl new

/- A connect that cannot be read stays unanswered; the handshake behind it is newer. -/
theorem timesyncAnswersNewer :
    let setup : Setup Timesync.Samples :=
      ⟨⟨Standard.process ⟨.current, .current, 0, 30000⟩, [Timesync.extension]⟩,
        ⟨-1, none, 65536, [WebSocket.transport], 16⟩, ⟨60000, 1000, 1000, 16⟩⟩
    let unread := "\x7b\"channel\":\"/meta/connect\",\"id\":\"1\",\"clientId\":5," ++
      "\"ext\":\x7b\"timesync\":\x7b\"tc\":100,\"l\":0,\"o\":0\x7d\x7d\x7d"
    let handshake := "\x7b\"channel\":\"/meta/handshake\",\"id\":\"2\"," ++
      "\"supportedConnectionTypes\":[\"websocket\"]," ++
      "\"ext\":\x7b\"timesync\":\x7b\"tc\":150,\"l\":0,\"o\":0\x7d\x7d\x7d"
    let text := "[" ++ unread ++ "," ++ handshake ++ "]"
    let actions : List Action := [.openWebSocket .inProcess]
    let world := run setup (start []) actions
    let w := (WebSocket.open setup.webSocket .inProcess (Server.start ([] : Timesync.Samples))).1
    let batch := WebSocket.entriesOf setup.webSocket text w
    let started : WebSocket.Handling Timesync.Samples := ⟨w.touch world.server, {}, world.server⟩
    let x := (WebSocket.dispatch setup.handlers setup.webSocket (batch.take 1) .empty started).2
    Extension.Synced (fun samples => samples) setup.handlers.extensions ∧
      world.client? 0 = some (.webSocket w) ∧ w.sink.Accepts ∧
      ∃ m path, WebSocket.Comes setup.handlers setup.webSocket batch started (batch.take 1) x m
          path ∧ Timesync.isTimed m = true ∧
        WebSocket.replies setup.handlers setup.webSocket m path x ≠ [] ∧
        ∃ reply, Answered (fun samples => samples) setup [] actions 0 w text (batch.take 1) x m path
          reply := by
  intro setup unread handshake text actions world w batch started x
  have timesync : Timesync.extension.Synchronises fun samples => samples :=
    ⟨fun _ _ _ _ => rfl, fun _ _ _ _ => rfl, fun _ _ => rfl⟩
  have synced : Extension.Synced (fun samples => samples) setup.handlers.extensions :=
    ⟨fun e inside => .inl (List.mem_singleton.mp inside ▸ timesync),
      Timesync.extension, List.mem_singleton.mpr rfl, timesync⟩
  have accepts : w.sink.Accepts := ⟨fun _ => rfl, fun _ => rfl⟩
  let times (tc : Int) : Json := .object [("timesync", .object
    [("tc", .number (.integer tc)), ("l", .number (.integer 0)), ("o", .number (.integer 0))])]
  have parsed : Json.readText text = .ok (.array
      [.object [("channel", .string "/meta/connect"), ("id", .string "1"),
        ("clientId", .number (.integer 5)), ("ext", times 100)],
      .object [("channel", .string "/meta/handshake"), ("id", .string "2"),
        ("supportedConnectionTypes", .array [.string "websocket"]), ("ext", times 150)]]) := by
    decide +kernel
  have entries : batch = _ := WebSocket.entriesDecoded rfl rfl
    (by decide +kernel) (Frame.decodeBatchItems (by decide +kernel) parsed)
  have alive : (WebSocket.dispatch setup.handlers setup.webSocket (batch.take 1) .empty
      started).2.carrier.isConnected = true := by
    rw [entries]
    decide +kernel
  have asked : ((batch[1]?.bind WebSocket.messageOf?).any fun (m, path) =>
      Timesync.isTimed m &&
        !(WebSocket.replies setup.handlers setup.webSocket m path (WebSocket.dispatch
          setup.handlers setup.webSocket (batch.take 1) .empty started).2).isEmpty) = true := by
    rw [entries]
    decide +kernel
  obtain ⟨⟨m, path⟩, read, good⟩ := (Option.any_eq_true _ _).mp asked
  simp only [Bool.and_eq_true, Bool.not_eq_true', List.isEmpty_eq_false_iff] at good
  have comes : WebSocket.Comes setup.handlers setup.webSocket batch started (batch.take 1) x m
      path := WebSocket.comesAt accepts 1 read alive
  have here : world.client? 0 = some (.webSocket w) := rfl
  have answered : ∃ reply, Answered (fun samples => samples) setup [] actions 0 w text
      (batch.take 1) x m path reply :=
    timesyncAnswers rfl synced rfl actions here accepts comes good.1 good.2
  exact ⟨synced, here, accepts, m, path, comes, good.1, good.2, answered⟩

/- A connect that cannot be read keeps its sample waiting. The handshake behind it, whose clock has
stepped back, is not told its time; the one after that, which asks for none, is told it. -/
theorem timesyncOvertaken :
    let setup : Setup Timesync.Samples :=
      ⟨⟨Standard.process ⟨.current, .current, 0, 30000⟩, [Timesync.extension]⟩,
        ⟨-1, none, 65536, [WebSocket.transport], 16⟩, ⟨60000, 1000, 1000, 16⟩⟩
    let unread := "\x7b\"channel\":\"/meta/connect\",\"id\":\"1\",\"clientId\":5," ++
      "\"ext\":\x7b\"timesync\":\x7b\"tc\":100,\"l\":0,\"o\":0\x7d\x7d\x7d"
    let older := "\x7b\"channel\":\"/meta/handshake\",\"id\":\"2\"," ++
      "\"supportedConnectionTypes\":[\"websocket\"]," ++
      "\"ext\":\x7b\"timesync\":\x7b\"tc\":50,\"l\":0,\"o\":0\x7d\x7d\x7d"
    let unasked := "\x7b\"channel\":\"/meta/handshake\",\"id\":\"1\"," ++
      "\"supportedConnectionTypes\":[\"websocket\"]\x7d"
    let text := "[" ++ unread ++ "," ++ older ++ "," ++ unasked ++ "]"
    let world := run setup (start []) [.openWebSocket .inProcess]
    let w := (WebSocket.open setup.webSocket .inProcess (Server.start ([] : Timesync.Samples))).1
    let batch := WebSocket.entriesOf setup.webSocket text w
    let started : WebSocket.Handling Timesync.Samples := ⟨w.touch world.server, {}, world.server⟩
    let reached := fun n =>
      (WebSocket.dispatch setup.handlers setup.webSocket (batch.take n) .empty started).2
    let repliesAt := fun n m path =>
      WebSocket.replies setup.handlers setup.webSocket m path (reached n)
    world.client? 0 = some (.webSocket w) ∧ w.sink.Accepts ∧
      (∃ m path reply, WebSocket.Comes setup.handlers setup.webSocket batch started (batch.take 1)
          (reached 1) m path ∧
        Timesync.isTimed m = true ∧ repliesAt 1 m path = [reply] ∧
        (∃ id tc l o, Timesync.Asks m id tc l o ∧
          ¬Timesync.Told reply tc (Timesync.reading world.server.clock))) ∧
      ∃ m path reply, WebSocket.Comes setup.handlers setup.webSocket batch started (batch.take 2)
          (reached 2) m path ∧
        Timesync.isTimed m = true ∧ repliesAt 2 m path = [reply] ∧
        (∀ id tc l o, ¬Timesync.Asks m id tc l o) ∧ ¬Timesync.Untold reply := by
  intro setup unread older unasked text world w batch started reached repliesAt
  have accepts : w.sink.Accepts := ⟨fun _ => rfl, fun _ => rfl⟩
  let times (tc : Int) : Json := .object [("timesync", .object
    [("tc", .number (.integer tc)), ("l", .number (.integer 0)), ("o", .number (.integer 0))])]
  have parsed : Json.readText text = .ok (.array
      [.object [("channel", .string "/meta/connect"), ("id", .string "1"),
        ("clientId", .number (.integer 5)), ("ext", times 100)],
      .object [("channel", .string "/meta/handshake"), ("id", .string "2"),
        ("supportedConnectionTypes", .array [.string "websocket"]), ("ext", times 50)],
      .object [("channel", .string "/meta/handshake"), ("id", .string "1"),
        ("supportedConnectionTypes", .array [.string "websocket"])]]) := by
    decide +kernel
  have entries : batch = _ := WebSocket.entriesDecoded rfl rfl (by decide +kernel)
    (Frame.decodeBatchItems (by decide +kernel) parsed)
  have alive : ∀ n ∈ [1, 2], (WebSocket.dispatch setup.handlers setup.webSocket (batch.take n)
      .empty started).2.carrier.isConnected = true := by
    rw [entries]
    decide +kernel
  have stepsBack : ((batch[1]?.bind WebSocket.messageOf?).any fun (m, path) =>
      let written := WebSocket.replies setup.handlers setup.webSocket m path (WebSocket.dispatch
        setup.handlers setup.webSocket (batch.take 1) .empty started).2
      Timesync.isTimed m && (Timesync.sample? 0 m).isSome && written.length == 1 &&
        written.all fun reply =>
          (reply.ext?.bind (·.get? Timesync.extensionName)).isNone) = true := by
    rw [entries]
    decide +kernel
  have repeats : ((batch[2]?.bind WebSocket.messageOf?).any fun (m, path) =>
      let written := WebSocket.replies setup.handlers setup.webSocket m path (WebSocket.dispatch
        setup.handlers setup.webSocket (batch.take 2) .empty started).2
      Timesync.isTimed m && (Timesync.sample? 0 m).isNone && written.length == 1 &&
        written.all fun reply =>
          (reply.ext?.bind (·.get? Timesync.extensionName)).isSome) = true := by
    rw [entries]
    decide +kernel
  refine ⟨rfl, accepts, ?_, ?_⟩
  · obtain ⟨⟨m, path⟩, read, good⟩ := (Option.any_eq_true _ _).mp stepsBack
    simp only [Bool.and_eq_true, beq_iff_eq, Option.isSome_iff_exists] at good
    obtain ⟨⟨⟨timed, sample, sampled⟩, one⟩, blank⟩ := good
    obtain ⟨reply, replied⟩ := List.length_eq_one_iff.mp one
    refine ⟨m, path, reply, WebSocket.comesAt accepts 1 read (alive 1 (by simp)), timed, replied,
      _, _, _, _, (Timesync.sampleAsks.mp sampled).1, fun ⟨times, told, _⟩ => ?_⟩
    rw [replied] at blank
    simp [told] at blank
  · obtain ⟨⟨m, path⟩, read, good⟩ := (Option.any_eq_true _ _).mp repeats
    simp only [Bool.and_eq_true, beq_iff_eq] at good
    obtain ⟨⟨⟨timed, unsampled⟩, one⟩, stamped⟩ := good
    obtain ⟨reply, replied⟩ := List.length_eq_one_iff.mp one
    refine ⟨m, path, reply, WebSocket.comesAt accepts 2 read (alive 2 (by simp)), timed, replied,
      fun id tc l o asks => ?_, fun untold => ?_⟩
    · have sampled : Timesync.sample? 0 m = some ⟨id, tc, l, o, 0⟩ :=
        Timesync.sampleAsks.mpr ⟨asks, rfl⟩
      simp [sampled] at unsampled
    · have none : reply.ext?.bind (·.get? Timesync.extensionName) = none := untold
      rw [replied] at stamped
      simp [none] at stamped

end Bayeux.World
