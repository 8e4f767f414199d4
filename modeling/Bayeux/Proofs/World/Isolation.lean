import Bayeux.Proofs.Carrier.Mirrors
import Bayeux.Proofs.World.Chores
import Bayeux.Proofs.World.Lifecycle
/-! Clients of a world apart. Whatever arrives on one carrier, the other clients keep their
carriers and their part of the server, but for what is offered to them because they are
subscribed to it; and what comes of it depends on the part of the one session alone. -/

namespace Bayeux

/-- What comes in on a carrier: a frame, an injected message, or the end of the connection. -/
inductive Arrival where
  | text (content : String)
  | message (m : Message)
  | ended

def Arrival.action (client : Nat) : Arrival → Action
  | .text content => .text client content
  | .message m => .inject client m
  | .ended => .onClose client

namespace Server
variable {σ : Type} {samples : σ → Timesync.Samples} {h : Handlers σ} {s t : Server σ}
  {processing : Standard.Settings}

theorem soundChore (process : h.process = Standard.process processing)
    (fits : ∀ e ∈ h.extensions, e.Fits samples) (sound : s.Sound samples) (chore : Chore h s t) :
    t.Sound samples := by
  cases chore with
  | errand done => exact (mindsErrand process fits sound done).sound
  | queue id missing act => exact (mindsOnSession sound id missing _).sound
  | placed | listed => exact { sound with }
  | added id => exact ⟨Registry.indexedAdd sound.indexed id, sound.distinct⟩
  | subscribed id channel =>
    exact (mindsOnRegistry sound (Registry.actsSubscribe id channel) _).sound
  | unsubscribed id channel =>
    exact (mindsOnRegistry sound (Registry.actsUnsubscribe id channel) _).sound

theorem soundChores (process : h.process = Standard.process processing)
    (fits : ∀ e ∈ h.extensions, e.Fits samples) (sound : s.Sound samples) (chores : Chores h s t) :
    t.Sound samples := by
  induction chores with
  | refl => exact sound
  | tail _ chore ih => exact soundChore process fits ih chore

theorem soundPublish (sound : s.Sound samples) (sender? : Option String) (p : Packet) :
    (s.publish sender? p).2.Sound samples :=
  publishKeeps (R := fun s t => s.Sound samples → t.Sound samples) (fun _ sound => sound)
    (fun first second sound => second (first sound))
    (fun _ id p sound => (mindsOnSession sound id false fun x => x.deliver p).sound)
    (fun _ _ _ sound => { sound with }) s sender? p sound

end Server

namespace World
variable {σ : Type} {samples : σ → Timesync.Samples} {setup : Setup σ}
  {processing : Standard.Settings} {world twin : World σ} {memory memory' : σ}

/-- By any actions, with or without a round of the pumps after each. -/
inductive Reached (setup : Setup σ) (memory : σ) : World σ → Prop where
  | start : Reached setup memory (World.start memory)
  | acted {world : World σ} (before : Reached setup memory world) (action : Action) :
      Reached setup memory (world.act setup action).2
  | settled {world : World σ} (before : Reached setup memory world) :
      Reached setup memory (world.settle setup)

structure Regular (samples : σ → Timesync.Samples) (world : World σ) : Prop where
  sound : world.server.Sound samples
  named : world.Named

theorem regularReached (process : setup.handlers.process = Standard.process processing)
    (fits : ∀ e ∈ setup.handlers.extensions, e.Fits samples) (fresh : samples memory = [])
    (reached : Reached setup memory world) : Regular samples world := by
  induction reached with
  | start =>
    refine ⟨⟨Server.startIndexed memory, ?_⟩, namedStart memory⟩
    rw [show (World.start memory).server.memory = memory from rfl, fresh]
    exact List.nodup_nil
  | @acted world before action ih =>
    refine ⟨?_, (followsAct process ih.named action).named⟩
    cases past : action.isPublish with
    | false => exact Server.soundChores process fits ih.sound (choresAct setup world past)
    | true =>
      cases action with
      | publish sender? p => exact Server.soundPublish ih.sound _ p
      | _ => cases past
  | @settled world before ih =>
    have pumped : Follows setup.handlers.extensions (fun _ => False) (fun _ => False) world
        (world.settle setup) :=
      followsPumpAll [] world.clients world.server ih.named
    exact ⟨Server.soundChores process fits ih.sound (choresSettle setup world), pumped.named⟩

/-- What the others see of it when something arrives for one client. -/
structure Isolated (samples : σ → Timesync.Samples) (client : Nat) (c : Client)
    (world next : World σ) : Prop where
  clients : ∀ other, other ≠ client → next.client? other = world.client? other
  apart : ∀ other d, other ≠ client → world.client? other = some d → d.session ≠ c.session
  bystanders : Server.Bystanders samples c.session world.server next.server

/-- In both worlds the same comes of it for the client. -/
structure ComesSame (samples : σ → Timesync.Samples) (client client' : Nat) (session : String)
    (left right : Answer × World σ) : Prop where
  answer : right.1 = left.1
  carrier : right.2.client? client' = left.2.client? client
  part : Server.SamePart samples session left.2.server right.2.server

theorem clientSet (world : World σ) {client other : Nat} {c : Client} (s : Server σ)
    (here : world.client? client = some c) (d : Client) :
    (world.setClient client d s).client? other =
      if other = client then some d else world.client? other := by
  have inside : client < world.clients.length := (List.getElem?_eq_some_iff.mp here).1
  unfold setClient client?
  split
  · rename_i same
    rw [same, List.getElem?_set_self inside]
  · rename_i different
    rw [List.getElem?_set_ne (Ne.symm different)]

section
variable {client client' : Nat} {c : Client}

theorem sessionsApart (named : world.Named) (here : world.client? client = some c) {other : Nat}
    {d : Client} (different : other ≠ client) (there : world.client? other = some d) :
    d.session ≠ c.session := by
  rw [named.sessions other d there, named.sessions client c here]
  exact fun same => different (Server.sessionIdInjective same)

theorem setClientSame (here : world.client? client = some c) :
    world.setClient client c world.server = world := by
  obtain ⟨inside, found⟩ := List.getElem?_eq_some_iff.mp here
  unfold setClient
  rw [← found, List.set_getElem_self]

theorem arrivalServes (setup : Setup σ) (here : world.client? client = some c) (arrival : Arrival) :
    ∃ d s, c.Serves setup.handlers world.server d s ∧
      (world.act setup (arrival.action client)).2 = world.setClient client d s := by
  have still : ∃ d s, c.Serves setup.handlers world.server d s ∧
      world = world.setClient client d s :=
    ⟨c, world.server, Client.servesRefl c _, (setClientSame here).symm⟩
  cases arrival with
  | text content =>
    simp only [Arrival.action, act, onWebSocket, here]
    cases c with
    | webSocket w =>
      exact ⟨_, _, WebSocket.servesOnText setup.handlers setup.webSocket content w _, rfl⟩
    | inProcess p => exact still
  | message m =>
    simp only [Arrival.action, act, onInProcess, here]
    cases c with
    | webSocket w => exact still
    | inProcess p => exact ⟨_, _, InProcess.servesInject setup.handlers m p _, rfl⟩
  | ended =>
    simp only [Arrival.action, act, onWebSocket, here]
    cases c with
    | webSocket w => exact ⟨_, _, WebSocket.servesOnClose setup.handlers w _, rfl⟩
    | inProcess p => exact still

theorem isolatedArrival (process : setup.handlers.process = Standard.process processing)
    (fits : ∀ e ∈ setup.handlers.extensions, e.Fits samples) (regular : Regular samples world)
    (here : world.client? client = some c) (arrival : Arrival) :
    Isolated samples client c world (world.act setup (arrival.action client)).2 := by
  obtain ⟨d, s, serves, acted⟩ := arrivalServes setup here arrival
  have minds := Server.mindsErrands process fits regular.sound serves.server
  rw [acted]
  refine ⟨fun other different => ?_, fun _ _ => sessionsApart regular.named here, minds.others⟩
  rw [clientSet world s here, if_neg different]

theorem sameTurn (here : world.client? client = some c) (there : twin.client? client' = some c)
    {s t : Server σ} (mirrors : Server.Mirrors samples c.session s t) (answer : Answer)
    (d : Client) :
    ComesSame samples client client' c.session (answer, world.setClient client d s)
      (answer, twin.setClient client' d t) where
  answer := rfl
  carrier := by rw [clientSet twin t there, clientSet world s here, if_pos rfl, if_pos rfl]
  part := mirrors.part

theorem sameArrival (process : setup.handlers.process = Standard.process processing)
    (plain : ∀ e ∈ setup.handlers.extensions, e.Plain samples)
    (mirrors : Server.Mirrors samples c.session world.server twin.server)
    (here : world.client? client = some c) (there : twin.client? client' = some c)
    (arrival : Arrival) :
    ComesSame samples client client' c.session (world.act setup (arrival.action client))
      (twin.act setup (arrival.action client')) := by
  have still : ComesSame samples client client' c.session (.nothing, world) (.nothing, twin) :=
    ⟨rfl, there.trans here.symm, mirrors.part⟩
  cases arrival with
  | text content =>
    simp only [Arrival.action, act, onWebSocket, here, there]
    cases c with
    | inProcess p => exact still
    | webSocket w =>
      obtain ⟨answer, v, s, t, left, right, after⟩ :=
        WebSocket.mirrorsOnText process plain setup.webSocket content mirrors
      simp only [left, right]
      exact sameTurn here there after _ _
  | message m =>
    simp only [Arrival.action, act, onInProcess, here, there]
    cases c with
    | webSocket w => exact still
    | inProcess p =>
      obtain ⟨answer, q, s, t, left, right, after⟩ :=
        InProcess.mirrorsInject process plain m mirrors
      simp only [left, right]
      exact sameTurn here there after _ _
  | ended =>
    simp only [Arrival.action, act, onWebSocket, here, there]
    cases c with
    | inProcess p => exact still
    | webSocket w =>
      obtain ⟨v, s, t, left, right, after⟩ := WebSocket.mirrorsOnClose plain mirrors
      simp only [left, right]
      exact sameTurn here there after _ _

theorem soundArrival (process : setup.handlers.process = Standard.process processing)
    (fits : ∀ e ∈ setup.handlers.extensions, e.Fits samples) (sound : world.server.Sound samples)
    (client : Nat) (arrival : Arrival) :
    (world.act setup (arrival.action client)).2.server.Sound samples :=
  Server.soundChores process fits sound (choresAct setup world (by cases arrival <;> rfl))

def arrive (setup : Setup σ) (client : Nat) (world : World σ) (arrivals : List Arrival) : World σ :=
  arrivals.foldl (fun world arrival => (world.act setup (arrival.action client)).2) world

theorem sameArrivals (process : setup.handlers.process = Standard.process processing)
    (plain : ∀ e ∈ setup.handlers.extensions, e.Plain samples)
    (mirrors : Server.Mirrors samples c.session world.server twin.server)
    (here : world.client? client = some c) (there : twin.client? client' = some c)
    (arrivals : List Arrival) :
    ∃ d, d.session = c.session ∧ (arrive setup client world arrivals).client? client = some d ∧
      (arrive setup client' twin arrivals).client? client' = some d ∧
      Server.Mirrors samples c.session (arrive setup client world arrivals).server
        (arrive setup client' twin arrivals).server := by
  have fits := fun e member => Extension.plainFits (plain e member)
  induction arrivals generalizing world twin c with
  | nil => exact ⟨c, rfl, here, there, mirrors⟩
  | cons arrival rest ih =>
    have same := sameArrival process plain mirrors here there arrival
    have sound := soundArrival process fits mirrors.left client arrival
    have sound' := soundArrival process fits mirrors.right client' arrival
    obtain ⟨d, s, serves, acted⟩ := arrivalServes setup here arrival
    have next : (world.act setup (arrival.action client)).2.client? client = some d := by
      rw [acted, clientSet world s here, if_pos rfl]
    rw [← serves.session]
    exact ih ⟨sound, sound', serves.session ▸ same.part⟩ next (same.carrier.trans next)

theorem sessionsIsolated (process : setup.handlers.process = Standard.process processing)
    (plain : ∀ e ∈ setup.handlers.extensions, e.Plain samples) (fresh : samples memory = [])
    (reached : Reached setup memory world) (here : world.client? client = some c)
    (arrival : Arrival) :
    Isolated samples client c world (world.act setup (arrival.action client)).2 ∧
      ∀ memory' twin client', samples memory' = [] → Reached setup memory' twin →
        twin.client? client' = some c →
          Server.SamePart samples c.session world.server twin.server →
            ComesSame samples client client' c.session (world.act setup (arrival.action client))
              (twin.act setup (arrival.action client')) := by
  have fits := fun e member => Extension.plainFits (plain e member)
  have regular := regularReached process fits fresh reached
  refine ⟨isolatedArrival process fits regular here arrival, ?_⟩
  intro memory' twin client' fresh' reached' there part
  have regular' := regularReached process fits fresh' reached'
  exact sameArrival process plain ⟨regular.sound, regular'.sound, part⟩ here there arrival

end

/- In the one world the other client is subscribed to what this one publishes, in the other it is
not. -/
theorem sessionsIsolatedPublisher :
    let setup : Setup Timesync.Samples :=
      ⟨⟨Standard.process ⟨.current, .current, 0, 30000⟩, [Timesync.extension]⟩,
        ⟨-1, none, 65536, [WebSocket.transport], 16⟩, ⟨60000, 1000, 1000, 16⟩⟩
    let samples := fun memory : Timesync.Samples => memory
    let room : Channel := ⟨"/a", by decide⟩
    let asking := fun path : String =>
      (Message.forChannel path).putText Field.clientId (Server.sessionId 0)
    let handshake := (asking Route.handshakePath).put Field.supportedConnectionTypes
      (.array (.plain [.string InProcess.transport]))
    let connect := (asking Route.connectPath).putText Field.connectionType InProcess.transport
    let silent := (((start []).act setup .openInProcess).2.act setup .openInProcess).2
    let heard := (silent.act setup (.subscribe 1 room)).2
    let world := arrive setup 0 heard [.message handshake, .message connect]
    let twin := arrive setup 0 silent [.message handshake, .message connect]
    let publish := Arrival.message (asking "/a")
    (world.act setup (publish.action 0)).2.server.waitingFor (Server.sessionId 1) = 1 ∧
      (twin.act setup (publish.action 0)).2.server.waitingFor (Server.sessionId 1) = 0 ∧
      (∀ e ∈ setup.handlers.extensions, e.Plain samples) ∧
      Reached setup [] world ∧ Reached setup [] twin ∧
      ∃ c, world.client? 0 = some c ∧ twin.client? 0 = some c ∧
        Server.SamePart samples c.session world.server twin.server ∧
        Isolated samples 0 c world (world.act setup (publish.action 0)).2 ∧
        ComesSame samples 0 0 c.session (world.act setup (publish.action 0))
          (twin.act setup (publish.action 0)) := by
  intro setup samples room asking handshake connect silent heard world twin publish
  have plain : ∀ e ∈ setup.handlers.extensions, e.Plain samples := by
    intro e member
    obtain rfl : e = Timesync.extension := List.mem_singleton.mp member
    exact .inl ⟨fun _ _ _ _ => rfl, fun _ _ _ _ => rfl, fun _ _ => rfl⟩
  have reached' : Reached setup [] silent := .acted (.acted .start _) _
  have reached : Reached setup [] heard := .acted reached' _
  let c : Client := .inProcess
    (InProcess.open setup.inProcess (Server.start ([] : Timesync.Samples))).1
  have held : silent.server.registry.patternsOf (Server.sessionId 0) =
      heard.server.registry.patternsOf (Server.sessionId 0) := by
    decide +kernel
  have sessions : ∀ world : World Timesync.Samples,
      world.server.sessions = (world.act setup (.subscribe 1 room)).2.server.sessions := by
    intro world
    simp only [act, onServer]
    split <;> rfl
  have part : Server.SamePart samples c.session heard.server silent.server :=
    ⟨rfl, congrArg (Table.get? · c.session) (sessions silent),
      fun pattern => iff_of_eq (congrArg (pattern ∈ ·) held), rfl⟩
  have fits := fun e member => Extension.plainFits (plain e member)
  obtain ⟨d, session, here, there, mirrors⟩ := sameArrivals rfl plain
    ⟨(regularReached rfl fits rfl reached).sound,
      (regularReached rfl fits rfl reached').sound, part⟩
    (show heard.client? 0 = some c from rfl) (show silent.client? 0 = some c from rfl)
    [.message handshake, .message connect]
  have now : Reached setup [] world := .acted (.acted reached _) _
  have now' : Reached setup [] twin := .acted (.acted reached' _) _
  have parts : Server.SamePart samples d.session world.server twin.server :=
    session ▸ mirrors.part
  obtain ⟨isolated, same⟩ := sessionsIsolated rfl plain rfl now here publish
  exact ⟨by decide +kernel, by decide +kernel, plain, now, now', d, here, there, parts, isolated,
    same [] twin 0 rfl now' there parts⟩

end World
end Bayeux
