import Bayeux.Proofs.Carrier.Contact
import Bayeux.Proofs.Carrier.Lives
import Bayeux.Proofs.Latest
import Bayeux.Proofs.Server.Echoes
import Bayeux.Proofs.World.Isolation
import Bayeux.Proofs.World.Timed
/-! How long the world waits for a client. In every run a client was last heard of when it was
opened, or at the latest of its texts or of the messages injected for it, and the time it is
allowed is the one of the latest override, or what the transport or the platform says. -/

namespace Bayeux

/-- Something may be heard of a client, or its time may change. -/
def Action.isTimely : Action → Bool
  | .openWebSocket _ | .openInProcess | .text _ _ | .inject _ _ | .setIdleTimeout _ _ => true
  | _ => false

namespace Server
variable {σ : Type} {h : Handlers σ} {processing : Standard.Settings} {s t : Server σ}

theorem laterErrand (process : h.process = Standard.process processing) {id : String}
    (errand : Errand h id s t) : s.clock ≤ t.clock := by
  cases errand with
  | incoming | outgoing | forgets | parted | removed | unlisted => exact le_refl _
  | request transports c =>
    rw [process]
    exact (Router.sameTimesRespond processing transports id c s).2.ge
  | waits nanoseconds => exact Nat.le_add_right _ _
  | marked => exact (sameTimesOnSession s id false _).2.ge

theorem laterChores (process : h.process = Standard.process processing)
    (chores : Chores h s t) : s.clock ≤ t.clock := by
  induction chores with
  | refl => exact le_refl _
  | tail _ chore ih =>
    refine ih.trans ?_
    cases chore with
    | errand done => exact laterErrand process done
    | queue id missing act => exact (sameTimesOnSession _ id missing _).2.ge
    | placed | added | listed | subscribed | unsubscribed => exact le_refl _

end Server

namespace World
variable {σ : Type} {setup : Setup σ} {processing : Standard.Settings} {world : World σ}
  {memory : σ} {client : Nat} {action : Action} {c d e : Client}

theorem laterStep (process : setup.handlers.process = Standard.process processing)
    (world : World σ) (action : Action) :
    world.server.clock ≤ (world.step setup action).2.server.clock := by
  have acted : world.server.clock ≤ (world.act setup action).2.server.clock := by
    cases past : action.isPublish with
    | false => exact Server.laterChores process (choresAct setup world past)
    | true =>
      cases action with
      | publish sender? p => exact (Server.sameTimesPublish world.server _ p).2.ge
      | _ => cases past
  exact acted.trans (Server.laterChores process (choresSettle setup _))

/-- Something is heard of the client, or it comes into being. -/
inductive Contacts (setup : Setup σ) (world : World σ) (client : Nat) : Action → Prop where
  | openedWebSocket {peer : Peer} (room : Queue.canHold setup.webSocket.queueSize = true)
      (new : client = world.clients.length) : Contacts setup world client (.openWebSocket peer)
  | openedInProcess (room : Queue.canHold setup.inProcess.queueSize = true)
      (new : client = world.clients.length) : Contacts setup world client .openInProcess
  | text {content : String} {w : WebSocket} (here : world.client? client = some (.webSocket w)) :
      Contacts setup world client (.text client content)
  | message {m : Message} {p : InProcess} (here : world.client? client = some (.inProcess p)) :
      Contacts setup world client (.inject client m)

inductive Overrides (world : World σ) (client : Nat) : Action → Prop where
  | set {requested : Int} {c : Client} (here : world.client? client = some c) :
      Overrides world client (.setIdleTimeout client requested)

/-- The time allowed, given the override if there was one. -/
inductive Resolves (interval : Int) : Option Int → Int → Prop where
  | own {requested : Int} (given : 0 ≤ requested) : Resolves interval (some requested) requested
  | transport {override? : Option Int} (unset : ∀ requested ∈ override?, requested < 0)
      (given : 0 ≤ interval) : Resolves interval override? interval
  | platform {override? : Option Int} (unset : ∀ requested ∈ override?, requested < 0)
      (none : interval < 0) : Resolves interval override? 300000

/-- What an action makes of a client that is there. -/
structure Heeds (setup : Setup σ) (world : World σ) (client : Nat) (action : Action)
    (c d : Client) : Prop where
  opened : d.opened = c.opened
  interval : d.interval setup = c.interval setup
  heard : Contacts setup world client action → d.Heard world.server.clock
  unheard : ¬Contacts setup world client action → ∀ time, d.Heard time ↔ c.Heard time
  set : ∀ requested, action = .setIdleTimeout client requested →
    d.idleTimeout = Idle.timeout requested (c.interval setup)
  unset : (∀ requested, action ≠ .setIdleTimeout client requested) →
    d.idleTimeout = c.idleTimeout

structure Comes (setup : Setup σ) (world : World σ) (client : Nat) (action : Action)
    (d : Client) : Prop where
  absent : world.client? client = none
  contacts : Contacts setup world client action
  unset : ∀ requested, action ≠ .setIdleTimeout client requested
  opened : d.opened = world.server.clock
  heard : d.Heard world.server.clock
  timeout : d.idleTimeout = Idle.timeout (-1) (d.interval setup)

theorem resolvesOverride (interval requested : Int) :
    Resolves interval (some requested) (Idle.timeout requested interval) := by
  unfold Idle.timeout
  split
  · exact .own ‹_›
  · rename_i negative
    have unset : ∀ own ∈ some requested, own < 0 := by
      rintro _ ⟨⟩
      exact not_le.mp negative
    split
    · exact .transport unset ‹_›
    · exact .platform unset (not_le.mp ‹_›)

theorem resolvesUnset (interval : Int) :
    Resolves interval none (Idle.timeout (-1) interval) := by
  unfold Idle.timeout
  rw [if_neg (by decide)]
  split
  · exact .transport (by simp) ‹_›
  · exact .platform (by simp) (not_le.mp ‹_›)

theorem heedsRests (rests : c.Rests d) (unheard : ¬Contacts setup world client action)
    (unset : ∀ requested, action ≠ .setIdleTimeout client requested) :
    Heeds setup world client action c d := by
  obtain ⟨opened, interval, same, timeout⟩ := Client.restsSame setup rests
  exact ⟨opened, interval, fun heard => absurd heard unheard, fun _ => same,
    fun requested set => absurd set (unset requested), fun _ => timeout⟩

theorem heedsRested (heeds : Heeds setup world client action c d) (rests : d.Rests e) :
    Heeds setup world client action c e := by
  obtain ⟨opened, interval, same, timeout⟩ := Client.restsSame setup rests
  exact ⟨opened.trans heeds.opened, interval.trans heeds.interval,
    fun heard => (same _).mpr (heeds.heard heard),
    fun unheard time => (same time).trans (heeds.unheard unheard time),
    fun requested set => timeout.trans (heeds.set requested set),
    fun unset => timeout.trans (heeds.unset unset)⟩

theorem heedsHeard (rested : Client) (opened : rested.opened = c.opened)
    (interval : rested.interval setup = c.interval setup)
    (heard : rested.Heard world.server.clock) (timeout : rested.idleTimeout = c.idleTimeout)
    (rests : rested.Rests d) (contacts : Contacts setup world client action)
    (unset : ∀ requested, action ≠ .setIdleTimeout client requested) :
    Heeds setup world client action c d :=
  heedsRested ⟨opened, interval, fun _ => heard, fun unheard => absurd contacts unheard,
    fun requested set => absurd set (unset requested), fun _ => timeout⟩ rests

/- Where the clients of the next world come from: the one that is acted on may rest, the others
are the same. -/

section
variable {i : Nat}

theorem setCases {s : Server σ} (here : world.client? i = some c)
    (there : (world.setClient i d s).client? client = some e) :
    client = i ∧ e = d ∨ client ≠ i ∧ world.client? client = some e := by
  rw [clientSet world s here] at there
  split at there
  · exact .inl ⟨‹_›, (Option.some.inj there).symm⟩
  · exact .inr ⟨‹_›, there⟩

theorem restsSet {s : Server σ} (here : world.client? i = some c) (rests : c.Rests d)
    (there : (world.setClient i d s).client? client = some e) :
    ∃ c, world.client? client = some c ∧ c.Rests e := by
  rcases setCases here there with ⟨rfl, rfl⟩ | ⟨-, same⟩
  · exact ⟨c, here, rests⟩
  · exact ⟨e, same, Client.restsRefl e⟩

theorem restsStill (there : world.client? client = some d) :
    ∃ c, world.client? client = some c ∧ c.Rests d :=
  ⟨d, there, Client.restsRefl d⟩

theorem restsOnWebSocket {act : WebSocket → Server σ → Answer × WebSocket × Server σ}
    (rests : ∀ w : WebSocket, w.Rests (act w world.server).2.1) :
    (world.onWebSocket i act).2.client? client = some d →
      ∃ c, world.client? client = some c ∧ c.Rests d :=
  onWebSocketKeeps (P := fun next : World σ => next.client? client = some d → _) restsStill
    fun w here => restsSet here (.webSocket (rests w))

theorem restsOnInProcess {act : InProcess → Server σ → Answer × InProcess × Server σ}
    (rests : ∀ p : InProcess, p.Rests (act p world.server).2.1) :
    (world.onInProcess i act).2.client? client = some d →
      ∃ c, world.client? client = some c ∧ c.Rests d :=
  onInProcessKeeps (P := fun next : World σ => next.client? client = some d → _) restsStill
    fun p here => restsSet here (.inProcess (rests p))

theorem restsOnCarrier {webSocket : WebSocket → Server σ → Answer × WebSocket × Server σ}
    {inProcess : InProcess → Server σ → Answer × InProcess × Server σ}
    (left : ∀ w : WebSocket, w.Rests (webSocket w world.server).2.1)
    (right : ∀ p : InProcess, p.Rests (inProcess p world.server).2.1) :
    (world.onCarrier i webSocket inProcess).2.client? client = some d →
      ∃ c, world.client? client = some c ∧ c.Rests d :=
  onCarrierKeeps (P := fun next : World σ => next.client? client = some d → _) restsStill
    (fun w here => restsSet here (.webSocket (left w)))
    fun p here => restsSet here (.inProcess (right p))

theorem restsOnServer {act : String → Server σ → Answer × Server σ} :
    (world.onServer i act).2.client? client = some d →
      ∃ c, world.client? client = some c ∧ c.Rests d :=
  onServerKeeps (P := fun next : World σ => next.client? client = some d → _) restsStill
    fun _ _ => restsStill

end

theorem restsExpire (h : Handlers σ) (c : Client) (s : Server σ) : c.Rests (expire h c s).2.1 := by
  cases c with
  | webSocket w => exact Client.restsRefl _
  | inProcess p =>
    rw [InProcess.expireSwept]
    refine .inProcess ?_
    unfold InProcess.expire
    split
    · exact InProcess.restsClose h p _
    · exact InProcess.restsRefl p

theorem restsExpireAll (h : Handlers σ) (clients : List Client) (s : Server σ)
    (there : (expireAll h clients s).2.1[client]? = some d) :
    ∃ c, clients[client]? = some c ∧ c.Rests d := by
  induction clients generalizing client s with
  | nil => cases there
  | cons c rest ih =>
    cases client with
    | zero => exact ⟨c, rfl, Option.some.inj there ▸ restsExpire h c s⟩
    | succ client => exact ih _ there

theorem restsSettle (there : (world.settle setup).client? client = some d) :
    ∃ c, world.client? client = some c ∧ c.Rests d := by
  obtain ⟨s, clients⟩ := world
  simp only [client?, settle] at there ⊢
  induction clients generalizing client s with
  | nil => cases there
  | cons c rest ih =>
    cases c with
    | webSocket w =>
      cases client with
      | zero => exact ⟨_, rfl, Option.some.inj there ▸ Client.restsRefl _⟩
      | succ client => exact ih s there
    | inProcess p =>
      cases client with
      | zero =>
        exact ⟨_, rfl, Option.some.inj there ▸ .inProcess (InProcess.restsPump _ _ p s)⟩
      | succ client => exact ih _ there

def Succeeds (setup : Setup σ) (world : World σ) (client : Nat) (action : Action) (d : Client) :
    Prop :=
  (∃ c, world.client? client = some c ∧ Heeds setup world client action c d) ∨
    Comes setup world client action d

theorem succeedsRests (rests : ∃ c, world.client? client = some c ∧ c.Rests d)
    (unheard : ∀ c, world.client? client = some c → ¬Contacts setup world client action)
    (unset : ∀ requested, action ≠ .setIdleTimeout client requested) :
    Succeeds setup world client action d := by
  obtain ⟨c, here, rests⟩ := rests
  exact .inl ⟨c, here, heedsRests rests (unheard c here) unset⟩

/- Most actions leave the times of all clients alone. -/
theorem succeedsAside (aside : action.isTimely = false)
    (rests : ∃ c, world.client? client = some c ∧ c.Rests d) :
    Succeeds setup world client action d := by
  refine succeedsRests rests (fun c here heard => ?_) fun requested set => ?_
  · cases heard <;> cases aside
  · subst set
    cases aside

/- And the others leave alone the times of all clients but one. -/
theorem succeedsElsewhere {i : Nat} (about : action.client? = some i) (other : client ≠ i)
    (same : world.client? client = some d) : Succeeds setup world client action d := by
  refine succeedsRests (restsStill same) (fun c here heard => ?_) fun requested set => ?_
  · cases heard with
    | openedWebSocket | openedInProcess => cases about
    | text | message => exact other (Option.some.inj about)
  · subst set
    exact other (Option.some.inj about)

theorem succeedsText (past : ∀ c, world.client? client = some c → c.opened ≤ world.server.clock)
    {i : Nat} {content : String}
    (there : (world.act setup (.text i content)).2.client? client = some d) :
    Succeeds setup world client (.text i content) d := by
  have unset : ∀ requested, Action.text i content ≠ .setIdleTimeout client requested := by
    rintro _ ⟨⟩
  simp only [act, onWebSocket] at there
  split at there
  · rename_i w here
    rcases setCases here there with ⟨rfl, rfl⟩ | ⟨other, same⟩
    · -- The carrier counts from its opening, which is not later than the clock.
      have opened : w.opened ≤ world.server.clock := past _ here
      exact .inl ⟨_, here, heedsHeard (.webSocket (w.touch world.server)) rfl rfl
        (Client.heardTouch opened) rfl (.webSocket (WebSocket.restsOnText _ _ content w _))
        (.text here) unset⟩
    · exact succeedsElsewhere rfl other same
  · rename_i absent
    refine succeedsRests (restsStill there) (fun _ _ heard => ?_) unset
    cases heard with
    | text here => exact absent _ here

theorem succeedsInject {i : Nat} {m : Message}
    (there : (world.act setup (.inject i m)).2.client? client = some d) :
    Succeeds setup world client (.inject i m) d := by
  have unset : ∀ requested, Action.inject i m ≠ .setIdleTimeout client requested := by
    rintro _ ⟨⟩
  simp only [act, onInProcess] at there
  split at there
  · rename_i p here
    rcases setCases here there with ⟨rfl, rfl⟩ | ⟨other, same⟩
    · exact .inl ⟨_, here, heedsHeard
        (.inProcess { p with lastContact := world.server.clock }) rfl rfl rfl rfl
        (.inProcess (InProcess.restsInject _ m p _)) (.message here) unset⟩
    · exact succeedsElsewhere rfl other same
  · rename_i absent
    refine succeedsRests (restsStill there) (fun _ _ heard => ?_) unset
    cases heard with
    | message here => exact absent _ here

theorem heedsSet {requested : Int} (opened : d.opened = c.opened)
    (interval : d.interval setup = c.interval setup) (same : ∀ time, d.Heard time ↔ c.Heard time)
    (timeout : d.idleTimeout = Idle.timeout requested (c.interval setup)) :
    Heeds setup world client (.setIdleTimeout client requested) c d where
  opened := opened
  interval := interval
  heard contacts := by cases contacts
  unheard _ := same
  set _ own := by
    obtain ⟨-, rfl⟩ := Action.setIdleTimeout.inj own
    exact timeout
  unset other := absurd rfl (other requested)

theorem succeedsSet {i : Nat} {requested : Int}
    (there : (world.act setup (.setIdleTimeout i requested)).2.client? client = some d) :
    Succeeds setup world client (.setIdleTimeout i requested) d := by
  simp only [act, onCarrier, onWebSocket, onInProcess] at there
  cases here : world.client? i with
  | none =>
    simp only [here] at there
    refine succeedsElsewhere rfl ?_ there
    rintro rfl
    cases here.symm.trans there
  | some c =>
    cases c with
    | webSocket w =>
      simp only [here] at there
      rcases setCases here there with ⟨rfl, rfl⟩ | ⟨other, same⟩
      · exact .inl ⟨_, here, heedsSet rfl rfl (fun _ => Iff.rfl) rfl⟩
      · exact succeedsElsewhere rfl other same
    | inProcess p =>
      simp only [here] at there
      rcases setCases here there with ⟨rfl, rfl⟩ | ⟨other, same⟩
      · exact .inl ⟨_, here, heedsSet rfl rfl (fun _ => Iff.rfl) rfl⟩
      · exact succeedsElsewhere rfl other same

/- The new client stands behind all others. -/
theorem succeedsAdd {s : Server σ} (there : (world.addClient c s).2.client? client = some d)
    (unset : ∀ requested, action ≠ .setIdleTimeout client requested)
    (old : ∀ c, world.client? client = some c → ¬Contacts setup world client action)
    (contacts : client = world.clients.length → Contacts setup world client action)
    (opened : c.opened = world.server.clock) (heard : c.Heard world.server.clock)
    (timeout : c.idleTimeout = Idle.timeout (-1) (c.interval setup)) :
    Succeeds setup world client action d := by
  rcases Server.concatCases there with ⟨before, -⟩ | ⟨last, rfl⟩
  · exact succeedsRests (restsStill before) old unset
  · have absent : world.client? client = none := List.getElem?_eq_none_iff.mpr last.ge
    exact .inr ⟨absent, contacts last, unset, opened, heard, timeout⟩

theorem oldClient (here : world.client? client = some c) : client ≠ world.clients.length :=
  (List.getElem?_eq_some_iff.mp here).1.ne

theorem succeedsAct (past : ∀ c, world.client? client = some c → c.opened ≤ world.server.clock)
    (there : (world.act setup action).2.client? client = some d) :
    Succeeds setup world client action d := by
  cases action with
  | openWebSocket peer =>
    have old : ∀ c, world.client? client = some c →
        ¬Contacts setup world client (.openWebSocket peer) := by
      intro c here heard
      cases heard with
      | openedWebSocket room new => exact oldClient here new
    have unset : ∀ requested, Action.openWebSocket peer ≠ .setIdleTimeout client requested := by
      rintro _ ⟨⟩
    simp only [act] at there
    split at there
    · rename_i room
      exact succeedsAdd there unset old (.openedWebSocket room) rfl
        (Client.heardOpen setup.webSocket peer world.server) rfl
    · exact succeedsRests (restsStill there) old unset
  | openInProcess =>
    have old : ∀ c, world.client? client = some c →
        ¬Contacts setup world client .openInProcess := by
      intro c here heard
      cases heard with
      | openedInProcess room new => exact oldClient here new
    have unset : ∀ requested, Action.openInProcess ≠ .setIdleTimeout client requested := by
      rintro _ ⟨⟩
    simp only [act] at there
    split at there
    · rename_i room
      exact succeedsAdd there unset old (.openedInProcess room) rfl rfl rfl
    · exact succeedsRests (restsStill there) old unset
  | text i content => exact succeedsText past there
  | inject i m => exact succeedsInject there
  | setIdleTimeout i requested => exact succeedsSet there
  | flush i =>
    exact succeedsAside rfl
      (restsOnWebSocket (fun w => WebSocket.restsDeliver _ _ _ w _) there)
  | collect i => exact succeedsAside rfl (restsOnInProcess (fun p => ⟨rfl, rfl, rfl⟩) there)
  | send i packets =>
    exact succeedsAside rfl (restsOnCarrier (fun w => WebSocket.restsDeliver _ _ packets w _)
      (fun p => InProcess.restsSend _ packets p _) there)
  | close i =>
    exact succeedsAside rfl
      (restsOnCarrier WebSocket.restsClose (fun p => InProcess.restsClose _ p _) there)
  | onClose i => exact succeedsAside rfl (restsOnWebSocket (fun w => ⟨rfl, rfl, rfl⟩) there)
  | closeIfIdle i =>
    exact succeedsAside rfl (restsOnWebSocket (fun w => WebSocket.restsCloseIfIdle w _) there)
  | expireIdle => exact succeedsAside rfl (restsExpireAll _ _ _ there)
  | setDisconnected i | dropReader i =>
    exact succeedsAside rfl
      (restsOnCarrier (fun w => ⟨rfl, rfl, rfl⟩) (fun p => ⟨rfl, rfl, rfl⟩) there)
  | setSink i sink => exact succeedsAside rfl (restsOnWebSocket (fun w => ⟨rfl, rfl, rfl⟩) there)
  | deliver | register | deregister | subscribe | unsubscribe =>
    exact succeedsAside rfl (restsOnServer there)
  | publish | advance => exact succeedsAside rfl (restsStill there)

theorem succeedsStep (past : ∀ c, world.client? client = some c → c.opened ≤ world.server.clock)
    (there : (world.step setup action).2.client? client = some e) :
    Succeeds setup world client action e := by
  obtain ⟨d, acted, rests⟩ := restsSettle there
  rcases succeedsAct past acted with ⟨c, here, heeds⟩ | comes
  · exact .inl ⟨c, here, heedsRested heeds rests⟩
  · obtain ⟨opened, interval, same, timeout⟩ := Client.restsSame setup rests
    exact .inr ⟨comes.absent, comes.contacts, comes.unset, opened.trans comes.opened,
      (same _).mpr comes.heard, by rw [timeout, interval, comes.timeout]⟩

def Contacted (setup : Setup σ) (memory : σ) (client : Nat) (before : List Action)
    (action : Action) : Prop :=
  Contacts setup (run setup (start memory) before) client action

def Overridden (setup : Setup σ) (memory : σ) (client : Nat) (before : List Action)
    (action : Action) : Prop :=
  Overrides (run setup (start memory) before) client action

inductive LatestOverride (setup : Setup σ) (memory : σ) (client : Nat) (actions : List Action) :
    Option Int → Prop where
  | set {before since : List Action} {requested : Int}
      (found : Latest (Overridden setup memory client) actions before
        (.setIdleTimeout client requested) since) :
      LatestOverride setup memory client actions (some requested)
  | none (never : Never (Overridden setup memory client) actions) :
      LatestOverride setup memory client actions none

/-- The time at which the client was opened or, if it came later, its latest text or message. -/
def LatestContact (setup : Setup σ) (memory : σ) (client : Nat) (actions : List Action)
    (time : Nat) : Prop :=
  ∃ before action since, Latest (Contacted setup memory client) actions before action since ∧
    time = (run setup (start memory) before).server.clock

/-- Since when a client has been silent after these actions, and how long it may be. -/
structure Awaited (setup : Setup σ) (memory : σ) (actions : List Action) (client : Nat)
    (c : Client) : Prop where
  heard : ∃ time, LatestContact setup memory client actions time ∧ c.Heard time
  timeout : ∃ override?, LatestOverride setup memory client actions override? ∧
    Resolves (c.interval setup) override? c.idleTimeout

section
variable {actions : List Action}

theorem runSnoc (setup : Setup σ) (memory : σ) (actions : List Action) (action : Action) :
    run setup (start memory) (actions ++ [action]) =
      ((run setup (start memory) actions).step setup action).2 := by
  simp [run]

theorem awaitedHeeds (awaited : Awaited setup memory actions client c)
    (here : (run setup (start memory) actions).client? client = some c)
    (heeds : Heeds setup (run setup (start memory) actions) client action c d) :
    Awaited setup memory (actions ++ [action]) client d := by
  refine ⟨?_, ?_⟩
  · by_cases contacts : Contacted setup memory client actions action
    · exact ⟨_, ⟨actions, action, [], latestHere contacts, rfl⟩, heeds.heard contacts⟩
    · obtain ⟨time, ⟨before, contact, since, latest, at_⟩, heard⟩ := awaited.heard
      exact ⟨time, ⟨before, contact, since ++ [action], latestSnoc latest contacts, at_⟩,
        (heeds.unheard contacts time).mpr heard⟩
  · rw [heeds.interval]
    by_cases set : ∃ requested, action = .setIdleTimeout client requested
    · obtain ⟨requested, rfl⟩ := set
      rw [heeds.set requested rfl]
      exact ⟨some requested, .set (latestHere (.set here)), resolvesOverride _ _⟩
    · have unset := not_exists.mp set
      have idle : ¬Overridden setup memory client actions action := fun overrides => by
        cases overrides
        exact unset _ rfl
      obtain ⟨override?, latest, resolves⟩ := awaited.timeout
      rw [heeds.unset unset]
      refine ⟨override?, ?_, resolves⟩
      cases latest with
      | set found => exact .set (latestSnoc found idle)
      | none never => exact .none (neverSnoc never idle)

theorem awaitedComes (never : Never (Overridden setup memory client) actions)
    (comes : Comes setup (run setup (start memory) actions) client action d) :
    Awaited setup memory (actions ++ [action]) client d := by
  have idle : ¬Overridden setup memory client actions action := fun overrides => by
    cases overrides
    exact comes.unset _ rfl
  refine ⟨⟨_, ⟨actions, action, [], latestHere comes.contacts, rfl⟩, comes.heard⟩, none,
    .none (neverSnoc never idle), ?_⟩
  rw [comes.timeout]
  exact resolvesUnset _

theorem absentBefore (absent : (world.step setup action).2.client? client = none) :
    world.client? client = none := by
  obtain ⟨more, acted⟩ := kindsAct setup world action
  have same := (kindsSettle setup (world.act setup action).2).trans acted
  have grown := congrArg List.length same
  simp only [kinds, List.length_append, List.length_map] at grown
  have beyond : (world.step setup action).2.clients.length ≤ client :=
    List.getElem?_eq_none_iff.mp absent
  refine List.getElem?_eq_none_iff.mpr (le_trans ?_ beyond)
  exact Nat.le.intro grown.symm

theorem awaitedRun (process : setup.handlers.process = Standard.process processing)
    (memory : σ) (actions : List Action) :
    (∀ client c, (run setup (start memory) actions).client? client = some c →
      Awaited setup memory actions client c ∧
        c.opened ≤ (run setup (start memory) actions).server.clock) ∧
    ∀ client, (run setup (start memory) actions).client? client = none →
      Never (Overridden setup memory client) actions := by
  induction actions using List.reverseRecOn with
  | nil => exact ⟨fun client c here => (nomatch here), fun _ _ => neverNil⟩
  | append_singleton actions action ih =>
    obtain ⟨standing, never⟩ := ih
    have later := laterStep process (run setup (start memory) actions) action
    rw [runSnoc]
    refine ⟨fun client d there => ?_, fun client absent => ?_⟩
    · rcases succeedsStep (fun c here => (standing client c here).2) there with
        ⟨c, here, heeds⟩ | comes
      · obtain ⟨awaited, opened⟩ := standing client c here
        exact ⟨awaitedHeeds awaited here heeds, heeds.opened ▸ opened.trans later⟩
      · exact ⟨awaitedComes (never client comes.absent) comes, comes.opened ▸ later⟩
    · have before := absentBefore absent
      refine neverSnoc (never client before) fun overrides => ?_
      cases overrides with
      | set here => exact nomatch before.symm.trans here

end

end World
end Bayeux
