import Bayeux.Proofs.Carrier.Exchanges
import Bayeux.Proofs.Carrier.Frames
import Bayeux.Proofs.Server.Lifecycle
import Bayeux.World
/-! The lifecycle of sessions in a world of clients with the standard processors. Whatever
client does what, every session goes its way forward, moved by what its own carrier had
processed and by nothing else, and its being connected is announced as it happens. -/

namespace Bayeux

theorem Extension.passedTransport {σ : Type} {extensions : List (Extension σ)} {id : String}
    {arrived c : Context} (passed : Passed extensions id arrived c)
    (keeps : ∀ e ∈ extensions, e.KeepsTransport) : c.transport = arrived.transport := by
  obtain ⟨s, accepted, rfl⟩ := passed
  clear accepted
  induction extensions generalizing arrived s with
  | nil => rfl
  | cons e rest ih =>
    have first := keeps e (by simp) s.clock id arrived s.memory
    unfold incomingPass
    simp only
    split
    · exact (ih (fun e inside => keeps e (List.mem_cons_of_mem _ inside)) _).trans first
    · exact first

namespace Client
variable {σ : Type} {h : Handlers σ} {settings : WebSocket.Settings}
  {processing : Standard.Settings} {asked : Ask → Prop} {c d e : Client} {s t u : Server σ}

structure Goes (extensions : List (Extension σ)) (asked : Ask → Prop) (c : Client) (s : Server σ)
    (d : Client) (t : Server σ) : Prop where
  session : d.session = c.session
  server : Server.Proceeds extensions asked c.session s t

variable {extensions : List (Extension σ)}

theorem goesStill (session : d.session = c.session) (still : s.Still t) :
    Goes extensions asked c s d t :=
  ⟨session, Server.proceedsStill still⟩

theorem goesTrans (first : Goes extensions asked c s d t) (second : Goes extensions asked d t e u) :
    Goes extensions asked c s e u :=
  ⟨second.session.trans first.session, first.server.trans (first.session ▸ second.server)⟩

theorem goesText (process : h.process = Standard.process processing) {w : WebSocket}
    {content : String} (mouth : Server.Mouth h.extensions asked w.session WebSocket.transport
      settings.transports (WebSocket.HeardFrom h w content)) (s : Server σ) :
    Goes h.extensions asked (.webSocket w) s (.webSocket (w.onText h settings content s).2.1)
      (w.onText h settings content s).2.2 := by
  have ends := WebSocket.onTextEnds h settings content w s
  generalize w.onText h settings content s = result at ends
  generalize w.farewellIn? h settings content s = farewell at ends
  obtain ⟨answer, v, t⟩ := result
  simp only at ends ⊢
  cases ends with
  | unheard ended => exact goesStill rfl (Server.stillRefl s)
  | stayed opened connected speaks =>
    exact ⟨speaks.session, Server.quietlyProceeds process mouth speaks.server⟩
  | shut opened connected =>
    exact goesStill (WebSocket.shutsCloseSink (w.touch s) _ _).session (Server.stillRefl s)
  | @parted f opened connected speaks path =>
    have written := WebSocket.speaksTrans speaks
      (WebSocket.speaksWrite h settings _ f.packets f.state)
    have shuts := WebSocket.shutsCloseSink (f.parted h settings).carrier CloseCode.normal ""
    have said := Server.quietlyProceeds process mouth written.server
    refine ⟨shuts.session.trans written.session, ?_⟩
    rw [WebSocket.partedServer, speaks.session]
    exact said.trans (Server.proceedsEnded _ false (some f.channel))

theorem goesDeliver (packets : List Packet) (w : WebSocket) (s : Server σ) :
    Goes extensions asked (.webSocket w) s (.webSocket (w.deliver h settings packets s).2.1)
      (w.deliver h settings packets s).2.2 := by
  rcases WebSocket.deliverCases h settings packets w s with refused | ⟨-, speaks⟩
  · rw [refused]
    exact goesStill rfl (Server.stillRefl s)
  · exact goesStill speaks.session (Server.stillQuietly (fun _ => id) speaks.server)

theorem goesOnClose (w : WebSocket) (s : Server σ) :
    Goes h.extensions asked (.webSocket w) s (.webSocket (w.onClose h s).1) (w.onClose h s).2 := by
  have left := Server.stillDismissed h.extensions s w.session
  refine ⟨rfl, ?_⟩
  unfold WebSocket.onClose
  simp only
  split
  · exact (Server.proceedsStill left).trans (Server.proceedsEnded _ true none)
  · exact Server.proceedsStill left

theorem goesShuts {w v : WebSocket} (shuts : WebSocket.Shuts w v) (s : Server σ) :
    Goes extensions asked (.webSocket w) s (.webSocket v) s :=
  goesStill shuts.session (Server.stillRefl s)

theorem stillTalks {p q : InProcess} (talks : InProcess.Talks h (fun _ => False) p s q t) :
    s.Still t :=
  Server.stillQuietly (fun _ => id) talks.server

theorem goesTalks {p q : InProcess} (talks : InProcess.Talks h (fun _ => False) p s q t) :
    Goes extensions asked (.inProcess p) s (.inProcess q) t :=
  goesStill talks.session (stillTalks talks)

theorem goesClose (p : InProcess) (s : Server σ) :
    Goes h.extensions asked (.inProcess p) s (.inProcess (p.close h s).1) (p.close h s).2 := by
  cases closed : p.isClosed with
  | true =>
    rw [InProcess.closeAgain h s closed]
    exact goesStill rfl (Server.stillRefl s)
  | false =>
    have left := Server.stillDismissed h.extensions s p.session
    refine ⟨by simp only [InProcess.close, closed]; rfl, ?_⟩
    unfold InProcess.close
    simp only [closed, Bool.false_eq_true, if_false]
    generalize Extension.forgetPass h.extensions p.session (s.removeSession p.session) = t at left
    have untracked : Server.Proceeds h.extensions asked p.session s
        { t with inProcess := t.inProcess.erase p.session } :=
      Server.proceedsStill (Server.stillTrans left (Server.stillAside rfl rfl))
    split
    · exact untracked.trans (Server.proceedsEnded _ true none)
    · exact untracked

theorem goesInject (process : h.process = Standard.process processing) {p : InProcess}
    {m : Message} (mouth : Server.Mouth h.extensions asked p.session InProcess.transport
      [InProcess.transport] (InProcess.Heard h p.session m)) (s : Server σ) :
    Goes h.extensions asked (.inProcess p) s (.inProcess (p.inject h m s).2.1)
      (p.inject h m s).2.2 := by
  have exchange := InProcess.injectExchange h m p s
  generalize p.disconnects h m s = parts at exchange
  generalize p.inject h m s = result at exchange ⊢
  obtain ⟨answer, r, u⟩ := result
  simp only at exchange ⊢
  cases exchange with
  | stayed talks => exact ⟨talks.session, Server.quietlyProceeds process mouth talks.server⟩
  | @parted q channel t v talks path replies =>
    have heard := Server.quietlyProceeds process mouth talks.server
    have parted := heard.trans (Server.proceedsEnded t false (some channel))
    have replied := parted.trans (Server.quietlyProceeds process mouth replies)
    have silent : Goes h.extensions asked (.inProcess p) s
        (.inProcess { q with isConnected := false }) v :=
      ⟨talks.session, replied⟩
    exact goesTrans silent (goesClose _ v)

theorem goesExpire (h : Handlers σ) (asked : Ask → Prop) (c : Client) (s : Server σ) :
    (World.expire h c s).2 = (c, s) ∨
      (∃ p, c = .inProcess p ∧ p.isExpired s.clock = true) ∧
        Goes h.extensions asked c s (World.expire h c s).2.1 (World.expire h c s).2.2 := by
  cases c with
  | webSocket w => exact .inl rfl
  | inProcess p =>
    simp only [World.expire]
    split
    · rename_i silent
      have untracked : Goes h.extensions asked (.inProcess p) s (.inProcess p)
          { s with inProcess := s.inProcess.erase p.session } :=
        goesStill rfl (Server.stillAside rfl rfl)
      exact .inr ⟨⟨p, rfl, (Bool.and_eq_true _ _ ▸ silent).2⟩, goesTrans untracked (goesClose p _)⟩
    · exact .inl rfl

theorem closeClock (h : Handlers σ) (p : InProcess) (s : Server σ) :
    (p.close h s).2.clock = s.clock := by
  have forgotten := Extension.forgetPassFrame h.extensions p.session (s.removeSession p.session)
  unfold InProcess.close
  split
  · rfl
  · generalize Extension.forgetPass h.extensions p.session (s.removeSession p.session) = t
      at forgotten
    have clock : t.clock = s.clock := by
      rw [forgotten]
      rfl
    simp only
    split
    · have marked := Server.onSessionFrame { t with inProcess := t.inProcess.erase p.session }
        p.session false Session.markDisconnected
      rw [Server.disconnected, Server.markDisconnected, marked]
      exact clock
    · exact clock

theorem expireClock (h : Handlers σ) (c : Client) (s : Server σ) :
    (World.expire h c s).2.2.clock = s.clock := by
  cases c with
  | webSocket w => rfl
  | inProcess p =>
    simp only [World.expire]
    split
    · exact closeClock h p _
    · rfl

end Client

/-- The client whose carrier, or whose session, the action is about. -/
def Action.client? : Action → Option Nat
  | .text client _ | .inject client _ | .flush client | .collect client | .send client _
  | .close client | .onClose client | .closeIfIdle client | .setIdleTimeout client _
  | .setDisconnected client | .dropReader client | .setSink client _ | .deliver client _
  | .register client | .deregister client | .subscribe client _ | .unsubscribe client _ =>
    some client
  | .openWebSocket _ | .openInProcess | .expireIdle | .publish _ _ | .advance _ => none

namespace World
variable {σ : Type} {setup : Setup σ} {processing : Standard.Settings} {world : World σ}

/-- What an action may ask of the processors. -/
def Asks (setup : Setup σ) (world : World σ) : Action → Ask → Prop
  | .text client content, ask => ∃ w, world.client? client = some (.webSocket w) ∧
      ask.session = w.session ∧ ask.transport = WebSocket.transport ∧
      ask.transports = setup.webSocket.transports ∧
      WebSocket.HeardFrom setup.handlers w content ask.context
  | .inject client m, ask => ∃ p, world.client? client = some (.inProcess p) ∧
      ask.session = p.session ∧ ask.transport = InProcess.transport ∧
      ask.transports = [InProcess.transport] ∧
      InProcess.Heard setup.handlers p.session m ask.context
  | _, _ => False

/-- The sessions whose carriers act in an action, or come into being. -/
def Acting (world : World σ) (action : Action) (id : String) : Prop :=
  match action with
  | .openWebSocket _ | .openInProcess => id = Server.sessionId world.clients.length
  | .expireIdle => ∃ p, .inProcess p ∈ world.clients ∧ p.session = id ∧
      p.isExpired world.server.clock = true
  | _ => ∃ client c, action.client? = some client ∧ world.client? client = some c ∧ c.session = id

theorem actingClient {action : Action} {client : Nat} (about : action.client? = some client)
    (c : Client) (here : world.client? client = some c) : Acting world action c.session := by
  have acts : ∃ client c', action.client? = some client ∧ world.client? client = some c' ∧
      c'.session = c.session := ⟨client, c, about, here, rfl⟩
  cases action <;> first | exact acts | cases about

/-- Sessions are numbered like the clients they belong to. -/
structure Named (world : World σ) : Prop where
  numbered : world.server.Numbered world.clients.length
  sessions : ∀ (i : Nat) c, world.clients[i]? = some c → c.session = Server.sessionId i

structure Follows (extensions : List (Extension σ)) (asked : Ask → Prop) (acting : String → Prop)
    (world next : World σ) : Prop where
  unfolds : Server.Unfolds extensions asked acting world.server next.server
  named : next.Named

variable {extensions : List (Extension σ)} {asked : Ask → Prop} {acting : String → Prop}

theorem followsRefl (named : world.Named) : Follows extensions asked acting world world :=
  ⟨.refl, named⟩

theorem followsTrans {next last : World σ} (first : Follows extensions asked acting world next)
    (second : Follows extensions asked acting next last) :
    Follows extensions asked acting world last :=
  ⟨first.unfolds.trans second.unfolds, second.named⟩

theorem followsStill (named : world.Named) {t : Server σ} (still : world.server.Still t) :
    Follows extensions asked acting world { world with server := t } :=
  ⟨.single (.aside still), ⟨still.names.trans named.numbered, named.sessions⟩⟩

theorem followsSet (named : world.Named) {i : Nat} {c d : Client} {t : Server σ}
    (here : world.clients[i]? = some c) (session : d.session = c.session)
    (unfolds : Server.Unfolds extensions asked acting world.server t)
    (names : Table.keys t.sessions = Table.keys world.server.sessions) :
    Follows extensions asked acting world ⟨t, world.clients.set i d⟩ := by
  refine ⟨unfolds, ?_, fun j e there => ?_⟩
  · simp only [List.length_set]
    exact names.trans named.numbered
  · exact Server.namedSet named.sessions here session there

theorem followsTurn (named : world.Named) {i : Nat} {c d : Client} {t : Server σ}
    (here : world.clients[i]? = some c) (own : acting c.session)
    (goes : c.Goes extensions asked world.server d t) :
    Follows extensions asked acting world ⟨t, world.clients.set i d⟩ :=
  followsSet named here goes.session (Server.proceedsUnfolds own goes.server)
    (Server.proceedsNames goes.server)

theorem followsOnWebSocket (named : world.Named) {client : Nat}
    (own : ∀ c, world.client? client = some c → acting c.session)
    {act : WebSocket → Server σ → Answer × WebSocket × Server σ}
    (goes : ∀ w, world.client? client = some (.webSocket w) →
      (Client.webSocket w).Goes extensions asked world.server
        (.webSocket (act w world.server).2.1) (act w world.server).2.2) :
    Follows extensions asked acting world (world.onWebSocket client act).2 :=
  onWebSocketKeeps (followsRefl named) fun w here =>
    followsTurn named here (own _ here) (goes w here)

theorem followsOnInProcess (named : world.Named) {client : Nat}
    (own : ∀ c, world.client? client = some c → acting c.session)
    {act : InProcess → Server σ → Answer × InProcess × Server σ}
    (goes : ∀ p, world.client? client = some (.inProcess p) →
      (Client.inProcess p).Goes extensions asked world.server
        (.inProcess (act p world.server).2.1) (act p world.server).2.2) :
    Follows extensions asked acting world (world.onInProcess client act).2 :=
  onInProcessKeeps (followsRefl named) fun p here =>
    followsTurn named here (own _ here) (goes p here)

theorem followsOnCarrier (named : world.Named) {client : Nat}
    (own : ∀ c, world.client? client = some c → acting c.session)
    {webSocket : WebSocket → Server σ → Answer × WebSocket × Server σ}
    {inProcess : InProcess → Server σ → Answer × InProcess × Server σ}
    (left : ∀ w, (Client.webSocket w).Goes extensions asked world.server
      (.webSocket (webSocket w world.server).2.1) (webSocket w world.server).2.2)
    (right : ∀ p, (Client.inProcess p).Goes extensions asked world.server
      (.inProcess (inProcess p world.server).2.1) (inProcess p world.server).2.2) :
    Follows extensions asked acting world (world.onCarrier client webSocket inProcess).2 :=
  onCarrierKeeps (followsRefl named)
    (fun w here => followsTurn named here (own _ here) (left w))
    fun p here => followsTurn named here (own _ here) (right p)

theorem followsOnServer (named : world.Named) (client : Nat)
    {act : String → Server σ → Answer × Server σ}
    (still : ∀ id, world.server.Still (act id world.server).2) :
    Follows extensions asked acting world (world.onServer client act).2 :=
  onServerKeeps (followsRefl named) fun c _ => followsStill named (still c.session)

theorem followsAdd (named : world.Named) {c : Client} {t : Server σ} {session : Session}
    (own : acting (Server.sessionId world.clients.length))
    (name : c.session = Server.sessionId (List.length world.server.sessions))
    (fresh : session.state = .initialized)
    (opened : ((world.server.setSession c.session session).addSession c.session).Still t) :
    Follows extensions asked acting world (world.addClient c t).2 := by
  rw [Server.numberedCount named.numbered] at name
  have opens := Server.opensNext named.numbered session fresh
  have names := Server.numberedNext named.numbered session
  have still := Server.stillTrans (Server.stillAddSession _ c.session) opened
  rw [name] at still
  -- The session is put into its table first; that the transport registers it moves nothing.
  refine ⟨.tail (.single (.opens _ own opens)) (.aside still), ?_, fun i d here => ?_⟩
  · simp only [addClient, List.length_append, List.length_singleton]
    exact still.names.trans names
  · exact Server.namedConcat named.sessions name here

/- The loops over all clients: each of them goes with the server that the one before it has
left. -/
theorem followsNext {done rest : List Client} {c d : Client} {s t : Server σ}
    (follows : Follows extensions asked acting ⟨s, done ++ c :: rest⟩
      ⟨t, (done ++ c :: rest).set done.length d⟩) :
    Follows extensions asked acting ⟨s, done ++ c :: rest⟩ ⟨t, (done ++ [d]) ++ rest⟩ := by
  simpa using follows

theorem followsExpireAll (h : Handlers σ) (done rest : List Client) (s : Server σ)
    (named : Named ⟨s, done ++ rest⟩)
    (silent : ∀ p, .inProcess p ∈ rest → p.isExpired s.clock = true → acting p.session) :
    Follows h.extensions asked acting ⟨s, done ++ rest⟩
      ⟨(expireAll h rest s).2.2, done ++ (expireAll h rest s).2.1⟩ := by
  induction rest generalizing done s with
  | nil => simpa [expireAll] using followsRefl named
  | cons c rest ih =>
    have here : (done ++ c :: rest)[done.length]? = some c := by simp
    -- Closing takes no time, so the rest is judged by the clock of the whole sweep.
    have clock := Client.expireClock h c s
    have went := Client.goesExpire h asked c s
    simp only [expireAll]
    generalize expire h c s = result at clock went
    obtain ⟨expired, d, t⟩ := result
    have turn : Follows h.extensions asked acting ⟨s, done ++ c :: rest⟩
        ⟨t, (done ++ [d]) ++ rest⟩ := by
      rcases went with passed | ⟨⟨p, rfl, fell⟩, goes⟩
      · obtain ⟨rfl, rfl⟩ := Prod.mk.inj passed
        simpa using followsRefl named
      · exact followsNext (followsTurn named here (silent p (by simp) fell) goes)
    have others := ih (done ++ [d]) t turn.named fun p inside =>
      clock ▸ silent p (List.mem_cons_of_mem _ inside)
    simpa using followsTrans turn others

theorem followsPumpAll (done rest : List Client) (s : Server σ) (named : Named ⟨s, done ++ rest⟩) :
    Follows extensions asked acting ⟨s, done ++ rest⟩
      ⟨(pumpAll setup rest s).2, done ++ (pumpAll setup rest s).1⟩ := by
  induction rest generalizing done s with
  | nil => simpa [pumpAll] using followsRefl named
  | cons c rest ih =>
    have here : (done ++ c :: rest)[done.length]? = some c := by simp
    cases c with
    | webSocket w =>
      have others := ih (done ++ [.webSocket w]) s (by simpa using named)
      simpa [pumpAll] using others
    | inProcess p =>
      have pumped := InProcess.talksPump setup.handlers (fun _ => False) setup.inProcess p s
      have still := Client.stillTalks pumped
      have turn : Follows extensions asked acting ⟨s, done ++ .inProcess p :: rest⟩
          ⟨_, (done ++ [.inProcess _]) ++ rest⟩ :=
        followsNext (followsSet (d := .inProcess _) named here pumped.session
          (.single (.aside still)) still.names)
      have others := ih _ _ turn.named
      simpa [pumpAll] using followsTrans turn others

theorem mouthText {client : Nat} {content : String} {w : WebSocket}
    (here : world.client? client = some (.webSocket w)) :
    Server.Mouth setup.handlers.extensions (Asks setup world (.text client content)) w.session
      WebSocket.transport setup.webSocket.transports
      (WebSocket.HeardFrom setup.handlers w content) where
  made c heard := ⟨w, here, rfl, rfl, rfl, heard⟩
  kept c heard keeps := by
    obtain ⟨_, _, _, _, _, _, _, _, _, passed⟩ := heard
    exact Extension.passedTransport passed keeps

theorem mouthInject {client : Nat} {m : Message} {p : InProcess}
    (here : world.client? client = some (.inProcess p)) :
    Server.Mouth setup.handlers.extensions (Asks setup world (.inject client m)) p.session
      InProcess.transport [InProcess.transport] (InProcess.Heard setup.handlers p.session m) where
  made c heard := ⟨p, here, rfl, rfl, rfl, heard⟩
  kept c heard keeps := by
    obtain ⟨_, _, _, _, passed⟩ := heard
    exact Extension.passedTransport passed keeps

/- One action, whatever it is: only texts and injected messages ask the processors for something,
and only who acts has its state changed. -/
theorem followsAct (process : setup.handlers.process = Standard.process processing)
    (named : world.Named) (action : Action) :
    Follows setup.handlers.extensions (Asks setup world action) (Acting world action) world
      (world.act setup action).2 := by
  cases action with
  | openWebSocket peer =>
    unfold act
    simp only
    split
    · exact followsAdd named rfl rfl rfl (Server.stillRefl _)
    · exact followsRefl named
  | openInProcess =>
    unfold act
    simp only
    split
    · exact followsAdd named rfl rfl rfl (Server.stillAside rfl rfl)
    · exact followsRefl named
  | text client content =>
    exact followsOnWebSocket named (actingClient rfl) fun w here =>
      Client.goesText process (mouthText here) world.server
  | inject client m =>
    exact followsOnInProcess named (actingClient rfl) fun p here =>
      Client.goesInject process (mouthInject here) world.server
  | flush client =>
    refine followsOnWebSocket named (actingClient rfl) fun w _ => ?_
    exact Client.goesTrans (Client.goesStill rfl (Server.stillTakeDeliveries _ w.session))
      (Client.goesDeliver _ w _)
  | collect client =>
    exact followsOnInProcess named (actingClient rfl) fun p _ =>
      Client.goesStill rfl (Server.stillRefl _)
  | send client packets =>
    exact followsOnCarrier named (actingClient rfl)
      (fun w => Client.goesDeliver packets w _)
      fun p => Client.goesTalks (InProcess.talksSend setup.handlers _ packets p _)
  | close client =>
    exact followsOnCarrier named (actingClient rfl)
      (fun w => Client.goesShuts (WebSocket.shutsClose w) _) fun p => Client.goesClose p _
  | onClose client =>
    exact followsOnWebSocket named (actingClient rfl) fun w _ =>
      Client.goesOnClose w _
  | closeIfIdle client =>
    exact followsOnWebSocket named (actingClient rfl) fun w _ =>
      Client.goesShuts (WebSocket.shutsCloseIfIdle w _) _
  | expireIdle =>
    exact followsExpireAll setup.handlers [] world.clients world.server named
      fun p inside silent => ⟨p, inside, rfl, silent⟩
  | setIdleTimeout client requested =>
    exact followsOnCarrier named (actingClient rfl)
      (fun w => Client.goesStill rfl (Server.stillRefl _))
      fun p => Client.goesStill rfl (Server.stillRefl _)
  | setDisconnected client =>
    exact followsOnCarrier named (actingClient rfl)
      (fun w => Client.goesStill rfl (Server.stillRefl _))
      fun p => Client.goesStill rfl (Server.stillRefl _)
  | dropReader client =>
    exact followsOnCarrier named (actingClient rfl)
      (fun w => Client.goesStill rfl (Server.stillCloseDeliveries _ _))
      fun p => Client.goesStill rfl (Server.stillRefl _)
  | setSink client sink =>
    exact followsOnWebSocket named (actingClient rfl) fun w _ =>
      Client.goesStill rfl (Server.stillRefl _)
  | deliver client p => exact followsOnServer named client fun id => Server.stillDeliver _ id p
  | publish sender? p => exact followsStill named (Server.stillPublish _ _ p)
  | register client => exact followsOnServer named client fun id => Server.stillAddSession _ id
  | deregister client =>
    exact followsOnServer named client fun id => Server.stillRemoveSession _ id
  | subscribe client channel =>
    exact followsOnServer named client fun id => Server.stillSubscribed _ id channel
  | unsubscribe client channel =>
    exact followsOnServer named client fun id => Server.stillUnsubscribed _ id channel
  | advance nanoseconds => exact followsStill named (Server.stillAside rfl rfl)

theorem followsStep (process : setup.handlers.process = Standard.process processing)
    (named : world.Named) (action : Action) :
    Follows setup.handlers.extensions (Asks setup world action) (Acting world action) world
      (world.step setup action).2 := by
  have acted := followsAct process named action
  exact followsTrans acted (followsPumpAll [] _ _ acted.named)

theorem namedStart (memory : σ) : Named (start memory) where
  numbered := rfl
  sessions := by simp [start]

theorem namedRun (process : setup.handlers.process = Standard.process processing)
    (named : world.Named) (actions : List Action) : (run setup world actions).Named := by
  induction actions generalizing world with
  | nil => exact named
  | cons action rest ih => exact ih (followsStep process named action).named

theorem forwardRun (process : setup.handlers.process = Standard.process processing)
    (named : world.Named) (actions : List Action) {id : String} {state : SessionState}
    (here : world.server.state? id = some state) :
    ∃ later, (run setup world actions).server.state? id = some later ∧
      state.rank ≤ later.rank := by
  induction actions generalizing world state with
  | nil => exact ⟨state, here, Nat.le_refl _⟩
  | cons action rest ih =>
    have follows := followsStep process named action
    obtain ⟨between, there, early⟩ := Server.unfoldsForward follows.unfolds here
    obtain ⟨later, now, late⟩ := ih follows.named there
    exact ⟨later, now, early.trans late⟩

theorem toldOnceRun (process : setup.handlers.process = Standard.process processing)
    (named : world.Named) (once : world.server.ToldOnce) (actions : List Action) :
    (run setup world actions).server.ToldOnce := by
  induction actions generalizing world with
  | nil => exact once
  | cons action rest ih =>
    have follows := followsStep process named action
    exact ih follows.named (Server.unfoldsToldOnce follows.unfolds once)

theorem runAppend (setup : Setup σ) (world : World σ) (early late : List Action) :
    run setup world (early ++ late) = run setup (run setup world early) late :=
  List.foldl_append

/-- The sessions along a run: each step unfolds in moves of those that act, nobody goes back or
returns from a disconnect, and of each connection the server is told as it is made. -/
structure Lifecycle (setup : Setup σ) (memory : σ) (actions : List Action) : Prop where
  distinct : ((run setup (start memory) actions).clients.map Client.session).Nodup
  steps : ∀ early action late, actions = early ++ action :: late →
    Server.Unfolds setup.handlers.extensions (Asks setup (run setup (start memory) early) action)
      (Acting (run setup (start memory) early) action) (run setup (start memory) early).server
      (run setup (start memory) (early ++ [action])).server
  apart : ∀ early action late, actions = early ++ action :: late →
    ∀ id, ¬Acting (run setup (start memory) early) action id →
      (run setup (start memory) (early ++ [action])).server.state? id =
        (run setup (start memory) early).server.state? id
  forward : ∀ early late, actions = early ++ late → ∀ id state,
    (run setup (start memory) early).server.state? id = some state →
      ∃ later, (run setup (start memory) actions).server.state? id = some later ∧
        state.rank ≤ later.rank
  ended : ∀ early late, actions = early ++ late → ∀ id,
    (run setup (start memory) early).server.state? id = some .disconnected →
      (run setup (start memory) actions).server.state? id = some .disconnected
  told : (run setup (start memory) actions).server.ToldOnce
  once : ∀ id, (run setup (start memory) actions).server.connections id ≤ 1

theorem sessionsGoForward (process : setup.handlers.process = Standard.process processing)
    (memory : σ) (actions : List Action) : Lifecycle setup memory actions := by
  have named := fun actions => namedRun process (namedStart memory) actions
  have steps := fun early action => (followsStep process (named early) action).unfolds
  have forward : ∀ early late, actions = early ++ late → ∀ id state,
      (run setup (start memory) early).server.state? id = some state →
        ∃ later, (run setup (start memory) actions).server.state? id = some later ∧
          state.rank ≤ later.rank := by
    rintro early late rfl id state here
    rw [runAppend]
    exact forwardRun process (named early) late here
  have told := toldOnceRun process (namedStart memory) (fun _ => rfl) actions
  refine ⟨Server.namedNodup (named actions).sessions, fun early action late _ => ?_,
    fun early action late _ id silent => ?_, forward, fun early late split id here => ?_, told,
    fun id => Server.tallyOnce (told id)⟩
  · rw [runAppend]
    exact steps early action
  · rw [runAppend]
    exact Server.unfoldsOthers (steps early action) silent
  · obtain ⟨later, there, onward⟩ := forward early late split id _ here
    cases later with
    | disconnected => exact there
    | initialized | handshook | connected => exact absurd onward (by decide)

theorem sessionsGoForwardTwoClients :
    let setup : Setup Timesync.Samples :=
      ⟨⟨Standard.process ⟨.current, .current, 0, 30000⟩, [Timesync.extension]⟩,
        ⟨-1, none, 65536, [WebSocket.transport], 16⟩, ⟨60000, 1000, 1000, 16⟩⟩
    let handshake := "\x7b\"channel\":\"/meta/handshake\",\"version\":\"1.0\"," ++
      "\"supportedConnectionTypes\":[\"long-polling\",\"websocket\"]\x7d"
    let connect := "\x7b\"channel\":\"/meta/connect\",\"connectionType\":\"websocket\"," ++
      "\"clientId\":\"" ++ Server.sessionId 0 ++ "\"\x7d"
    let actions : List Action :=
      [.openWebSocket .inProcess, .openInProcess, .text 0 handshake, .text 0 connect, .onClose 0]
    let state? := fun count client =>
      (run setup (start []) (actions.take count)).server.state? (Server.sessionId client)
    setup.handlers.process = Standard.process ⟨.current, .current, 0, 30000⟩ ∧
      (∀ e ∈ setup.handlers.extensions, e.KeepsTransport) ∧
      ([3, 4, 5].map (state? · 0) = [some .handshook, some .connected, some .disconnected] ∧
        state? 5 1 = some .initialized ∧
        (run setup (start []) actions).server.connections (Server.sessionId 0) = 1) ∧
      Lifecycle setup [] actions := by
  intro setup handshake connect actions state?
  have keeps : ∀ e ∈ setup.handlers.extensions, e.KeepsTransport := by
    intro e inside
    rw [List.mem_singleton.mp inside]
    exact fun _ _ _ _ => rfl
  exact ⟨rfl, keeps, by decide +kernel, sessionsGoForward rfl [] actions⟩

end World
end Bayeux
