import Bayeux.Proofs.World.Patience
import Bayeux.Proofs.World.Sweeps
/-! The table of the transport in one process. It has the sessions of the clients that are open
and no others: WebSockets never get into it, what a carrier sends or is sent leaves it as it
is, and whoever closes takes its own session out. -/

namespace Bayeux

namespace Server
variable {σ : Type} {h : Handlers σ} {processing : Standard.Settings} {transports : List String}
  {asks : Context → Prop} {id : String} {s t u : Server σ}

def SameTable (s t : Server σ) : Prop := t.inProcess = s.inProcess

theorem sameTableTrans (first : s.SameTable t) (second : t.SameTable u) : s.SameTable u :=
  second.trans first

theorem sameTableOnSession {β : Type} (s : Server σ) (id : String) (missing : β)
    (act : Session → β × Session) : s.SameTable (s.onSession id missing act).2 := by
  rw [onSessionFrame]
  rfl

theorem sameTablePublish (s : Server σ) (sender? : Option String) (p : Packet) :
    s.SameTable (s.publish sender? p).2 :=
  publishKeeps (R := SameTable) (fun _ => rfl) sameTableTrans
    (fun s id _ => sameTableOnSession s id false _) (fun _ _ _ => rfl) s sender? p

theorem sameTableRespond (process : h.process = Standard.process processing)
    (transports : List String) (id : String) (c : Context) (s : Server σ) :
    s.SameTable (Router.respond h.process transports id c s).2 :=
  process ▸ Router.respondStandard (R := SameTable) (fun _ => rfl) sameTableTrans
    sameTableOnSession (fun _ _ _ => rfl) processing transports id c s

theorem sameTableDisconnected (s : Server σ) (id : String) (abrupt : Bool)
    (channel? : Option Channel) :
    s.SameTable ((s.markDisconnected id).disconnected id abrupt channel?) :=
  sameTableOnSession s id false Session.markDisconnected

theorem sameTableQuietly (process : h.process = Standard.process processing)
    (quiet : Quietly h transports id asks s t) : s.SameTable t := by
  induction quiet with
  | refl => rfl
  | tail _ deed ih =>
    refine sameTableTrans ih ?_
    cases deed with
    | incoming | outgoing | waits => rfl
    | request c asked => exact sameTableRespond process transports id c _
    | takes => exact sameTableOnSession _ id [] _
    | stops => exact sameTableOnSession _ id () _

/- Errands for somebody who is not in the table. -/
theorem sameTableErrands (process : h.process = Standard.process processing)
    (unlisted : id ∉ s.inProcess) (errands : Errands h id s t) : s.SameTable t := by
  induction errands with
  | refl => rfl
  | @tail t u _ errand ih =>
    refine sameTableTrans ih ?_
    cases errand with
    | incoming | outgoing | forgets | waits | parted | removed => rfl
    | request transports c => exact sameTableRespond process transports id c t
    | marked => exact sameTableOnSession t id false _
    | unlisted => exact List.erase_of_not_mem (ih ▸ unlisted)

end Server

namespace InProcess
variable {σ : Type} {h : Handlers σ} {p : InProcess}

theorem closeTable (h : Handlers σ) (opened : p.isClosed = false) (s : Server σ) :
    (p.close h s).2.inProcess = s.inProcess.erase p.session := by
  have frame := Extension.forgetPassFrame h.extensions p.session (s.removeSession p.session)
  simp only [close, opened, Bool.false_eq_true, if_false]
  generalize Extension.forgetPass h.extensions p.session (s.removeSession p.session) = t at frame ⊢
  have inProcess : t.inProcess = s.inProcess := by rw [frame]; rfl
  split
  · refine (Server.sameTableDisconnected _ _ true none).trans ?_
    exact congrArg (List.erase · p.session) inProcess
  · exact congrArg (List.erase · p.session) inProcess

end InProcess

namespace Client
variable {σ : Type} {h : Handlers σ} {processing : Standard.Settings} {c d e : Client}
  {s t u : Server σ}

inductive Lists (c : Client) (s : Server σ) (d : Client) (t : Server σ) : Prop where
  | stays (session : d.session = c.session) (tracked : d.IsTracked ↔ c.IsTracked)
      (same : s.SameTable t) : Lists c s d t
  | leaves (session : d.session = c.session) (untracked : ¬d.IsTracked)
      (rest : t.inProcess = s.inProcess.erase c.session) : Lists c s d t

theorem listsAfter (same : s.SameTable t) (lists : c.Lists t d u) : c.Lists s d u := by
  cases lists with
  | stays session tracked still => exact .stays session tracked (still.trans same)
  | leaves session untracked rest =>
    exact .leaves session untracked (rest.trans (congrArg (List.erase · c.session) same))

theorem listsWebSocket (process : h.process = Standard.process processing) {w v : WebSocket}
    (unlisted : w.session ∉ s.inProcess)
    (serves : Serves h (.webSocket w) s (.webSocket v) t) :
    Lists (.webSocket w) s (.webSocket v) t :=
  .stays serves.session Iff.rfl (Server.sameTableErrands process unlisted serves.server)

theorem listsTalks (process : h.process = Standard.process processing) {asks : Context → Prop}
    {p q : InProcess} (talks : p.Talks h asks s q t) :
    Lists (.inProcess p) s (.inProcess q) t :=
  .stays talks.session (by simp only [IsTracked, talks.closed])
    (Server.sameTableQuietly process talks.server)

theorem listsClose (h : Handlers σ) (p : InProcess) (s : Server σ) :
    Lists (.inProcess p) s (.inProcess (p.close h s).1) (p.close h s).2 := by
  cases closed : p.isClosed with
  | true =>
    rw [InProcess.closeAgain h s closed]
    exact .stays rfl Iff.rfl rfl
  | false =>
    have flags := InProcess.closeFlags h s closed
    exact .leaves (by rw [flags]; rfl) (by simp [flags, IsTracked])
      (InProcess.closeTable h closed s)

theorem listsInject (process : h.process = Standard.process processing) (m : Message)
    (p : InProcess) (s : Server σ) :
    Lists (.inProcess p) s (.inProcess (p.inject h m s).2.1) (p.inject h m s).2.2 := by
  have exchange := InProcess.injectExchange h m p s
  generalize p.disconnects h m s = parts at exchange
  generalize p.inject h m s = result at exchange ⊢
  obtain ⟨answer, r, u⟩ := result
  simp only at exchange ⊢
  cases exchange with
  | stayed talks => exact listsTalks process talks
  | @parted q channel t v talks path replies =>
    have parted : s.SameTable v := Server.sameTableTrans
      (Server.sameTableQuietly process talks.server)
      (Server.sameTableTrans (Server.sameTableDisconnected t p.session false (some channel))
        (Server.sameTableQuietly process replies))
    have closed := listsAfter parted (listsClose h { q with isConnected := false } v)
    cases closed with
    | stays session tracked same =>
      refine .stays (session.trans talks.session) (tracked.trans ?_) same
      simp only [IsTracked, talks.closed]
    | leaves session untracked rest =>
      exact .leaves (session.trans talks.session) untracked (talks.session ▸ rest)

end Client

namespace World
variable {σ : Type} {setup : Setup σ} {processing : Standard.Settings} {world : World σ}
  {clients done rest : List Client} {c d : Client} {s t : Server σ} {id : String}

def Tracked (clients : List Client) (id : String) : Prop :=
  ∃ c ∈ clients, c.IsTracked ∧ c.session = id

/-- The table has the sessions of those that are open, each of them once. -/
structure Tracks (world : World σ) : Prop where
  once : world.server.inProcess.Nodup
  listed : ∀ id, id ∈ world.server.inProcess ↔ Tracked world.clients id

theorem trackedCons : Tracked (c :: rest) id ↔ c.IsTracked ∧ c.session = id ∨ Tracked rest id := by
  simp only [Tracked, List.exists_mem_cons_iff]

theorem trackedAppend (done rest : List Client) (id : String) :
    Tracked (done ++ rest) id ↔ Tracked done id ∨ Tracked rest id := by
  simp only [Tracked, List.mem_append, or_and_right, exists_or]

theorem trackedOwn (apart : (clients.map Client.session).Nodup) (inside : c ∈ clients) :
    Tracked clients c.session ↔ c.IsTracked := by
  refine ⟨?_, fun tracked => ⟨c, inside, tracked, rfl⟩⟩
  rintro ⟨d, other, tracked, same⟩
  exact List.inj_on_of_nodup_map apart other inside same ▸ tracked

/- One client makes its turn, and the table follows. -/
theorem trackedTurn (apart : ((done ++ c :: rest).map Client.session).Nodup)
    (listed : ∀ id, id ∈ s.inProcess ↔ Tracked (done ++ c :: rest) id) (once : s.inProcess.Nodup)
    (lists : c.Lists s d t) :
    t.inProcess.Nodup ∧ ∀ id, id ∈ t.inProcess ↔ Tracked (done ++ d :: rest) id := by
  cases lists with
  | stays session tracked same =>
    rw [show t.inProcess = s.inProcess from same]
    refine ⟨once, fun id => (listed id).trans ?_⟩
    simp only [trackedAppend, trackedCons, session, tracked]
  | leaves session untracked left =>
    rw [left]
    refine ⟨once.erase _, fun id => ?_⟩
    have own : ∀ e ∈ done ++ rest, e.session ≠ c.session := by
      rw [List.map_append, List.map_cons, List.nodup_middle, List.nodup_cons] at apart
      intro e inside same
      exact apart.1 (by rw [← List.map_append]; exact List.mem_map.mpr ⟨e, inside, same⟩)
    rw [once.mem_erase_iff, listed]
    simp only [trackedAppend, trackedCons, untracked, false_and, false_or]
    have others : Tracked (done ++ rest) id → id ≠ c.session := by
      rintro ⟨e, inside, -, rfl⟩
      exact own e inside
    rw [trackedAppend] at others
    tauto

theorem setSplit {i : Nat} (here : clients[i]? = some c) :
    ∃ done rest, clients = done ++ c :: rest ∧ ∀ d, clients.set i d = done ++ d :: rest := by
  obtain ⟨inside, found⟩ := List.getElem?_eq_some_iff.mp here
  have turned : ∀ d, clients.set i d = clients.take i ++ d :: clients.drop (i + 1) := fun d => by
    rw [List.set_eq_take_append_cons_drop, if_pos inside]
  refine ⟨_, _, ?_, turned⟩
  rw [← turned c, ← found, List.set_getElem_self]

theorem tracksSet (named : world.Named) (tracks : world.Tracks) {client : Nat}
    (here : world.client? client = some c) (lists : c.Lists world.server d t) :
    (world.setClient client d t).Tracks := by
  have apart := Server.namedNodup named.sessions
  obtain ⟨done, rest, split, turned⟩ := setSplit here
  have listed := tracks.listed
  rw [split] at apart listed
  obtain ⟨once, after⟩ := trackedTurn apart listed tracks.once lists
  refine ⟨once, fun id => ?_⟩
  rw [setClient, turned]
  exact after id

theorem tracksServer (tracks : world.Tracks) (same : world.server.SameTable t) :
    Tracks { world with server := t } := by
  have table : t.inProcess = world.server.inProcess := same
  exact ⟨table ▸ tracks.once, fun id => (iff_of_eq (congrArg (id ∈ ·) table)).trans
    (tracks.listed id)⟩

theorem webSocketUnlisted (named : world.Named) (tracks : world.Tracks) {client : Nat}
    {w : WebSocket} (here : world.client? client = some (.webSocket w)) :
    w.session ∉ world.server.inProcess := by
  rw [tracks.listed]
  have inside : Client.webSocket w ∈ world.clients := List.mem_of_getElem? here
  exact (trackedOwn (Server.namedNodup named.sessions) inside).not.mpr id

theorem freshUnlisted (named : world.Named) (tracks : world.Tracks) :
    Server.sessionId (List.length world.server.sessions) ∉ world.server.inProcess := by
  rw [tracks.listed, Server.numberedCount named.numbered]
  rintro ⟨c, inside, -, same⟩
  obtain ⟨i, here⟩ := List.mem_iff_getElem?.mp inside
  obtain ⟨before, -⟩ := List.getElem?_eq_some_iff.mp here
  rw [named.sessions i c here] at same
  exact absurd (Server.sessionIdInjective same) before.ne

theorem tracksWebSocket (named : world.Named) (tracks : world.Tracks) {client : Nat}
    {w v : WebSocket} (here : world.client? client = some (.webSocket w))
    (lists : w.session ∉ world.server.inProcess →
      (Client.webSocket w).Lists world.server (.webSocket v) t) :
    (world.setClient client (.webSocket v) t).Tracks :=
  tracksSet named tracks here (lists (webSocketUnlisted named tracks here))

theorem tracksOnWebSocket (named : world.Named) (tracks : world.Tracks) {client : Nat}
    {act : WebSocket → Server σ → Answer × WebSocket × Server σ}
    (lists : ∀ w, w.session ∉ world.server.inProcess → (Client.webSocket w).Lists world.server
      (.webSocket (act w world.server).2.1) (act w world.server).2.2) :
    (world.onWebSocket client act).2.Tracks :=
  onWebSocketKeeps tracks fun w here => tracksWebSocket named tracks here (lists w)

theorem tracksOnInProcess (named : world.Named) (tracks : world.Tracks) {client : Nat}
    {act : InProcess → Server σ → Answer × InProcess × Server σ}
    (lists : ∀ p, (Client.inProcess p).Lists world.server
      (.inProcess (act p world.server).2.1) (act p world.server).2.2) :
    (world.onInProcess client act).2.Tracks :=
  onInProcessKeeps tracks fun p here => tracksSet named tracks here (lists p)

theorem tracksOnCarrier (named : world.Named) (tracks : world.Tracks) {client : Nat}
    {webSocket : WebSocket → Server σ → Answer × WebSocket × Server σ}
    {inProcess : InProcess → Server σ → Answer × InProcess × Server σ}
    (left : ∀ w, w.session ∉ world.server.inProcess → (Client.webSocket w).Lists world.server
      (.webSocket (webSocket w world.server).2.1) (webSocket w world.server).2.2)
    (right : ∀ p, (Client.inProcess p).Lists world.server
      (.inProcess (inProcess p world.server).2.1) (inProcess p world.server).2.2) :
    (world.onCarrier client webSocket inProcess).2.Tracks :=
  onCarrierKeeps tracks (fun w here => tracksWebSocket named tracks here (left w))
    fun p here => tracksSet named tracks here (right p)

theorem tracksOnServer (tracks : world.Tracks) {client : Nat}
    {act : String → Server σ → Answer × Server σ}
    (same : ∀ id, world.server.SameTable (act id world.server).2) :
    (world.onServer client act).2.Tracks :=
  onServerKeeps tracks fun c _ => tracksServer tracks (same c.session)

theorem tracksOpenWebSocket (tracks : world.Tracks) (peer : Peer) :
    (world.act setup (.openWebSocket peer)).2.Tracks := by
  unfold act
  simp only
  split
  · refine ⟨tracks.once, fun id => (tracks.listed id).trans ?_⟩
    have nobody (w : WebSocket) : ¬Tracked [.webSocket w] id := by simp [Tracked, Client.IsTracked]
    simp only [addClient, trackedAppend, nobody, or_false]
  · exact tracks

theorem tracksOpenInProcess (named : world.Named) (tracks : world.Tracks) :
    (world.act setup .openInProcess).2.Tracks := by
  have fresh := freshUnlisted named tracks
  unfold act
  simp only
  split
  · simp only [InProcess.open, Server.openSession]
    generalize Server.sessionId (List.length world.server.sessions) = own at fresh
    refine ⟨?_, fun id => ?_⟩
    · refine List.nodup_append.mpr ⟨tracks.once, List.nodup_singleton own, ?_⟩
      intro id before other last same
      exact fresh (List.mem_singleton.mp last ▸ same ▸ before)
    · have last : ∀ p : InProcess, p.isClosed = false →
          (Tracked [.inProcess p] id ↔ id = p.session) := fun p opened => by
        simpa [Tracked, Client.IsTracked, Client.session, opened] using eq_comm
      simp only [addClient, trackedAppend, last, List.mem_append, List.mem_singleton]
      exact or_congr_left (tracks.listed id)
  · exact tracks

theorem trackedPumpAll (process : setup.handlers.process = Standard.process processing)
    (clients : List Client) (s : Server σ) : s.SameTable (pumpAll setup clients s).2 ∧
      ∀ id, Tracked (pumpAll setup clients s).1 id ↔ Tracked clients id := by
  induction clients generalizing s with
  | nil => exact ⟨rfl, fun id => Iff.rfl⟩
  | cons c rest ih =>
    cases c with
    | webSocket w =>
      obtain ⟨same, tracked⟩ := ih s
      exact ⟨same, fun id => by simp only [pumpAll, trackedCons, tracked]⟩
    | inProcess p =>
      have pumped := InProcess.talksPump setup.handlers (fun _ => False) setup.inProcess p s
      have still := Server.sameTableQuietly process pumped.server
      obtain ⟨same, tracked⟩ := ih (p.pump setup.handlers setup.inProcess s).2
      refine ⟨Server.sameTableTrans still same, fun id => ?_⟩
      simp only [pumpAll, trackedCons, tracked, Client.IsTracked, Client.session, pumped.closed,
        pumped.session]

theorem tracksSettle (process : setup.handlers.process = Standard.process processing)
    (tracks : world.Tracks) : (world.settle setup).Tracks := by
  obtain ⟨same, tracked⟩ := trackedPumpAll process world.clients world.server
  have table : (world.settle setup).server.inProcess = world.server.inProcess := same
  refine ⟨table ▸ tracks.once, fun id => ?_⟩
  rw [table, tracks.listed]
  exact (tracked id).symm

theorem fitsTracks (named : world.Named) (tracks : world.Tracks)
    (allowed : ∀ c ∈ world.clients, 0 ≤ c.idleTimeout) :
    ∀ c ∈ world.clients, c.Fits world.server := fun c inside =>
  ⟨(tracks.listed _).trans (trackedOwn (Server.namedNodup named.sessions) inside),
    allowed c inside⟩

theorem trackedExpired (now : Nat) (apart : (clients.map Client.session).Nodup) (id : String) :
    Tracked (clients.map fun c => if c.Due now then c.expired else c) id ↔
      Tracked clients id ∧ ¬DueSession now clients id := by
  have shut : ∀ c : Client, c.Due now → ¬c.expired.IsTracked := by
    rintro (w | p) due
    · exact due.elim
    · simp [Client.expired, Client.IsTracked]
  constructor
  · rintro ⟨_, listed, tracked, rfl⟩
    obtain ⟨c, inside, rfl⟩ := List.mem_map.mp listed
    by_cases due : c.Due now
    · rw [if_pos due] at tracked
      exact absurd tracked (shut c due)
    · rw [if_neg due] at tracked ⊢
      refine ⟨⟨c, inside, tracked, rfl⟩, ?_⟩
      rintro ⟨d, other, silent, same⟩
      exact due (List.inj_on_of_nodup_map apart other inside same ▸ silent)
  · rintro ⟨⟨c, inside, tracked, rfl⟩, stays⟩
    have going : ¬c.Due now := fun due => stays ⟨c, inside, due, rfl⟩
    exact ⟨c, List.mem_map.mpr ⟨c, inside, if_neg going⟩, tracked, rfl⟩

theorem tracksExpire (named : world.Named) (indexed : world.server.registry.Indexed)
    (tracks : world.Tracks) (allowed : ∀ c ∈ world.clients, 0 ≤ c.idleTimeout) :
    (world.act setup .expireIdle).2.Tracks := by
  have apart := Server.namedNodup named.sessions
  obtain ⟨t, swept, rids, kept⟩ := expireAllAtOnce setup.handlers ⟨indexed, tracks.once⟩ apart
    (fitsTracks named tracks allowed)
  simp only [act, swept]
  refine ⟨kept.once, fun id => ?_⟩
  rw [rids.tracked, tracks.listed, trackedExpired _ apart]

/- One action, whatever it is. -/
theorem tracksAct (process : setup.handlers.process = Standard.process processing)
    (named : world.Named) (indexed : world.server.registry.Indexed) (tracks : world.Tracks)
    (allowed : ∀ c ∈ world.clients, 0 ≤ c.idleTimeout) (action : Action) :
    (world.act setup action).2.Tracks := by
  cases action with
  | openWebSocket peer => exact tracksOpenWebSocket tracks peer
  | openInProcess => exact tracksOpenInProcess named tracks
  | text client content =>
    exact tracksOnWebSocket named tracks fun w unlisted => Client.listsWebSocket process unlisted
      (WebSocket.servesOnText setup.handlers setup.webSocket content w world.server)
  | inject client m =>
    exact tracksOnInProcess named tracks fun p => Client.listsInject process m p world.server
  | flush client =>
    refine tracksOnWebSocket named tracks fun w unlisted => ?_
    have taken := Server.sameTableOnSession world.server w.session [] fun x =>
      ((x.deliveries.takeAll).1, { x with deliveries := (x.deliveries.takeAll).2 })
    exact Client.listsAfter taken (Client.listsWebSocket process (taken ▸ unlisted)
      (WebSocket.servesDeliver setup.handlers setup.webSocket _ w _))
  | collect client =>
    exact tracksOnInProcess named tracks fun p => .stays rfl Iff.rfl rfl
  | send client packets =>
    exact tracksOnCarrier named tracks
      (fun w unlisted => Client.listsWebSocket process unlisted
        (WebSocket.servesDeliver setup.handlers setup.webSocket packets w world.server))
      fun p => Client.listsTalks process
        (InProcess.talksSend setup.handlers (fun _ => False) packets p world.server)
  | close client =>
    exact tracksOnCarrier named tracks
      (fun w _ => .stays (WebSocket.shutsClose w).session Iff.rfl rfl)
      fun p => Client.listsClose setup.handlers p world.server
  | onClose client =>
    exact tracksOnWebSocket named tracks fun w unlisted => Client.listsWebSocket process unlisted
      (WebSocket.servesOnClose setup.handlers w world.server)
  | closeIfIdle client =>
    exact tracksOnWebSocket named tracks fun w _ =>
      .stays (WebSocket.shutsCloseIfIdle w _).session Iff.rfl rfl
  | expireIdle => exact tracksExpire named indexed tracks allowed
  | setIdleTimeout | setDisconnected =>
    exact tracksOnCarrier named tracks (fun w _ => .stays rfl Iff.rfl rfl)
      fun p => .stays rfl Iff.rfl rfl
  | dropReader client =>
    exact tracksOnCarrier named tracks
      (fun w _ => .stays rfl Iff.rfl (Server.sameTableOnSession _ w.session () _))
      fun p => .stays rfl Iff.rfl rfl
  | setSink client sink =>
    exact tracksOnWebSocket named tracks fun w _ => .stays rfl Iff.rfl rfl
  | deliver client p =>
    exact tracksOnServer tracks fun id => Server.sameTableOnSession _ id false _
  | publish sender? p => exact tracksServer tracks (Server.sameTablePublish _ _ p)
  | register | deregister | subscribe | unsubscribe => exact tracksOnServer tracks fun id => rfl
  | advance nanoseconds => exact tracksServer tracks rfl

end World
end Bayeux
