import Bayeux.Proofs.World.Coherent
/-! Nothing kept for a session outlives its connection. However clients come, talk, fall silent
and go, the registry and the table of carriers list exactly those that were not torn down,
and subscriptions and samples belong to them. -/

namespace Bayeux

/-- The server hears of sessions and subscriptions from carriers only. -/
def Action.IsTraffic : Action → Prop
  | .register _ | .deregister _ | .subscribe _ _ | .unsubscribe _ _ => False
  | _ => True

namespace World
variable {σ : Type} {samples : σ → Timesync.Samples} {setup : Setup σ} {world : World σ}
  {gone : List Nat}

/-- The clients that a sweep closes, the first of them having this number. -/
def swept (h : Handlers σ) (number : Nat) : List Client → Server σ → List Nat
  | [], _ => []
  | c :: rest, s =>
    let (expired, _, s) := expire h c s
    (if expired then [number] else []) ++ swept h (number + 1) rest s

/-- The clients that an action tears down. -/
def tornDown (setup : Setup σ) (world : World σ) : Action → List Nat
  | .onClose client =>
    match world.client? client with
    | some (.webSocket _) => [client]
    | _ => []
  | .close client =>
    match world.client? client with
    | some (.inProcess _) => [client]
    | _ => []
  | .inject client m =>
    match world.client? client with
    | some (.inProcess p) => if p.disconnects setup.handlers m world.server then [client] else []
    | _ => []
  | .expireIdle => swept setup.handlers 0 world.clients world.server
  | _ => []

def allTornDown (setup : Setup σ) (world : World σ) : List Action → List Nat
  | [] => []
  | action :: rest =>
    tornDown setup world action ++ allTornDown setup (world.step setup action).2 rest

/- A loop over all clients gives each of them its turn, with the server that the one before it
has left. -/
theorem coherentNext {done rest : List Client} {c d : Client} {s t : Server σ}
    (coherent : Coherent samples gone ⟨s, done ++ c :: rest⟩) (more : List Nat)
    (only : ∀ j ∈ more, j = done.length)
    (turn : c.Turn samples (done.length ∈ gone) s (done.length ∈ gone ++ more) d t) :
    Coherent samples (gone ++ more) ⟨t, (done ++ [d]) ++ rest⟩ := by
  have here : (done ++ c :: rest)[done.length]? = some c := by simp
  have after := coherentTurn coherent here only turn
  simpa using after

theorem coherentExpireAll (proper : setup.handlers.Proper samples) (done rest : List Client)
    (s : Server σ) (coherent : Coherent samples gone ⟨s, done ++ rest⟩) :
    Coherent samples (gone ++ swept setup.handlers done.length rest s)
      ⟨(expireAll setup.handlers rest s).2.2, done ++ (expireAll setup.handlers rest s).2.1⟩ := by
  induction rest generalizing done s gone with
  | nil => simpa [swept, expireAll] using coherent
  | cons c rest ih =>
    have turn := Client.turnExpire proper (done.length ∈ gone) c s
    simp only [swept, expireAll]
    generalize expire setup.handlers c s = result at turn
    obtain ⟨expired, d, t⟩ := result
    generalize closed : (if expired = true then [done.length] else []) = more
    have later : (done.length ∈ gone ++ more) = (done.length ∈ gone ∨ expired = true) := by
      cases expired <;> simp [← closed]
    have next := coherentNext coherent more (by cases expired <;> simp [← closed])
      (later ▸ turn)
    simpa [List.append_assoc] using ih (done ++ [d]) t next

theorem coherentPumpAll (proper : setup.handlers.Proper samples) (done rest : List Client)
    (s : Server σ) (coherent : Coherent samples gone ⟨s, done ++ rest⟩) :
    Coherent samples gone ⟨(pumpAll setup rest s).2, done ++ (pumpAll setup rest s).1⟩ := by
  induction rest generalizing done s with
  | nil => simpa [pumpAll] using coherent
  | cons c rest ih =>
    cases c with
    | webSocket w =>
      have after := ih (done ++ [.webSocket w]) s (by simpa using coherent)
      simpa [pumpAll] using after
    | inProcess p =>
      have pumped := InProcess.staysPump proper setup.inProcess p s
      have next := coherentNext coherent [] (by simp) (by simpa using Client.turnStays pumped)
      rw [List.append_nil] at next
      simpa [pumpAll] using ih _ _ next

theorem coherentSettle (proper : setup.handlers.Proper samples)
    (coherent : Coherent samples gone world) : Coherent samples gone (world.settle setup) :=
  coherentPumpAll proper [] world.clients world.server coherent

theorem turnDeliver (proper : setup.handlers.Proper samples) (packets : List Packet)
    (w : WebSocket) (s : Server σ) (torn : Prop) :
    (Client.webSocket w).Turn samples torn s torn
      (.webSocket (w.deliver setup.handlers setup.webSocket packets s).2.1)
      (w.deliver setup.handlers setup.webSocket packets s).2.2 := by
  refine Client.turnOnward (WebSocket.onwardDeliver proper setup.webSocket packets w s)
    fun closed => ?_
  rw [WebSocket.deliverEnded _ _ _ _ closed]
  exact Server.leavesRefl s

theorem turnFlush (proper : setup.handlers.Proper samples) (w : WebSocket) (s : Server σ)
    (torn : Prop) : (Client.webSocket w).Turn samples torn s torn
      (.webSocket (flush setup w s).2.1) (flush setup w s).2.2 := by
  have taken : s.Leaves samples (s.takeDeliveries w.session).2 :=
    Server.leavesTakeDeliveries s w.session
  exact Client.turnTrans (Client.turnLeaves _ taken) (turnDeliver proper _ w _ torn)

theorem turnText (proper : setup.handlers.Proper samples) (content : String) (w : WebSocket)
    (s : Server σ) (torn : Prop) : (Client.webSocket w).Turn samples torn s torn
      (.webSocket (w.onText setup.handlers setup.webSocket content s).2.1)
      (w.onText setup.handlers setup.webSocket content s).2.2 := by
  refine Client.turnOnward (WebSocket.onwardOnText proper setup.webSocket content w s)
    fun closed => ?_
  rw [WebSocket.onTextEnded _ _ _ _ closed]
  exact Server.leavesRefl s

theorem coherentOpenWebSocket (coherent : Coherent samples gone world) (peer : Peer) :
    Coherent samples gone (world.act setup (.openWebSocket peer)).2 := by
  unfold act
  simp only
  split
  · unfold WebSocket.open
    cases result : world.server.openSession WebSocket.transport false setup.webSocket.queueSize with
    | mk id t =>
      obtain ⟨name, after, registered, tracked, names⟩ := opened coherent _ _ _ result
      refine coherentAdd coherent name after registered (fun other => ?_) names trivial
      simp [tracked, Client.IsTracked]
  · exact coherent

theorem coherentOpenInProcess (coherent : Coherent samples gone world) :
    Coherent samples gone (world.act setup .openInProcess).2 := by
  unfold act
  simp only
  split
  · unfold InProcess.open
    cases result : world.server.openSession InProcess.transport true setup.inProcess.queueSize with
    | mk id t =>
      obtain ⟨name, after, registered, tracked, names⟩ := opened coherent _ _ _ result
      have unseen : id ∉ t.inProcess := by
        rw [tracked, name]
        exact fun inside => freshName coherent (coherent.tracked _ inside)
      have listed : { t with inProcess := t.inProcess ++ [id] }.Orderly samples := by
        refine { after with tracked := List.nodup_append.mpr ⟨after.tracked, by simp, ?_⟩ }
        intro other inside last own
        rw [List.mem_singleton.mp own]
        exact fun same => unseen (same ▸ inside)
      refine coherentAdd coherent name listed registered (fun other => ?_) names (by
        simp [Client.Tells])
      simp [tracked, Client.IsTracked, Client.session]
  · exact coherent

/- The actions that tear a client down, or may. -/
theorem coherentInject (proper : setup.handlers.Proper samples)
    (coherent : Coherent samples gone world) (client : Nat) (m : Message) :
    Coherent samples (gone ++ tornDown setup world (.inject client m))
      (world.act setup (.inject client m)).2 := by
  simp only [tornDown, act, onInProcess]
  cases here : world.client? client with
  | none => simpa using coherent
  | some c =>
    cases c with
    | webSocket w => simpa using coherent
    | inProcess p =>
      have turn := Client.turnInject proper (client ∈ gone) m p world.server
      simp only
      generalize p.disconnects setup.handlers m world.server = disconnects at turn ⊢
      refine coherentTurn coherent here ?_ ?_
      · cases disconnects <;> simp
      · cases disconnects <;> simpa using turn

theorem coherentClose (proper : setup.handlers.Proper samples)
    (coherent : Coherent samples gone world) (client : Nat) :
    Coherent samples (gone ++ tornDown setup world (.close client))
      (world.act setup (.close client)).2 := by
  simp only [tornDown, act, onCarrier, onWebSocket, onInProcess]
  cases here : world.client? client with
  | none => simpa using coherent
  | some c =>
    cases c with
    | webSocket w =>
      simp only [List.append_nil]
      exact coherentStill coherent here (Client.turnShuts (WebSocket.shutsClose w))
    | inProcess p =>
      exact coherentTurn coherent here (by simp)
        (Client.turnClose proper p world.server (by simp))

theorem coherentOnClose (proper : setup.handlers.Proper samples)
    (coherent : Coherent samples gone world) (client : Nat) :
    Coherent samples (gone ++ tornDown setup world (.onClose client))
      (world.act setup (.onClose client)).2 := by
  simp only [tornDown, act, onWebSocket]
  cases here : world.client? client with
  | none => simpa using coherent
  | some c =>
    cases c with
    | inProcess p => simpa using coherent
    | webSocket w =>
      exact coherentTurn coherent here (by simp)
        (Client.turnOnClose proper w world.server (by simp))

/- One action of traffic, whatever it is. -/
theorem coherentAct (proper : setup.handlers.Proper samples)
    (coherent : Coherent samples gone world) (action : Action) (traffic : action.IsTraffic) :
    Coherent samples (gone ++ tornDown setup world action) (world.act setup action).2 := by
  cases action with
  | inject client m => exact coherentInject proper coherent client m
  | close client => exact coherentClose proper coherent client
  | onClose client => exact coherentOnClose proper coherent client
  | expireIdle => exact coherentExpireAll proper [] world.clients world.server coherent
  | register | deregister | subscribe | unsubscribe => exact traffic.elim
  | openWebSocket peer => simpa [tornDown] using coherentOpenWebSocket coherent peer
  | openInProcess => simpa [tornDown] using coherentOpenInProcess coherent
  | text client content =>
    simp only [tornDown, List.append_nil]
    exact coherentOnWebSocket coherent client fun w => turnText proper content w _ _
  | flush client =>
    simp only [tornDown, List.append_nil]
    exact coherentOnWebSocket coherent client fun w => turnFlush proper w _ _
  | collect client =>
    simp only [tornDown, List.append_nil]
    exact coherentOnInProcess coherent client fun p =>
      Client.turnStays ⟨rfl, rfl, id, fun _ => Server.leavesRefl _⟩
  | send client packets =>
    simp only [tornDown, List.append_nil]
    exact coherentOnCarrier coherent client (fun w => turnDeliver proper packets w _ _)
      fun p => Client.turnStays (InProcess.staysSend proper packets p _)
  | closeIfIdle client =>
    simp only [tornDown, List.append_nil]
    exact coherentOnWebSocket coherent client fun w =>
      Client.turnShuts (WebSocket.shutsCloseIfIdle w _)
  | setIdleTimeout client requested =>
    simp only [tornDown, List.append_nil]
    exact coherentOnCarrier coherent client (fun w => Client.turnFlags rfl id id)
      fun p => Client.turnStays ⟨rfl, rfl, id, fun _ => Server.leavesRefl _⟩
  | setDisconnected client =>
    simp only [tornDown, List.append_nil]
    exact coherentOnCarrier coherent client (fun w => Client.turnFlags rfl id fun _ => rfl)
      fun p => Client.turnStays ⟨rfl, rfl, fun _ => rfl, fun _ => Server.leavesRefl _⟩
  | dropReader client =>
    simp only [tornDown, List.append_nil]
    exact coherentOnCarrier coherent client
      (fun w => Client.turnLeaves _ (Server.leavesCloseDeliveries _ _))
      fun p => Client.turnStays ⟨rfl, rfl, id, fun _ => Server.leavesRefl _⟩
  | setSink client sink =>
    simp only [tornDown, List.append_nil]
    exact coherentOnWebSocket coherent client fun w => Client.turnFlags rfl id id
  | deliver client p =>
    simp only [tornDown, List.append_nil, act, onServer]
    split
    · exact coherentLeaves coherent (Server.leavesDeliver _ _ _)
    · exact coherent
  | publish sender? p =>
    simp only [tornDown, List.append_nil]
    exact coherentLeaves coherent (Server.leavesPublish _ _ _)
  | advance nanoseconds =>
    simp only [tornDown, List.append_nil]
    exact coherentLeaves coherent (Server.leavesClock _ _)

theorem coherentRun (proper : setup.handlers.Proper samples)
    (coherent : Coherent samples gone world) (actions : List Action)
    (traffic : ∀ action ∈ actions, action.IsTraffic) :
    Coherent samples (gone ++ allTornDown setup world actions) (run setup world actions) := by
  induction actions generalizing world gone with
  | nil => simpa [allTornDown, run] using coherent
  | cons action rest ih =>
    have acted := coherentAct proper coherent action (traffic action (by simp))
    have settled : Coherent samples _ (world.step setup action).2 := coherentSettle proper acted
    have after := ih settled fun later inside => traffic later (List.mem_cons_of_mem _ inside)
    simpa [allTornDown, run, List.append_assoc] using after

/-- The books of a server whose clients `gone` were torn down. -/
structure Accounted (samples : σ → Timesync.Samples) (gone : List Nat) (world : World σ) :
    Prop where
  distinct : (world.clients.map Client.session).Nodup
  sessions : ∀ id, id ∈ world.server.registry.sessions ↔
    ∃ (i : Nat) (c : Client), world.clients[i]? = some c ∧ c.session = id ∧ i ∉ gone
  once : world.server.registry.sessions.Nodup
  byPattern : ∀ pattern entry, (pattern, entry) ∈ world.server.registry.subscriptions →
    ∀ id ∈ entry.sessions,
      id ∈ world.server.registry.sessions ∧ world.server.stateOf id = .connected
  bySession : ∀ id ∈ Table.keys world.server.registry.channels,
    id ∈ world.server.registry.sessions ∧ world.server.stateOf id = .connected
  sampled : ∀ id ∈ Table.keys (samples world.server.memory), id ∈ world.server.registry.sessions
  inProcess : ∀ id, id ∈ world.server.inProcess ↔
    ∃ (i : Nat) (p : InProcess), world.clients[i]? = some (.inProcess p) ∧ p.session = id ∧
      p.isClosed = false
  trackedOnce : world.server.inProcess.Nodup
  closed : ∀ (i : Nat) p, world.clients[i]? = some (.inProcess p) → (p.isClosed = true ↔ i ∈ gone)

theorem sessionsDistinct (coherent : Coherent samples gone world) :
    (world.clients.map Client.session).Nodup :=
  Server.namedNodup coherent.sessions

theorem clientOf (coherent : Coherent samples gone world) {id : String}
    (known : id ∈ Table.keys world.server.sessions) :
    ∃ (i : Nat) (c : Client), world.clients[i]? = some c ∧ c.session = id := by
  rw [coherent.names] at known
  obtain ⟨i, inside, rfl⟩ := List.mem_map.mp known
  have here := List.getElem?_eq_getElem (List.mem_range.mp inside)
  exact ⟨i, _, here, coherent.sessions i _ here⟩

theorem accounted (coherent : Coherent samples gone world) : Accounted samples gone world where
  distinct := sessionsDistinct coherent
  sessions id := by
    constructor
    · intro registered
      obtain ⟨i, c, here, rfl⟩ := clientOf coherent (coherent.registered id registered)
      exact ⟨i, c, here, rfl, (coherent.placed i c here).registered.mp registered⟩
    · rintro ⟨i, c, here, rfl, alive⟩
      exact (coherent.placed i c here).registered.mpr alive
  once := coherent.orderly.indexed.sessions
  byPattern pattern entry inside id member := by
    have found := Table.getOfMem coherent.orderly.indexed.subscriptions.distinct inside
    have listed := Registry.memMembersIn.mpr ⟨entry, found, member⟩
    exact coherent.orderly.subscribed id pattern
      ((coherent.orderly.indexed.inverse id pattern).mp listed)
  bySession id inside := by
    obtain ⟨patterns, found⟩ := Option.isSome_iff_exists.mp ((Table.isSomeIff _ id).mpr inside)
    obtain ⟨pattern, held⟩ := List.exists_mem_of_ne_nil _
      (coherent.orderly.indexed.channels.filled id patterns found)
    exact coherent.orderly.subscribed id pattern (Registry.holdsIff.mpr ⟨patterns, found, held⟩)
  sampled := coherent.orderly.sampled
  inProcess id := by
    constructor
    · intro tracked
      obtain ⟨i, c, here, rfl⟩ := clientOf coherent (coherent.tracked id tracked)
      have flag := (coherent.placed i c here).tracked.mp tracked
      cases c with
      | webSocket w => exact flag.elim
      | inProcess p => exact ⟨i, p, here, rfl, flag⟩
    · rintro ⟨i, p, here, rfl, opened⟩
      exact (coherent.placed i _ here).tracked.mpr opened
  trackedOnce := coherent.orderly.tracked
  closed i p here := (coherent.placed i _ here).tells

/- Nothing outlives its connection: however the clients come and go, the server's books are
about those that were not torn down. -/
theorem nothingOutlives {settings : Standard.Settings} {memory : σ}
    (process : setup.handlers.process = Standard.process settings)
    (timed : Extension.Timed samples setup.handlers.extensions) (fresh : samples memory = [])
    (actions : List Action) (traffic : ∀ action ∈ actions, action.IsTraffic) :
    Accounted samples (allTornDown setup (start memory) actions)
      (run setup (start memory) actions) := by
  have proper : setup.handlers.Proper samples := ⟨timed, process ▸ Standard.careful settings⟩
  have coherent := coherentRun proper (coherentStart fresh) actions traffic
  rw [List.nil_append] at coherent
  exact accounted coherent

theorem nothingOutlivesThreeClients :
    let setup : Setup Timesync.Samples :=
      ⟨⟨Standard.process ⟨.current, .current, 0, 30000⟩,
        [Extension.silent "log", Timesync.extension]⟩,
        ⟨-1, none, 65536, [WebSocket.transport], 16⟩, ⟨60000, 1000, 1000, 16⟩⟩
    let actions : List Action :=
      [.openWebSocket .inProcess, .openInProcess, .openInProcess,
        .inject 1 (Message.forChannel "/meta/disconnect"), .onClose 0, .expireIdle]
    allTornDown setup (start []) actions = [1, 0] ∧
      (run setup (start []) actions).server.registry.sessions = [Server.sessionId 2] ∧
      Accounted id (allTornDown setup (start []) actions) (run setup (start []) actions) := by
  intro setup actions
  have silent : (Extension.silent "log").Ignores (id : Timesync.Samples → Timesync.Samples) :=
    ⟨fun _ _ _ _ => rfl, fun _ _ _ _ => rfl, fun _ _ => rfl⟩
  have timesync : Timesync.extension.Synchronises (id : Timesync.Samples → Timesync.Samples) :=
    ⟨fun _ _ _ _ => rfl, fun _ _ _ _ => rfl, fun _ _ => rfl⟩
  have timed : Extension.Timed id setup.handlers.extensions := by
    refine ⟨fun e inside => ?_, Timesync.extension, by simp [setup], timesync⟩
    simp only [setup, List.mem_cons, List.not_mem_nil, or_false] at inside
    rcases inside with rfl | rfl
    · exact .inr silent
    · exact .inl timesync
  refine ⟨by decide +kernel, by decide +kernel, nothingOutlives rfl timed rfl actions ?_⟩
  intro action inside
  simp only [actions, List.mem_cons, List.not_mem_nil, or_false] at inside
  rcases inside with rfl | rfl | rfl | rfl | rfl | rfl <;> trivial

end World
end Bayeux
