import Bayeux.Proofs.World.Turns
/-! A coherent world: sessions are numbered like clients, whoever is known to the server is one
of them, and each client stands in its place. A turn of one client and the coming of a new
one keep it so. -/

namespace Bayeux.World
variable {σ : Type} {samples : σ → Timesync.Samples} {setup : Setup σ} {world : World σ}
  {gone : List Nat}

structure Coherent (samples : σ → Timesync.Samples) (gone : List Nat) (world : World σ) : Prop where
  orderly : world.server.Orderly samples
  names : Table.keys world.server.sessions =
    (List.range world.clients.length).map Server.sessionId
  registered : ∀ id ∈ world.server.registry.sessions, id ∈ Table.keys world.server.sessions
  tracked : ∀ id ∈ world.server.inProcess, id ∈ Table.keys world.server.sessions
  sessions : ∀ (i : Nat) c, world.clients[i]? = some c → c.session = Server.sessionId i
  placed : ∀ (i : Nat) c, world.clients[i]? = some c → c.Placed (i ∈ gone) world.server
  past : ∀ i ∈ gone, i < world.clients.length

theorem coherentStart {memory : σ} (fresh : samples memory = []) :
    Coherent samples [] (start memory) where
  orderly := by
    refine ⟨Server.startIndexed memory, fun id pattern held => ?_, ?_, ?_, List.nodup_nil⟩
    · simp [start, Server.start, Registry.Holds, Registry.patternsOf, Registry.empty,
        Table.get?] at held
    · simp only [start, Server.start, fresh]
      exact List.nodup_nil
    · simp [start, Server.start, fresh, Table.keys]
  names := rfl
  registered := by simp [start, Server.start, Registry.empty]
  tracked := by simp [start, Server.start]
  sessions := by simp [start]
  placed := by simp [start]
  past := by simp

/- One client makes its turn, and the rest of the world stays coherent around it. -/
theorem coherentTurn (coherent : Coherent samples gone world) {i : Nat} {c d : Client}
    {t : Server σ} (here : world.clients[i]? = some c) {more : List Nat} (only : ∀ j ∈ more, j = i)
    (turn : c.Turn samples (i ∈ gone) world.server (i ∈ gone ++ more) d t) :
    Coherent samples (gone ++ more) ⟨t, world.clients.set i d⟩ := by
  obtain ⟨after, place, apart⟩ := turn.keeps coherent.orderly (coherent.placed i c here)
  have named := coherent.sessions i c here
  obtain ⟨inside, -⟩ := List.getElem?_eq_some_iff.mp here
  have known : c.session ∈ Table.keys world.server.sessions := by
    rw [named, coherent.names]
    exact List.mem_map_of_mem (List.mem_range.mpr inside)
  refine ⟨after, ?_, fun id registered => ?_, fun id tracked => ?_, fun j e there => ?_,
    fun j e there => ?_, fun j torn => ?_⟩
  · rw [apart.names, coherent.names, List.length_set]
  · rw [apart.names]
    by_cases same : id = c.session
    · exact same ▸ known
    · exact coherent.registered id ((apart.sessions id same).mp registered)
  · rw [apart.names]
    by_cases same : id = c.session
    · exact same ▸ known
    · exact coherent.tracked id ((apart.inProcess id same).mp tracked)
  · exact Server.namedSet coherent.sessions here turn.session there
  · by_cases same : i = j
    · subst same
      rw [List.getElem?_set_self inside] at there
      exact Option.some.inj there ▸ place
    · rw [List.getElem?_set_ne same] at there
      have different : e.session ≠ c.session := by
        rw [coherent.sessions j e there, named]
        exact fun equal => same (Server.sessionIdInjective equal).symm
      have still : (j ∈ gone ++ more) = (j ∈ gone) := by
        simp only [List.mem_append, eq_iff_iff, or_iff_left_iff_imp]
        exact fun later => absurd (only j later).symm same
      rw [still]
      exact Client.placedApart (coherent.placed j e there) apart different
  · rw [List.length_set]
    rcases List.mem_append.mp torn with before | now
    · exact coherent.past j before
    · exact only j now ▸ inside

theorem coherentStill (coherent : Coherent samples gone world) {i : Nat} {c d : Client}
    {t : Server σ} (here : world.clients[i]? = some c)
    (turn : c.Turn samples (i ∈ gone) world.server (i ∈ gone) d t) :
    Coherent samples gone ⟨t, world.clients.set i d⟩ := by
  have after : Coherent samples (gone ++ []) ⟨t, world.clients.set i d⟩ :=
    coherentTurn coherent here (by simp) (by simpa using turn)
  simpa using after

theorem coherentLeaves (coherent : Coherent samples gone world) {t : Server σ}
    (leaves : world.server.Leaves samples t) :
    Coherent samples gone { world with server := t } := by
  obtain ⟨after, fixed⟩ := leaves coherent.orderly
  have apart : ∀ id, world.server.Apart id t := fun id =>
    ⟨fun other _ => by rw [fixed.sessions], fun other _ => by rw [fixed.inProcess], fixed.names⟩
  refine ⟨after, fixed.names.trans coherent.names, fun id registered => ?_, fun id tracked => ?_,
    coherent.sessions, fun i c here => ?_, coherent.past⟩
  · rw [fixed.names]
    exact coherent.registered id (fixed.sessions ▸ registered)
  · rw [fixed.names]
    exact coherent.tracked id (fixed.inProcess ▸ tracked)
  · obtain ⟨registered, tracked, tells, spent⟩ := coherent.placed i c here
    exact ⟨by rw [fixed.sessions, registered], by rw [fixed.inProcess, tracked], tells, spent⟩

theorem coherentOnWebSocket (coherent : Coherent samples gone world) (client : Nat)
    {act : WebSocket → Server σ → Answer × WebSocket × Server σ}
    (turn : ∀ w, (Client.webSocket w).Turn samples (client ∈ gone) world.server (client ∈ gone)
      (.webSocket (act w world.server).2.1) (act w world.server).2.2) :
    Coherent samples gone (world.onWebSocket client act).2 :=
  onWebSocketKeeps coherent fun w here => coherentStill coherent here (turn w)

theorem coherentOnInProcess (coherent : Coherent samples gone world) (client : Nat)
    {act : InProcess → Server σ → Answer × InProcess × Server σ}
    (turn : ∀ p, (Client.inProcess p).Turn samples (client ∈ gone) world.server (client ∈ gone)
      (.inProcess (act p world.server).2.1) (act p world.server).2.2) :
    Coherent samples gone (world.onInProcess client act).2 :=
  onInProcessKeeps coherent fun p here => coherentStill coherent here (turn p)

theorem coherentOnCarrier (coherent : Coherent samples gone world) (client : Nat)
    {webSocket : WebSocket → Server σ → Answer × WebSocket × Server σ}
    {inProcess : InProcess → Server σ → Answer × InProcess × Server σ}
    (left : ∀ w, (Client.webSocket w).Turn samples (client ∈ gone) world.server (client ∈ gone)
      (.webSocket (webSocket w world.server).2.1) (webSocket w world.server).2.2)
    (right : ∀ p, (Client.inProcess p).Turn samples (client ∈ gone) world.server (client ∈ gone)
      (.inProcess (inProcess p world.server).2.1) (inProcess p world.server).2.2) :
    Coherent samples gone (world.onCarrier client webSocket inProcess).2 :=
  onCarrierKeeps coherent (fun w here => coherentStill coherent here (left w))
    fun p here => coherentStill coherent here (right p)

theorem freshName (coherent : Coherent samples gone world) :
    Server.sessionId world.clients.length ∉ Table.keys world.server.sessions :=
  Server.numberedFresh coherent.names

theorem sessionCount (coherent : Coherent samples gone world) :
    List.length world.server.sessions = world.clients.length :=
  Server.numberedCount coherent.names

/- The server with the session of a new client, before its transport takes note of it. -/
theorem opened (coherent : Coherent samples gone world) (transport : String) (isLocal : Bool)
    (queueSize : Nat) {id : String} {t : Server σ}
    (result : world.server.openSession transport isLocal queueSize = (id, t)) :
    id = Server.sessionId world.clients.length ∧ t.Orderly samples ∧
      (∀ other, other ∈ t.registry.sessions ↔ other ∈ world.server.registry.sessions ∨ other = id) ∧
      t.inProcess = world.server.inProcess ∧
      Table.keys t.sessions = Table.keys world.server.sessions ++ [id] := by
  obtain ⟨rfl, rfl⟩ := Prod.mk.inj result
  have number := sessionCount coherent
  have fresh := freshName coherent
  have unknown : Server.sessionId world.clients.length ∉ world.server.registry.sessions :=
    fun inside => fresh (coherent.registered _ inside)
  have order := coherent.orderly
  rw [number]
  generalize Server.sessionId world.clients.length = id at fresh unknown
  generalize world.server = s at *
  have added : (s.registry.add id).sessions = s.registry.sessions ++ [id] := by
    simp [Registry.add, unknown]
  have keys := Table.keysPut s.sessions id (.opened id transport isLocal queueSize)
  rw [if_neg fresh] at keys
  refine ⟨rfl, ⟨Registry.indexedAdd order.indexed id, fun other pattern held => ?_, order.distinct,
    fun other sampled => ?_, order.tracked⟩, fun other => ?_, rfl, keys⟩
  · obtain ⟨registered, connected⟩ := order.subscribed other pattern
      ((Registry.holdsAdd s.registry id other pattern).mp held)
    refine ⟨added ▸ List.mem_append_left _ registered, ?_⟩
    have different : other ≠ id := fun same => unknown (same ▸ registered)
    exact (Server.stateSetOther s _ different).trans connected
  · exact added ▸ List.mem_append_left _ (order.sampled other sampled)
  · refine (iff_of_eq (congrArg (other ∈ ·) added)).trans ?_
    rw [List.mem_append, List.mem_singleton]

theorem coherentAdd (coherent : Coherent samples gone world) {c : Client} {t : Server σ}
    (session : c.session = Server.sessionId world.clients.length) (after : t.Orderly samples)
    (registered : ∀ other, other ∈ t.registry.sessions ↔
      other ∈ world.server.registry.sessions ∨ other = c.session)
    (tracked : ∀ other, other ∈ t.inProcess ↔
      other ∈ world.server.inProcess ∨ (other = c.session ∧ c.IsTracked))
    (names : Table.keys t.sessions = Table.keys world.server.sessions ++ [c.session])
    (tells : c.Tells False) : Coherent samples gone (world.addClient c t).2 := by
  have fresh := freshName coherent
  rw [← session] at fresh
  have old : ∀ (i : Nat) d, world.clients[i]? = some d → d.session ≠ c.session := by
    intro i d here same
    obtain ⟨inside, -⟩ := List.getElem?_eq_some_iff.mp here
    rw [coherent.sessions i d here, session] at same
    exact absurd (Server.sessionIdInjective same) (Nat.ne_of_lt inside)
  refine ⟨after, ?_, fun id inside => ?_, fun id inside => ?_, fun i d here => ?_,
    fun i d here => ?_, fun i torn => ?_⟩
  · simp only [addClient, names, coherent.names, session, List.length_append, List.length_singleton,
      List.range_succ, List.map_append, List.map_cons, List.map_nil]
  · simp only [addClient, names]
    rcases (registered id).mp inside with before | now
    · exact List.mem_append_left _ (coherent.registered id before)
    · simp [now]
  · simp only [addClient, names]
    rcases (tracked id).mp inside with before | now
    · exact List.mem_append_left _ (coherent.tracked id before)
    · simp [now.1]
  · exact Server.namedConcat coherent.sessions session here
  · rcases Server.concatCases here with ⟨before, -⟩ | ⟨last, same⟩
    · have place := coherent.placed i d before
      have different := old i d before
      refine ⟨?_, ?_, place.tells, place.spent⟩
      · simpa [addClient, registered, different] using place.registered
      · simpa [addClient, tracked, different] using place.tracked
    · have alive : i ∉ gone := fun torn => by
        have before := coherent.past i torn
        omega
      have unseen : c.session ∉ world.server.inProcess := fun inside =>
        fresh (coherent.tracked _ inside)
      subst same
      simp only [alive, addClient]
      refine ⟨?_, ?_, tells, False.elim⟩
      · simp [registered]
      · simp [tracked, unseen]
  · simp only [addClient, List.length_append, List.length_singleton]
    have before := coherent.past i torn
    omega

end Bayeux.World
