import Bayeux.Proofs.World.Company
/-! Who is registered. A session is taken on the roll when it is opened and struck off when its
connection is over, and nothing that happens in between touches the roll: along every run
it names the connections that are not over. -/

namespace Bayeux

namespace Server
variable {σ : Type} {h : Handlers σ} {transports : List String} {asks : Context → Prop}
  {id own : String} {s t u : Server σ}

def SameRoll (s t : Server σ) : Prop := t.registry.sessions = s.registry.sessions

theorem sameRollTrans (first : s.SameRoll t) (second : t.SameRoll u) : s.SameRoll u :=
  second.trans first

theorem sameRollOnSession {β : Type} (s : Server σ) (id : String) (missing : β)
    (act : Session → β × Session) : s.SameRoll (s.onSession id missing act).2 := by
  rw [onSessionFrame]
  rfl

theorem sameRollPublish (s : Server σ) (sender? : Option String) (p : Packet) :
    s.SameRoll (s.publish sender? p).2 :=
  congrArg Registry.sessions (registryPublish s sender? p)

theorem sameRollDisconnected (s : Server σ) (id : String) (abrupt : Bool)
    (channel? : Option Channel) :
    s.SameRoll ((s.markDisconnected id).disconnected id abrupt channel?) :=
  sameRollOnSession s id false Session.markDisconnected

theorem rollDismissed (extensions : List (Extension σ)) (id : String) (s : Server σ) :
    (Extension.forgetPass extensions id (s.removeSession id)).registry.sessions =
      s.registry.sessions.erase id := by
  rw [Extension.forgetPassFrame]
  rfl

end Server

/-- The processors neither register anybody nor take somebody off the roll. -/
def Unenrolling {σ : Type} (process : Processor σ) : Prop :=
  ∀ transports own c request (s : Server σ), s.SameRoll (process transports own c request s).2

theorem Standard.unenrolling {σ : Type} (settings : Settings) :
    Unenrolling (process settings : Processor σ) := by
  intro transports own c request s
  obtain ⟨done, after, processed, effect⟩ := processEffect settings transports own c request s
  rw [processed]
  cases effect with
  | handshook succeeded state shared => exact Server.sameRollOnSession s own false _
  | connected succeeded mine state transport => exact Server.sameRollOnSession s own false _
  | published succeeded mine state answer routed => exact Server.sameRollPublish s _ _
  | refused failed => rfl
  | reconnected succeeded mine state => rfl
  | leaving succeeded => rfl
  | subscribed succeeded mine state asked => rfl
  | unsubscribed succeeded mine state asked => rfl

namespace Server
variable {σ : Type} {h : Handlers σ} {transports : List String} {asks : Context → Prop}
  {id own : String} {s t u : Server σ} {a b : Bool}

theorem sameRollNotify (own : String) (c : Context) (s : Server σ) (request : Request)
    (event? : Option SessionEvent) : s.SameRoll (Router.notify own c s request event?) := by
  unfold Router.notify
  split <;> rfl

theorem sameRollRespond {process : Processor σ} (unenrolling : Unenrolling process)
    (transports : List String) (own : String) (c : Context) (s : Server σ) :
    s.SameRoll (Router.respond process transports own c s).2 :=
  Router.respondRelated (fun _ => rfl) sameRollTrans
    (fun request => unenrolling transports own c request s) (sameRollNotify own c)

theorem sameRollDeed (unenrolling : Unenrolling h.process)
    (deed : Deed h transports own asks s t) : s.SameRoll t := by
  cases deed with
  | incoming extension memory => rfl
  | outgoing extension memory => rfl
  | request c asked => exact sameRollRespond unenrolling transports own c s
  | waits nanoseconds => rfl
  | takes => exact sameRollOnSession s own [] _
  | stops => exact sameRollOnSession s own () _

theorem sameRollQuietly (unenrolling : Unenrolling h.process)
    (quiet : Quietly h transports own asks s t) : s.SameRoll t := by
  induction quiet with
  | refl => rfl
  | tail _ deed ih => exact sameRollTrans ih (sameRollDeed unenrolling deed)

/-- What becomes of a session's place on the roll when its connection, over or not, goes on. -/
inductive Enrols (id : String) (s t : Server σ) : Bool → Bool → Prop where
  | kept {ended : Bool} (same : s.SameRoll t) : Enrols id s t ended ended
  | struck (rest : t.registry.sessions = s.registry.sessions.erase id) : Enrols id s t false true

theorem enrolsAfter (same : s.SameRoll t) (enrols : Enrols id t u a b) : Enrols id s u a b := by
  cases enrols with
  | kept still => exact .kept (sameRollTrans same still)
  | struck rest => exact .struck (rest.trans (congrArg (List.erase · id) same))

theorem enrolsThen (enrols : Enrols id s t a b) (same : t.SameRoll u) : Enrols id s u a b := by
  cases enrols with
  | kept still => exact .kept (sameRollTrans still same)
  | struck rest => exact .struck (same.trans rest)

theorem enrolsOnce (enrols : Enrols id s t a b) (once : s.registry.sessions.Nodup) :
    t.registry.sessions.Nodup := by
  cases enrols with
  | kept same => exact same ▸ once
  | struck rest => exact rest ▸ once.erase id

theorem enrolsOthers (enrols : Enrols id s t a b) {other : String} (different : other ≠ id) :
    other ∈ t.registry.sessions ↔ other ∈ s.registry.sessions := by
  cases enrols with
  | kept same => rw [same]
  | struck rest => rw [rest, List.mem_erase_of_ne different]

theorem enrolsOwn (enrols : Enrols id s t a b) (once : s.registry.sessions.Nodup)
    (listed : id ∈ s.registry.sessions ↔ a = false) : id ∈ t.registry.sessions ↔ b = false := by
  cases enrols with
  | kept same => rw [same, listed]
  | struck rest => simp [rest, once.mem_erase_iff]

end Server

namespace Connection
variable {σ : Type} {h : Handlers σ} {settings : WebSocket.Settings}
  (unenrolling : Unenrolling h.process) {c : Connection}

theorem enrolsFinish {id : String} (named : c.carrier.session = id) (s : Server σ) :
    Server.Enrols id s (c.finish h s).2 false true := by
  subst named
  have dismissed := Server.rollDismissed h.extensions c.carrier.session s
  refine Server.enrolsThen (t := (c.carrier.onClose h s).2) (.struck ?_)
    (Server.sameRollOnSession _ _ () _)
  unfold WebSocket.onClose
  simp only
  split
  · exact (Server.sameRollDisconnected _ _ true none).trans dismissed
  · exact dismissed

include unenrolling

theorem sameRollText (settings : WebSocket.Settings) (content : String) (w : WebSocket)
    (s : Server σ) : s.SameRoll (w.onText h settings content s).2.2 ∧
      (w.onText h settings content s).2.1.session = w.session := by
  have ends := WebSocket.onTextEnds h settings content w s
  generalize w.farewellIn? h settings content s = farewell at ends
  generalize w.onText h settings content s = result at ends
  obtain ⟨answer, v, t⟩ := result
  simp only at ends ⊢
  cases ends with
  | unheard ended => exact ⟨rfl, rfl⟩
  | stayed opened connected speaks =>
    exact ⟨Server.sameRollQuietly unenrolling speaks.server, speaks.session⟩
  | shut opened connected => exact ⟨rfl, (WebSocket.shutsCloseSink _ _ _).session⟩
  | @parted f opened connected speaks path =>
    have written := WebSocket.speaksTrans speaks
      (WebSocket.speaksWrite h settings _ f.packets f.state)
    have shuts := WebSocket.shutsCloseSink (f.parted h settings).carrier CloseCode.normal ""
    rw [WebSocket.partedServer]
    exact ⟨Server.sameRollTrans (Server.sameRollQuietly unenrolling written.server)
      (Server.sameRollDisconnected _ _ false _), shuts.session.trans written.session⟩

theorem enrolsText (going : c.isOver = false) (content : String) (s : Server σ) :
    Server.Enrols c.carrier.session s (c.onText h settings content s).2 false
      (c.onText h settings content s).1.isOver := by
  obtain ⟨same, session⟩ := sameRollText unenrolling settings content c.carrier s
  unfold onText
  generalize c.carrier.onText h settings content s = result at same session
  obtain ⟨answer, v, t⟩ := result
  simp only at same session ⊢
  have finished := enrolsFinish (h := h) (c := { c with carrier := v, idleAt := v.idleDeadline })
    session t
  have carried : Server.Enrols c.carrier.session s t false c.isOver := going ▸ .kept same
  split
  · split
    · exact Server.enrolsAfter same finished
    · exact carried
  · exact carried
  · exact Server.enrolsAfter same finished

theorem enrolsDeliveries (going : c.isOver = false) (s : Server σ) :
    Server.Enrols c.carrier.session s (c.onDeliveries h settings s).2 false
      (c.onDeliveries h settings s).1.isOver := by
  have taken : s.SameRoll (s.takeDeliveries c.carrier.session).2 :=
    Server.sameRollOnSession s _ [] _
  unfold onDeliveries
  generalize s.takeDeliveries c.carrier.session = result at taken
  obtain ⟨packets, t⟩ := result
  have carried : s.SameRoll (c.carrier.deliver h settings packets t).2.2 ∧
      (c.carrier.deliver h settings packets t).2.1.session = c.carrier.session := by
    rcases WebSocket.deliverCases h settings packets c.carrier t with refused | ⟨-, speaks⟩
    · rw [refused]
      exact ⟨taken, rfl⟩
    · exact ⟨Server.sameRollTrans taken (Server.sameRollQuietly unenrolling speaks.server),
        speaks.session⟩
  have stays : ∀ {u : Server σ}, s.SameRoll u →
      Server.Enrols c.carrier.session s u false c.isOver := fun same => going ▸ .kept same
  simp only
  split
  · exact stays taken
  · split
    · exact stays carried.1
    · exact stays carried.1
    · exact Server.enrolsAfter carried.1 (enrolsFinish carried.2 _)

omit unenrolling in
theorem enrolsTick (going : c.isOver = false) (s : Server σ) :
    Server.Enrols c.carrier.session s (c.onTick h s).2 false (c.onTick h s).1.isOver := by
  have shuts := WebSocket.shutsCloseIfIdle c.carrier s
  have stays : Server.Enrols c.carrier.session s s false c.isOver := going ▸ .kept rfl
  unfold onTick
  split
  · exact stays
  · generalize c.carrier.closeIfIdle s = result at shuts
    obtain ⟨closed, w⟩ := result
    simp only
    split
    · exact stays
    · exact enrolsFinish shuts.session s
    · exact enrolsFinish shuts.session s

theorem enrolsStep (c : Connection) (s : Server σ) (signal : Signal) :
    Server.Enrols c.carrier.session s (c.step h settings s signal).2 c.isOver
      (c.step h settings s signal).1.isOver := by
  cases going : c.isOver with
  | true =>
    rw [stepOver h settings s signal going, going]
    exact .kept rfl
  | false =>
    have stays : Server.Enrols c.carrier.session s s false c.isOver := going ▸ .kept rfl
    simp only [step, going, Bool.false_eq_true, if_false]
    cases signal with
    | text content => exact enrolsText unenrolling going content s
    | binary => exact stays
    | ping => exact stays
    | close => exact enrolsFinish rfl s
    | broken => exact enrolsFinish rfl s
    | deliveries => exact enrolsDeliveries unenrolling going s
    | tick => exact enrolsTick going s

end Connection

namespace InProcess
variable {σ : Type} {h : Handlers σ} (unenrolling : Unenrolling h.process) {p q : InProcess}
  {s t : Server σ}

theorem enrolsClose {id : String} {ended : Bool} (named : p.session = id)
    (closed : p.isClosed = ended) (s : Server σ) :
    Server.Enrols id s (p.close h s).2 ended (p.close h s).1.isClosed := by
  subst named
  cases ended with
  | true =>
    rw [closeAgain h s closed, closed]
    exact .kept rfl
  | false =>
    have dismissed := Server.rollDismissed h.extensions p.session s
    rw [closeFlags h s closed]
    refine .struck ?_
    simp only [close, closed, Bool.false_eq_true, if_false]
    split
    · exact (Server.sameRollDisconnected _ _ true none).trans dismissed
    · exact dismissed

include unenrolling

theorem enrolsTalks {asks : Context → Prop} (talks : Talks h asks p s q t) :
    Server.Enrols p.session s t p.isClosed q.isClosed := by
  rw [talks.closed]
  exact .kept (Server.sameRollQuietly unenrolling talks.server)

theorem enrolsInject (m : Message) (p : InProcess) (s : Server σ) :
    Server.Enrols p.session s (p.inject h m s).2.2 p.isClosed (p.inject h m s).2.1.isClosed := by
  have exchange := injectExchange h m p s
  generalize p.disconnects h m s = parts at exchange
  generalize p.inject h m s = result at exchange ⊢
  obtain ⟨answer, r, u⟩ := result
  simp only at exchange ⊢
  cases exchange with
  | stayed talks => exact enrolsTalks unenrolling talks
  | @parted q channel t v talks path replies =>
    have parted : s.SameRoll v := Server.sameRollTrans
      (Server.sameRollQuietly unenrolling talks.server)
      (Server.sameRollTrans (Server.sameRollDisconnected _ _ false (some channel))
        (Server.sameRollQuietly unenrolling replies))
    exact Server.enrolsAfter parted
      (enrolsClose (p := { q with isConnected := false }) talks.session talks.closed v)

theorem enrolsPerform (settings : Settings) (p : InProcess) (s : Server σ)
    (operation : Operation) :
    Server.Enrols p.session s (p.perform h settings s operation).2 p.isClosed
      (p.perform h settings s operation).1.isClosed := by
  cases operation with
  | inject m => exact enrolsInject unenrolling m p s
  | send packets => exact enrolsTalks unenrolling (talksSend h (fun _ => False) packets p s)
  | close => exact enrolsClose rfl rfl s
  | expire =>
    simp only [perform, expire]
    split
    · exact Server.enrolsAfter (t := { s with inProcess := s.inProcess.erase p.session }) rfl
        (enrolsClose rfl rfl _)
    · exact .kept rfl
  | pump => exact enrolsTalks unenrolling (talksPump h (fun _ => False) settings p s)
  | collect => exact .kept rfl
  | setIdleTimeout requested => exact .kept rfl
  | dropReader => exact .kept rfl

end InProcess

namespace Company
variable {σ : Type} {setup : Setup σ} {company : Company σ} {gone : List Nat}

/-- The roll names those that are not over, each of them once. -/
structure Enlisted (company : Company σ) : Prop where
  once : company.server.registry.sessions.Nodup
  listed : ∀ (i : Nat) m, company.members[i]? = some m →
    (m.session ∈ company.server.registry.sessions ↔ m.isOver = false)

theorem enlistedStart (memory : σ) : Enlisted (start memory) where
  once := List.nodup_nil
  listed := by simp [start]

theorem enlistedSameRoll (enlisted : Enlisted company) {t : Server σ}
    (same : company.server.SameRoll t) : Enlisted { company with server := t } where
  once := same ▸ enlisted.once
  listed i m here := by
    rw [show t.registry.sessions = company.server.registry.sessions from same]
    exact enlisted.listed i m here

theorem enlistedTurn (kept : Kept setup gone company) (enlisted : Enlisted company) {i : Nat}
    {m n : Member} {t : Server σ} (here : company.members[i]? = some m)
    (session : n.session = m.session)
    (enrols : Server.Enrols m.session company.server t m.isOver n.isOver) :
    Enlisted ⟨t, company.members.set i n⟩ := by
  obtain ⟨inside, -⟩ := List.getElem?_eq_some_iff.mp here
  refine ⟨Server.enrolsOnce enrols enlisted.once, fun j e there => ?_⟩
  by_cases same : i = j
  · subst same
    rw [List.getElem?_set_self inside] at there
    obtain rfl := Option.some.inj there
    rw [session]
    exact Server.enrolsOwn enrols enlisted.once (enlisted.listed i m here)
  · rw [List.getElem?_set_ne same] at there
    have different : e.session ≠ m.session := by
      rw [kept.sessions j e there, kept.sessions i m here]
      exact fun equal => same (Server.sessionIdInjective equal).symm
    exact (Server.enrolsOthers enrols different).trans (enlisted.listed j e there)

theorem enlistedJoin (kept : Kept setup gone company) (enlisted : Enlisted company) {m : Member}
    {t : Server σ} (name : m.session = Server.sessionId (List.length company.server.sessions))
    (going : m.isOver = false)
    (opened : t.registry.sessions = (company.server.registry.add m.session).sessions) :
    Enlisted ⟨t, company.members ++ [m]⟩ := by
  have mem : ∀ id, id ∈ t.registry.sessions ↔
      id ∈ company.server.registry.sessions ∨ id = m.session := by
    intro id
    rw [opened, Registry.add]
    split
    · rename_i before
      exact ⟨Or.inl, fun either => either.elim (fun inside => inside) (fun same => same ▸ before)⟩
    · simp
  refine ⟨?_, fun i n here => ?_⟩
  · exact opened ▸ Registry.onceAdd enlisted.once m.session
  · rcases Server.concatCases here with ⟨before, inside⟩ | ⟨last, same⟩
    · have different : n.session ≠ m.session := by
        rw [kept.sessions i n before, name, Server.numberedCount kept.numbered]
        exact fun equal => Nat.ne_of_lt inside (Server.sessionIdInjective equal)
      exact ((mem _).trans (or_iff_left different)).trans (enlisted.listed i n before)
    · rw [same, mem, going]
      simp

theorem enlistedStep (discreet : Discreet setup.handlers.process)
    (unenrolling : Unenrolling setup.handlers.process) (kept : Kept setup gone company)
    (enlisted : Enlisted company) (occasion : Occasion) :
    Enlisted (company.step setup occasion) := by
  cases occasion with
  | openConnection peer behaviour =>
    simp only [step]
    split
    · exact enlistedJoin (m := .connection _) kept enlisted rfl rfl rfl
    · exact enlisted
  | openInProcess =>
    simp only [step]
    split
    · exact enlistedJoin (m := .inProcess _) kept enlisted rfl rfl rfl
    · exact enlisted
  | signal member signal =>
    simp only [step, onConnection]
    split
    · rename_i c here
      have session := (Connection.turnsStep (h := setup.handlers) setup.webSocket discreet false c
        company.server signal).session
      exact enlistedTurn (n := .connection _) kept enlisted here session
        (Connection.enrolsStep unenrolling c company.server signal)
    · exact enlisted
  | operation member operation =>
    simp only [step, onInProcess]
    split
    · rename_i p here
      have session := (InProcess.turnsPerform (h := setup.handlers) setup.inProcess discreet false p
        company.server operation).session
      exact enlistedTurn (n := .inProcess _) kept enlisted here session
        (InProcess.enrolsPerform unenrolling setup.inProcess p company.server operation)
    · exact enlisted
  | deliver session p =>
    exact enlistedSameRoll enlisted (Server.sameRollOnSession company.server session false _)
  | publish sender? p =>
    exact enlistedSameRoll enlisted (Server.sameRollPublish company.server sender? p)
  | advance nanoseconds => exact enlistedSameRoll enlisted rfl

theorem enlistedRun (discreet : Discreet setup.handlers.process)
    (unenrolling : Unenrolling setup.handlers.process) (kept : Kept setup gone company)
    (enlisted : Enlisted company) (occasions : List Occasion) :
    Enlisted (company.run setup occasions) := by
  induction occasions generalizing company gone with
  | nil => exact enlisted
  | cons occasion rest ih =>
    exact ih (keptStep discreet kept occasion) (enlistedStep discreet unenrolling kept enlisted
      occasion)

end Company
end Bayeux
