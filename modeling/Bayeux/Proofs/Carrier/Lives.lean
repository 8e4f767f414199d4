import Bayeux.Connection
import Bayeux.Proofs.Carrier.Exchanges
import Bayeux.Proofs.Carrier.Frames
import Bayeux.Proofs.Server.Announcements
import Bayeux.World
/-! The life of a connection, of either kind. Its coming is announced once; then comes its
goodbye, if there is one, and at last it is torn down, once, in a way that tells whether it
went without a goodbye. Each thing that happens to it moves it along this course, and leaves
alone what was announced of the others. -/

namespace Bayeux

namespace Server
variable {σ : Type} {extensions : List (Extension σ)} {id : String} {s t u : Server σ}

structure Stage where
  goodbye : Bool
  finished : Bool
  connected : Bool

variable {a b c : Stage}

/-- All that was announced of a session. -/
def course (extensions : List (Extension σ)) (id : String) (goodbye finished : Bool) :
    List Notice :=
  .added id :: (if goodbye then [.disconnected id false (some Route.disconnectPath)] else []) ++
    if finished then
      .removed id :: extensions.map (fun e => .forgotten e.name id) ++
        if goodbye then [] else [.disconnected id true none]
    else []

structure Standing (extensions : List (Extension σ)) (id : String) (stage : Stage)
    (s : Server σ) : Prop where
  log : s.announced id = course extensions id stage.goodbye stage.finished
  flag : stage.connected = (!stage.goodbye && !stage.finished)
  ended : stage.connected = false → s.stateOf id = .disconnected

structure Passes (extensions : List (Extension σ)) (id : String) (a : Stage) (s : Server σ)
    (b : Stage) (t : Server σ) : Prop where
  standing : Standing extensions id a s → Standing extensions id b t
  others : ∀ other, id ≠ other → s.Spares other t

theorem passesTrans (first : Passes extensions id a s b t) (second : Passes extensions id b t c u) :
    Passes extensions id a s c u :=
  ⟨fun standing => second.standing (first.standing standing),
    fun other different => sparesTrans (first.others other different)
      (second.others other different)⟩

theorem passesSpares (spares : ∀ any, s.Spares any t) : Passes extensions id a s a t where
  standing standing := ⟨(spares id).announced.trans standing.log, standing.flag,
    fun silent => (spares id).ended (standing.ended silent)⟩
  others other _ := spares other

theorem passesGoodbye {channel : Channel} (s : Server σ) {goodbye finished : Bool}
    (path : channel.path = Route.disconnectPath) :
    Passes extensions id ⟨goodbye, finished, true⟩ s ⟨true, finished, false⟩
      (Router.applyDisconnect id channel s) where
  standing standing := by
    obtain ⟨rfl, rfl⟩ : goodbye = false ∧ finished = false := by simpa using standing.flag
    refine ⟨?_, rfl, fun _ => stateMarked s id⟩
    refine (announcedDisconnected s id false (some channel)).trans ?_
    rw [standing.log]
    simp [course, path]
  others other different := sparesDisconnected s false _ different

theorem passesTorn {goodbye connected : Bool}
    (announced : t.announced id =
      s.announced id ++ .removed id :: extensions.map fun e => .forgotten e.name id)
    (state : t.stateOf id = s.stateOf id) (others : ∀ other, id ≠ other → s.Spares other t) :
    Passes extensions id ⟨goodbye, false, connected⟩ s ⟨goodbye, true, false⟩
      (if connected then (t.markDisconnected id).disconnected id true none else t) where
  standing standing := by
    obtain rfl : connected = !goodbye := by simpa using standing.flag
    cases goodbye with
    | true =>
      refine ⟨?_, rfl, fun _ => state.trans (standing.ended rfl)⟩
      simp [announced, standing.log, course]
    | false =>
      refine ⟨?_, rfl, fun _ => stateMarked t id⟩
      refine (announcedDisconnected t id true none).trans ?_
      simp [announced, standing.log, course]
  others other different := by
    split
    · exact sparesTrans (others other different) (sparesDisconnected t true none different)
    · exact others other different

theorem passesDismissed (s : Server σ) {goodbye connected : Bool} :
    Passes extensions id ⟨goodbye, false, connected⟩ s ⟨goodbye, true, false⟩
      (if connected then
        ((Extension.forgetPass extensions id (s.removeSession id)).markDisconnected id).disconnected
          id true none
      else Extension.forgetPass extensions id (s.removeSession id)) :=
  passesTorn (announcedDismissed extensions id s) (stateDismissed extensions id id s)
    fun _ different => sparesDismissed extensions s different

end Server

namespace Connection
variable {σ : Type} {h : Handlers σ} {settings : WebSocket.Settings} {goodbye later last : Bool}
  {c d e : Connection} {s t u : Server σ}

def stage (c : Connection) (goodbye : Bool) : Server.Stage :=
  ⟨goodbye, c.isOver, c.carrier.isConnected⟩

structure Turns (h : Handlers σ) (goodbye : Bool) (c : Connection) (s : Server σ) (later : Bool)
    (d : Connection) (t : Server σ) : Prop where
  session : d.carrier.session = c.carrier.session
  passes : Server.Passes h.extensions c.carrier.session (c.stage goodbye) s (d.stage later) t

theorem turnsTrans (first : Turns h goodbye c s later d t) (second : Turns h later d t last e u) :
    Turns h goodbye c s last e u :=
  ⟨second.session.trans first.session,
    Server.passesTrans first.passes (first.session ▸ second.passes)⟩

theorem turnsStay (session : d.carrier.session = c.carrier.session) (finished : d.isOver = c.isOver)
    (connected : d.carrier.isConnected = c.carrier.isConnected)
    (spares : ∀ any, s.Spares any t) : Turns h goodbye c s goodbye d t := by
  refine ⟨session, ?_⟩
  simp only [stage, finished, connected]
  exact Server.passesSpares spares

theorem turnsRefl (c : Connection) (s : Server σ) : Turns h goodbye c s goodbye c s :=
  turnsStay rfl rfl rfl fun _ => Server.sparesRefl s

theorem turnsFinish (s : Server σ) (going : c.isOver = false) :
    Turns h goodbye c s goodbye (c.finish h s).1 (c.finish h s).2 := by
  refine ⟨rfl, ?_⟩
  rw [stage, going]
  exact Server.passesTrans (Server.passesDismissed s)
    (Server.passesSpares fun _ => Server.sparesCloseDeliveries _ _)

theorem turnsText (discreet : Discreet h.process) (going : c.isOver = false) (content : String)
    (s : Server σ) :
    Turns h goodbye c s (goodbye || (c.carrier.farewellIn? h settings content s).isSome)
      (c.onText h settings content s).1 (c.onText h settings content s).2 := by
  have ends := WebSocket.onTextEnds h settings content c.carrier s
  have carried : Turns h goodbye c s
      (goodbye || (c.carrier.farewellIn? h settings content s).isSome)
      { c with
        carrier := (c.carrier.onText h settings content s).2.1
        idleAt := (c.carrier.onText h settings content s).2.1.idleDeadline }
      (c.carrier.onText h settings content s).2.2 := by
    generalize c.carrier.onText h settings content s = result at ends
    generalize c.carrier.farewellIn? h settings content s = farewell at ends
    obtain ⟨answer, v, t⟩ := result
    simp only at ends ⊢
    cases ends with
    | unheard ended =>
      rw [Option.isSome_none, Bool.or_false]
      exact turnsStay rfl rfl rfl fun _ => Server.sparesRefl s
    | stayed opened connected speaks =>
      rw [Option.isSome_none, Bool.or_false]
      exact turnsStay speaks.session rfl speaks.connected
        fun _ => Server.sparesQuietly discreet speaks.server
    | shut opened connected =>
      have shuts := WebSocket.shutsCloseSink (c.carrier.touch s) CloseCode.messageTooBig
        "Message too big"
      rw [Option.isSome_none, Bool.or_false]
      exact turnsStay shuts.session rfl shuts.connected fun _ => Server.sparesRefl s
    | @parted f opened connected speaks path =>
      have written := WebSocket.speaksTrans speaks
        (WebSocket.speaksWrite h settings _ f.packets f.state)
      have shuts := WebSocket.shutsCloseSink (f.parted h settings).carrier CloseCode.normal ""
      rw [Option.isSome_some, Bool.or_true, WebSocket.partedServer, speaks.session]
      refine ⟨shuts.session.trans written.session, ?_⟩
      simp only [stage, going, connected, shuts.connected]
      exact Server.passesTrans
        (Server.passesSpares fun _ => Server.sparesQuietly discreet written.server)
        (Server.passesGoodbye _ path)
  unfold onText
  generalize c.carrier.onText h settings content s = result at carried
  obtain ⟨answer, v, t⟩ := result
  simp only
  split
  · split
    · exact turnsTrans carried (turnsFinish t going)
    · exact carried
  · exact carried
  · exact turnsTrans carried (turnsFinish t going)

theorem turnsDeliveries (discreet : Discreet h.process) (going : c.isOver = false) (s : Server σ) :
    Turns h goodbye c s goodbye (c.onDeliveries h settings s).1
      (c.onDeliveries h settings s).2 := by
  have taken : Turns h goodbye c s goodbye c (s.takeDeliveries c.carrier.session).2 :=
    turnsStay rfl rfl rfl fun _ => Server.sparesTakeDeliveries s c.carrier.session
  unfold onDeliveries
  generalize s.takeDeliveries c.carrier.session = result at taken
  obtain ⟨packets, t⟩ := result
  have carried : Turns h goodbye c s goodbye
      (c.withCarrier (c.carrier.deliver h settings packets t).2.1)
      (c.carrier.deliver h settings packets t).2.2 := by
    rcases WebSocket.deliverCases h settings packets c.carrier t with refused | ⟨-, speaks⟩
    · rw [refused]
      exact taken
    · exact turnsTrans taken (turnsStay speaks.session rfl speaks.connected
        fun _ => Server.sparesQuietly discreet speaks.server)
  simp only
  split
  · exact taken
  · split
    · exact carried
    · exact carried
    · exact turnsTrans carried (turnsFinish _ going)

theorem turnsTick (going : c.isOver = false) (s : Server σ) :
    Turns h goodbye c s goodbye (c.onTick h s).1 (c.onTick h s).2 := by
  have shuts := WebSocket.shutsCloseIfIdle c.carrier s
  unfold onTick
  split
  · exact turnsRefl c s
  · generalize c.carrier.closeIfIdle s = result at shuts
    obtain ⟨closed, w⟩ := result
    have carried : ∀ idleAt, Turns h goodbye c s goodbye { c with carrier := w, idleAt } s :=
      fun idleAt => turnsStay shuts.session rfl shuts.connected fun _ => Server.sparesRefl s
    simp only
    split
    · exact carried _
    · exact turnsTrans (carried c.idleAt) (turnsFinish s going)
    · exact turnsTrans (carried c.idleAt) (turnsFinish s going)

/-- The signal is a text, and a message in it disconnects. -/
def parts (h : Handlers σ) (settings : WebSocket.Settings) (c : Connection) (s : Server σ) :
    Signal → Bool
  | .text content => !c.isOver && (c.carrier.farewellIn? h settings content s).isSome
  | _ => false

/- One signal: a goodbye counts when it is taken, and a connection that is over does not react. -/
theorem turnsStep (settings : WebSocket.Settings) (discreet : Discreet h.process)
    (goodbye : Bool) (c : Connection) (s : Server σ) (signal : Signal) :
    Turns h goodbye c s (goodbye || parts h settings c s signal) (c.step h settings s signal).1
      (c.step h settings s signal).2 := by
  cases finished : c.isOver with
  | true =>
    have silent : parts h settings c s signal = false := by cases signal <;> simp [parts, finished]
    rw [silent, Bool.or_false, stepOver h settings s signal finished]
    exact turnsRefl c s
  | false =>
    simp only [step, finished, Bool.false_eq_true, if_false]
    cases signal with
    | text content =>
      simp only [parts, finished, Bool.not_false, Bool.true_and]
      exact turnsText discreet finished content s
    | binary => simpa [parts] using turnsRefl c s
    | ping => simpa [parts] using turnsRefl c s
    | close => simpa [parts] using turnsFinish s finished
    | broken => simpa [parts] using turnsFinish s finished
    | deliveries => simpa [parts] using turnsDeliveries discreet finished s
    | tick => simpa [parts] using turnsTick finished s

end Connection
namespace InProcess
variable {σ : Type} {h : Handlers σ} {goodbye later last : Bool} {p q r : InProcess}
  {s t u : Server σ}

def stage (p : InProcess) (goodbye : Bool) : Server.Stage := ⟨goodbye, p.isClosed, p.isConnected⟩

structure Turns (h : Handlers σ) (goodbye : Bool) (p : InProcess) (s : Server σ) (later : Bool)
    (q : InProcess) (t : Server σ) : Prop where
  session : q.session = p.session
  passes : Server.Passes h.extensions p.session (p.stage goodbye) s (q.stage later) t

theorem turnsTrans (first : Turns h goodbye p s later q t) (second : Turns h later q t last r u) :
    Turns h goodbye p s last r u :=
  ⟨second.session.trans first.session,
    Server.passesTrans first.passes (first.session ▸ second.passes)⟩

theorem turnsStay (session : q.session = p.session) (closed : q.isClosed = p.isClosed)
    (connected : q.isConnected = p.isConnected) (spares : ∀ any, s.Spares any t) :
    Turns h goodbye p s goodbye q t := by
  refine ⟨session, ?_⟩
  simp only [stage, closed, connected]
  exact Server.passesSpares spares

theorem turnsRefl (p : InProcess) (s : Server σ) : Turns h goodbye p s goodbye p s :=
  turnsStay rfl rfl rfl fun _ => Server.sparesRefl s

theorem turnsTalks {asks : Context → Prop} (discreet : Discreet h.process)
    (talks : Talks h asks p s q t) : Turns h goodbye p s goodbye q t :=
  turnsStay talks.session talks.closed talks.connected
    fun _ => Server.sparesQuietly discreet talks.server

theorem turnsClose (p : InProcess) (s : Server σ) :
    Turns h goodbye p s goodbye (p.close h s).1 (p.close h s).2 := by
  cases closed : p.isClosed with
  | true =>
    rw [closeAgain h s closed]
    exact turnsRefl p s
  | false =>
    have announced := Server.announcedDismissed h.extensions p.session s
    have state := Server.stateDismissed h.extensions p.session p.session s
    have others : ∀ other, p.session ≠ other → s.Spares other
        (Extension.forgetPass h.extensions p.session (s.removeSession p.session)) :=
      fun other different => Server.sparesDismissed h.extensions s different
    simp only [close, closed, Bool.false_eq_true, if_false]
    generalize Extension.forgetPass h.extensions p.session (s.removeSession p.session) = t at *
    refine ⟨rfl, ?_⟩
    simp only [stage, closed]
    exact Server.passesTorn (t := { t with inProcess := t.inProcess.erase p.session }) announced
      state fun other different =>
        Server.sparesTrans (others other different) (Server.sparesAside rfl rfl)

/-- The sweep comes to this carrier. -/
def expire (h : Handlers σ) (p : InProcess) (s : Server σ) : InProcess × Server σ :=
  if decide (p.session ∈ s.inProcess) && p.isExpired s.clock then
    p.close h { s with inProcess := s.inProcess.erase p.session }
  else (p, s)

theorem expireSwept (h : Handlers σ) (p : InProcess) (s : Server σ) :
    (World.expire h (.inProcess p) s).2 = (.inProcess (p.expire h s).1, (p.expire h s).2) := by
  unfold World.expire expire
  simp only
  split <;> rfl

theorem turnsExpire (p : InProcess) (s : Server σ) :
    Turns h goodbye p s goodbye (p.expire h s).1 (p.expire h s).2 := by
  unfold expire
  split
  · have untracked : Turns h goodbye p s goodbye p
        { s with inProcess := s.inProcess.erase p.session } :=
      turnsStay rfl rfl rfl fun _ => Server.sparesAside rfl rfl
    exact turnsTrans untracked (turnsClose p _)
  · exact turnsRefl p s

theorem turnsInject (discreet : Discreet h.process) (m : Message) (p : InProcess) (s : Server σ) :
    Turns h goodbye p s (goodbye || p.disconnects h m s) (p.inject h m s).2.1
      (p.inject h m s).2.2 := by
  have connected : p.disconnects h m s = true → p.isConnected = true := by
    simp only [disconnects, Bool.and_eq_true]
    exact And.left
  have exchange := injectExchange h m p s
  generalize p.disconnects h m s = parts at exchange connected ⊢
  generalize p.inject h m s = result at exchange ⊢
  obtain ⟨answer, r, u⟩ := result
  simp only at exchange ⊢
  cases exchange with
  | stayed talks =>
    rw [Bool.or_false]
    exact turnsTalks discreet talks
  | @parted q channel t v talks path replies =>
    have alive : q.isConnected = true := talks.connected.trans (connected rfl)
    have parted : Turns h goodbye q t true { q with isConnected := false }
        (Router.applyDisconnect q.session channel t) := by
      refine ⟨rfl, ?_⟩
      simp only [stage, alive]
      exact Server.passesGoodbye t path
    rw [← talks.session] at replies
    have replied : Turns h true { q with isConnected := false }
        (Router.applyDisconnect q.session channel t) true { q with isConnected := false } v :=
      turnsStay rfl rfl rfl fun _ => Server.sparesQuietly discreet replies
    rw [Bool.or_true]
    exact turnsTrans (turnsTalks discreet talks)
      (turnsTrans parted (turnsTrans replied (turnsClose _ v)))

inductive Operation where
  | inject (m : Message)
  | send (packets : List Packet)
  | close
  | expire
  | pump
  | collect
  | setIdleTimeout (requested : Int)
  | dropReader

def perform (h : Handlers σ) (settings : Settings) (p : InProcess) (s : Server σ) :
    Operation → InProcess × Server σ
  | .inject m => (p.inject h m s).2
  | .send packets => (p.send h packets s).2
  | .close => p.close h s
  | .expire => p.expire h s
  | .pump => p.pump h settings s
  | .collect => ({ p with inbox := p.inbox.takeAll.2 }, s)
  | .setIdleTimeout requested => (p.setIdleTimeout settings requested, s)
  | .dropReader => ({ p with inbox := p.inbox.close }, s)

def parts (h : Handlers σ) (p : InProcess) (s : Server σ) : Operation → Bool
  | .inject m => p.disconnects h m s
  | _ => false

theorem turnsPerform (settings : Settings) (discreet : Discreet h.process) (goodbye : Bool)
    (p : InProcess) (s : Server σ) (operation : Operation) :
    Turns h goodbye p s (goodbye || parts h p s operation) (p.perform h settings s operation).1
      (p.perform h settings s operation).2 := by
  cases operation with
  | inject m => exact turnsInject discreet m p s
  | send packets =>
    simp only [parts, Bool.or_false]
    exact turnsTalks discreet (talksSend h (fun _ => False) packets p s)
  | close =>
    simp only [parts, Bool.or_false]
    exact turnsClose p s
  | expire =>
    simp only [parts, Bool.or_false]
    exact turnsExpire p s
  | pump =>
    simp only [parts, Bool.or_false]
    exact turnsTalks discreet (talksPump h (fun _ => False) settings p s)
  | collect =>
    simp only [parts, Bool.or_false]
    exact turnsStay rfl rfl rfl fun _ => Server.sparesRefl s
  | setIdleTimeout requested =>
    simp only [parts, Bool.or_false]
    exact turnsStay rfl rfl rfl fun _ => Server.sparesRefl s
  | dropReader =>
    simp only [parts, Bool.or_false]
    exact turnsStay rfl rfl rfl fun _ => Server.sparesRefl s

end InProcess
end Bayeux
