import Bayeux.Proofs.Extension.Chain
import Bayeux.Proofs.Server.Deeds
/-! The way of a session through its states. It moves on by a handshake or a connect of its own,
of which the server hears as it moves, or it ends; every deed of a session is one of these
moves or leaves the states alone. -/

namespace Bayeux

def SessionState.rank : SessionState → Nat
  | .initialized => 0
  | .handshook => 1
  | .connected => 2
  | .disconnected => 3

def Notice.connects (id : String) : Notice → Bool
  | .connected session _ => session == id
  | _ => false

/-- A message that a carrier has had processed on behalf of its session. -/
structure Ask where
  session : String
  transport : String
  transports : List String
  context : Context

/-- The message may be changed on its way, but it has come by the transport it has come by. -/
def Extension.KeepsTransport {σ : Type} (e : Extension σ) : Prop :=
  ∀ clock id c memory, (e.incoming clock id c memory).2.1.transport = c.transport

namespace Server
variable {σ : Type} {s t u : Server σ} {id own : String} {turn : SessionState → SessionState}
  {told more : Nat}

def state? (id : String) (s : Server σ) : Option SessionState := (s.session? id).map Session.state

/-- How often the server was told that the session is connected. -/
def connections (id : String) (s : Server σ) : Nat := s.notices.countP (Notice.connects id)

/-- No session is in another state, and the server was told nothing of their states. -/
structure Still (s t : Server σ) : Prop where
  states : ∀ id, t.state? id = s.state? id
  names : Table.keys t.sessions = Table.keys s.sessions
  told : ∀ id, t.connections id = s.connections id

theorem stillRefl (s : Server σ) : s.Still s := ⟨fun _ => rfl, rfl, fun _ => rfl⟩

theorem stillTrans (first : s.Still t) (second : t.Still u) : s.Still u :=
  ⟨fun id => (second.states id).trans (first.states id), second.names.trans first.names,
    fun id => (second.told id).trans (first.told id)⟩

theorem stillAside (sessions : t.sessions = s.sessions) (notices : t.notices = s.notices) :
    s.Still t :=
  ⟨fun _ => by simp only [state?, session?, sessions], congrArg Table.keys sessions,
    fun _ => by simp only [connections, notices]⟩

theorem stillNote (s : Server σ) {notice : Notice} (silent : ∀ id, notice.connects id = false) :
    s.Still (s.note notice) :=
  ⟨fun _ => rfl, rfl, fun id => by simp [connections, note, silent]⟩

theorem stillNoteMemory (s : Server σ) {notice : Notice} (memory : σ)
    (silent : ∀ id, notice.connects id = false) : s.Still { s.note notice with memory } :=
  stillTrans (stillNote s silent) (stillAside rfl rfl)

theorem stillOnRegistry (s : Server σ) (act : Registry → Registry) : s.Still (s.onRegistry act) :=
  stillAside rfl rfl

/-- The state of one session was changed like this, and the server told so often. -/
structure Turned (id : String) (turn : SessionState → SessionState) (told : Nat)
    (s t : Server σ) : Prop where
  own : t.state? id = (s.state? id).map turn
  others : ∀ other, other ≠ id → t.state? other = s.state? other
  names : Table.keys t.sessions = Table.keys s.sessions
  ownTold : t.connections id = s.connections id + told
  othersTold : ∀ other, other ≠ id → t.connections other = s.connections other

theorem turnedThen (turned : s.Turned id turn told t) (still : t.Still u) :
    s.Turned id turn told u :=
  ⟨(still.states id).trans turned.own,
    fun other different => (still.states other).trans (turned.others other different),
    still.names.trans turned.names, (still.told id).trans turned.ownTold,
    fun other different => (still.told other).trans (turned.othersTold other different)⟩

theorem turnedOnSession {β : Type} (s : Server σ) (id : String) (missing : β)
    {act : Session → β × Session}
    (turns : ∀ x, s.session? id = some x → (act x).2.state = turn x.state) :
    s.Turned id turn 0 (s.onSession id missing act).2 := by
  have frame := onSessionFrame s id missing act
  have session := fun other => sessionOnSession s id other missing act
  have names := keysOnSession s id missing act
  generalize (s.onSession id missing act).2 = t at *
  have notices : t.notices = s.notices := by rw [frame]
  refine ⟨?_, fun other different => ?_, names, ?_, fun other _ => ?_⟩
  · rw [state?, session, if_pos rfl, state?]
    cases found : s.session? id with
    | none => rfl
    | some x => simp only [Option.map_some, turns x found]
  · rw [state?, session, if_neg different, state?]
  · rw [connections, notices, connections, Nat.add_zero]
  · rw [connections, notices, connections]

theorem turnedConnected (turned : s.Turned id turn 0 t) (transport : String) :
    s.Turned id turn 1 (t.connected id transport) where
  own := turned.own
  others := turned.others
  names := turned.names
  ownTold := by
    have told := turned.ownTold
    simpa [connections, connected, note, Notice.connects] using told
  othersTold other different := by
    have told := turned.othersTold other different
    simpa [connections, connected, note, Notice.connects, different.symm] using told

theorem stillOnSession {β : Type} (s : Server σ) (own : String) (missing : β)
    {act : Session → β × Session} (keeps : ∀ x, (act x).2.state = x.state) :
    s.Still (s.onSession own missing act).2 := by
  have turned : s.Turned own (fun state => state) 0 (s.onSession own missing act).2 :=
    turnedOnSession s own missing fun x _ => keeps x
  refine ⟨fun id => ?_, turned.names, fun id => ?_⟩
  · by_cases same : id = own
    · rw [same, turned.own, Option.map_id']
    · exact turned.others id same
  · by_cases same : id = own
    · rw [same, turned.ownTold, Nat.add_zero]
    · exact turned.othersTold id same

theorem stillDeliver (s : Server σ) (own : String) (p : Packet) : s.Still (s.deliver own p).2 :=
  stillOnSession s own false fun _ => rfl

theorem stillTakeDeliveries (s : Server σ) (own : String) : s.Still (s.takeDeliveries own).2 :=
  stillOnSession s own [] fun _ => rfl

theorem stillCloseDeliveries (s : Server σ) (own : String) : s.Still (s.closeDeliveries own) :=
  stillOnSession s own () fun _ => rfl

theorem stillPublish (s : Server σ) (sender? : Option String) (p : Packet) :
    s.Still (s.publish sender? p).2 :=
  publishKeeps stillRefl stillTrans stillDeliver (fun s _ _ => stillNote s fun _ => rfl) s sender? p

theorem stillForgetPass (extensions : List (Extension σ)) (own : String) (s : Server σ) :
    s.Still (Extension.forgetPass extensions own s) :=
  Extension.forgetPassRelated stillRefl stillTrans
    (fun _ _ s => stillNoteMemory s _ fun _ => rfl) s

theorem stillRemoveSession (s : Server σ) (own : String) : s.Still (s.removeSession own) :=
  stillTrans (stillNote s fun _ => rfl) (stillOnRegistry _ _)

theorem stillDismissed (extensions : List (Extension σ)) (s : Server σ) (own : String) :
    s.Still (Extension.forgetPass extensions own (s.removeSession own)) :=
  stillTrans (stillRemoveSession s own) (stillForgetPass extensions own _)

theorem stillAddSession (s : Server σ) (own : String) : s.Still (s.addSession own) :=
  stillTrans (stillNote s fun _ => rfl) (stillOnRegistry _ _)

theorem stillSubscribed (s : Server σ) (own : String) (channel : Channel) :
    s.Still (s.subscribed own channel) :=
  stillTrans (stillNote s fun _ => rfl) (stillOnRegistry _ _)

theorem stillUnsubscribed (s : Server σ) (own : String) (channel : Channel) :
    s.Still (s.unsubscribed own channel) :=
  stillTrans (stillNote s fun _ => rfl) (stillOnRegistry _ _)

theorem turnedTransition {before after : SessionState} (here : s.stateOf id = before) :
    s.Turned id (fun _ => after) 0 (s.transition id before after).2 := by
  refine turnedOnSession s id false fun x found => ?_
  have state : x.state = before := by simpa only [stateOf, found] using here
  simp [Session.transition, state]

theorem turnedDisconnected (s : Server σ) (id : String) (abrupt : Bool)
    (channel? : Option Channel) :
    s.Turned id (fun _ => .disconnected) 0
      ((s.markDisconnected id).disconnected id abrupt channel?) := by
  have marked : s.Turned id (fun _ => .disconnected) 0 (s.markDisconnected id) :=
    turnedOnSession s id false fun _ _ => rfl
  exact turnedThen marked (stillTrans (stillNote _ fun _ => rfl) (stillOnRegistry _ _))

theorem stateOfKnown {state : SessionState} (here : s.stateOf id = state)
    (alive : state ≠ .disconnected) : s.state? id = some state := by
  unfold stateOf at here
  unfold state?
  cases found : s.session? id with
  | none => exact absurd (by simpa only [found] using here.symm) alive
  | some x => simpa only [found, Option.map_some, Option.some.injEq] using here

inductive Moves (extensions : List (Extension σ)) (asked : Ask → Prop) (id : String)
    (s t : Server σ) : Prop where
  | aside (still : s.Still t)
  | handshook (ask : Ask) (r : HandshakeRequest) (made : asked ask) (session : ask.session = id)
      (path : ask.context.channel.path = Route.handshakePath)
      (read : HandshakeRequest.ofMessage ask.context.message = .ok r)
      (shared : ∃ transport ∈ r.supportedConnectionTypes, transport ∈ ask.transports)
      (before : s.state? id = some .initialized)
      (turned : s.Turned id (fun _ => .handshook) 0 t)
  | connected (ask : Ask) (r : ConnectRequest) (made : asked ask) (session : ask.session = id)
      (path : ask.context.channel.path = Route.connectPath)
      (read : ConnectRequest.ofMessage ask.context.message = .ok r)
      (client : r.clientId = some id) (type : r.connectionType = some ask.context.transport)
      (carried : (∀ e ∈ extensions, e.KeepsTransport) → r.connectionType = some ask.transport)
      (before : s.state? id = some .handshook)
      (turned : s.Turned id (fun _ => .connected) 1 t)
  | ended (turned : s.Turned id (fun _ => .disconnected) 0 t)

def Proceeds (extensions : List (Extension σ)) (asked : Ask → Prop) (id : String) :
    Server σ → Server σ → Prop :=
  Relation.ReflTransGen (Moves extensions asked id)

variable {h : Handlers σ} {settings : Standard.Settings} {asked : Ask → Prop}
  {transport : String} {transports : List String} {c : Context}

theorem movesRespond (process : h.process = Standard.process settings)
    (made : asked ⟨id, transport, transports, c⟩)
    (kept : (∀ e ∈ h.extensions, e.KeepsTransport) → c.transport = transport) (s : Server σ) :
    Moves h.extensions asked id s (Router.respond h.process transports id c s).2 := by
  have routing := Router.routing settings transports id c s
  rw [process]
  generalize Router.respond (Standard.process settings) transports id c s = result at routing
  obtain ⟨answer, t⟩ := result
  simp only at routing ⊢
  cases routing with
  | unprocessed => exact .aside (stillRefl s)
  | undecodable e => exact .aside (stillRefl s)
  | processed read effect =>
    -- The effect names its route, and only the route's own requests are read from the message.
    generalize there : Route.ofPath c.channel.path = route at read
    cases effect with
    | refused failed =>
      rw [Processed.reply, Router.notifyNothing]
      exact .aside (stillRefl s)
    | handshook succeeded state shared =>
      cases read with
      | handshake read =>
        exact .handshook _ _ made rfl (Route.pathOnly (congrArg Route.path? there)) read shared
          (stateOfKnown state (by decide)) (turnedTransition state)
    | connected succeeded own state type =>
      cases read with
      | connect read =>
        exact .connected _ _ made rfl (Route.pathOnly (congrArg Route.path? there)) read own type
          (fun keeps => type.trans (congrArg some (kept keeps))) (stateOfKnown state (by decide))
          (turnedConnected (turnedTransition state) c.transport)
    | reconnected succeeded own state => exact .aside (stillRefl s)
    | leaving succeeded => exact .aside (stillRefl s)
    | subscribed succeeded own state asked => exact .aside (stillSubscribed s id _)
    | unsubscribed succeeded own state asked => exact .aside (stillUnsubscribed s id _)
    | published succeeded own state answer routed => exact .aside (stillPublish s _ _)

/-- All that is asked on behalf of the session is asked by its own carrier. -/
structure Mouth (extensions : List (Extension σ)) (asked : Ask → Prop) (id transport : String)
    (transports : List String) (asks : Context → Prop) : Prop where
  made : ∀ c, asks c → asked ⟨id, transport, transports, c⟩
  kept : ∀ c, asks c → (∀ e ∈ extensions, e.KeepsTransport) → c.transport = transport

theorem movesDeed {asks : Context → Prop} (process : h.process = Standard.process settings)
    (mouth : Mouth h.extensions asked id transport transports asks)
    (deed : Deed h transports id asks s t) : Moves h.extensions asked id s t := by
  cases deed with
  | incoming extension memory => exact .aside (stillNoteMemory s memory fun _ => rfl)
  | outgoing extension memory => exact .aside (stillNoteMemory s memory fun _ => rfl)
  | request c made => exact movesRespond process (mouth.made c made) (mouth.kept c made) s
  | waits nanoseconds => exact .aside (stillAside rfl rfl)
  | takes => exact .aside (stillTakeDeliveries s id)
  | stops => exact .aside (stillCloseDeliveries s id)

theorem quietlyProceeds {asks : Context → Prop} (process : h.process = Standard.process settings)
    (mouth : Mouth h.extensions asked id transport transports asks)
    (quiet : Quietly h transports id asks s t) : Proceeds h.extensions asked id s t :=
  Relation.ReflTransGen.mono (fun _ _ deed => movesDeed process mouth deed) _ _ quiet

theorem proceedsStill {extensions : List (Extension σ)} (still : s.Still t) :
    Proceeds extensions asked id s t :=
  .single (.aside still)

theorem proceedsEnded {extensions : List (Extension σ)} (s : Server σ) (abrupt : Bool)
    (channel? : Option Channel) : Proceeds extensions asked id s
      ((s.markDisconnected id).disconnected id abrupt channel?) :=
  .single (.ended (turnedDisconnected s id abrupt channel?))

theorem stillQuietly {asks : Context → Prop} (unasked : ∀ c, ¬asks c)
    (quiet : Quietly h transports id asks s t) : s.Still t := by
  induction quiet with
  | refl => exact stillRefl s
  | @tail u t _ deed ih =>
    refine stillTrans ih ?_
    cases deed with
    | incoming extension memory => exact stillNoteMemory u memory fun _ => rfl
    | outgoing extension memory => exact stillNoteMemory u memory fun _ => rfl
    | request c made => exact absurd made (unasked c)
    | waits nanoseconds => exact stillAside rfl rfl
    | takes => exact stillTakeDeliveries u id
    | stops => exact stillCloseDeliveries u id

structure Opens (id : String) (s t : Server σ) : Prop where
  fresh : s.state? id = none
  own : t.state? id = some .initialized
  others : ∀ other, other ≠ id → t.state? other = s.state? other
  told : ∀ any, t.connections any = s.connections any

theorem opensNext {count : Nat} (numbered : s.Numbered count) (session : Session)
    (fresh : session.state = .initialized) :
    Opens (sessionId count) s (s.setSession (sessionId count) session) where
  fresh := by
    have unknown := (Table.getNoneIff s.sessions (sessionId count)).mpr (numberedFresh numbered)
    simp only [state?, session?, unknown, Option.map_none]
  own := by simp only [state?, session?, setSession, Table.getPutSame, Option.map_some, fresh]
  others other different := by
    simp only [state?, session?, setSession, Table.getPutOther _ _ different]
  told _ := rfl

inductive Happens (extensions : List (Extension σ)) (asked : Ask → Prop) (acting : String → Prop)
    (s t : Server σ) : Prop where
  | aside (still : s.Still t)
  | moves (id : String) (own : acting id) (moves : Moves extensions asked id s t)
  | opens (id : String) (own : acting id) (opens : Opens id s t)

def Unfolds (extensions : List (Extension σ)) (asked : Ask → Prop) (acting : String → Prop) :
    Server σ → Server σ → Prop :=
  Relation.ReflTransGen (Happens extensions asked acting)

variable {extensions : List (Extension σ)} {acting : String → Prop}

theorem proceedsUnfolds (own : acting id) (proceeds : Proceeds extensions asked id s t) :
    Unfolds extensions asked acting s t :=
  Relation.ReflTransGen.mono (fun _ _ moves => .moves id own moves) _ _ proceeds

theorem movesOthers (moves : Moves extensions asked id s t) {other : String}
    (different : other ≠ id) : t.state? other = s.state? other := by
  cases moves with
  | aside still => exact still.states other
  | handshook _ _ _ _ _ _ _ _ turned => exact turned.others other different
  | connected _ _ _ _ _ _ _ _ _ _ turned => exact turned.others other different
  | ended turned => exact turned.others other different

theorem movesNames (moves : Moves extensions asked id s t) :
    Table.keys t.sessions = Table.keys s.sessions := by
  cases moves with
  | aside still => exact still.names
  | handshook _ _ _ _ _ _ _ _ turned => exact turned.names
  | connected _ _ _ _ _ _ _ _ _ _ turned => exact turned.names
  | ended turned => exact turned.names

theorem proceedsNames (proceeds : Proceeds extensions asked id s t) :
    Table.keys t.sessions = Table.keys s.sessions := by
  induction proceeds with
  | refl => rfl
  | tail _ moves ih => exact (movesNames moves).trans ih

theorem happensOthers (happens : Happens extensions asked acting s t) (silent : ¬acting id) :
    t.state? id = s.state? id := by
  cases happens with
  | aside still => exact still.states id
  | moves own acts moves => exact movesOthers moves fun same => silent (same ▸ acts)
  | opens own acts opens => exact opens.others id fun same => silent (same ▸ acts)

theorem unfoldsOthers (unfolds : Unfolds extensions asked acting s t) (silent : ¬acting id) :
    t.state? id = s.state? id := by
  induction unfolds with
  | refl => rfl
  | tail _ happens ih => exact (happensOthers happens silent).trans ih

theorem turnedForward (turned : s.Turned own turn told t)
    (onward : ∀ state, s.state? own = some state → state.rank ≤ (turn state).rank)
    {state : SessionState} (here : s.state? id = some state) :
    ∃ later, t.state? id = some later ∧ state.rank ≤ later.rank := by
  by_cases same : id = own
  · subst same
    exact ⟨turn state, by rw [turned.own, here, Option.map_some], onward state here⟩
  · exact ⟨state, (turned.others id same).trans here, Nat.le_refl _⟩

theorem movesForward (moves : Moves extensions asked own s t) {state : SessionState}
    (here : s.state? id = some state) :
    ∃ later, t.state? id = some later ∧ state.rank ≤ later.rank := by
  cases moves with
  | aside still => exact ⟨state, (still.states id).trans here, Nat.le_refl _⟩
  | handshook _ _ _ _ _ _ _ before turned =>
    refine turnedForward turned (fun state there => ?_) here
    rw [before] at there
    cases there
    decide
  | connected _ _ _ _ _ _ _ _ _ before turned =>
    refine turnedForward turned (fun state there => ?_) here
    rw [before] at there
    cases there
    decide
  | ended turned => exact turnedForward turned (fun state _ => by cases state <;> decide) here

theorem happensForward (happens : Happens extensions asked acting s t) {state : SessionState}
    (here : s.state? id = some state) :
    ∃ later, t.state? id = some later ∧ state.rank ≤ later.rank := by
  cases happens with
  | aside still => exact ⟨state, (still.states id).trans here, Nat.le_refl _⟩
  | moves own acts moves => exact movesForward moves here
  | opens own acts opens =>
    -- A session with a state is another one, as the one that is opened was unknown.
    have different : id ≠ own := by
      rintro rfl
      rw [opens.fresh] at here
      cases here
    exact ⟨state, (opens.others id different).trans here, Nat.le_refl _⟩

theorem unfoldsForward (unfolds : Unfolds extensions asked acting s t) {state : SessionState}
    (here : s.state? id = some state) :
    ∃ later, t.state? id = some later ∧ state.rank ≤ later.rank := by
  induction unfolds with
  | refl => exact ⟨state, here, Nat.le_refl _⟩
  | tail _ happens ih =>
    obtain ⟨between, there, early⟩ := ih
    obtain ⟨later, now, late⟩ := happensForward happens there
    exact ⟨later, now, early.trans late⟩

/-- How often the server has been told that a session in this state is connected. -/
def Tally : Option SessionState → Nat → Prop
  | none, told | some .initialized, told | some .handshook, told => told = 0
  | some .connected, told => told = 1
  | some .disconnected, told => told ≤ 1

theorem tallyOnce {state? : Option SessionState} (tally : Tally state? told) : told ≤ 1 := by
  cases state? with
  | none => exact Nat.le_of_eq tally |>.trans (Nat.zero_le 1)
  | some state => cases state <;> simp only [Tally] at tally <;> omega

def ToldOnce (s : Server σ) : Prop := ∀ id, Tally (s.state? id) (s.connections id)

theorem turnedToldOnce (turned : s.Turned own turn told t) (once : s.ToldOnce)
    (due : Tally ((s.state? own).map turn) (s.connections own + told)) : t.ToldOnce := by
  intro id
  by_cases same : id = own
  · rw [same, turned.own, turned.ownTold]
    exact due
  · rw [turned.others id same, turned.othersTold id same]
    exact once id

theorem movesToldOnce (moves : Moves extensions asked own s t) (once : s.ToldOnce) :
    t.ToldOnce := by
  have tally := once own
  cases moves with
  | aside still =>
    intro id
    rw [still.states, still.told]
    exact once id
  | handshook _ _ _ _ _ _ _ before turned =>
    refine turnedToldOnce turned once ?_
    rw [before] at tally ⊢
    exact tally
  | connected _ _ _ _ _ _ _ _ _ before turned =>
    refine turnedToldOnce turned once ?_
    rw [before] at tally ⊢
    exact congrArg Nat.succ tally
  | ended turned =>
    refine turnedToldOnce turned once ?_
    have most := tallyOnce tally
    cases state : s.state? own with
    | none =>
      rw [state] at tally
      exact tally
    | some before => exact most

theorem happensToldOnce (happens : Happens extensions asked acting s t) (once : s.ToldOnce) :
    t.ToldOnce := by
  cases happens with
  | aside still =>
    intro id
    rw [still.states, still.told]
    exact once id
  | moves own acts moves => exact movesToldOnce moves once
  | opens own acts opens =>
    intro id
    have tally := once id
    rw [opens.told]
    by_cases same : id = own
    · rw [same, opens.fresh] at tally
      rw [same, opens.own]
      exact tally
    · rwa [opens.others id same]

theorem unfoldsToldOnce (unfolds : Unfolds extensions asked acting s t) (once : s.ToldOnce) :
    t.ToldOnce := by
  induction unfolds with
  | refl => exact once
  | tail _ happens ih => exact happensToldOnce happens ih

end Server
end Bayeux
