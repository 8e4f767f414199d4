import Bayeux.Proofs.Carrier.WebSocket
import Bayeux.Proofs.Server.Deeds
/-! What becomes of a text frame. Its messages are answered one after the other, and all that
the server sees of them are deeds of the session, until one of them says goodbye: then its
replies are written, its disconnect takes effect, and the sink is closed. -/

namespace Bayeux

namespace Sink

def offered (sink : Sink) : List SinkFrame := (sink.calls.map SinkCall.frame).reverse

theorem offeredText (sink : Sink) (content : String) :
    (sink.text content).2.offered = sink.offered ++ [.text content] := by
  simp [offered, text]

theorem offeredClose (sink : Sink) (code : Nat) (reason : String) :
    (sink.close code reason).2.offered = sink.offered ++ [.close code reason] := by
  simp [offered, close]

end Sink

namespace WebSocket
variable {σ : Type} {h : Handlers σ} {settings : Settings} {asks more : Context → Prop}
  {x y z : Handling σ}

/-- Only texts are written, and all the server sees are deeds of the session. -/
structure Speaks (h : Handlers σ) (settings : Settings) (asks : Context → Prop)
    (x y : Handling σ) : Prop where
  session : y.carrier.session = x.carrier.session
  peer : y.carrier.peer = x.carrier.peer
  closed : y.carrier.isClosed = x.carrier.isClosed
  connected : y.carrier.isConnected = x.carrier.isConnected
  offered : ∃ texts : List String,
    y.carrier.sink.offered = x.carrier.sink.offered ++ texts.map .text
  server : Server.Quietly h settings.transports x.carrier.session asks x.server y.server

theorem speaksServer {s : Server σ}
    (quiet : Server.Quietly h settings.transports x.carrier.session asks x.server s) :
    Speaks h settings asks x { x with server := s } :=
  ⟨rfl, rfl, rfl, rfl, ⟨[], by simp⟩, quiet⟩

theorem speaksRefl (x : Handling σ) : Speaks h settings asks x x :=
  speaksServer (Server.quietlyRefl _)

theorem speaksTrans (first : Speaks h settings asks x y) (second : Speaks h settings asks y z) :
    Speaks h settings asks x z := by
  obtain ⟨texts, early⟩ := first.offered
  obtain ⟨others, late⟩ := second.offered
  refine ⟨second.session.trans first.session, second.peer.trans first.peer,
    second.closed.trans first.closed, second.connected.trans first.connected,
    ⟨texts ++ others, ?_⟩, Server.quietlyTrans first.server (first.session ▸ second.server)⟩
  rw [late, early, List.map_append, List.append_assoc]

theorem speaksMore (wider : ∀ c, asks c → more c) (speaks : Speaks h settings asks x y) :
    Speaks h settings more x y :=
  { speaks with server := Server.quietlyMore wider speaks.server }

theorem speaksWriteText (text : String) (x : Handling σ) : Speaks h settings asks x { x with
    carrier := (writeText settings x.carrier text x.server).2.1
    server := (writeText settings x.carrier text x.server).2.2 } := by
  have offered := x.carrier.sink.offeredText text
  unfold writeText
  generalize x.carrier.sink.text text = written at offered
  obtain ⟨result, sink⟩ := written
  cases result with
  | written => exact ⟨rfl, rfl, rfl, rfl, ⟨[text], offered⟩, Server.quietlyRefl _⟩
  | failed reason => exact ⟨rfl, rfl, rfl, rfl, ⟨[text], offered⟩, Server.quietlyRefl _⟩
  | stalled =>
    exact ⟨rfl, rfl, rfl, rfl, ⟨[text], offered⟩, Server.quietlyOnce (.waits _)⟩

theorem speaksWrite (h : Handlers σ) (settings : Settings) (asks : Context → Prop)
    (packets : List Packet) (x : Handling σ) :
    Speaks h settings asks x (write h settings packets x).2 := by
  have encoded : Speaks h settings asks x { x with
      server := (Outbound.ofPackets? h.extensions x.carrier.session packets x.server).2 } :=
    speaksServer (Outbound.quietly h.extensions packets x.server)
  unfold write
  generalize Outbound.ofPackets? h.extensions x.carrier.session packets x.server = made at encoded
  obtain ⟨outbound?, s⟩ := made
  cases outbound? with
  | none => exact encoded
  | some outbound =>
    have written := speaksTrans encoded (speaksWriteText outbound.text { x with server := s })
    simp only at written ⊢
    generalize writeText settings x.carrier outbound.text s = ended at written
    obtain ⟨result, w, t⟩ := ended
    cases result with
    | error e => exact written
    | ok done => exact { written with }

theorem offeredWrite (packets : List Packet) (x : Handling σ) :
    (write h settings packets x).2.carrier.sink.offered = x.carrier.sink.offered ++
      ((Outbound.ofPackets? h.extensions x.carrier.session packets x.server).1.toList.map
        fun outbound => .text outbound.text) := by
  unfold write
  generalize Outbound.ofPackets? h.extensions x.carrier.session packets x.server = made
  obtain ⟨outbound?, s⟩ := made
  cases outbound? with
  | none => simp
  | some outbound =>
    have offered := x.carrier.sink.offeredText outbound.text
    simp only [writeText]
    generalize x.carrier.sink.text outbound.text = written at offered
    obtain ⟨result, sink⟩ := written
    cases result <;> exact offered

/-- A message that ends the connection, handled up to the writing of its replies. -/
structure Farewell (σ : Type) where
  state : Handling σ
  packets : List Packet
  channel : Channel

def farewellRouted? (h : Handlers σ) (settings : Settings) (c : Context) (x : Handling σ) :
    Option (Farewell σ) :=
  match Router.respond h.process settings.transports x.carrier.session c x.server with
  | (.ok routed, s) =>
    routed.disconnect?.map fun channel => ⟨{ x with server := s }, routed.packets, channel⟩
  | (.error _, _) => none

def farewellOn? (h : Handlers σ) (settings : Settings) (channel : Channel) (m : Message)
    (x : Handling σ) : Option (Farewell σ) :=
  let (accepted, c, s) := Extension.incomingPass h.extensions x.carrier.session
    ⟨transport, x.carrier.peer, channel, m⟩ x.server
  if accepted then farewellRouted? h settings c { x with server := s } else none

def farewellOf? (h : Handlers σ) (settings : Settings) (m : Message) (path : String)
    (x : Handling σ) : Option (Farewell σ) :=
  let x := { x with outcome := { x.outcome with messagesIn := x.outcome.messagesIn + 1 } }
  match Channel.resolve path with
  | .ok channel => farewellOn? h settings channel m x
  | .error _ => none

/-- The first farewell that is come to among the entries of a frame. -/
def farewell? (h : Handlers σ) (settings : Settings) :
    List Value → FrameScope → Handling σ → Option (Farewell σ)
  | [], _, _ => none
  | entry :: rest, scope, x =>
    if !x.carrier.isConnected then none
    else
      match messageOf? entry with
      | none => farewell? h settings rest scope x
      | some (m, path) =>
        match farewellOf? h settings m path x, handle h settings m path scope x with
        | some f, _ => some f
        | none, (.error _, _, _) => none
        | none, (.ok (), scope, x) => farewell? h settings rest scope x

def Farewell.parted (h : Handlers σ) (settings : Settings) (f : Farewell σ) : Handling σ :=
  disconnectAfter (some f.channel) (write h settings f.packets f.state).2

/-- What the carrier asks of the processors on behalf of a message. -/
def Heard (h : Handlers σ) (session : String) (peer : Peer) (m : Message) (path : String)
    (c : Context) : Prop :=
  ∃ channel, Channel.resolve path = .ok channel ∧
    Extension.Passed h.extensions session ⟨transport, peer, channel, m⟩ c

def HeardIn (h : Handlers σ) (session : String) (peer : Peer) (batch : List Value) (c : Context) :
    Prop :=
  ∃ entry ∈ batch, ∃ m path, messageOf? entry = some (m, path) ∧ Heard h session peer m path c

inductive Handled (h : Handlers σ) (settings : Settings) (asks : Context → Prop) (x : Handling σ) :
    Option (Farewell σ) → Handling σ → Prop where
  | stayed {y : Handling σ} (speaks : Speaks h settings asks x y) : Handled h settings asks x none y
  | parted {f : Farewell σ} (speaks : Speaks h settings asks x f.state)
      (path : f.channel.path = Route.disconnectPath) :
      Handled h settings asks x (some f) (f.parted h settings)

theorem handledAfter {farewell? : Option (Farewell σ)} (first : Speaks h settings asks x y)
    (handled : Handled h settings asks y farewell? z) : Handled h settings asks x farewell? z := by
  cases handled with
  | stayed speaks => exact .stayed (speaksTrans first speaks)
  | parted speaks path => exact .parted (speaksTrans first speaks) path

theorem handledMore {farewell? : Option (Farewell σ)} (wider : ∀ c, asks c → more c)
    (handled : Handled h settings asks x farewell? y) : Handled h settings more x farewell? y := by
  cases handled with
  | stayed speaks => exact .stayed (speaksMore wider speaks)
  | parted speaks path => exact .parted (speaksMore wider speaks) path

theorem routeHandled {c : Context} (asked : asks c) (x : Handling σ) :
    Handled h settings asks x (farewellRouted? h settings c x) (route h settings c x).2 := by
  have responded : Speaks h settings asks x { x with server := _ } :=
    speaksServer (Server.quietlyOnce (.request c asked))
  unfold farewellRouted? route
  cases response : Router.respond h.process settings.transports x.carrier.session c x.server with
  | mk result s =>
    rw [response] at responded
    cases result with
    | error e => exact .stayed responded
    | ok routed =>
      cases leaving : routed.disconnect? with
      | none =>
        simp only [leaving]
        exact .stayed (speaksTrans responded (speaksWrite h settings _ _ _))
      | some channel =>
        have path := (Router.respondDisconnects (congrArg Prod.fst response) leaving).2
        simp only [leaving]
        exact .parted responded path

theorem handleOnHandled (h : Handlers σ) (settings : Settings) (channel : Channel) (m : Message)
    (x : Handling σ) :
    Handled h settings (Extension.Passed h.extensions x.carrier.session
      ⟨transport, x.carrier.peer, channel, m⟩) x (farewellOn? h settings channel m x)
      (handleOn h settings channel m x).2 := by
  have passed : Speaks h settings (Extension.Passed h.extensions x.carrier.session
      ⟨transport, x.carrier.peer, channel, m⟩) x { x with server := _ } :=
    speaksServer (Extension.quietlyIncomingPass h.extensions
      ⟨transport, x.carrier.peer, channel, m⟩ x.server)
  unfold farewellOn? handleOn
  cases pass : Extension.incomingPass h.extensions x.carrier.session
      ⟨transport, x.carrier.peer, channel, m⟩ x.server with
  | mk accepted rest =>
    obtain ⟨c, s⟩ := rest
    rw [pass] at passed
    cases accepted with
    | false =>
      simp only [Bool.false_eq_true, if_false, refuse]
      exact .stayed (speaksTrans passed (speaksWrite h settings _ _ _))
    | true => exact handledAfter passed (routeHandled ⟨x.server, by rw [pass], by rw [pass]⟩ _)

theorem handleHandled (h : Handlers σ) (settings : Settings) (m : Message) (path : String)
    (scope : FrameScope) (x : Handling σ) :
    Handled h settings (Heard h x.carrier.session x.carrier.peer m path) x
      (farewellOf? h settings m path x) (handle h settings m path scope x).2.2 := by
  have counted : Speaks h settings (Heard h x.carrier.session x.carrier.peer m path) x
      { x with outcome := { x.outcome with messagesIn := x.outcome.messagesIn + 1 } } :=
    { speaksRefl x with }
  rw [(handleAnyScope h settings m path scope x).2]
  simp only [farewellOf?, handle, FrameScope.resolveAnswer]
  cases resolved : Channel.resolve path with
  | error e => exact .stayed (speaksTrans counted (speaksWrite h settings _ _ _))
  | ok channel =>
    have handled := handleOnHandled h settings channel m
      { x with outcome := { x.outcome with messagesIn := x.outcome.messagesIn + 1 } }
    exact handledAfter counted (handledMore (fun c passed => ⟨channel, resolved, passed⟩) handled)

theorem dispatchSilent (h : Handlers σ) (settings : Settings) (batch : List Value)
    (scope : FrameScope) (ended : x.carrier.isConnected = false) :
    dispatch h settings batch scope x = (.ok (), x) := by
  cases batch with
  | nil => rfl
  | cons entry rest => simp [dispatch, ended]

theorem handledEnds {f : Farewell σ} (handled : Handled h settings asks x (some f) y) :
    y.carrier.isConnected = false := by
  cases handled
  rfl

/- Along the entries: what was said before a farewell is not undone, and nothing comes after. -/
theorem dispatchHandled (h : Handlers σ) (settings : Settings) (batch : List Value)
    (scope : FrameScope) (x : Handling σ) :
    Handled h settings (HeardIn h x.carrier.session x.carrier.peer batch) x
      (farewell? h settings batch scope x) (dispatch h settings batch scope x).2 := by
  induction batch generalizing scope x with
  | nil => exact .stayed (speaksRefl x)
  | cons entry rest ih =>
    have later : ∀ {session peer c}, HeardIn h session peer rest c →
        HeardIn h session peer (entry :: rest) c := by
      rintro session peer c ⟨other, inside, heard⟩
      exact ⟨other, List.mem_cons_of_mem _ inside, heard⟩
    unfold farewell? dispatch
    split
    · exact .stayed (speaksRefl x)
    · cases read : messageOf? entry with
      | none => exact handledMore (fun c => later) (ih scope x)
      | some asked =>
        obtain ⟨m, path⟩ := asked
        have heard : ∀ c, Heard h x.carrier.session x.carrier.peer m path c →
            HeardIn h x.carrier.session x.carrier.peer (entry :: rest) c :=
          fun c heard => ⟨entry, by simp, m, path, read, heard⟩
        have handled := handledMore heard (handleHandled h settings m path scope x)
        simp only
        cases ended : handle h settings m path scope x with
        | mk result next =>
          obtain ⟨scope, y⟩ := next
          simp only [ended] at handled ⊢
          cases farewell : farewellOf? h settings m path x with
          | some f =>
            -- It has left the carrier disconnected, which the loop looks at first.
            rw [farewell] at handled
            have silent := dispatchSilent h settings rest scope (handledEnds handled)
            cases result with
            | error e => exact handled
            | ok done => simpa only [silent] using handled
          | none =>
            rw [farewell] at handled
            cases handled with
            | stayed speaks =>
              cases result with
              | error e => exact .stayed speaks
              | ok done =>
                have others := ih scope y
                rw [speaks.session, speaks.peer] at others
                exact handledAfter speaks (handledMore (fun c => later) others)

def farewellIn? (h : Handlers σ) (settings : Settings) (text : String) (w : WebSocket)
    (s : Server σ) : Option (Farewell σ) :=
  if w.isClosed || !w.isConnected || decide (settings.maxTextSize < text.utf8ByteSize) then none
  else
    match Frame.decodeBatch text.toUTF8 with
    | .error _ => none
    | .ok batch => farewell? h settings batch .empty ⟨w.touch s, {}, s⟩

def HeardFrom (h : Handlers σ) (w : WebSocket) (text : String) (c : Context) : Prop :=
  ∃ batch, Frame.decodeBatch text.toUTF8 = .ok batch ∧ HeardIn h w.session w.peer batch c

/-- How a text ends: nobody looks at it, what it says is answered, it is too long and shuts the
carrier, or with a farewell the carrier closes behind its parting. -/
inductive TextEnds (h : Handlers σ) (settings : Settings) (text : String) (w : WebSocket)
    (s : Server σ) : Option (Farewell σ) → WebSocket → Server σ → Prop where
  | unheard (ended : w.isClosed = true ∨ w.isConnected = false) :
      TextEnds h settings text w s none (w.touch s) s
  | stayed {x : Handling σ} (opened : w.isClosed = false) (connected : w.isConnected = true)
      (speaks : Speaks h settings (HeardFrom h w text) ⟨w, {}, s⟩ x) :
      TextEnds h settings text w s none x.carrier x.server
  | shut (opened : w.isClosed = false) (connected : w.isConnected = true) :
      TextEnds h settings text w s none
        (closeSink (w.touch s) CloseCode.messageTooBig "Message too big").2 s
  | parted {f : Farewell σ} (opened : w.isClosed = false) (connected : w.isConnected = true)
      (speaks : Speaks h settings (HeardFrom h w text) ⟨w, {}, s⟩ f.state)
      (path : f.channel.path = Route.disconnectPath) :
      TextEnds h settings text w s (some f)
        (closeSink (f.parted h settings).carrier CloseCode.normal "").2
        (f.parted h settings).server

theorem onBatchEnds (h : Handlers σ) (settings : Settings) (batch : List Value) (x : Handling σ) :
    (onBatch h settings batch x).2 =
      ((closeDisconnected (dispatch h settings batch .empty x).2).2.carrier,
        (closeDisconnected (dispatch h settings batch .empty x).2).2.server) := by
  unfold onBatch
  simp only
  split <;> rfl

theorem closeConnected (connected : x.carrier.isConnected = true) :
    closeDisconnected x = (.ok (), x) := by
  simp [closeDisconnected, connected]

theorem closeParted (ended : x.carrier.isConnected = false) (opened : x.carrier.isClosed = false) :
    (closeDisconnected x).2.carrier = (closeSink x.carrier CloseCode.normal "").2 ∧
      (closeDisconnected x).2.server = x.server := by
  simp only [closeDisconnected, ended, opened, Bool.not_false, Bool.and_self, if_true]
  split <;> exact ⟨rfl, rfl⟩

theorem partedOpen (f : Farewell σ) (opened : f.state.carrier.isClosed = false) :
    (f.parted h settings).carrier.isClosed = false :=
  (speaksWrite h settings (fun _ => False) f.packets f.state).closed.trans opened

theorem partedServer (f : Farewell σ) : (f.parted h settings).server =
    Router.applyDisconnect f.state.carrier.session f.channel
      (write h settings f.packets f.state).2.server :=
  congrArg (fun id => Router.applyDisconnect id f.channel _)
    (speaksWrite h settings (fun _ => False) f.packets f.state).session

theorem onTextEnds (h : Handlers σ) (settings : Settings) (text : String) (w : WebSocket)
    (s : Server σ) : TextEnds h settings text w s (farewellIn? h settings text w s)
      (onText h settings text w s).2.1 (onText h settings text w s).2.2 := by
  have touched : Speaks h settings (HeardFrom h w text) ⟨w, {}, s⟩ ⟨w.touch s, {}, s⟩ :=
    { speaksRefl (⟨w, {}, s⟩ : Handling σ) with }
  cases alive : w.isClosed || !w.isConnected with
  | true =>
    have finished : ((w.touch s).isClosed || !(w.touch s).isConnected) = true := alive
    simp only [farewellIn?, onText, alive, finished, Bool.true_or, if_true]
    exact .unheard (by simpa using alive)
  | false =>
    have finished : ((w.touch s).isClosed || !(w.touch s).isConnected) = false := alive
    obtain ⟨opened, connected⟩ : w.isClosed = false ∧ w.isConnected = true := by simpa using alive
    simp only [farewellIn?, onText, alive, finished, Bool.false_or, decide_eq_true_eq,
      Bool.false_eq_true, if_false]
    split
    · exact .shut opened connected
    · cases read : Frame.decodeBatch text.toUTF8 with
      | error e => exact .stayed opened connected touched
      | ok batch =>
        have handled := handledAfter touched (handledMore (fun c heard => ⟨batch, read, heard⟩)
          (dispatchHandled h settings batch .empty ⟨w.touch s, {}, s⟩))
        simp only [onBatchEnds]
        generalize dispatch h settings batch .empty ⟨w.touch s, {}, s⟩ = dispatched at handled ⊢
        generalize farewell? h settings batch .empty ⟨w.touch s, {}, s⟩ = farewell at handled ⊢
        obtain ⟨result, y⟩ := dispatched
        simp only at handled ⊢
        cases handled with
        | stayed speaks =>
          rw [closeConnected (speaks.connected.trans connected)]
          exact .stayed opened connected speaks
        | @parted f speaks path =>
          have shut := closeParted (x := f.parted h settings) rfl
            (partedOpen f (speaks.closed.trans opened))
          rw [shut.1, shut.2]
          exact .parted opened connected speaks path

/-- Among the entries of a text one says goodbye, after those that were `done` had been handled
as far as `x`. -/
structure Goodbye (h : Handlers σ) (settings : Settings) (text : String) (w : WebSocket)
    (s : Server σ) (done rest : List Value) (x : Handling σ) (f : Farewell σ) : Prop where
  opened : w.isClosed = false
  connected : w.isConnected = true
  within : text.utf8ByteSize ≤ settings.maxTextSize
  batch : ∃ entry m path, Frame.decodeBatch text.toUTF8 = .ok (done ++ entry :: rest) ∧
    messageOf? entry = some (m, path) ∧ farewellOf? h settings m path x = some f
  reached : dispatch h settings done .empty ⟨w.touch s, {}, s⟩ = (.ok (), x)
  alive : x.carrier.isConnected = true

theorem farewellCarrier {m : Message} {path : String} {f : Farewell σ}
    (parting : farewellOf? h settings m path x = some f) : f.state.carrier = x.carrier := by
  unfold farewellOf? farewellOn? farewellRouted? at parting
  simp only at parting
  split at parting
  · split at parting
    · split at parting
      · obtain ⟨channel, -, rfl⟩ := Option.map_eq_some_iff.mp parting
        rfl
      · cases parting
    · cases parting
  · cases parting

/- No farewell was among the entries that left the carrier connected. -/
theorem farewellAfter {done rest : List Value} {scope : FrameScope} {entry : Value} {m : Message}
    {path : String} {f : Farewell σ} (read : messageOf? entry = some (m, path))
    (reached : dispatch h settings done scope x = (.ok (), y))
    (alive : y.carrier.isConnected = true)
    (parting : farewellOf? h settings m path y = some f) :
    farewell? h settings (done ++ entry :: rest) scope x = some f := by
  induction done generalizing scope x with
  | nil =>
    cases reached
    simp [farewell?, alive, read, parting]
  | cons first others ih =>
    rw [List.cons_append]
    unfold dispatch at reached
    unfold farewell?
    cases connected : x.carrier.isConnected with
    | false =>
      simp only [connected, Bool.not_false, if_true, Prod.mk.injEq, true_and] at reached
      rw [← reached, connected] at alive
      cases alive
    | true =>
      simp only [connected, Bool.not_true, Bool.false_eq_true, if_false] at reached ⊢
      cases asked : messageOf? first with
      | none =>
        simp only [asked] at reached ⊢
        exact ih reached
      | some message =>
        obtain ⟨n, place⟩ := message
        have handled := handleHandled h settings n place scope x
        simp only [asked] at reached ⊢
        cases ended : handle h settings n place scope x with
        | mk result next =>
          obtain ⟨later, z⟩ := next
          simp only [ended] at handled reached ⊢
          cases result with
          | error e => cases reached
          | ok done =>
            cases farewell : farewellOf? h settings n place x with
            | none => exact ih reached
            | some g =>
              rw [farewell] at handled
              have silent := dispatchSilent h settings others later (handledEnds handled)
              cases silent.symm.trans reached
              rw [handledEnds handled] at alive
              cases alive

theorem farewellSplit {batch : List Value} {scope : FrameScope} {f : Farewell σ}
    (parting : farewell? h settings batch scope x = some f) :
    ∃ done rest entry m path y, batch = done ++ entry :: rest ∧
      messageOf? entry = some (m, path) ∧ dispatch h settings done scope x = (.ok (), y) ∧
      y.carrier.isConnected = true ∧ farewellOf? h settings m path y = some f := by
  induction batch generalizing scope x with
  | nil => cases parting
  | cons first others ih =>
    unfold farewell? at parting
    cases connected : x.carrier.isConnected with
    | false => simp [connected] at parting
    | true =>
      simp only [connected, Bool.not_true, Bool.false_eq_true, if_false] at parting
      cases asked : messageOf? first with
      | none =>
        simp only [asked] at parting
        obtain ⟨done, rest, entry, m, path, y, rfl, read, reached, found⟩ := ih parting
        refine ⟨first :: done, rest, entry, m, path, y, rfl, read, ?_, found⟩
        simpa [dispatch, connected, asked] using reached
      | some message =>
        obtain ⟨n, place⟩ := message
        simp only [asked] at parting
        cases farewell : farewellOf? h settings n place x with
        | some g =>
          simp only [farewell, Option.some.injEq] at parting
          subst parting
          exact ⟨[], others, first, n, place, x, rfl, asked, rfl, connected, farewell⟩
        | none =>
          cases ended : handle h settings n place scope x with
          | mk result next =>
            obtain ⟨later, z⟩ := next
            simp only [farewell, ended] at parting
            cases result with
            | error e => cases parting
            | ok done =>
              obtain ⟨done, rest, entry, m, path, y, rfl, read, reached, found⟩ := ih parting
              refine ⟨first :: done, rest, entry, m, path, y, rfl, read, ?_, found⟩
              simpa [dispatch, connected, asked, ended] using reached

theorem goodbyeIff {text : String} {w : WebSocket} {s : Server σ} {f : Farewell σ} :
    farewellIn? h settings text w s = some f ↔
      ∃ done rest x, Goodbye h settings text w s done rest x f := by
  constructor
  · intro parting
    unfold farewellIn? at parting
    split at parting
    · cases parting
    · rename_i alive
      simp only [Bool.or_eq_true, Bool.not_eq_true', decide_eq_true_eq, not_or,
        Bool.not_eq_true, Bool.not_eq_false, Nat.not_lt] at alive
      obtain ⟨⟨opened, connected⟩, within⟩ := alive
      cases read : Frame.decodeBatch text.toUTF8 with
      | error e =>
        rw [read] at parting
        cases parting
      | ok batch =>
        rw [read] at parting
        obtain ⟨done, rest, entry, m, path, x, rfl, asked, reached, connected', found⟩ :=
          farewellSplit parting
        exact ⟨done, rest, x, opened, connected, within, ⟨entry, m, path, read, asked, found⟩,
          reached, connected'⟩
  · rintro ⟨done, rest, x, goodbye⟩
    obtain ⟨entry, m, path, read, asked, found⟩ := goodbye.batch
    have within := Nat.not_lt.mpr goodbye.within
    simp only [farewellIn?, goodbye.opened, goodbye.connected, within, read]
    exact farewellAfter asked goodbye.reached goodbye.alive found

theorem deliverCases (h : Handlers σ) (settings : Settings) (packets : List Packet)
    (w : WebSocket) (s : Server σ) : (deliver h settings packets w s).2 = (w, s) ∨
      (w.isClosed = false ∧ w.isConnected = true) ∧ Speaks h settings (fun _ => False) ⟨w, {}, s⟩
        ⟨(deliver h settings packets w s).2.1, {}, (deliver h settings packets w s).2.2⟩ := by
  have speaks := speaksWrite h settings (fun _ => False) packets ⟨w, {}, s⟩
  unfold deliver
  split
  · exact .inl rfl
  · rename_i alive
    refine .inr ⟨by simpa using alive, ?_⟩
    split <;> rename_i written <;> rw [written] at speaks <;> exact { speaks with }

end WebSocket
end Bayeux
