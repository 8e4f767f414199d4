import Bayeux.Proofs.Carrier.Frames
/-! The answer to one message of a frame. It depends on the session, its peer and the server, not
on the carrier; all that the carrier does with it is to write it, and to let a disconnect take
effect behind it. So a failed write changes nothing of what the server made of the message. -/

namespace Bayeux.WebSocket
variable {σ : Type} {h : Handlers σ} {settings : Settings} {x y : Handling σ}

def refusing (session path reason : String) (m : Message) : Routed :=
  ⟨[.single .response (Reply.refusal path reason m (some session))], none⟩

def answerRouted (h : Handlers σ) (settings : Settings) (session : String) (c : Context)
    (s : Server σ) : Routed × Server σ :=
  match Router.respond h.process settings.transports session c s with
  | (.ok routed, s) => (routed, s)
  | (.error _, s) => (⟨[], none⟩, s)

def answerOn (h : Handlers σ) (settings : Settings) (session : String) (peer : Peer)
    (channel : Channel) (m : Message) (s : Server σ) : Routed × Server σ :=
  let (accepted, c, s) := Extension.incomingPass h.extensions session
    ⟨transport, peer, channel, m⟩ s
  if accepted then answerRouted h settings session c s
  else (refusing session c.channel.path Reply.denied c.message, s)

/-- What is to be written, and how the server stands before it is. -/
def answer (h : Handlers σ) (settings : Settings) (session : String) (peer : Peer) (m : Message)
    (path : String) (s : Server σ) : Routed × Server σ :=
  match Channel.resolve path with
  | .ok channel => answerOn h settings session peer channel m s
  | .error _ => (refusing session path Reply.invalidChannel m, s)

def Handling.counted (x : Handling σ) : Handling σ :=
  { x with outcome := { x.outcome with messagesIn := x.outcome.messagesIn + 1 } }

def conclude (h : Handlers σ) (settings : Settings) (answered : Routed × Server σ)
    (x : Handling σ) : Except TransportError Unit × Handling σ :=
  let (written, x) := write h settings answered.1.packets { x with server := answered.2 }
  (written, disconnectAfter answered.1.disconnect? x)

theorem routeConcludes (h : Handlers σ) (settings : Settings) (c : Context) (x : Handling σ) :
    route h settings c x =
      conclude h settings (answerRouted h settings x.carrier.session c x.server) x := by
  unfold route conclude answerRouted
  generalize Router.respond h.process settings.transports x.carrier.session c x.server = response
  obtain ⟨result, s⟩ := response
  cases result <;> rfl

theorem handleOnConcludes (h : Handlers σ) (settings : Settings) (channel : Channel) (m : Message)
    (x : Handling σ) : handleOn h settings channel m x = conclude h settings
      (answerOn h settings x.carrier.session x.carrier.peer channel m x.server) x := by
  unfold handleOn answerOn
  generalize Extension.incomingPass h.extensions x.carrier.session
    ⟨transport, x.carrier.peer, channel, m⟩ x.server = pass
  obtain ⟨accepted, c, s⟩ := pass
  cases accepted with
  | true => exact routeConcludes h settings c { x with server := s }
  | false => rfl

theorem handleConcludes (h : Handlers σ) (settings : Settings) (m : Message) (path : String)
    (scope : FrameScope) (x : Handling σ) :
    handle h settings m path scope x =
      ((conclude h settings (answer h settings x.carrier.session x.carrier.peer m path x.server)
          x.counted).1, (scope.resolve path).2,
        (conclude h settings (answer h settings x.carrier.session x.carrier.peer m path x.server)
          x.counted).2) := by
  have answered := scope.resolveAnswer path
  unfold handle answer
  generalize scope.resolve path = resolved at answered
  obtain ⟨channel, after⟩ := resolved
  simp only at answered
  subst answered
  cases Channel.resolve path with
  | error fault => rfl
  | ok channel =>
    simp only [handleOnConcludes]
    rfl

theorem farewellAnswer (h : Handlers σ) (settings : Settings) (m : Message) (path : String)
    (x : Handling σ) :
    farewellOf? h settings m path x =
      let answered := answer h settings x.carrier.session x.carrier.peer m path x.server
      answered.1.disconnect?.map fun channel =>
        ⟨{ x.counted with server := answered.2 }, answered.1.packets, channel⟩ := by
  unfold farewellOf? farewellOn? farewellRouted? answer answerOn answerRouted
  cases Channel.resolve path with
  | error fault => rfl
  | ok channel =>
    simp only
    generalize Extension.incomingPass h.extensions x.carrier.session
      ⟨transport, x.carrier.peer, channel, m⟩ x.server = pass
    obtain ⟨accepted, c, s⟩ := pass
    cases accepted with
    | false => rfl
    | true =>
      simp only [if_true]
      generalize Router.respond h.process settings.transports x.carrier.session c s = response
      obtain ⟨result, t⟩ := response
      cases result <;> rfl

theorem dispatchAnyScope (h : Handlers σ) (settings : Settings) (batch : List Value)
    (scope : FrameScope) (x : Handling σ) :
    dispatch h settings batch scope x = dispatch h settings batch .empty x := by
  induction batch generalizing scope x with
  | nil => rfl
  | cons entry rest ih =>
    unfold dispatch
    split
    · rfl
    · split
      · exact ih scope x
      · rename_i m path _
        simp only [handleConcludes]
        generalize conclude h settings _ x.counted = concluded
        obtain ⟨result, y⟩ := concluded
        cases result with
        | error e => rfl
        | ok done => exact (ih _ y).trans (ih _ y).symm

theorem dispatchSkips {entry : Value} (rest : List Value) (scope : FrameScope)
    (skipped : messageOf? entry = none) (x : Handling σ) :
    dispatch h settings (entry :: rest) scope x = dispatch h settings rest .empty x := by
  cases connected : x.carrier.isConnected with
  | false => rw [dispatchSilent _ _ _ _ connected, dispatchSilent _ _ _ _ connected]
  | true =>
    simp only [dispatch, connected, skipped, Bool.not_true, Bool.false_eq_true, if_false]
    exact dispatchAnyScope h settings rest scope x

theorem dispatchAnswers {entry : Value} {m : Message} {path : String} (rest : List Value)
    (scope : FrameScope) (read : messageOf? entry = some (m, path))
    (connected : x.carrier.isConnected = true) :
    dispatch h settings (entry :: rest) scope x =
      match conclude h settings (answer h settings x.carrier.session x.carrier.peer m path x.server)
        x.counted with
      | (.error e, y) => (.error e, y)
      | (.ok (), y) => dispatch h settings rest .empty y := by
  simp only [dispatch, connected, read, handleConcludes, Bool.not_true, Bool.false_eq_true,
    if_false]
  generalize conclude h settings _ x.counted = concluded
  obtain ⟨result, y⟩ := concluded
  cases result with
  | error e => rfl
  | ok done => exact dispatchAnyScope h settings rest _ y

inductive Dispatches (h : Handlers σ) (settings : Settings) :
    List Value → Handling σ → Except TransportError Unit → Handling σ → Prop where
  | done (x : Handling σ) : Dispatches h settings [] x (.ok ()) x
  | ended {batch : List Value} {x : Handling σ} (silent : x.carrier.isConnected = false) :
      Dispatches h settings batch x (.ok ()) x
  | skipped {entry : Value} {rest : List Value} {x y : Handling σ}
      {result : Except TransportError Unit} (connected : x.carrier.isConnected = true)
      (read : messageOf? entry = none) (others : Dispatches h settings rest x result y) :
      Dispatches h settings (entry :: rest) x result y
  | failed {entry : Value} {rest : List Value} {m : Message} {path : String} {x y : Handling σ}
      {e : TransportError} (connected : x.carrier.isConnected = true)
      (read : messageOf? entry = some (m, path))
      (concluded : conclude h settings
        (answer h settings x.carrier.session x.carrier.peer m path x.server) x.counted =
          (.error e, y)) :
      Dispatches h settings (entry :: rest) x (.error e) y
  | answered {entry : Value} {rest : List Value} {m : Message} {path : String}
      {x y z : Handling σ} {result : Except TransportError Unit}
      (connected : x.carrier.isConnected = true) (read : messageOf? entry = some (m, path))
      (concluded : conclude h settings
        (answer h settings x.carrier.session x.carrier.peer m path x.server) x.counted =
          (.ok (), y))
      (others : Dispatches h settings rest y result z) :
      Dispatches h settings (entry :: rest) x result z

theorem dispatches (h : Handlers σ) (settings : Settings) (batch : List Value)
    (x : Handling σ) : Dispatches h settings batch x (dispatch h settings batch .empty x).1
      (dispatch h settings batch .empty x).2 := by
  induction batch generalizing x with
  | nil => exact .done x
  | cons entry rest ih =>
    cases connected : x.carrier.isConnected with
    | false =>
      rw [dispatchSilent _ _ _ _ connected]
      exact .ended connected
    | true =>
      cases read : messageOf? entry with
      | none =>
        rw [dispatchSkips rest .empty read]
        exact .skipped connected read (ih x)
      | some asked =>
        obtain ⟨m, path⟩ := asked
        rw [dispatchAnswers rest .empty read connected]
        cases concluded : conclude h settings
            (answer h settings x.carrier.session x.carrier.peer m path x.server) x.counted with
        | mk result y =>
          cases result with
          | error e => exact .failed connected read concluded
          | ok written => exact .answered connected read concluded (ih y)

/- Whatever holds for the answer to each message holds for the whole batch. -/
theorem dispatchRelated {R : Handling σ → Handling σ → Prop} (refl : ∀ x, R x x)
    (trans : ∀ {x y z}, R x y → R y z → R x z)
    (answers : ∀ m path x, R x (conclude h settings
      (answer h settings x.carrier.session x.carrier.peer m path x.server) x.counted).2)
    (batch : List Value) (x : Handling σ) : R x (dispatch h settings batch .empty x).2 := by
  have gone := dispatches h settings batch x
  generalize dispatch h settings batch .empty x = dispatched at gone ⊢
  obtain ⟨result, y⟩ := dispatched
  simp only at gone ⊢
  induction gone with
  | done x => exact refl x
  | ended silent => exact refl _
  | skipped connected read others ih => exact ih
  | @failed _ _ m path x y _ connected read concluded =>
    have one := answers m path x
    rwa [concluded] at one
  | @answered _ _ m path x y z _ connected read concluded others ih =>
    have one := answers m path x
    rw [concluded] at one
    exact trans one ih

theorem dispatchesReached {batch : List Value} {result : Except TransportError Unit}
    (reached : dispatch h settings batch .empty x = (result, y)) :
    Dispatches h settings batch x result y := by
  have gone := dispatches h settings batch x
  rwa [reached] at gone

/- What was handled before is left as it is by what comes after. -/
theorem dispatchAppend {done : List Value} (rest : List Value)
    (reached : dispatch h settings done .empty x = (.ok (), y)) :
    dispatch h settings (done ++ rest) .empty x = dispatch h settings rest .empty y := by
  have gone := dispatchesReached reached
  generalize finished : Except.ok () = result at gone
  clear reached
  induction gone with
  | done x => rfl
  | ended silent => rw [dispatchSilent _ _ _ _ silent, dispatchSilent _ _ _ _ silent]
  | skipped connected read others ih =>
    rw [List.cons_append, dispatchSkips _ .empty read]
    exact ih finished
  | failed connected read concluded => cases finished
  | answered connected read concluded others ih =>
    rw [List.cons_append, dispatchAnswers _ .empty read connected, concluded]
    exact ih finished

def isMessage : Value → Bool
  | .object fields => (Message.channel? ⟨fields⟩).isSome
  | _ => false

theorem isMessageRead (entry : Value) : isMessage entry = (messageOf? entry).isSome := by
  cases entry <;> simp [isMessage, messageOf?]

theorem dispatchMessages (h : Handlers σ) (settings : Settings) (batch : List Value)
    (x : Handling σ) : dispatch h settings (batch.filter isMessage) .empty x =
      dispatch h settings batch .empty x := by
  induction batch generalizing x with
  | nil => rfl
  | cons entry rest ih =>
    cases read : messageOf? entry with
    | none =>
      have skipped : isMessage entry = false := by simp [isMessageRead, read]
      rw [List.filter_cons_of_neg (by simp [skipped]), dispatchSkips rest .empty read]
      exact ih x
    | some asked =>
      have kept : isMessage entry = true := by simp [isMessageRead, read]
      rw [List.filter_cons_of_pos kept]
      cases connected : x.carrier.isConnected with
      | false => rw [dispatchSilent _ _ _ _ connected, dispatchSilent _ _ _ _ connected]
      | true =>
        rw [dispatchAnswers _ .empty read connected, dispatchAnswers _ .empty read connected]
        simp only [ih]

inductive Refused (h : Handlers σ) (settings : Settings) (session : String) (peer : Peer)
    (m : Message) (path : String) (s : Server σ) : Prop where
  | invalid {fault : ProtocolError} (place : Channel.resolve path = .error fault) :
      Refused h settings session peer m path s
  | denied {channel : Channel} (place : Channel.resolve path = .ok channel)
      (pass : (Extension.incomingPass h.extensions session ⟨transport, peer, channel, m⟩ s).1 =
        false) : Refused h settings session peer m path s
  | failed {channel : Channel} {c : Context} {t : Server σ} {fault : ProcessingError}
      (place : Channel.resolve path = .ok channel)
      (pass : Extension.incomingPass h.extensions session ⟨transport, peer, channel, m⟩ s =
        (true, c, t))
      (response : (Router.respond h.process settings.transports session c t).1 = .error fault) :
      Refused h settings session peer m path s

theorem refusedStays {session : String} {peer : Peer} {m : Message} {path : String}
    (refused : Refused h settings session peer m path s) :
    (answer h settings session peer m path s).1.disconnect? = none := by
  unfold answer answerOn answerRouted
  cases refused with
  | invalid place => simp [place, refusing]
  | denied place pass => simp [place, pass, refusing]
  | failed place pass response =>
    simp only [place, pass, if_true]
    generalize Router.respond h.process _ _ _ _ = responded at response
    obtain ⟨result, u⟩ := responded
    cases response
    rfl

theorem concludeStays {answered : Routed × Server σ} (x : Handling σ)
    (stays : answered.1.disconnect? = none) :
    (conclude h settings answered x).2.carrier.isConnected = x.carrier.isConnected := by
  have written := speaksWrite h settings (fun _ => False) answered.1.packets
    { x with server := answered.2 }
  simpa [conclude, stays, disconnectAfter] using written.connected

theorem concludeClosed (h : Handlers σ) (settings : Settings) (answered : Routed × Server σ)
    (x : Handling σ) :
    (conclude h settings answered x).2.carrier.isClosed = x.carrier.isClosed := by
  have written := speaksWrite h settings (fun _ => False) answered.1.packets
    { x with server := answered.2 }
  cases leaving : answered.1.disconnect? <;>
    simpa [conclude, leaving, disconnectAfter] using written.closed

theorem dispatchConnected (h : Handlers σ) (settings : Settings) (batch : List Value)
    (connected : x.carrier.isConnected = true) :
    (dispatch h settings batch .empty x).2.carrier.isConnected =
      !(farewell? h settings batch .empty x).isSome := by
  have handled := dispatchHandled h settings batch .empty x
  generalize farewell? h settings batch .empty x = farewell at handled ⊢
  generalize (dispatch h settings batch .empty x).2 = y at handled ⊢
  cases farewell with
  | some f => exact handledEnds handled
  | none =>
    cases handled with
    | stayed speaks => exact speaks.connected.trans connected

theorem dispatchOpen (h : Handlers σ) (settings : Settings) (batch : List Value)
    (x : Handling σ) :
    (dispatch h settings batch .empty x).2.carrier.isClosed = x.carrier.isClosed := by
  have handled := dispatchHandled h settings batch .empty x
  generalize farewell? h settings batch .empty x = farewell at handled ⊢
  generalize (dispatch h settings batch .empty x).2 = y at handled ⊢
  cases handled with
  | stayed speaks => exact speaks.closed
  | @parted f speaks path =>
    exact (speaksWrite h settings (fun _ => False) f.packets f.state).closed.trans speaks.closed

theorem onTextRead {text : String} {batch : List Value} (opened : w.isClosed = false)
    (connected : w.isConnected = true) (within : text.utf8ByteSize ≤ settings.maxTextSize)
    (read : Frame.decodeBatch text.toUTF8 = .ok batch) :
    onText h settings text w s = onBatch h settings batch ⟨w.touch s, {}, s⟩ := by
  have alive : ((w.touch s).isClosed || !(w.touch s).isConnected) = false := by
    simp [touch, opened, connected]
  simp only [onText, alive, Bool.false_eq_true, if_false, if_neg (Nat.not_lt.mpr within), read]

inductive Taken (h : Handlers σ) (settings : Settings) (text : String) (w : WebSocket)
    (s : Server σ) : Except TransportError Outcome × WebSocket × Server σ → Prop where
  | unheard (ended : w.isClosed = true ∨ w.isConnected = false) :
      Taken h settings text w s (.ok { closed := true }, w.touch s, s)
  | large (opened : w.isClosed = false) (connected : w.isConnected = true)
      (beyond : settings.maxTextSize < text.utf8ByteSize) :
      Taken h settings text w s
        ((closeSink (w.touch s) CloseCode.messageTooBig "Message too big").1.map
            fun _ => { closed := true },
          (closeSink (w.touch s) CloseCode.messageTooBig "Message too big").2, s)
  | garbled {fault : ProtocolError} (opened : w.isClosed = false)
      (connected : w.isConnected = true) (within : text.utf8ByteSize ≤ settings.maxTextSize)
      (undecoded : Frame.decodeBatch text.toUTF8 = .error fault) :
      Taken h settings text w s (.ok {}, w.touch s, s)
  | read {batch : List Value} (opened : w.isClosed = false) (connected : w.isConnected = true)
      (within : text.utf8ByteSize ≤ settings.maxTextSize)
      (decoded : Frame.decodeBatch text.toUTF8 = .ok batch) :
      Taken h settings text w s (onBatch h settings batch ⟨w.touch s, {}, s⟩)

theorem taken (h : Handlers σ) (settings : Settings) (text : String) (w : WebSocket)
    (s : Server σ) : Taken h settings text w s (onText h settings text w s) := by
  cases alive : w.isClosed || !w.isConnected with
  | true =>
    have finished : ((w.touch s).isClosed || !(w.touch s).isConnected) = true := alive
    simp only [onText, finished, if_true]
    exact .unheard (by simpa using alive)
  | false =>
    have running : ((w.touch s).isClosed || !(w.touch s).isConnected) = false := alive
    obtain ⟨opened, connected⟩ : w.isClosed = false ∧ w.isConnected = true := by simpa using alive
    by_cases beyond : settings.maxTextSize < text.utf8ByteSize
    · simp only [onText, running, Bool.false_eq_true, if_false, if_pos beyond]
      exact .large opened connected beyond
    · have within := Nat.not_lt.mp beyond
      cases decoded : Frame.decodeBatch text.toUTF8 with
      | error fault =>
        simp only [onText, running, Bool.false_eq_true, if_false, if_neg beyond, decoded]
        exact .garbled opened connected within decoded
      | ok batch =>
        rw [onTextRead opened connected within decoded]
        exact .read opened connected within decoded

/-- The messages that are given to the channel check, the extensions and the router. -/
def handedOn (h : Handlers σ) (settings : Settings) :
    List Value → Handling σ → List (Message × String)
  | [], _ => []
  | entry :: rest, x =>
    if !x.carrier.isConnected then []
    else
      match messageOf? entry with
      | none => handedOn h settings rest x
      | some (m, path) =>
        (m, path) :: match conclude h settings
            (answer h settings x.carrier.session x.carrier.peer m path x.server) x.counted with
          | (.error _, _) => []
          | (.ok (), y) => handedOn h settings rest y

theorem handedOnEnded (batch : List Value) (silent : x.carrier.isConnected = false) :
    handedOn h settings batch x = [] := by
  cases batch <;> simp [handedOn, silent]

theorem handedOnSkips {entry : Value} (rest : List Value)
    (connected : x.carrier.isConnected = true) (read : messageOf? entry = none) :
    handedOn h settings (entry :: rest) x = handedOn h settings rest x := by
  simp only [handedOn, connected, read, Bool.not_true, Bool.false_eq_true, if_false]

theorem handedOnAnswers {entry : Value} {m : Message} {path : String} (rest : List Value)
    (connected : x.carrier.isConnected = true) (read : messageOf? entry = some (m, path)) :
    handedOn h settings (entry :: rest) x = (m, path) :: match conclude h settings
      (answer h settings x.carrier.session x.carrier.peer m path x.server) x.counted with
      | (.error _, _) => []
      | (.ok (), y) => handedOn h settings rest y := by
  simp only [handedOn, connected, read, Bool.not_true, Bool.false_eq_true, if_false]

/- A write passes the packets through the extensions and offers what is left; that may take
time, and nothing else comes of it. -/
theorem writeFrame (h : Handlers σ) (settings : Settings) (packets : List Packet)
    (x : Handling σ) : ∃ sink waited,
    (write h settings packets x).2.carrier = { x.carrier with sink } ∧
      (write h settings packets x).2.server =
        let u := (Outbound.ofPackets? h.extensions x.carrier.session packets x.server).2
        { u with clock := u.clock + waited } := by
  unfold write
  generalize Outbound.ofPackets? h.extensions x.carrier.session packets x.server = made
  obtain ⟨outbound?, u⟩ := made
  cases outbound? with
  | none => exact ⟨_, 0, rfl, rfl⟩
  | some outbound =>
    simp only [writeText]
    generalize x.carrier.sink.text outbound.text = written
    obtain ⟨result, sink⟩ := written
    cases result with
    | written => exact ⟨sink, 0, rfl, rfl⟩
    | failed reason => exact ⟨sink, 0, rfl, rfl⟩
    | stalled => exact ⟨sink, _, rfl, rfl⟩

end Bayeux.WebSocket
