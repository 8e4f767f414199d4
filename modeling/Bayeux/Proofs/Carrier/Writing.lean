import Bayeux.Proofs.Carrier.Frames
/-! What reaches the sink of a WebSocket. In whatever order the carrier is used, and however its
writes and closes end, it offers texts and then at most one close, nothing more once it is
disconnected but that close, and the reply to a farewell ahead of both. -/

namespace Bayeux.WebSocket
variable {σ : Type} {h : Handlers σ} {settings : Settings} {u v w : WebSocket}

/-- One use of a carrier, or something that others do to the server meanwhile. -/
inductive Operation (σ : Type) where
  | text (content : String)
  | deliver (packets : List Packet)
  | close
  | closeIfIdle
  | setIdleTimeout (requested : Int)
  | setDisconnected
  | onClose
  | elsewhere (change : Server σ → Server σ)

def openOn (settings : Settings) (peer : Peer) (behaviour : Sink) (s : Server σ) :
    WebSocket × Server σ :=
  let (w, s) := WebSocket.open settings peer s
  ({ w with sink := w.sink.behaveAs behaviour }, s)

def perform (h : Handlers σ) (settings : Settings) (at_ : WebSocket × Server σ) :
    Operation σ → WebSocket × Server σ
  | .text content => (onText h settings content at_.1 at_.2).2
  | .deliver packets => (deliver h settings packets at_.1 at_.2).2
  | .close => (at_.1.close.2, at_.2)
  | .closeIfIdle => ((at_.1.closeIfIdle at_.2).2, at_.2)
  | .setIdleTimeout requested => (at_.1.setIdleTimeout settings requested, at_.2)
  | .setDisconnected => (at_.1.setDisconnected.2, at_.2)
  | .onClose => onClose h at_.1 at_.2
  | .elsewhere change => (at_.1, change at_.2)

def performAll (h : Handlers σ) (settings : Settings) (start : WebSocket × Server σ)
    (operations : List (Operation σ)) : WebSocket × Server σ :=
  operations.foldl (perform h settings) start

/-- From one carrier to a later one these texts were offered, and then maybe this close. -/
structure Writes (w v : WebSocket) (texts : List String) (close? : Option (Nat × String)) :
    Prop where
  offered : v.sink.offered = w.sink.offered ++ texts.map .text ++
    close?.toList.map fun close => .close close.1 close.2
  silent : w.isClosed = true ∨ w.isConnected = false → texts = []
  once : w.isClosed = true → close? = none
  shut : close?.isSome = true → v.isClosed = true
  closed : w.isClosed = true → v.isClosed = true
  ended : w.isConnected = false → v.isConnected = false

theorem writesNothing (offered : v.sink.offered = w.sink.offered)
    (closed : w.isClosed = true → v.isClosed = true)
    (ended : w.isConnected = false → v.isConnected = false) : Writes w v [] none :=
  ⟨by simpa using offered, fun _ => rfl, fun _ => rfl, fun none => (by cases none), closed, ended⟩

theorem writesTrans {early late : List String} {first? last? : Option (Nat × String)}
    (first : Writes w v early first?) (last : Writes v u late last?) :
    Writes w u (early ++ late) (first?.or last?) := by
  refine ⟨?_, fun finished => ?_, fun finished => ?_, fun either => ?_,
    fun closed => last.closed (first.closed closed), fun ended => last.ended (first.ended ended)⟩
  · rw [last.offered, first.offered]
    cases first? with
    | none => simp
    | some close =>
      have closed := first.shut rfl
      simp [last.silent (.inl closed), last.once closed]
  · rw [first.silent finished, last.silent (finished.imp first.closed first.ended), List.append_nil]
  · rw [first.once finished, last.once (first.closed finished), Option.or_none]
  · cases first? with
    | none => exact last.shut (by simpa using either)
    | some close => exact last.closed (first.shut rfl)

theorem writesCloseSink (w : WebSocket) (code : Nat) (reason : String)
    (opened : w.isClosed = false) :
    Writes w (closeSink w code reason).2 [] (some (code, reason)) := by
  rw [closeSinkFrame]
  exact ⟨by simp [Sink.offeredClose], fun _ => rfl, by simp [opened], fun _ => rfl,
    fun _ => rfl, id⟩

theorem writesSpeaks {asks : Context → Prop} {x y : Handling σ}
    (speaks : Speaks h settings asks x y) (opened : x.carrier.isClosed = false)
    (connected : x.carrier.isConnected = true) :
    ∃ texts, Writes x.carrier y.carrier texts none := by
  obtain ⟨texts, offered⟩ := speaks.offered
  exact ⟨texts, by simpa using offered, by simp [opened, connected], fun _ => rfl,
    fun none => (by cases none), by simp [opened], by simp [connected]⟩

theorem writesClose (w : WebSocket) : ∃ close?, Writes w w.close.2 [] close? := by
  unfold close
  split
  · exact ⟨none, writesNothing rfl id id⟩
  · rename_i opened
    exact ⟨_, writesCloseSink w _ _ (by simpa using opened)⟩

theorem writesCloseIfIdle (w : WebSocket) (s : Server σ) :
    ∃ close?, Writes w (w.closeIfIdle s).2 [] close? := by
  unfold closeIfIdle
  split
  · exact ⟨none, writesNothing rfl id id⟩
  · split
    · exact ⟨none, writesNothing rfl id id⟩
    · rename_i opened
      exact ⟨_, writesCloseSink w _ _ (by simpa using opened)⟩

theorem writesDeliver (h : Handlers σ) (settings : Settings) (packets : List Packet)
    (w : WebSocket) (s : Server σ) :
    ∃ texts, Writes w (deliver h settings packets w s).2.1 texts none := by
  rcases deliverCases h settings packets w s with refused | ⟨⟨opened, connected⟩, speaks⟩
  · rw [refused]
    exact ⟨[], writesNothing rfl id id⟩
  · exact writesSpeaks speaks opened connected

theorem writesParted {asks : Context → Prop} {x : Handling σ} {f : Farewell σ}
    (speaks : Speaks h settings asks x f.state) (opened : x.carrier.isClosed = false)
    (connected : x.carrier.isConnected = true) : ∃ texts close?,
      Writes x.carrier (closeSink (f.parted h settings).carrier CloseCode.normal "").2
        texts close? := by
  have written := speaksTrans speaks (speaksWrite h settings asks f.packets f.state)
  obtain ⟨texts, writes⟩ := writesSpeaks written opened connected
  have parted : Writes (write h settings f.packets f.state).2.carrier
      (f.parted h settings).carrier [] none := writesNothing rfl id fun _ => rfl
  exact ⟨_, _, writesTrans (writesTrans writes parted) (writesCloseSink _ _ _
    (partedOpen f (speaks.closed.trans opened)))⟩

theorem writesText (h : Handlers σ) (settings : Settings) (content : String) (w : WebSocket)
    (s : Server σ) : ∃ texts close?, Writes w (onText h settings content w s).2.1 texts close? := by
  have ends := onTextEnds h settings content w s
  generalize onText h settings content w s = result at ends
  generalize farewellIn? h settings content w s = farewell at ends
  obtain ⟨answer, v, t⟩ := result
  simp only at ends ⊢
  cases ends with
  | unheard ended => exact ⟨[], none, writesNothing rfl id id⟩
  | stayed opened connected speaks =>
    obtain ⟨texts, writes⟩ := writesSpeaks speaks opened connected
    exact ⟨texts, none, writes⟩
  | shut opened connected =>
    have touched : Writes w (w.touch s) [] none := writesNothing rfl id id
    exact ⟨_, _, writesTrans touched (writesCloseSink (w.touch s) _ _ opened)⟩
  | parted opened connected speaks path => exact writesParted speaks opened connected

/- One use, whatever it is. -/
theorem writesPerform (h : Handlers σ) (settings : Settings) (at_ : WebSocket × Server σ)
    (operation : Operation σ) :
    ∃ texts close?, Writes at_.1 (perform h settings at_ operation).1 texts close? := by
  obtain ⟨w, s⟩ := at_
  cases operation with
  | text content => exact writesText h settings content w s
  | deliver packets =>
    obtain ⟨texts, writes⟩ := writesDeliver h settings packets w s
    exact ⟨texts, none, writes⟩
  | close => exact ⟨[], writesClose w⟩
  | closeIfIdle => exact ⟨[], writesCloseIfIdle w s⟩
  | setIdleTimeout requested => exact ⟨[], none, writesNothing rfl id id⟩
  | setDisconnected => exact ⟨[], none, writesNothing rfl id fun _ => rfl⟩
  | onClose => exact ⟨[], none, writesNothing rfl (fun _ => rfl) fun _ => rfl⟩
  | elsewhere change => exact ⟨[], none, writesNothing rfl id id⟩

theorem writesPerformAll (h : Handlers σ) (settings : Settings) (at_ : WebSocket × Server σ)
    (operations : List (Operation σ)) :
    ∃ texts close?, Writes at_.1 (performAll h settings at_ operations).1 texts close? := by
  induction operations generalizing at_ with
  | nil => exact ⟨[], none, writesNothing rfl id id⟩
  | cons operation rest ih =>
    obtain ⟨early, first?, first⟩ := writesPerform h settings at_ operation
    obtain ⟨late, last?, last⟩ := ih (perform h settings at_ operation)
    exact ⟨_, _, writesTrans first last⟩

/-- The carrier is told goodbye while it is open and connected. Its reply is offered then, if any
of it is let out; behind it the disconnect takes effect, and the close comes last. What the
rest of the frame says makes no difference. -/
structure GoodbyeTaken (h : Handlers σ) (settings : Settings) (w : WebSocket) (x : Handling σ)
    (f : Farewell σ) (after : WebSocket × Server σ) : Prop where
  before : ∃ texts : List String,
    x.carrier.sink.offered = w.sink.offered ++ texts.map .text
  here : f.state.carrier = x.carrier
  opened : x.carrier.isClosed = false
  connected : x.carrier.isConnected = true
  path : f.channel.path = Route.disconnectPath
  reply : (write h settings f.packets f.state).2.carrier.sink.offered = x.carrier.sink.offered ++
    ((Outbound.ofPackets? h.extensions w.session f.packets f.state.server).1.toList.map
      fun outbound => .text outbound.text)
  pending : (write h settings f.packets f.state).2.carrier.isConnected = true
  close : after.1.sink.offered =
    (write h settings f.packets f.state).2.carrier.sink.offered ++ [.close CloseCode.normal ""]
  ended : after.1.isClosed = true ∧ after.1.isConnected = false
  effect : after.2 = Router.applyDisconnect w.session f.channel
    (write h settings f.packets f.state).2.server

theorem goodbyeTaken {content : String} {s : Server σ} {done rest : List Value} {x : Handling σ}
    {f : Farewell σ} (goodbye : Goodbye h settings content w s done rest x f) :
    GoodbyeTaken h settings w x f (onText h settings content w s).2 := by
  obtain ⟨entry, m, path, -, -, found⟩ := goodbye.batch
  have here := farewellCarrier found
  have reached := dispatchHandled h settings done .empty ⟨w.touch s, {}, s⟩
  rw [goodbye.reached] at reached
  have answered : Speaks h settings (HeardIn h w.session w.peer done) ⟨w.touch s, {}, s⟩ x := by
    generalize farewell? h settings done .empty ⟨w.touch s, {}, s⟩ = farewell at reached
    cases farewell with
    | none =>
      cases reached with
      | stayed speaks => exact speaks
    | some g =>
      have ended := handledEnds reached
      rw [goodbye.alive] at ended
      cases ended
  have opened : f.state.carrier.isClosed = false :=
    (congrArg isClosed here).trans (answered.closed.trans goodbye.opened)
  have connected : f.state.carrier.isConnected = true :=
    (congrArg isConnected here).trans goodbye.alive
  have session : f.state.carrier.session = w.session :=
    (congrArg WebSocket.session here).trans answered.session
  have written := speaksWrite h settings (fun _ => False) f.packets f.state
  have ends := onTextEnds h settings content w s
  rw [goodbyeIff.mpr ⟨done, rest, x, goodbye⟩] at ends
  generalize onText h settings content w s = result at ends
  obtain ⟨answer, v, t⟩ := result
  simp only at ends ⊢
  cases ends with
  | parted _ _ speaks path =>
    rw [closeSinkFrame]
    refine ⟨answered.offered, here, answered.closed.trans goodbye.opened, goodbye.alive, path, ?_,
      written.connected.trans connected, ?_, ⟨rfl, rfl⟩, ?_⟩
    · rw [offeredWrite, session, here]
    · exact Sink.offeredClose _ _ _
    · rw [partedServer, session]

/-- What may be said of the sink along a run from here. -/
structure WellWritten (h : Handlers σ) (settings : Settings) (start : WebSocket × Server σ)
    (operations : List (Operation σ)) : Prop where
  /-- Texts, and then at most one close. -/
  order : ∃ (texts : List String) (close? : Option (Nat × String)),
    (performAll h settings start operations).1.sink.offered =
      texts.map .text ++ close?.toList.map fun close => .close close.1 close.2
  /-- Once the carrier is disconnected no text follows. -/
  silent : ∀ before after, operations = before ++ after →
    (performAll h settings start before).1.isConnected = false →
      ∃ close? : Option (Nat × String), (performAll h settings start operations).1.sink.offered =
        (performAll h settings start before).1.sink.offered ++
          close?.toList.map fun close => .close close.1 close.2
  /-- What disconnects it is a goodbye, or else writes nothing. -/
  turn : ∀ before operation after, operations = before ++ operation :: after →
    (performAll h settings start before).1.isConnected = true →
    (performAll h settings start (before ++ [operation])).1.isConnected = false →
      (performAll h settings start (before ++ [operation])).1.sink.offered =
          (performAll h settings start before).1.sink.offered ∨
        ∃ content done rest x f, operation = .text content ∧
          Goodbye h settings content (performAll h settings start before).1
            (performAll h settings start before).2 done rest x f
  goodbye : ∀ before content after done rest x f, operations = before ++ .text content :: after →
    Goodbye h settings content (performAll h settings start before).1
      (performAll h settings start before).2 done rest x f →
    GoodbyeTaken h settings (performAll h settings start before).1 x f
      (performAll h settings start (before ++ [.text content]))

theorem performAllAppend (h : Handlers σ) (settings : Settings) (start : WebSocket × Server σ)
    (before after : List (Operation σ)) : performAll h settings start (before ++ after) =
      performAll h settings (performAll h settings start before) after :=
  List.foldl_append

theorem closeSinkConnected (w : WebSocket) (code : Nat) (reason : String) :
    (closeSink w code reason).2.isConnected = w.isConnected :=
  (shutsCloseSink w code reason).connected

/- The flag goes down with a goodbye, with the end of the connection, or by itself. -/
theorem performTurn (h : Handlers σ) (settings : Settings) (at_ : WebSocket × Server σ)
    (operation : Operation σ) (connected : at_.1.isConnected = true)
    (ended : (perform h settings at_ operation).1.isConnected = false) :
    (perform h settings at_ operation).1.sink.offered = at_.1.sink.offered ∨
      ∃ content done rest x f, operation = .text content ∧
        Goodbye h settings content at_.1 at_.2 done rest x f := by
  obtain ⟨w, s⟩ := at_
  have connected : w.isConnected = true := connected
  have stays : ∀ {v : WebSocket}, v.isConnected = w.isConnected → v.isConnected ≠ false := by
    intro v same
    simp [same, connected]
  cases operation with
  | text content =>
    have ends := onTextEnds h settings content w s
    simp only [perform] at ended ⊢
    generalize onText h settings content w s = result at ends ended
    obtain ⟨answer, v, t⟩ := result
    simp only at ends ended
    cases found : farewellIn? h settings content w s with
    | some f =>
      obtain ⟨done, rest, x, goodbye⟩ := goodbyeIff.mp found
      exact .inr ⟨content, done, rest, x, f, rfl, goodbye⟩
    | none =>
      rw [found] at ends
      cases ends with
      | unheard silent => exact absurd ended (stays rfl)
      | stayed opened connected speaks => exact absurd ended (stays speaks.connected)
      | shut opened connected => exact absurd ended (stays (closeSinkConnected (w.touch s) _ _))
  | deliver packets =>
    refine absurd ended (stays ?_)
    rcases deliverCases h settings packets w s with refused | ⟨-, speaks⟩
    · simp only [perform, refused]
    · exact speaks.connected
  | close => exact absurd ended (stays (shutsClose w).connected)
  | closeIfIdle => exact absurd ended (stays (shutsCloseIfIdle w s).connected)
  | setIdleTimeout requested => exact absurd ended (stays rfl)
  | setDisconnected => exact .inl rfl
  | onClose => exact .inl rfl
  | elsewhere change => exact absurd ended (stays rfl)

theorem nothingAfterClose (h : Handlers σ) (settings : Settings) (peer : Peer) (behaviour : Sink)
    (s : Server σ) (operations : List (Operation σ)) :
    WellWritten h settings (openOn settings peer behaviour s) operations where
  order := by
    obtain ⟨texts, close?, writes⟩ :=
      writesPerformAll h settings (openOn settings peer behaviour s) operations
    exact ⟨texts, close?, writes.offered⟩
  silent before after same ended := by
    subst same
    rw [performAllAppend]
    obtain ⟨texts, close?, writes⟩ := writesPerformAll h settings
      (performAll h settings (openOn settings peer behaviour s) before) after
    have offered := writes.offered
    rw [writes.silent (.inr ended), List.map_nil, List.append_nil] at offered
    exact ⟨close?, offered⟩
  turn before operation after _ connected ended := by
    rw [performAllAppend] at ended ⊢
    exact performTurn h settings _ operation connected ended
  goodbye before content after done rest x f _ goodbye := by
    rw [performAllAppend]
    exact goodbyeTaken goodbye

/- A goodbye whose reply stalls, with a message behind it, on a sink that cannot be closed. -/
theorem nothingAfterCloseStalled :
    let h : Handlers Unit := ⟨Standard.process ⟨.current, .current, 0, 30000⟩, []⟩
    let settings : Settings := ⟨-1, some 50, 65536, [transport], 16⟩
    let start := openOn settings .inProcess ⟨fun _ => .stalled, fun _ => some "gone", []⟩
      (Server.start ())
    let content := "[\x7b\"channel\":\"/meta/disconnect\"\x7d,\x7b\"channel\":\"/a\"\x7d]"
    let delivery : Operation Unit := .deliver [.single .delivery (.forChannel "/b")]
    let reached := performAll h settings start [delivery]
    (performAll h settings start [delivery, .text content, .close]).1.sink.offered.map
        (fun | .text _ => none | .close code _ => some code) =
      [none, none, some CloseCode.normal] ∧
      ∃ done rest x f, Goodbye h settings content reached.1 reached.2 done rest x f ∧
        GoodbyeTaken h settings reached.1 x f
          (performAll h settings start [delivery, .text content]) := by
  intro h settings start content delivery reached
  have parting : (farewellIn? h settings content reached.1 reached.2).isSome = true := by
    decide +kernel
  obtain ⟨f, found⟩ := Option.isSome_iff_exists.mp parting
  obtain ⟨done, rest, x, goodbye⟩ := goodbyeIff.mp found
  have written := nothingAfterClose h settings .inProcess
    ⟨fun _ => .stalled, fun _ => some "gone", []⟩ (Server.start ())
    [delivery, .text content, .close]
  exact ⟨by decide +kernel, done, rest, x, f, goodbye,
    written.goodbye [delivery] content [.close] done rest x f rfl goodbye⟩

end Bayeux.WebSocket
