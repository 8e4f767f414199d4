import Bayeux.Connection
import Bayeux.Proofs.Carrier.Batches
/-! A frame whose answer could not be written in time. It ends there: the messages up to the one
that was being answered were heard, as on a sink that accepts everything, and of the ones
behind it nobody heard, while the connection goes on. -/

namespace Bayeux

namespace WebSocket
variable {σ : Type} {h : Handlers σ} {settings : Settings} {x y z : Handling σ}

def timedOut {α : Type} : Except TransportError α → Bool
  | .error .timeout => true
  | _ => false

theorem timedOutIff {α : Type} {result : Except TransportError α} :
    timedOut result = true ↔ result = .error .timeout := by
  cases result with
  | ok value => simp [timedOut]
  | error e => cases e <;> simp [timedOut]

/-- The same on another sink. -/
structure Alike (x y : Handling σ) : Prop where
  carrier : y.carrier = { x.carrier with sink := y.carrier.sink }
  outcome : y.outcome = x.outcome
  server : y.server = x.server

theorem alikeCounted (alike : Alike x y) : Alike x.counted y.counted where
  carrier := alike.carrier
  outcome := by simp only [Handling.counted, alike.outcome]
  server := alike.server

theorem writeAlike (h : Handlers σ) (settings : Settings) (packets : List Packet)
    (alike : Alike x y) (accepts : y.carrier.sink.Accepts) :
    ((write h settings packets x).1 = .ok () →
      Alike (write h settings packets x).2 (write h settings packets y).2) ∧
    ((write h settings packets x).1 = .error .timeout →
      (write h settings packets x).2.server = { (write h settings packets y).2.server with
        clock := (write h settings packets y).2.server.clock + settings.patience }) := by
  obtain ⟨w, o, s⟩ := x
  obtain ⟨v, p, t⟩ := y
  obtain ⟨carrier, outcome, server⟩ := alike
  simp only at carrier outcome server accepts
  subst outcome server
  have session : v.session = w.session := by rw [carrier]
  simp only [write, session]
  generalize Outbound.ofPackets? h.extensions w.session packets t = made
  obtain ⟨outbound?, u⟩ := made
  cases outbound? with
  | none => exact ⟨fun _ => ⟨carrier, rfl, rfl⟩, by rintro ⟨⟩⟩
  | some outbound =>
    simp only [writeText, Sink.text, accepts.text]
    cases w.sink.onText w.sink.calls with
    | written =>
      refine ⟨fun _ => ⟨?_, rfl, rfl⟩, by rintro ⟨⟩⟩
      simp only
      rw [carrier]
    | failed reason => exact ⟨(by rintro ⟨⟩), by rintro ⟨⟩⟩
    | stalled => exact ⟨(by rintro ⟨⟩), fun _ => rfl⟩

theorem concludeAlike (h : Handlers σ) (settings : Settings) (answered : Routed × Server σ)
    (alike : Alike x y) (accepts : y.carrier.sink.Accepts) :
    ((conclude h settings answered x).1 = .ok () →
      Alike (conclude h settings answered x).2 (conclude h settings answered y).2) ∧
    (answered.1.disconnect? = none → (conclude h settings answered x).1 = .error .timeout →
      (conclude h settings answered x).2.server =
        { (conclude h settings answered y).2.server with
          clock := (conclude h settings answered y).2.server.clock +
            settings.patience }) := by
  have here : Alike { x with server := answered.2 } { y with server := answered.2 } :=
    { alike with server := rfl }
  obtain ⟨done, late⟩ := writeAlike h settings answered.1.packets here accepts
  refine ⟨fun written => ?_, fun stays timedOut => ?_⟩
  · have same := done written
    simp only [conclude]
    cases answered.1.disconnect? with
    | none => exact same
    | some channel =>
      obtain ⟨carrier, outcome, server⟩ := same
      refine ⟨?_, outcome, ?_⟩
      · simp only [disconnectAfter]
        rw [carrier]
      · simp only [disconnectAfter]
        rw [carrier, server]
  · simpa only [conclude, stays, disconnectAfter] using late timedOut

theorem dispatchAlike {done : List Value} (alike : Alike x y) (accepts : y.carrier.sink.Accepts)
    (reached : dispatch h settings done .empty x = (.ok (), z)) :
    Alike z (dispatch h settings done .empty y).2 := by
  have gone := dispatchesReached reached
  generalize finished : Except.ok () = result at gone
  clear reached
  induction gone generalizing y with
  | done x => exact alike
  | @ended batch x silent =>
    have same : y.carrier.isConnected = x.carrier.isConnected := by rw [alike.carrier]
    rw [dispatchSilent _ _ _ _ (same.trans silent)]
    exact alike
  | skipped connected read others ih =>
    rw [dispatchSkips _ .empty read]
    exact ih alike accepts finished
  | failed connected read concluded => cases finished
  | @answered entry rest m path x u _ _ connected read concluded others ih =>
    have same : y.carrier.isConnected = x.carrier.isConnected := by rw [alike.carrier]
    have session : y.carrier.session = x.carrier.session := by rw [alike.carrier]
    have peer : y.carrier.peer = x.carrier.peer := by rw [alike.carrier]
    have both := (concludeAlike h settings
      (answer h settings x.carrier.session x.carrier.peer m path x.server)
      (alikeCounted alike) accepts).1
    rw [concluded] at both
    rw [dispatchAccepted rest read accepts (same.trans connected), session, peer, alike.server]
    exact ih (both rfl) (concludeAccepted h settings (x := y.counted) accepts _).2 finished

/-- The answer to this entry, behind those that were `done` as far as `x`, cannot be written. -/
structure Stuck (h : Handlers σ) (settings : Settings) (batch : List Value) (x : Handling σ)
    (e : TransportError) (done : List Value) (entry : Value) (rest : List Value) (m : Message)
    (path : String) (y : Handling σ) : Prop where
  split : batch = done ++ entry :: rest
  read : messageOf? entry = some (m, path)
  reached : dispatch h settings done .empty x = (.ok (), y)
  connected : y.carrier.isConnected = true
  failed : (conclude h settings
    (answer h settings y.carrier.session y.carrier.peer m path y.server) y.counted).1 = .error e
  ends : dispatch h settings batch .empty x = conclude h settings
    (answer h settings y.carrier.session y.carrier.peer m path y.server) y.counted
  heard : handedOn h settings batch x = (done ++ [entry]).filterMap messageOf?

theorem dispatchStuck {batch : List Value} {e : TransportError}
    (failed : (dispatch h settings batch .empty x).1 = .error e) :
    ∃ done entry rest m path y, Stuck h settings batch x e done entry rest m path y := by
  have gone := dispatches h settings batch x
  rw [failed] at gone
  generalize ended : Except.error e = result at gone
  clear failed
  generalize (dispatch h settings batch .empty x).2 = z at gone
  induction gone with
  | done x => cases ended
  | ended silent => cases ended
  | @skipped first others x _ _ connected read _ ih =>
    obtain ⟨done, entry, rest, m, path, y, stuck⟩ := ih ended
    refine ⟨first :: done, entry, rest, m, path, y, by rw [stuck.split, List.cons_append],
      stuck.read, ?_, stuck.connected, stuck.failed, ?_, ?_⟩
    · rw [dispatchSkips done .empty read]
      exact stuck.reached
    · rw [dispatchSkips others .empty read]
      exact stuck.ends
    · rw [handedOnSkips others connected read, stuck.heard]
      simp [read]
  | @failed first others m path x y _ connected read concluded =>
    cases ended
    refine ⟨[], first, others, m, path, x, rfl, read, rfl, connected, by rw [concluded], ?_, ?_⟩
    · rw [dispatchAnswers others .empty read connected, concluded]
    · rw [handedOnAnswers others connected read, concluded]
      simp [read]
  | @answered first others m path x y _ _ connected read concluded _ ih =>
    obtain ⟨done, entry, rest, n, place, z, stuck⟩ := ih ended
    refine ⟨first :: done, entry, rest, n, place, z, by rw [stuck.split, List.cons_append],
      stuck.read, ?_, stuck.connected, stuck.failed, ?_, ?_⟩
    · rw [dispatchAnswers done .empty read connected, concluded]
      exact stuck.reached
    · rw [dispatchAnswers others .empty read connected, concluded]
      exact stuck.ends
    · rw [handedOnAnswers others connected read, concluded]
      simp [read, stuck.heard]

/-- The frame is heard up to this entry. Of what comes behind it nobody hears: only if that holds
no message, all messages of the frame were handed on. -/
structure CutShort (h : Handlers σ) (settings : Settings) (text : String) (w : WebSocket)
    (s : Server σ) (done : List Value) (entry : Value) (rest : List Value) : Prop where
  read : Frame.decodeBatch text.toUTF8 = .ok (done ++ entry :: rest)
  message : isMessage entry = true
  stays : (onText h settings text w s).2.1.isClosed = false
  survives : ∀ c : Connection, c.carrier = w → c.isOver = false →
    (c.onText h settings text s).1.isOver = false
  heard : handedOn h settings (done ++ entry :: rest) ⟨w.touch s, {}, s⟩ =
    (done ++ [entry]).filterMap messageOf?
  whole : handedOn h settings (done ++ entry :: rest) ⟨w.touch s, {}, s⟩ =
      (done ++ entry :: rest).filterMap messageOf? ↔ ∀ other ∈ rest, isMessage other = false
  server : (onText h settings text w s).2.2 =
    let t := (dispatch h settings (done ++ [entry]) .empty
      ⟨{ w.touch s with sink := .accepting }, {}, s⟩).2.server
    { t with clock := t.clock + settings.patience }

theorem closeNotLate (w : WebSocket) (code : Nat) (reason : String) :
    (closeSink w code reason).1 ≠ .error .timeout := by
  unfold closeSink
  generalize w.sink.close code reason = closed
  obtain ⟨fault?, sink⟩ := closed
  cases fault? <;> simp

theorem closeDisconnectedNotLate (x : Handling σ) : (closeDisconnected x).1 ≠ .error .timeout := by
  have late := closeNotLate x.carrier CloseCode.normal ""
  unfold closeDisconnected
  split
  · generalize closeSink x.carrier CloseCode.normal "" = closed at late
    obtain ⟨result, w⟩ := closed
    cases result with
    | ok done => simp
    | error e => simpa using late
  · simp

theorem onBatchLate {batch : List Value}
    (late : (onBatch h settings batch x).1 = .error .timeout) :
    (dispatch h settings batch .empty x).1 = .error .timeout := by
  have shut := closeDisconnectedNotLate (dispatch h settings batch .empty x).2
  unfold onBatch at late
  generalize dispatch h settings batch .empty x = dispatched at late shut
  obtain ⟨result, y⟩ := dispatched
  simp only at late shut
  generalize closeDisconnected y = closed at late shut
  obtain ⟨ended, z⟩ := closed
  cases ended with
  | error e =>
    simp only [Except.error.injEq] at late
    exact absurd (congrArg Except.error late) shut
  | ok done =>
    cases result with
    | ok written => cases late
    | error e => simpa using late

theorem onTextLate {text : String} {w : WebSocket} {s : Server σ}
    (late : (onText h settings text w s).1 = .error .timeout) :
    ∃ batch, w.isClosed = false ∧ w.isConnected = true ∧
      Frame.decodeBatch text.toUTF8 = .ok batch ∧
      onText h settings text w s = onBatch h settings batch ⟨w.touch s, {}, s⟩ ∧
      (dispatch h settings batch .empty ⟨w.touch s, {}, s⟩).1 = .error .timeout := by
  have made := taken h settings text w s
  generalize onText h settings text w s = ended at made late ⊢
  cases made with
  | unheard ended => cases late
  | large opened connected beyond =>
    have shut := closeNotLate (w.touch s) CloseCode.messageTooBig "Message too big"
    generalize closeSink (w.touch s) CloseCode.messageTooBig "Message too big" = closed
      at late shut
    obtain ⟨result, v⟩ := closed
    cases result with
    | ok done => cases late
    | error e => exact absurd (by simpa [Except.map] using late) shut
  | garbled opened connected within undecoded => cases late
  | @read batch opened connected within decoded =>
    exact ⟨batch, opened, connected, decoded, rfl, onBatchLate late⟩

theorem concludeRemains {answered : Routed × Server σ}
    (connected : (conclude h settings answered x).2.carrier.isConnected = true) :
    answered.1.disconnect? = none := by
  cases leaving : answered.1.disconnect? with
  | none => rfl
  | some channel => simp [conclude, leaving, disconnectAfter] at connected

theorem stuckServer {batch : List Value} {done : List Value} {entry : Value} {rest : List Value}
    {m : Message} {path : String}
    (stuck : Stuck h settings batch x .timeout done entry rest m path y)
    (connected : (dispatch h settings batch .empty x).2.carrier.isConnected = true) :
    (dispatch h settings batch .empty x).2.server =
      let t := (dispatch h settings (done ++ [entry]) .empty
        { x with carrier := { x.carrier with sink := .accepting } }).2.server
      { t with clock := t.clock + settings.patience } := by
  -- The same frame beside it on an accepting sink, as far as the entry: there it is answered.
  have accepts : Sink.accepting.Accepts := ⟨fun _ => rfl, fun _ => rfl⟩
  have alike : Alike x { x with carrier := { x.carrier with sink := .accepting } } :=
    ⟨rfl, rfl, rfl⟩
  obtain ⟨finished, ready, -⟩ := countsDispatch h settings
    (x := { x with carrier := { x.carrier with sink := .accepting } }) done accepts
  have after := dispatchAlike alike accepts stuck.reached
  generalize other : dispatch h settings done .empty
    { x with carrier := { x.carrier with sink := .accepting } } = dispatched
    at finished ready after
  obtain ⟨result, z⟩ := dispatched
  cases finished
  have alive : z.carrier.isConnected = true := by
    rw [after.carrier]
    exact stuck.connected
  have session : z.carrier.session = y.carrier.session := by rw [after.carrier]
  have peer : z.carrier.peer = y.carrier.peer := by rw [after.carrier]
  rw [stuck.ends] at connected ⊢
  rw [dispatchAppend [entry] other, dispatchAccepted [] stuck.read ready alive, session, peer,
    after.server]
  exact (concludeAlike h settings _ (alikeCounted after) ready).2 (concludeRemains connected)
    stuck.failed

theorem timeoutCutsShort {text : String} {w : WebSocket} {s : Server σ}
    (late : (onText h settings text w s).1 = .error .timeout)
    (connected : (onText h settings text w s).2.1.isConnected = true) :
    ∃ done entry rest, CutShort h settings text w s done entry rest := by
  obtain ⟨batch, opened, alive, read, heard, failed⟩ := onTextLate late
  obtain ⟨done, entry, rest, m, path, y, stuck⟩ := dispatchStuck failed
  have still := (dispatchOpen h settings batch ⟨w.touch s, {}, s⟩).trans opened
  have ends := (congrArg Prod.snd heard).trans (onBatchEnds h settings batch ⟨w.touch s, {}, s⟩)
  have remains : (dispatch h settings batch .empty ⟨w.touch s, {}, s⟩).2.carrier.isConnected =
      true := by
    cases ended : (dispatch h settings batch .empty ⟨w.touch s, {}, s⟩).2.carrier.isConnected with
    | true => rfl
    | false =>
      rw [ends, (closeParted ended still).1, closeSinkFrame, ended] at connected
      cases connected
  rw [closeConnected remains] at ends
  have others : (done ++ [entry]).filterMap messageOf? =
      (done ++ entry :: rest).filterMap messageOf? ↔ ∀ other ∈ rest, isMessage other = false := by
    simp [isMessageRead, stuck.read]
  refine ⟨done, entry, rest, stuck.split ▸ read, ?_, ?_, ?_, stuck.split ▸ stuck.heard, ?_, ?_⟩
  · simp [isMessageRead, stuck.read]
  · rw [ends]
    exact still
  · rintro c rfl running
    simp only [Connection.onText]
    generalize onText h settings text c.carrier s = handled at late
    obtain ⟨result, v, t⟩ := handled
    cases late
    exact running
  · rw [← stuck.split, stuck.heard, stuck.split]
    exact others
  · rw [ends]
    exact stuckServer stuck remains

theorem timeoutCutsShortHandshake :
    let h : Handlers Timesync.Samples :=
      ⟨Standard.process ⟨.current, .current, 0, 30000⟩, [Timesync.extension]⟩
    let settings : Settings := ⟨-1, some 10, 65536, [transport], 16⟩
    let opened := WebSocket.open settings .inProcess (Server.start [])
    let w := { opened.1 with sink := Sink.stalling }
    let text := "[\x7b\"channel\":\"/meta/unheard\"\x7d,\x7b\"channel\":\"/meta/handshake\"," ++
      "\"version\":\"1.0\",\"supportedConnectionTypes\":[\"websocket\"]\x7d]"
    (onText h settings text w opened.2).1 = .error .timeout ∧
      (onText h settings text w opened.2).2.1.isConnected = true ∧
      ∃ done entry rest, CutShort h settings text w opened.2 done entry rest := by
  intro h settings opened w text
  have ended : timedOut (onText h settings text w opened.2).1 = true ∧
      (onText h settings text w opened.2).2.1.isConnected = true := by
    decide +kernel
  have late := timedOutIff.mp ended.1
  exact ⟨late, ended.2, timeoutCutsShort late ended.2⟩

/-- On an accepting sink this handshake would have been heard. -/
theorem handshakeUnheard :
    let h : Handlers Timesync.Samples :=
      ⟨Standard.process ⟨.current, .current, 0, 30000⟩, [Timesync.extension]⟩
    let settings : Settings := ⟨-1, some 10, 65536, [transport], 16⟩
    let opened := WebSocket.open settings .inProcess (Server.start [])
    let w := { opened.1 with sink := Sink.stalling }
    let text := "[\x7b\"channel\":\"/meta/unheard\"\x7d,\x7b\"channel\":\"/meta/handshake\"," ++
      "\"version\":\"1.0\",\"supportedConnectionTypes\":[\"websocket\"]\x7d]"
    let batch := Value.ofItems [.object [("channel", .string "/meta/unheard")],
      .object [("channel", .string "/meta/handshake"), ("version", .string "1.0"),
        ("supportedConnectionTypes", .array [.string "websocket"])]]
    let ended := onText h settings text w opened.2
    Frame.decodeBatch text.toUTF8 = .ok batch ∧
      ended.1 = .error .timeout ∧ ended.2.1.isConnected = true ∧ ended.2.1.isClosed = false ∧
      batch.map isMessage = [true, true] ∧
      (handedOn h settings batch ⟨w.touch opened.2, {}, opened.2⟩).map Prod.snd =
        ["/meta/unheard"] ∧
      ended.2.2.stateOf w.session = .initialized ∧
      (onText h settings text opened.1 opened.2).2.2.stateOf w.session = .handshook := by
  intro h settings opened w text batch ended
  have read : Frame.decodeBatch text.toUTF8 = .ok batch :=
    Frame.decodeBatchItems (by decide +kernel) (by decide +kernel)
  have within : text.utf8ByteSize ≤ settings.maxTextSize := by decide +kernel
  have stalled : ended = onBatch h settings batch ⟨w.touch opened.2, {}, opened.2⟩ :=
    onTextRead rfl rfl within read
  have accepted : onText h settings text opened.1 opened.2 =
      onBatch h settings batch ⟨opened.1.touch opened.2, {}, opened.2⟩ :=
    onTextRead rfl rfl within read
  rw [stalled, accepted]
  exact ⟨read, timedOutIff.mp (by decide +kernel), by decide +kernel⟩

end WebSocket
end Bayeux
