import Bayeux.Proofs.Carrier.Samples
/-! Handshakes and connects in a frame. Each of them gets no reply or one, which takes along the
sample of its session if that has its id. So what waits behind a frame has waited before it or
came with a request of the frame that went without a reply. -/

namespace Bayeux.WebSocket
variable {σ : Type} {samples : σ → Timesync.Samples} {h : Handlers σ} {settings : Settings}
  {processing : Standard.Settings} {x y start : Handling σ} {m : Message} {path : String}

/-- The messages that are written in answer to one that came in. -/
def replies (h : Handlers σ) (settings : Settings) (m : Message) (path : String)
    (x : Handling σ) : List Message :=
  let answered := answer h settings x.carrier.session x.carrier.peer m path x.server
  (Extension.outgoingPackets h.extensions x.carrier.session answered.1.packets
    answered.2).1.flatMap Packet.messages

/-- Of the batch this message has its turn, those before it having been handled as far as `x`. -/
structure Comes (h : Handlers σ) (settings : Settings) (batch : List Value) (start : Handling σ)
    (done : List Value) (x : Handling σ) (m : Message) (path : String) : Prop where
  batch : ∃ entry rest, batch = done ++ entry :: rest ∧ messageOf? entry = some (m, path)
  reached : dispatch h settings done .empty start = (.ok (), x)
  alive : x.carrier.isConnected = true

/-- A request of the batch brings this sample and goes without a reply. -/
def Unanswered (h : Handlers σ) (settings : Settings) (batch : List Value) (start : Handling σ)
    (sample : Timesync.Sample) : Prop :=
  ∃ done x m path, Comes h settings batch start done x m path ∧ Timesync.isTimed m = true ∧
    Timesync.sample? (Timesync.reading x.server.clock) m = some sample ∧
    replies h settings m path x = []

theorem readNamed {entry : Value} (read : messageOf? entry = some (m, path)) :
    m.channel? = some path := by
  cases entry with
  | object fields =>
    obtain ⟨_, named, same⟩ := Option.map_eq_some_iff.mp read
    cases same
    exact named
  | null | bool | number | string | array => cases read

/-- What becomes of a handshake or a connect, and what waits behind it. -/
inductive TimedTurn (now : Int) (path : String) (m : Message)
    (waiting? : Option Timesync.Sample) : List Message → Option Timesync.Sample → Prop where
  | silent : TimedTurn now path m waiting? [] (Timesync.noted now m waiting?)
  | answered {reply : Message} (repeats : Reply.Repeats path m reply) :
      TimedTurn now path m waiting?
        [Timesync.stamped now reply (Timesync.noted now m waiting?)]
        (Timesync.left reply (Timesync.noted now m waiting?))

theorem concludeMemory {answered : Routed × Server σ} (x : Handling σ)
    (stays : answered.1.disconnect? = none) :
    (conclude h settings answered x).2.server.memory =
      (Extension.outgoingPackets h.extensions x.carrier.session answered.1.packets
        answered.2).2.memory := by
  obtain ⟨sink, waited, -, server⟩ := writeFrame h settings answered.1.packets
    { x with server := answered.2 }
  simp only [conclude, stays, disconnectAfter, server]
  rfl

theorem timedTurn (process : h.process = Standard.process processing)
    (synced : Extension.Synced samples h.extensions) (settings : Settings)
    (timed : Timesync.isTimed m = true) (named : m.channel? = some path)
    (distinct : (samples x.server.memory).Distinct) :
    TimedTurn (Timesync.reading x.server.clock) path m
      ((samples x.server.memory).get? x.carrier.session) (replies h settings m path x)
      ((samples (conclude h settings (answer h settings x.carrier.session x.carrier.peer m path
        x.server) x.counted).2.server.memory).get? x.carrier.session) := by
  have heard := answerHeard process synced timed named settings x.carrier.session x.carrier.peer
    x.server
  unfold replies
  generalize answer h settings x.carrier.session x.carrier.peer m path x.server = answered
    at heard ⊢
  obtain ⟨routed, s⟩ := answered
  obtain ⟨once, clock, still, waits⟩ := heard
  simp only at once clock still waits
  cases once with
  | unread =>
    rw [concludeMemory _ rfl]
    exact waits ▸ .silent
  | @replied reply repeats =>
    obtain ⟨notices, passed⟩ :=
      Extension.outgoingSingle synced.plain x.carrier.session .response reply s
    obtain ⟨stamped, left⟩ :=
      Extension.letOutStamped synced s.clock x.carrier.session reply (still distinct)
    rw [concludeMemory _ rfl]
    simp only [Handling.counted, passed]
    rw [left, waits]
    simp only [List.flatMap_singleton, Packet.single]
    rw [stamped, waits, clock]
    exact .answered repeats

theorem turnRecalls {now : Int} {waiting? after? : Option Timesync.Sample}
    {written : List Message} {sample : Timesync.Sample} (named : m.channel? = some path)
    (turn : TimedTurn now path m waiting? written after?) (waits : after? = some sample) :
    waiting? = some sample ∨ Timesync.sample? now m = some sample ∧ written = [] := by
  cases turn with
  | silent => exact (Timesync.notedCases waits).imp_right fun asked => ⟨asked.2, rfl⟩
  | @answered reply repeats =>
    -- The reply has the id of the request and takes along what that has brought in.
    have same : Timesync.left reply (Timesync.noted now m waiting?) =
        Timesync.left m (Timesync.noted now m waiting?) := by
      simp only [Timesync.left, Timesync.owedRepeats named repeats]
    exact .inl (Timesync.leftNoted (same.symm.trans waits))

theorem turnAnswered {now : Int} {waiting? after? : Option Timesync.Sample}
    {written : List Message} (turn : TimedTurn now path m waiting? written after?)
    (answered : written ≠ []) : ∃ reply, Reply.Repeats path m reply ∧
      written = [Timesync.stamped now reply (Timesync.noted now m waiting?)] := by
  cases turn with
  | silent => exact absurd rfl answered
  | answered repeats => exact ⟨_, repeats, rfl⟩

theorem recallsConcludes (each : ∀ e ∈ h.extensions, e.Fits samples) (settings : Settings)
    {fresh : String → Timesync.Sample → Prop} {answered : Routed × Server σ}
    (arrived : x.server.Recalls samples fresh answered.2) :
    x.server.Recalls samples fresh (conclude h settings answered x).2.server := by
  have written : answered.2.Recalls samples fresh _ :=
    recallsWrite each settings answered.1.packets { x with server := answered.2 }
  refine Server.recallsTrans arrived (Server.recallsTrans written ?_)
  unfold conclude
  cases answered.1.disconnect? with
  | none => exact Server.recallsRefl _
  | some channel => exact Server.recallsSame (Server.sameTimesEnded _ _ false (some channel)).1

/- One message, whatever it is, and all sessions. -/
theorem recallsMessage (process : h.process = Standard.process processing)
    (synced : Extension.Synced samples h.extensions) (settings : Settings)
    (named : m.channel? = some path) (x : Handling σ) : x.server.Recalls samples
      (fun id sample => id = x.carrier.session ∧ Timesync.isTimed m = true ∧
        Timesync.sample? (Timesync.reading x.server.clock) m = some sample ∧
        replies h settings m path x = [])
      (conclude h settings (answer h settings x.carrier.session x.carrier.peer m path x.server)
        x.counted).2.server := by
  have arrived := recallsAnswer process synced settings x.carrier.session x.carrier.peer m path
    x.server
  have passed := recallsConcludes (x := x.counted)
    (fun e inside => Extension.plainFits (synced.plain e inside)) settings arrived
  refine ⟨passed.distinct, fun distinct id sample waits => ?_⟩
  rcases passed.known distinct id sample waits with old | ⟨rfl, timed, sampled⟩
  · exact .inl old
  · have turn := timedTurn (x := x) process synced settings timed named distinct
    exact (turnRecalls named turn waits).imp_right fun ⟨_, silent⟩ =>
      ⟨rfl, timed, sampled, silent⟩

theorem dispatchSession (h : Handlers σ) (settings : Settings) (batch : List Value)
    (x : Handling σ) :
    (dispatch h settings batch .empty x).2.carrier.session = x.carrier.session :=
  (servesDispatch h settings batch x).session

/- From any point of a batch on. -/
theorem recallsRest (process : h.process = Standard.process processing)
    (synced : Extension.Synced samples h.extensions) (done rest : List Value)
    (reached : dispatch h settings done .empty start = (.ok (), x)) :
    x.server.Recalls samples
      (fun id sample => id = start.carrier.session ∧
        Unanswered h settings (done ++ rest) start sample)
      (dispatch h settings rest .empty x).2.server := by
  induction rest generalizing done x with
  | nil => exact Server.recallsRefl _
  | cons entry rest ih =>
    have session := dispatchSession h settings done start
    rw [reached] at session
    cases alive : x.carrier.isConnected with
    | false =>
      rw [dispatchSilent _ _ _ _ alive]
      exact Server.recallsRefl _
    | true =>
      cases read : messageOf? entry with
      | none =>
        have next : dispatch h settings (done ++ [entry]) .empty start = (.ok (), x) := by
          rw [dispatchAppend [entry] reached, dispatchSkips [] .empty read]
          rfl
        rw [dispatchSkips rest .empty read, List.append_cons]
        exact ih _ next
      | some asked =>
        obtain ⟨m, path⟩ := asked
        have comes : Comes h settings (done ++ entry :: rest) start done x m path :=
          ⟨⟨entry, rest, rfl, read⟩, reached, alive⟩
        have first := recallsMessage process synced settings (readNamed read) x
        have turned : x.server.Recalls samples (fun id sample => id = start.carrier.session ∧
            Unanswered h settings (done ++ entry :: rest) start sample) _ :=
          Timesync.recallsMore (fun id sample ⟨own, unanswered⟩ =>
            ⟨own.trans session, done, x, m, path, comes, unanswered⟩) first
        rw [dispatchAnswers rest .empty read alive]
        cases concluded : conclude h settings
            (answer h settings x.carrier.session x.carrier.peer m path x.server) x.counted with
        | mk result y =>
          rw [concluded] at turned
          cases result with
          | error e => exact turned
          | ok written =>
            have next : dispatch h settings (done ++ [entry]) .empty start = (.ok (), y) := by
              rw [dispatchAppend [entry] reached, dispatchAnswers [] .empty read alive, concluded]
              rfl
            have others := ih _ next
            rw [← List.append_cons] at others
            exact Server.recallsTrans turned others

theorem recallsDispatch (process : h.process = Standard.process processing)
    (synced : Extension.Synced samples h.extensions) (settings : Settings) (batch : List Value)
    (start : Handling σ) : start.server.Recalls samples
      (fun id sample => id = start.carrier.session ∧ Unanswered h settings batch start sample)
      (dispatch h settings batch .empty start).2.server :=
  recallsRest process synced [] batch rfl

/- On a sink that takes all that is written. -/

theorem writeClock (plain : ∀ e ∈ h.extensions, e.Plain samples) (settings : Settings)
    (accepts : x.carrier.sink.Accepts) (packets : List Packet) :
    (write h settings packets x).2.server.clock = x.server.clock := by
  obtain ⟨out, goes, -⟩ := Outbound.goesOut h.extensions x.carrier.session packets x.server
  have clock := Extension.clockGoesOut plain goes
  unfold write
  generalize Outbound.ofPackets? h.extensions x.carrier.session packets x.server = made at clock
  obtain ⟨outbound?, s⟩ := made
  cases outbound? with
  | none => exact clock
  | some outbound =>
    simp only [writeText, Sink.text, accepts.text]
    exact clock

theorem concludeClock (process : h.process = Standard.process processing)
    (plain : ∀ e ∈ h.extensions, e.Plain samples) (settings : Settings)
    (accepts : x.carrier.sink.Accepts) (m : Message) (path : String) :
    (conclude h settings (answer h settings x.carrier.session x.carrier.peer m path x.server)
      x.counted).2.server.clock = x.server.clock := by
  have answered := answerClock process plain settings x.carrier.session x.carrier.peer m path
    x.server
  generalize answer h settings x.carrier.session x.carrier.peer m path x.server = a at answered
  have written := writeClock (x := { x.counted with server := a.2 }) plain settings accepts
    a.1.packets
  unfold conclude
  cases a.1.disconnect? with
  | none => exact written.trans answered
  | some channel =>
    exact (Server.sameTimesEnded _ _ false (some channel)).2.trans (written.trans answered)

theorem dispatchClock (process : h.process = Standard.process processing)
    (plain : ∀ e ∈ h.extensions, e.Plain samples) (settings : Settings) (batch : List Value)
    (accepts : x.carrier.sink.Accepts) :
    (dispatch h settings batch .empty x).2.server.clock = x.server.clock := by
  have gone := dispatches h settings batch x
  generalize dispatch h settings batch .empty x = dispatched at gone ⊢
  obtain ⟨result, y⟩ := dispatched
  simp only at gone ⊢
  induction gone with
  | done x => rfl
  | ended silent => rfl
  | skipped connected read others ih => exact ih accepts
  | @failed _ _ m path x _ _ connected read concluded =>
    have clock := concludeClock process plain settings accepts m path
    rwa [concluded] at clock
  | @answered _ _ m path x _ _ _ connected read concluded others ih =>
    have clock := concludeClock process plain settings accepts m path
    have accepted := (concludeAccepted h settings (x := x.counted) accepts
      (answer h settings x.carrier.session x.carrier.peer m path x.server)).2
    rw [concluded] at clock accepted
    exact (ih accepted).trans clock

theorem textsOut (extensions : List (Extension σ)) (id : String) (packets : List Packet)
    (s : Server σ) : ((Outbound.ofPackets? extensions id packets s).1.toList.map
      fun outbound => SinkFrame.text outbound.text) = (Outbound.texts
        ((Extension.outgoingPackets extensions id packets s).1.flatMap Packet.messages)).map
          .text := by
  simp only [Outbound.texts, Outbound.ofPackets?, Packet.textOfMessages, Outbound.ofMessages?,
    List.isEmpty_iff]
  split <;> rfl

theorem offeredReplies (m : Message) (path : String) (x : Handling σ) :
    (conclude h settings (answer h settings x.carrier.session x.carrier.peer m path x.server)
      x.counted).2.carrier.sink.offered = x.carrier.sink.offered ++
        (Outbound.texts (replies h settings m path x)).map .text := by
  unfold replies conclude
  generalize answer h settings x.carrier.session x.carrier.peer m path x.server = a
  simp only [offeredDisconnect, ← textsOut]
  exact offeredWrite a.1.packets { x.counted with server := a.2 }

/- What is written in answer stands in front of all that the frame writes later. -/
theorem comesOffered {batch done : List Value} (comes : Comes h settings batch start done x m path)
    (accepts : x.carrier.sink.Accepts) : ∃ later,
      (dispatch h settings batch .empty start).2.carrier.sink.offered = x.carrier.sink.offered ++
        (Outbound.texts (replies h settings m path x)).map .text ++ later := by
  obtain ⟨⟨entry, rest, rfl, read⟩, reached, alive⟩ := comes
  have accepted := (concludeAccepted h settings (x := x.counted) accepts
    (answer h settings x.carrier.session x.carrier.peer m path x.server)).2
  obtain ⟨-, -, written, counts⟩ := countsDispatch h settings rest accepted
  rw [dispatchAppend (entry :: rest) reached, dispatchAccepted rest read accepts alive,
    counts.offered, offeredReplies]
  exact ⟨_, rfl⟩

theorem comesAt (accepts : start.carrier.sink.Accepts) {batch : List Value} (n : Nat)
    (read : batch[n]?.bind messageOf? = some (m, path))
    (alive : (dispatch h settings (batch.take n) .empty start).2.carrier.isConnected = true) :
    Comes h settings batch start (batch.take n)
      (dispatch h settings (batch.take n) .empty start).2 m path := by
  obtain ⟨entry, found, message⟩ := Option.bind_eq_some_iff.mp read
  obtain ⟨inside, rfl⟩ := List.getElem?_eq_some_iff.mp found
  have split : batch = batch.take n ++ batch[n] :: batch.drop (n + 1) := by
    rw [List.getElem_cons_drop, List.take_append_drop]
  exact ⟨⟨_, _, split, message⟩,
    Prod.ext (countsDispatch h settings (batch.take n) accepts).1 rfl, alive⟩

/-- A handshake or a connect of a batch that is answered. -/
structure TimedReply (samples : σ → Timesync.Samples) (h : Handlers σ) (settings : Settings)
    (batch : List Value) (start : Handling σ) (done : List Value) (x : Handling σ) (m : Message)
    (path : String) (reply : Message) : Prop where
  single : replies h settings m path x = [reply]
  offered : ∃ later, (dispatch h settings batch .empty start).2.carrier.sink.offered =
    x.carrier.sink.offered ++ .text (Packet.messagesText [reply]) :: later
  /-- No time has passed since the batch came in. -/
  received : x.server.clock = start.server.clock
  answers : Timesync.Answers (Timesync.reading start.server.clock) m
    ((samples x.server.memory).get? start.carrier.session) reply
  left : ∀ waiting, (samples x.server.memory).get? start.carrier.session = some waiting →
    (samples start.server.memory).get? start.carrier.session = some waiting ∨
      Unanswered h settings done start waiting

theorem timedReply (process : h.process = Standard.process processing)
    (synced : Extension.Synced samples h.extensions)
    (distinct : (samples start.server.memory).Distinct) (accepts : start.carrier.sink.Accepts)
    {batch done : List Value} (comes : Comes h settings batch start done x m path)
    (timed : Timesync.isTimed m = true) (answered : replies h settings m path x ≠ []) :
    ∃ reply, TimedReply samples h settings batch start done x m path reply := by
  obtain ⟨entry, rest, -, read⟩ := comes.batch
  have clock := dispatchClock process synced.plain settings done accepts
  have session := dispatchSession h settings done start
  have recalls := recallsDispatch process synced settings done start
  obtain ⟨-, accepted, -⟩ := countsDispatch h settings done accepts
  rw [comes.reached] at clock session recalls accepted
  have named := readNamed read
  have turn := timedTurn process synced settings timed named (recalls.distinct distinct)
  obtain ⟨reply, repeats, single⟩ := turnAnswered turn answered
  obtain ⟨later, offered⟩ := comesOffered comes accepted
  refine ⟨_, single, ⟨later, ?_⟩, clock, ?_, fun waiting waits => ?_⟩
  · rw [offered, single]
    simp [Outbound.texts, Outbound.ofMessages?]
  · rw [← session, ← clock]
    exact Timesync.answersStamped timed named repeats
  · exact (recalls.known distinct _ waiting waits).imp_right And.right

/-- A request of the text brings this sample and goes without a reply. -/
def LeavesOpen (h : Handlers σ) (settings : Settings) (text : String) (w : WebSocket)
    (s : Server σ) (sample : Timesync.Sample) : Prop :=
  Unanswered h settings (entriesOf settings text w) ⟨w.touch s, {}, s⟩ sample

theorem entriesDecoded {text : String} {w : WebSocket} {batch : List Value}
    (opened : w.isClosed = false) (connected : w.isConnected = true)
    (within : text.utf8ByteSize ≤ settings.maxTextSize)
    (decoded : Frame.decodeBatch text.toUTF8 = .ok batch) :
    entriesOf settings text w = batch := by
  have alive : (w.isClosed || !w.isConnected ||
      decide (settings.maxTextSize < text.utf8ByteSize)) = false := by
    simp [opened, connected, within]
  simp only [entriesOf, alive, Bool.false_eq_true, if_false, decoded]

theorem onTextDispatch (h : Handlers σ) (settings : Settings) (text : String) (w : WebSocket)
    (s : Server σ) :
    let dispatched := (dispatch h settings (entriesOf settings text w) .empty
      ⟨w.touch s, {}, s⟩).2
    (onText h settings text w s).2.2 = dispatched.server ∧ ∃ later,
      (onText h settings text w s).2.1.sink.offered =
        dispatched.carrier.sink.offered ++ later := by
  have made := taken h settings text w s
  generalize heard : onText h settings text w s = ended at made
  cases made with
  | unheard finished =>
    have unread : entriesOf settings text w = [] := by
      rcases finished with closed | silent <;> simp [entriesOf, *]
    rw [unread]
    exact ⟨rfl, [], (List.append_nil _).symm⟩
  | large opened connected beyond =>
    have unread : entriesOf settings text w = [] := by simp [entriesOf, beyond]
    rw [unread]
    exact ⟨rfl, _, offeredCloseSink _ _ _⟩
  | garbled opened connected within undecoded =>
    have unread : entriesOf settings text w = [] := by
      simp only [entriesOf, undecoded, ite_self]
    rw [unread]
    exact ⟨rfl, [], (List.append_nil _).symm⟩
  | @read batch opened connected within decoded =>
    have ends := onBatchEnds h settings batch ⟨w.touch s, {}, s⟩
    obtain ⟨server, close?, offered⟩ :=
      offeredCloseDisconnected (dispatch h settings batch .empty ⟨w.touch s, {}, s⟩).2
    rw [entriesDecoded opened connected within decoded, ends]
    exact ⟨server, _, offered⟩

theorem recallsOnText (process : h.process = Standard.process processing)
    (synced : Extension.Synced samples h.extensions) (settings : Settings) (text : String)
    (w : WebSocket) (s : Server σ) : s.Recalls samples
      (fun id sample => id = w.session ∧ LeavesOpen h settings text w s sample)
      (onText h settings text w s).2.2 := by
  rw [(onTextDispatch h settings text w s).1]
  exact recallsDispatch process synced settings (entriesOf settings text w) ⟨w.touch s, {}, s⟩

end Bayeux.WebSocket
