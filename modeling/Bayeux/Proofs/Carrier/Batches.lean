import Bayeux.Proofs.Carrier.Accepting
import Bayeux.Proofs.Json.Equality
/-! A frame of many messages, and its entries in frames of their own. On a sink that takes all
that is written both say the same to the client and leave the same server behind, and what
they count adds up. -/

namespace Bayeux

namespace WebSocket
variable {σ : Type} {h : Handlers σ} {settings : Settings} {x y z : Handling σ}
  {v w : WebSocket} {s t : Server σ}

namespace Outcome

def plus (a b : Outcome) : Outcome :=
  ⟨a.messagesIn + b.messagesIn, a.messagesOut + b.messagesOut, a.bytesOut + b.bytesOut,
    a.closed || b.closed⟩

def total (outcomes : List Outcome) : Outcome := outcomes.foldr plus {}

theorem plusNothing (a : Outcome) : a.plus {} = a := by
  simp [plus]

theorem nothingPlus (a : Outcome) : plus {} a = a := by
  simp [plus]

theorem plusAssoc (a b c : Outcome) : (a.plus b).plus c = a.plus (b.plus c) := by
  simp [plus, Nat.add_assoc, Bool.or_assoc]

theorem plusSilent (a : Outcome) (closed : a.closed = true) (count : Nat) :
    a.plus (total (List.replicate count { closed := true })) = a := by
  induction count with
  | zero => exact plusNothing a
  | succ count ih =>
    have once : a.plus { closed := true } = a := by
      obtain ⟨messagesIn, messagesOut, bytesOut, shut⟩ := a
      simp only at closed
      simp [plus, closed]
    rw [List.replicate_succ, total, List.foldr_cons, ← total, ← plusAssoc, once, ih]

end Outcome

/-- The same, told later and on top of what was counted before. -/
def Handling.shift (lastInbound : Nat) (before : Outcome) (x : Handling σ) : Handling σ :=
  ⟨{ x.carrier with lastInbound }, before.plus x.outcome, x.server⟩

theorem writeShift (h : Handlers σ) (settings : Settings) (packets : List Packet)
    (lastInbound : Nat) (before : Outcome) (x : Handling σ) :
    write h settings packets (x.shift lastInbound before) = ((write h settings packets x).1,
      (write h settings packets x).2.shift lastInbound before) := by
  simp only [write, Handling.shift]
  generalize Outbound.ofPackets? h.extensions x.carrier.session packets x.server = made
  obtain ⟨outbound?, s⟩ := made
  cases outbound? with
  | none => rfl
  | some outbound =>
    simp only [writeText]
    generalize x.carrier.sink.text outbound.text = written
    obtain ⟨result, sink⟩ := written
    cases result with
    | written => simp [Outcome.plus, Nat.add_assoc]
    | failed reason => rfl
    | stalled => rfl

theorem countedShift (lastInbound : Nat) (before : Outcome) (x : Handling σ) :
    (x.shift lastInbound before).counted = x.counted.shift lastInbound before := by
  simp [Handling.shift, Handling.counted, Outcome.plus, Nat.add_assoc]

theorem concludeShift (h : Handlers σ) (settings : Settings) (answered : Routed × Server σ)
    (lastInbound : Nat) (before : Outcome) (x : Handling σ) :
    conclude h settings answered (x.shift lastInbound before) =
      ((conclude h settings answered x).1,
        (conclude h settings answered x).2.shift lastInbound before) := by
  have written := writeShift h settings answered.1.packets lastInbound before
    { x with server := answered.2 }
  simp only [conclude]
  rw [show ({ x.shift lastInbound before with server := answered.2 } : Handling σ) =
    ({ x with server := answered.2 } : Handling σ).shift lastInbound before from rfl, written]
  cases answered.1.disconnect? <;> rfl

theorem closeShift (lastInbound : Nat) (before : Outcome) (x : Handling σ) :
    closeDisconnected (x.shift lastInbound before) =
      ((closeDisconnected x).1, (closeDisconnected x).2.shift lastInbound before) := by
  cases alive : !x.carrier.isConnected && !x.carrier.isClosed with
  | false => simp [closeDisconnected, Handling.shift, alive]
  | true =>
    simp only [closeDisconnected, closeSink, Handling.shift, alive, if_true]
    generalize x.carrier.sink.close CloseCode.normal "" = closed
    obtain ⟨fault?, sink⟩ := closed
    cases fault? with
    | none => simp [Outcome.plus]
    | some fault => rfl

def onTexts (h : Handlers σ) (settings : Settings) :
    List String → WebSocket → Server σ → List (Except TransportError Outcome) × WebSocket × Server σ
  | [], w, s => ([], w, s)
  | text :: rest, w, s =>
    let (result, w, s) := onText h settings text w s
    let (results, w, s) := onTexts h settings rest w s
    (result :: results, w, s)

structure Alone (settings : Settings) (text : String) (entry : Value) : Prop where
  within : text.utf8ByteSize ≤ settings.maxTextSize
  read : Frame.decodeBatch text.toUTF8 = .ok [entry]

theorem onTextClosed (text : String) (s : Server σ) (closed : w.isClosed = true) :
    onText h settings text w s = (.ok { closed := true }, w.touch s, s) := by
  have ended : (w.touch s).isClosed = true := closed
  simp [onText, ended]

theorem onTextsEnded (h : Handlers σ) (settings : Settings) (texts : List String)
    (closed : w.isClosed = true) :
    ∃ lastInbound, onTexts h settings texts w s =
      (List.replicate texts.length (.ok { closed := true }), { w with lastInbound }, s) := by
  induction texts generalizing w with
  | nil => exact ⟨w.lastInbound, rfl⟩
  | cons text rest ih =>
    obtain ⟨lastInbound, later⟩ := ih (w := w.touch s) closed
    refine ⟨lastInbound, ?_⟩
    simp only [onTexts, onTextClosed text s closed, later, List.length_cons, List.replicate_succ]
    rfl

/-- Before the frame is closed. -/
def alone (h : Handlers σ) (settings : Settings) (m : Message) (path : String) (w : WebSocket)
    (s : Server σ) : Handling σ :=
  (conclude h settings (answer h settings w.session w.peer m path s)
    (Handling.counted ⟨w.touch s, {}, s⟩)).2

theorem onTextAlone {text : String} {entry : Value} {m : Message} {path : String}
    (frame : Alone settings text entry) (read : messageOf? entry = some (m, path))
    (accepts : w.sink.Accepts) (opened : w.isClosed = false) (connected : w.isConnected = true) :
    onText h settings text w s =
      let y := alone h settings m path w s
      if y.carrier.isConnected then (.ok y.outcome, y.carrier, y.server)
      else (.ok { y.outcome with closed := true },
        (closeSink y.carrier CloseCode.normal "").2, y.server) := by
  have heard : dispatch h settings [entry] .empty ⟨w.touch s, {}, s⟩ =
      (.ok (), alone h settings m path w s) := dispatchAccepted [] read accepts connected
  have accepted : (alone h settings m path w s).carrier.sink.Accepts :=
    (concludeAccepted h settings (x := Handling.counted ⟨w.touch s, {}, s⟩) accepts _).2
  have still : (alone h settings m path w s).carrier.isClosed = false :=
    (concludeClosed h settings _ (Handling.counted ⟨w.touch s, {}, s⟩)).trans opened
  rw [onTextRead opened connected frame.within frame.read, onBatch, heard]
  generalize alone h settings m path w s = y at accepted still
  simp only
  cases ended : y.carrier.isConnected with
  | true => simp [closeConnected ended]
  | false => simp [closeAccepted accepted ended still]

/- In the frame of its own the entry is answered like here; the shift makes up for what the
carrier has counted, and for when it was last spoken to. -/
theorem dispatchOneByOne {texts : List String} {batch : List Value}
    (frames : List.Forall₂ (Alone settings) texts batch) (lastInbound : Nat) (before : Outcome)
    (accepts : w.sink.Accepts) (opened : w.isClosed = false) (connected : w.isConnected = true) :
    ∃ outcomes, (onTexts h settings texts w s).1 = outcomes.map .ok ∧
      (dispatch h settings batch .empty (Handling.shift lastInbound before ⟨w, {}, s⟩)).1 = .ok () ∧
      closeDisconnected
          (dispatch h settings batch .empty (Handling.shift lastInbound before ⟨w, {}, s⟩)).2 =
        (.ok (), Handling.shift lastInbound before ⟨(onTexts h settings texts w s).2.1,
          .total outcomes, (onTexts h settings texts w s).2.2⟩) := by
  induction frames generalizing w s before with
  | nil => exact ⟨[], rfl, rfl, closeConnected connected⟩
  | @cons text entry texts batch frame frames ih =>
    simp only [onTexts]
    cases read : messageOf? entry with
    | none =>
      have heard : onText h settings text w s = (.ok {}, w.touch s, s) := by
        rw [onTextRead opened connected frame.within frame.read, onBatch,
          dispatchSkips [] .empty read, dispatch]
        simp only [closeConnected (x := ⟨w.touch s, {}, s⟩) connected]
      obtain ⟨outcomes, results, done, same⟩ :=
        ih (w := w.touch s) (s := s) before accepts opened connected
      rw [heard, dispatchSkips batch .empty read]
      refine ⟨{} :: outcomes, by simp [results], done, ?_⟩
      rw [Outcome.total, List.foldr_cons, Outcome.nothingPlus, ← Outcome.total]
      exact same
    | some asked =>
      obtain ⟨m, path⟩ := asked
      have heard := onTextAlone (h := h) (s := s) frame read accepts opened connected
      have begun : dispatch h settings (entry :: batch) .empty
          (Handling.shift lastInbound before ⟨w, {}, s⟩) = dispatch h settings batch .empty
            ((alone h settings m path w s).shift lastInbound before) := by
        have shifted := concludeShift h settings
          (answer h settings w.session w.peer m path s) lastInbound before
          (Handling.counted ⟨w.touch s, {}, s⟩)
        rw [← countedShift] at shifted
        rw [dispatchAccepted batch read accepts connected]
        exact congrArg (fun done => dispatch h settings batch .empty done.2) shifted
      have accepted : (alone h settings m path w s).carrier.sink.Accepts :=
        (concludeAccepted h settings (x := Handling.counted ⟨w.touch s, {}, s⟩) accepts _).2
      have still : (alone h settings m path w s).carrier.isClosed = false :=
        (concludeClosed h settings _ (Handling.counted ⟨w.touch s, {}, s⟩)).trans opened
      rw [heard, begun]
      generalize alone h settings m path w s = y at accepted still
      simp only
      cases ended : y.carrier.isConnected with
      | true =>
        obtain ⟨outcomes, results, done, same⟩ :=
          ih (w := y.carrier) (s := y.server) (before.plus y.outcome) accepted still ended
        have again : y.shift lastInbound before =
            Handling.shift lastInbound (before.plus y.outcome) ⟨y.carrier, {}, y.server⟩ := by
          simp [Handling.shift, Outcome.plusNothing]
        refine ⟨y.outcome :: outcomes, by simp [results], again ▸ done, ?_⟩
        rw [again, same]
        simp [Handling.shift, Outcome.total, Outcome.plusAssoc]
      | false =>
        -- A goodbye: the one frame passes over the entries that are left, and the frames of
        -- their own find a closed carrier.
        have shut : (closeSink y.carrier CloseCode.normal "").2.isClosed = true := by
          rw [closeSinkFrame]
        obtain ⟨lastClosed, silent⟩ := onTextsEnded h settings (s := y.server) texts shut
        have quiet := dispatchSilent h settings batch .empty (x := y.shift lastInbound before) ended
        refine ⟨{ y.outcome with closed := true } ::
          List.replicate texts.length { closed := true }, by simp [silent], by rw [quiet], ?_⟩
        rw [quiet, closeShift, closeAccepted accepted ended still, Outcome.total, List.foldr_cons,
          ← Outcome.total, Outcome.plusSilent _ rfl]
        simp [Handling.shift, silent]

/-- A text of many entries next to texts of one entry each. Both end well, and what they count,
write and leave behind is the same; messages are all that matters among the entries, a refused
one holds up none of those behind it, and what is no batch changes nothing. -/
structure OneByOne (h : Handlers σ) (settings : Settings) (text : String) (texts : List String)
    (batch : List Value) (w : WebSocket) (s : Server σ) (o : Outcome) (outcomes : List Outcome) :
    Prop where
  whole : (onText h settings text w s).1 = .ok o
  parts : (onTexts h settings texts w s).1 = outcomes.map .ok
  adds : o = .total outcomes
  carrier : (onText h settings text w s).2.1 =
    { (onTexts h settings texts w s).2.1 with lastInbound := (w.touch s).lastInbound }
  server : (onText h settings text w s).2.2 = (onTexts h settings texts w s).2.2
  written : ∃ written : List (List Message), (∀ messages ∈ written, messages ≠ []) ∧
    (onText h settings text w s).2.1.sink.offered = w.sink.offered ++
      (written.map fun messages => .text (Packet.messagesText messages)) ++
      (if o.closed then [.close CloseCode.normal ""] else []) ∧
    o.messagesOut = written.flatten.length ∧ o.bytesOut = Outbound.bytes written
  closes : o.closed = (farewellIn? h settings text w s).isSome ∧
    (onText h settings text w s).2.1.isClosed = o.closed ∧
    (onText h settings text w s).2.1.isConnected = !o.closed
  messages : ∀ other entries, other.utf8ByteSize ≤ settings.maxTextSize →
    Frame.decodeBatch other.toUTF8 = .ok entries →
    entries.filter isMessage = batch.filter isMessage →
    onText h settings other w s = onText h settings text w s
  refused : ∀ done entry rest m path, batch = done ++ entry :: rest →
    messageOf? entry = some (m, path) →
    let x := (dispatch h settings done .empty ⟨w.touch s, {}, s⟩).2
    let answered := answer h settings x.carrier.session x.carrier.peer m path x.server
    let y := (conclude h settings answered x.counted).2
    x.carrier.isConnected = true →
    Refused h settings x.carrier.session x.carrier.peer m path x.server →
    y.carrier.isConnected = true ∧
      onText h settings text w s = onBatch h settings rest y
  garbled : ∀ other fault, other.utf8ByteSize ≤ settings.maxTextSize →
    Frame.decodeBatch other.toUTF8 = .error fault →
    onText h settings other w s = (.ok {}, w.touch s, s)

theorem entriesOneByOne (h : Handlers σ) {text : String} {texts : List String}
    {batch : List Value} (s : Server σ) (opened : w.isClosed = false)
    (connected : w.isConnected = true) (accepts : w.sink.Accepts)
    (within : text.utf8ByteSize ≤ settings.maxTextSize)
    (read : Frame.decodeBatch text.toUTF8 = .ok batch)
    (frames : List.Forall₂ (Alone settings) texts batch) :
    ∃ o outcomes, OneByOne h settings text texts batch w s o outcomes := by
  obtain ⟨outcomes, results, -, same⟩ := dispatchOneByOne (h := h) (s := s) frames
    (w.touch s).lastInbound {} accepts opened connected
  have begun : Handling.shift (w.touch s).lastInbound {} ⟨w, {}, s⟩ = ⟨w.touch s, {}, s⟩ := rfl
  rw [begun] at same
  have heard := (onTextRead (h := h) (s := s) opened connected within read).trans
    (onBatchAccepted (x := ⟨w.touch s, {}, s⟩) h settings batch accepts opened)
  obtain ⟨-, accepted, written, counts⟩ := countsDispatch h settings
    (x := ⟨w.touch s, {}, s⟩) batch accepts
  have leaves := dispatchConnected (x := ⟨w.touch s, {}, s⟩) h settings batch connected
  have still := (dispatchOpen h settings batch ⟨w.touch s, {}, s⟩).trans opened
  obtain ⟨counted, shut, remains, offered⟩ := closeWritten accepted still counts.closed
  have parting : farewellIn? h settings text w s =
      farewell? h settings batch .empty ⟨w.touch s, {}, s⟩ := by
    simp only [farewellIn?, opened, connected, Nat.not_lt.mpr within, read]
    rfl
  refine ⟨_, outcomes, ⟨congrArg Prod.fst heard, results, ?adds, ?carrier, ?server, ?written,
    ?closes, ?messages, ?refused, ?garbled⟩⟩
  case adds => rw [same]; exact Outcome.nothingPlus _
  case carrier => rw [heard, same]; rfl
  case server => rw [heard, same]; rfl
  case written =>
    refine ⟨written, counts.spoken, ?_, ?_, ?_⟩
    · rw [heard]
      exact offered.trans (by rw [counts.offered]; rfl)
    · rw [counted]
      exact counts.messages.trans (Nat.zero_add _)
    · rw [counted]
      exact counts.bytes.trans (Nat.zero_add _)
  case closes =>
    refine ⟨?_, by rw [heard]; exact shut, by rw [heard]; exact remains⟩
    rw [counted, parting]
    simp [leaves]
  case messages =>
    intro other entries small decoded alike
    rw [onTextRead opened connected small decoded, onTextRead opened connected within read]
    simp only [onBatch, ← dispatchMessages h settings entries, alike,
      dispatchMessages h settings batch]
  case refused =>
    rintro done entry rest m path rfl asked x answered y alive refused
    obtain ⟨finished, ready, -⟩ := countsDispatch h settings
      (x := ⟨w.touch s, {}, s⟩) done accepts
    have reached : dispatch h settings done .empty ⟨w.touch s, {}, s⟩ = (.ok (), x) :=
      Prod.ext finished rfl
    have handled : dispatch h settings (done ++ entry :: rest) .empty ⟨w.touch s, {}, s⟩ =
        dispatch h settings rest .empty y :=
      (dispatchAppend (entry :: rest) reached).trans (dispatchAccepted rest asked ready alive)
    refine ⟨(concludeStays x.counted (refusedStays refused)).trans alive, ?_⟩
    rw [onTextRead opened connected within read]
    simp only [onBatch, handled]
  case garbled =>
    intro other fault small undecoded
    have alive : ((w.touch s).isClosed || !(w.touch s).isConnected) = false := by
      simp [touch, opened, connected]
    simp only [onText, alive, Bool.false_eq_true, if_false, if_neg (Nat.not_lt.mpr small),
      undecoded]

theorem entriesOneByOneParting :
    let h : Handlers Timesync.Samples :=
      ⟨Standard.process ⟨.current, .current, 0, 30000⟩, [Timesync.extension]⟩
    let settings : Settings := ⟨-1, none, 65536, [transport], 16⟩
    let opened := WebSocket.open settings .inProcess (Server.start [])
    let asking := fun path : String => Json.object [("channel", .string path)]
    let texts := ["[7]", "[\x7b\"channel\":\"nowhere\"\x7d]",
      "[\x7b\"channel\":\"/meta/disconnect\"\x7d]", "[\x7b\"channel\":\"/a\"\x7d]"]
    let text := "[7,\x7b\"channel\":\"nowhere\"\x7d," ++
      "\x7b\"channel\":\"/meta/disconnect\"\x7d,\x7b\"channel\":\"/a\"\x7d]"
    let batch := Value.ofItems
      [.number (.integer 7), asking "nowhere", asking "/meta/disconnect", asking "/a"]
    opened.1.isClosed = false ∧ opened.1.isConnected = true ∧ opened.1.sink.Accepts ∧
      text.utf8ByteSize ≤ settings.maxTextSize ∧ Frame.decodeBatch text.toUTF8 = .ok batch ∧
      List.Forall₂ (Alone settings) texts batch ∧
      (onTexts h settings texts opened.1 opened.2).1.map (fun result =>
        result.toOption.map fun o => (o.messagesIn, o.messagesOut, o.closed)) =
          [some (0, 0, false), some (1, 1, false), some (1, 1, true), some (0, 0, true)] ∧
      ∃ o outcomes, OneByOne h settings text texts batch opened.1 opened.2 o outcomes := by
  intro h settings opened asking texts text batch
  have accepts : opened.1.sink.Accepts := ⟨fun _ => rfl, fun _ => rfl⟩
  have read : Frame.decodeBatch text.toUTF8 = .ok batch :=
    Frame.decodeBatchItems (by decide +kernel) (by decide +kernel)
  have frame : ∀ (text : String) (entry : Json), text.utf8ByteSize ≤ 65536 →
      Json.readText text = .ok (.array [entry]) → Alone settings text (.ofJson entry) :=
    fun _ _ within read => ⟨within, Frame.decodeBatchItems (within.trans (by decide)) read⟩
  have frames : List.Forall₂ (Alone settings) texts batch :=
    .cons (frame _ _ (by decide +kernel) (by decide +kernel))
      (.cons (frame _ _ (by decide +kernel) (by decide +kernel))
        (.cons (frame _ _ (by decide +kernel) (by decide +kernel))
          (.cons (frame _ _ (by decide +kernel) (by decide +kernel)) .nil)))
  exact ⟨rfl, rfl, accepts, by decide +kernel, read, frames, by decide +kernel,
    entriesOneByOne h opened.2 rfl rfl accepts (by decide +kernel) read frames⟩

end WebSocket
end Bayeux
