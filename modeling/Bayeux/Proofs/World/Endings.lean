import Bayeux.Proofs.Carrier.Timeouts
import Bayeux.Proofs.World.Enrolment
/-! What a closed channel means for its connection. A text that closes the channel ends the
connection and takes its session off the roll, unless the reply to a goodbye took too long to
write: then the channel is closed and the connection goes on until the next text. -/

namespace Bayeux

namespace WebSocket
variable {σ : Type} {h : Handlers σ} {settings : Settings} {x : Handling σ}

/-- A goodbye whose reply takes too long to write, before the sink is closed without a fault. -/
def LateGoodbye (h : Handlers σ) (settings : Settings) (text : String) (w : WebSocket)
    (s : Server σ) : Prop :=
  ∃ f, farewellIn? h settings text w s = some f ∧
    (write h settings f.packets f.state).1 = .error .timeout ∧
    (closeSink (f.parted h settings).carrier CloseCode.normal "").1 = .ok ()

theorem timelyWithout {text : String} {w : WebSocket} {s : Server σ}
    (silent : farewellIn? h settings text w s = none) : ¬LateGoodbye h settings text w s := by
  rintro ⟨f, found, -⟩
  rw [silent] at found
  cases found

theorem farewellWritten {batch : List Value} {f : Farewell σ}
    (parting : farewell? h settings batch .empty x = some f) :
    dispatch h settings batch .empty x =
      ((write h settings f.packets f.state).1, f.parted h settings) := by
  obtain ⟨done, rest, entry, m, path, y, rfl, read, reached, connected, found⟩ :=
    farewellSplit parting
  rw [farewellAnswer] at found
  obtain ⟨channel, leaving, rfl⟩ := Option.map_eq_some_iff.mp found
  rw [dispatchAppend (entry :: rest) reached, dispatchAnswers rest .empty read connected]
  simp only [conclude, leaving, Farewell.parted]
  cases (write h settings _ _).1 with
  | error e => rfl
  | ok written => exact dispatchSilent h settings rest .empty rfl

inductive TextTells (h : Handlers σ) (settings : Settings) (text : String) (w : WebSocket)
    (s : Server σ) : Except TransportError Outcome → WebSocket → Prop where
  | fine {o : Outcome} {v : WebSocket} (closed : v.isClosed = true → o.closed = true)
      (timely : ¬LateGoodbye h settings text w s) : TextTells h settings text w s (.ok o) v
  | late {v : WebSocket} (closed : v.isClosed = true ↔ LateGoodbye h settings text w s) :
      TextTells h settings text w s (.error .timeout) v
  | failed {e : TransportError} {v : WebSocket} (other : e ≠ .timeout)
      (timely : ¬LateGoodbye h settings text w s) : TextTells h settings text w s (.error e) v

theorem closeFault {w v : WebSocket} {code : Nat} {reason : String} {e : TransportError}
    (failed : closeSink w code reason = (.error e, v)) : e ≠ .timeout := by
  have late := closeNotLate w code reason
  rw [failed] at late
  exact fun same => late (congrArg Except.error same)

theorem onBatchTells {text : String} {batch : List Value} {w : WebSocket} {s : Server σ}
    (opened : w.isClosed = false) (connected : w.isConnected = true)
    (within : text.utf8ByteSize ≤ settings.maxTextSize)
    (read : Frame.decodeBatch text.toUTF8 = .ok batch) :
    TextTells h settings text w s (onBatch h settings batch ⟨w.touch s, {}, s⟩).1
      (onBatch h settings batch ⟨w.touch s, {}, s⟩).2.1 := by
  have parting : farewellIn? h settings text w s =
      farewell? h settings batch .empty ⟨w.touch s, {}, s⟩ := by
    simp only [farewellIn?, opened, connected, Nat.not_lt.mpr within, read]
    rfl
  have still := (dispatchOpen h settings batch ⟨w.touch s, {}, s⟩).trans opened
  have remains := dispatchConnected (x := ⟨w.touch s, {}, s⟩) h settings batch connected
  rw [← parting] at remains
  cases farewell : farewellIn? h settings text w s with
  | none =>
    have timely := timelyWithout farewell
    rw [farewell] at remains
    unfold onBatch
    generalize dispatch h settings batch .empty ⟨w.touch s, {}, s⟩ = dispatched at remains still
    obtain ⟨result, z⟩ := dispatched
    simp only at remains still
    simp only [closeConnected (x := z) remains]
    cases result with
    | ok done => exact .fine (fun closed => by rw [still] at closed; cases closed) timely
    | error e =>
      by_cases late : e = .timeout
      · subst late
        exact .late (by simp [still, timely])
      · exact .failed late timely
  | some f =>
    have written := farewellWritten (parting.symm.trans farewell)
    rw [written] at still remains
    have only : LateGoodbye h settings text w s →
        (write h settings f.packets f.state).1 = .error .timeout ∧
          (closeSink (f.parted h settings).carrier CloseCode.normal "").1 = .ok () := by
      rintro ⟨g, found, late, shut⟩
      cases farewell.symm.trans found
      exact ⟨late, shut⟩
    have alive : (!(f.parted h settings).carrier.isConnected &&
        !(f.parted h settings).carrier.isClosed) = true := by
      rw [remains, still, farewell]
      rfl
    have shuts := closeSinkFrame (f.parted h settings).carrier CloseCode.normal ""
    simp only [onBatch, written, closeDisconnected, alive, if_true]
    cases closed : closeSink (f.parted h settings).carrier CloseCode.normal "" with
    | mk result v =>
      rw [closed] at only shuts
      cases result with
      | error e =>
        refine .failed (closeFault closed) fun late => ?_
        cases (only late).2
      | ok done =>
        cases answered : (write h settings f.packets f.state).1 with
        | ok sent =>
          rw [answered] at only
          exact .fine (fun _ => rfl) fun late => by cases (only late).1
        | error e =>
          rw [answered] at only
          by_cases late : e = .timeout
          · subst late
            refine .late (iff_of_true (by rw [shuts]) ⟨f, farewell, answered, ?_⟩)
            rw [closed]
          · exact .failed late fun goodbye => late (by simpa using (only goodbye).1)

theorem onTextTells (h : Handlers σ) (settings : Settings) (text : String) {w : WebSocket}
    (s : Server σ) (opened : w.isClosed = false) :
    TextTells h settings text w s (onText h settings text w s).1
      (onText h settings text w s).2.1 := by
  have made := taken h settings text w s
  generalize onText h settings text w s = ended at made ⊢
  cases made with
  | unheard finished =>
    have silent : w.isConnected = false := finished.resolve_left (by simp [opened])
    exact .fine (fun _ => rfl) (timelyWithout (by simp [farewellIn?, silent]))
  | large _ connected beyond =>
    have timely : ¬LateGoodbye h settings text w s :=
      timelyWithout (by simp [farewellIn?, beyond])
    cases shut : closeSink (w.touch s) CloseCode.messageTooBig "Message too big" with
    | mk result v =>
      cases result with
      | ok done => exact .fine (fun _ => rfl) timely
      | error e => exact .failed (closeFault shut) timely
  | garbled _ connected within undecoded =>
    have timely : ¬LateGoodbye h settings text w s :=
      timelyWithout (by simp only [farewellIn?, undecoded, ite_self])
    exact .fine (fun closed => by cases opened.symm.trans closed) timely
  | read _ connected within decoded => exact onBatchTells opened connected within decoded

end WebSocket

namespace Connection
variable {σ : Type} {c : Connection}

/- Of a connection that is not over, only a late goodbye closes the channel. -/
theorem closedRunning (h : Handlers σ) (settings : WebSocket.Settings) (content : String)
    (s : Server σ) (going : c.isOver = false) (opened : c.carrier.isClosed = false) :
    ((c.onText h settings content s).1.carrier.isClosed = true ∧
      (c.onText h settings content s).1.isOver = false ↔
        WebSocket.LateGoodbye h settings content c.carrier s) ∧
    ((c.onText h settings content s).1.isOver = true →
      (c.onText h settings content s).1.carrier.isClosed = true) := by
  have tells := WebSocket.onTextTells h settings content s opened
  unfold onText
  generalize c.carrier.onText h settings content s = handled at tells
  obtain ⟨result, v, t⟩ := handled
  simp only at tells ⊢
  cases tells with
  | @fine o _ closed timely =>
    cases shut : o.closed with
    | true => simp [finish, WebSocket.onClose, timely, shut]
    | false =>
      have still : v.isClosed = false := by
        cases ended : v.isClosed with
        | false => rfl
        | true => exact absurd (closed ended) (by simp [shut])
      simp [timely, still, going, shut]
  | late closed => simp [closed, going]
  | @failed e _ other timely =>
    cases e with
    | timeout => exact absurd rfl other
    | _ => simp [finish, WebSocket.onClose, timely]

theorem closedEnds (h : Handlers σ) (settings : WebSocket.Settings) (content : String)
    (s : Server σ) (closed : c.carrier.isClosed = true) :
    (c.onText h settings content s).1.isOver = true := by
  simp [onText, WebSocket.onTextClosed content s closed, finish]

end Connection

namespace Company
variable {σ : Type} {setup : Setup σ}

/-- What a text does to a connection whose channel was open: it is left with a closed channel
just if it said goodbye too late, and the next text ends it then. Whoever is over is closed, is
off the roll, and reacts to nothing. -/
structure Ending (setup : Setup σ) (company : Company σ) (content : String) (member : Nat)
    (c d : Connection) (later : Company σ) : Prop where
  lingers : d.carrier.isClosed = true ∧ d.isOver = false ↔
    c.carrier.LateGoodbye setup.handlers setup.webSocket content company.server
  registered : d.carrier.session ∈ later.server.registry.sessions ↔ d.isOver = false
  closed : d.isOver = true → d.carrier.isClosed = true
  silent : d.isOver = true → ∀ signal, later.step setup (.signal member signal) = later
  next : d.carrier.isClosed = true → d.isOver = false → ∀ other, ∃ e,
    (later.step setup (.signal member (.text other))).members[member]? = some (.connection e) ∧
      e.isOver = true

theorem closedChannelEnds (discreet : Discreet setup.handlers.process)
    (unenrolling : Unenrolling setup.handlers.process) (memory : σ) (occasions : List Occasion)
    {member : Nat} {c : Connection}
    (here : (run setup (start memory) occasions).members[member]? = some (.connection c))
    (going : c.isOver = false) (opened : c.carrier.isClosed = false) (content : String) :
    ∃ d, ((run setup (start memory) occasions).step setup
        (.signal member (.text content))).members[member]? = some (.connection d) ∧
      Ending setup (run setup (start memory) occasions) content member c d
        ((run setup (start memory) occasions).step setup (.signal member (.text content))) := by
  have kept := keptRun discreet (keptStart memory) occasions
  have enlisted := enlistedRun discreet unenrolling (keptStart memory) (enlistedStart memory)
    occasions
  generalize run setup (start memory) occasions = company at here kept enlisted ⊢
  obtain ⟨inside, -⟩ := List.getElem?_eq_some_iff.mp here
  have after := enlistedStep discreet unenrolling kept enlisted (.signal member (.text content))
  have stepped : company.step setup (.signal member (.text content)) =
      ⟨(c.onText setup.handlers setup.webSocket content company.server).2,
        company.members.set member
          (.connection (c.onText setup.handlers setup.webSocket content company.server).1)⟩ := by
    simp only [step, onConnection, here, Connection.step, going, Bool.false_eq_true, if_false]
  obtain ⟨lingers, closed⟩ := Connection.closedRunning setup.handlers setup.webSocket content
    company.server going opened
  rw [stepped] at after ⊢
  generalize c.onText setup.handlers setup.webSocket content company.server = ended
    at after lingers closed ⊢
  obtain ⟨d, t⟩ := ended
  have there : (company.members.set member (.connection d))[member]? = some (.connection d) :=
    List.getElem?_set_self inside
  refine ⟨d, there, lingers, after.listed member (.connection d) there, closed, ?_, ?_⟩
  · intro finished signal
    simp only [step, onConnection, there, Connection.stepOver _ _ _ _ finished, List.set_set]
  · intro shut running other
    refine ⟨(d.onText setup.handlers setup.webSocket other t).1, ?_,
      Connection.closedEnds _ _ other t shut⟩
    simp only [step, onConnection, there, Connection.step, running, Bool.false_eq_true, if_false]
    exact List.getElem?_set_self (by simpa using inside)

theorem closedChannelEndsStalled :
    let setup : Setup Timesync.Samples :=
      ⟨⟨Standard.process ⟨.current, .current, 0, 30000⟩, [Timesync.extension]⟩,
        ⟨-1, some 10, 65536, [WebSocket.transport], 16⟩, ⟨60000, 1000, 1000, 16⟩⟩
    let occasions : List Occasion :=
      [.openConnection .inProcess .stalling, .openConnection .inProcess .accepting]
    let fresh : Server Timesync.Samples := .start []
    let c := (Connection.openOn setup.webSocket .inProcess .stalling fresh).1
    let goodbye := "\x7b\"channel\":\"/meta/disconnect\"\x7d"
    Discreet setup.handlers.process ∧ Unenrolling setup.handlers.process ∧
      (run setup (start []) occasions).members[0]? = some (.connection c) ∧
      c.isOver = false ∧ c.carrier.isClosed = false ∧
      ∃ d, ((run setup (start []) occasions).step setup
          (.signal 0 (.text goodbye))).members[0]? = some (.connection d) ∧
        Ending setup (run setup (start []) occasions) goodbye 0 c d
          ((run setup (start []) occasions).step setup (.signal 0 (.text goodbye))) := by
  intro setup occasions fresh c goodbye
  have discreet : Discreet setup.handlers.process := Standard.discreet _
  have unenrolling : Unenrolling setup.handlers.process := Standard.unenrolling _
  have here : (run setup (start []) occasions).members[0]? = some (.connection c) := rfl
  exact ⟨discreet, unenrolling, here, rfl, rfl,
    closedChannelEnds discreet unenrolling [] occasions here rfl rfl goodbye⟩

def status : Member → Bool × Bool
  | .connection c => (c.carrier.isClosed, c.isOver)
  | .inProcess p => (p.isClosed, p.isClosed)

/-- The goodbye closes the channel, and only the next text ends the connection. -/
theorem closedChannelLingers :
    let setup : Setup Timesync.Samples :=
      ⟨⟨Standard.process ⟨.current, .current, 0, 30000⟩, [Timesync.extension]⟩,
        ⟨-1, some 10, 65536, [WebSocket.transport], 16⟩, ⟨60000, 1000, 1000, 16⟩⟩
    let goodbye := "\x7b\"channel\":\"/meta/disconnect\"\x7d"
    let said := run setup (start []) [.openConnection .inProcess .stalling,
      .signal 0 (.text goodbye)]
    let later := said.run setup [.signal 0 .ping, .signal 0 (.text "")]
    said.members.map status = [(true, false)] ∧
      said.server.registry.sessions = [Server.sessionId 0] ∧
      later.members.map status = [(true, true)] ∧ later.server.registry.sessions = [] := by
  decide +kernel

end Company
end Bayeux
