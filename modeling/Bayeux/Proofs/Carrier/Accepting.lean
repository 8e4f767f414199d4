import Bayeux.Proofs.Carrier.Answers
import Bayeux.Proofs.Extension.Outgoing
/-! A sink that takes all that is written. Nothing fails on it, all entries of a frame are come to
until one of them disconnects, and what is counted is what was written. -/

namespace Bayeux

structure Sink.Accepts (sink : Sink) : Prop where
  text : ∀ calls, sink.onText calls = .written
  close : ∀ calls, sink.onClose calls = none

/-- One text for each list. -/
def Outbound.bytes : List (List Message) → Nat
  | [] => 0
  | messages :: rest => (Packet.messagesText messages).utf8ByteSize + bytes rest

theorem Outbound.bytesAppend (early late : List (List Message)) :
    bytes (early ++ late) = bytes early + bytes late := by
  induction early with
  | nil => simp [bytes]
  | cons messages rest ih => simp [bytes, ih, Nat.add_assoc]

namespace WebSocket
variable {σ : Type} {h : Handlers σ} {settings : Settings} {x y z : Handling σ}

theorem writeAccepted (h : Handlers σ) (settings : Settings) (accepts : x.carrier.sink.Accepts)
    (packets : List Packet) :
    (write h settings packets x).1 = .ok () ∧
      (write h settings packets x).2.carrier.sink.Accepts := by
  unfold write
  generalize Outbound.ofPackets? h.extensions x.carrier.session packets x.server = made
  obtain ⟨outbound?, s⟩ := made
  cases outbound? with
  | none => exact ⟨rfl, accepts⟩
  | some outbound =>
    simp only [writeText, Sink.text, accepts.text]
    exact ⟨trivial, accepts.text, accepts.close⟩

theorem concludeAccepted (h : Handlers σ) (settings : Settings)
    (accepts : x.carrier.sink.Accepts) (answered : Routed × Server σ) :
    (conclude h settings answered x).1 = .ok () ∧
      (conclude h settings answered x).2.carrier.sink.Accepts := by
  have written := writeAccepted h settings (x := { x with server := answered.2 }) accepts
    answered.1.packets
  refine ⟨written.1, ?_⟩
  cases leaving : answered.1.disconnect? <;>
    simpa [conclude, leaving, disconnectAfter] using written.2

theorem closeAccepted (accepts : x.carrier.sink.Accepts)
    (ended : x.carrier.isConnected = false) (opened : x.carrier.isClosed = false) :
    closeDisconnected x = (.ok (), { x with
      carrier := (closeSink x.carrier CloseCode.normal "").2
      outcome := { x.outcome with closed := true } }) := by
  simp [closeDisconnected, closeSink, Sink.close, accepts.close, ended, opened]

theorem dispatchAccepted {entry : Value} {m : Message} {path : String} (rest : List Value)
    (read : messageOf? entry = some (m, path)) (accepts : x.carrier.sink.Accepts)
    (connected : x.carrier.isConnected = true) :
    dispatch h settings (entry :: rest) .empty x = dispatch h settings rest .empty
      (conclude h settings (answer h settings x.carrier.session x.carrier.peer m path x.server)
        x.counted).2 := by
  have accepted := concludeAccepted h settings (x := x.counted) accepts
    (answer h settings x.carrier.session x.carrier.peer m path x.server)
  rw [dispatchAnswers rest .empty read connected]
  generalize conclude h settings _ x.counted = concluded at accepted
  obtain ⟨result, y⟩ := concluded
  cases accepted.1
  rfl

structure Counts (x y : Handling σ) (written : List (List Message)) : Prop where
  offered : y.carrier.sink.offered =
    x.carrier.sink.offered ++ written.map fun messages => .text (Packet.messagesText messages)
  messages : y.outcome.messagesOut = x.outcome.messagesOut + written.flatten.length
  bytes : y.outcome.bytesOut = x.outcome.bytesOut + Outbound.bytes written
  spoken : ∀ messages ∈ written, messages ≠ []
  closed : y.outcome.closed = x.outcome.closed

theorem countsRefl (x : Handling σ) : Counts x x [] :=
  ⟨by simp, rfl, rfl, by simp, rfl⟩

theorem countsTrans {early late : List (List Message)} (first : Counts x y early)
    (second : Counts y z late) : Counts x z (early ++ late) where
  offered := by rw [second.offered, first.offered, List.map_append, List.append_assoc]
  messages := by
    rw [second.messages, first.messages, List.flatten_append, List.length_append, Nat.add_assoc]
  bytes := by rw [second.bytes, first.bytes, Outbound.bytesAppend, Nat.add_assoc]
  spoken messages inside :=
    (List.mem_append.mp inside).elim (first.spoken messages) (second.spoken messages)
  closed := second.closed.trans first.closed

theorem countsWrite (h : Handlers σ) (settings : Settings) (accepts : x.carrier.sink.Accepts)
    (packets : List Packet) :
    ∃ written, Counts x (write h settings packets x).2 written := by
  obtain ⟨out, -, made⟩ :=
    Outbound.goesOut h.extensions x.carrier.session packets x.server
  unfold write
  generalize Outbound.ofPackets? h.extensions x.carrier.session packets x.server = ready at made
  obtain ⟨outbound?, s⟩ := ready
  simp only at made
  subst made
  cases out with
  | nil => exact ⟨[], { countsRefl x with }⟩
  | cons m rest =>
    refine ⟨[m :: rest], ?_⟩
    simp only [Outbound.ofMessages?, List.isEmpty_cons, Bool.false_eq_true, if_false, writeText,
      Sink.text, accepts.text]
    exact ⟨by simp [Sink.offered], by simp, by simp [Outbound.bytes], by simp, rfl⟩

theorem countsConclude (h : Handlers σ) (settings : Settings) (accepts : x.carrier.sink.Accepts)
    (answered : Routed × Server σ) :
    ∃ written, Counts x (conclude h settings answered x).2 written := by
  obtain ⟨written, counts⟩ := countsWrite h settings (x := { x with server := answered.2 }) accepts
    answered.1.packets
  refine ⟨written, ?_⟩
  cases leaving : answered.1.disconnect? <;>
    simpa [conclude, leaving, disconnectAfter] using { counts with }

theorem countsDispatch (h : Handlers σ) (settings : Settings) (batch : List Value)
    (accepts : x.carrier.sink.Accepts) :
    (dispatch h settings batch .empty x).1 = .ok () ∧
      (dispatch h settings batch .empty x).2.carrier.sink.Accepts ∧
      ∃ written, Counts x (dispatch h settings batch .empty x).2 written := by
  have gone := dispatches h settings batch x
  generalize dispatch h settings batch .empty x = dispatched at gone ⊢
  obtain ⟨result, y⟩ := dispatched
  simp only at gone ⊢
  induction gone with
  | done x => exact ⟨rfl, accepts, [], countsRefl x⟩
  | ended silent => exact ⟨rfl, accepts, [], countsRefl _⟩
  | skipped connected read others ih => exact ih accepts
  | @failed _ _ m path x _ _ connected read concluded =>
    have accepted := (concludeAccepted h settings (x := x.counted) accepts
      (answer h settings x.carrier.session x.carrier.peer m path x.server)).1
    rw [concluded] at accepted
    cases accepted
  | @answered _ _ m path x _ _ _ connected read concluded others ih =>
    have accepted := (concludeAccepted h settings (x := x.counted) accepts
      (answer h settings x.carrier.session x.carrier.peer m path x.server)).2
    obtain ⟨early, first⟩ := countsConclude h settings (x := x.counted) accepts
      (answer h settings x.carrier.session x.carrier.peer m path x.server)
    rw [concluded] at accepted first
    obtain ⟨done, ready, late, second⟩ := ih accepted
    exact ⟨done, ready, early ++ late, countsTrans { first with } second⟩

theorem onBatchAccepted (h : Handlers σ) (settings : Settings) (batch : List Value)
    (accepts : x.carrier.sink.Accepts) (opened : x.carrier.isClosed = false) :
    onBatch h settings batch x =
      let y := (closeDisconnected (dispatch h settings batch .empty x).2).2
      (.ok y.outcome, y.carrier, y.server) := by
  obtain ⟨done, accepted, -⟩ := countsDispatch h settings batch accepts
  have still := (dispatchOpen h settings batch x).trans opened
  unfold onBatch
  generalize dispatch h settings batch .empty x = dispatched at done accepted still
  obtain ⟨result, y⟩ := dispatched
  cases done
  simp only
  cases ended : y.carrier.isConnected with
  | true => simp only [closeConnected ended]
  | false => simp only [closeAccepted accepted ended still]

theorem closeWritten (accepts : x.carrier.sink.Accepts) (opened : x.carrier.isClosed = false)
    (fresh : x.outcome.closed = false) :
    let y := (closeDisconnected x).2
    y.outcome = { x.outcome with closed := !x.carrier.isConnected } ∧
      y.carrier.isClosed = y.outcome.closed ∧ y.carrier.isConnected = (!y.outcome.closed) ∧
      y.carrier.sink.offered = x.carrier.sink.offered ++
        (if y.outcome.closed then [.close CloseCode.normal ""] else []) := by
  cases ended : x.carrier.isConnected with
  | true =>
    obtain ⟨w, ⟨messagesIn, messagesOut, bytesOut, closed⟩, s⟩ := x
    simp only at ended opened fresh
    simp [closeConnected, ended, opened, fresh]
  | false =>
    have offered := x.carrier.sink.offeredClose CloseCode.normal ""
    simp [closeAccepted accepts ended opened, closeSinkFrame, ended, offered]

end WebSocket
end Bayeux
