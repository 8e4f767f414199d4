import Bayeux.Carrier.InProcess
import Bayeux.Proofs.Carrier.WebSocket
/-! What a carrier in the same process does to the server. All it does leaves the server orderly;
an injected message may close the carrier at the very end, and closing takes away all that
was kept for the session. -/

namespace Bayeux

namespace InProcess
variable {σ : Type} {samples : σ → Timesync.Samples} {h : Handlers σ} {p q r : InProcess}
  {s t u : Server σ}

/-- The carrier stays as open as it was. -/
structure Stays (samples : σ → Timesync.Samples) (p : InProcess) (s : Server σ) (q : InProcess)
    (t : Server σ) : Prop where
  session : q.session = p.session
  closed : q.isClosed = p.isClosed
  connected : p.isConnected = false → q.isConnected = false
  leaves : p.session ∈ s.registry.sessions ∨ p.isConnected = false → s.Leaves samples t

theorem staysRefl (p : InProcess) (s : Server σ) : Stays samples p s p s :=
  ⟨rfl, rfl, id, fun _ => Server.leavesRefl s⟩

theorem staysTrans (first : Stays samples p s q t) (second : Stays samples q t r u) :
    Stays samples p s r u where
  session := second.session.trans first.session
  closed := second.closed.trans first.closed
  connected before := second.connected (first.connected before)
  leaves before orderly := by
    obtain ⟨between, fixed⟩ := first.leaves before orderly
    have middle : q.session ∈ t.registry.sessions ∨ q.isConnected = false := by
      rcases before with registered | silent
      · rw [first.session, fixed.sessions]
        exact .inl registered
      · exact .inr (first.connected silent)
    obtain ⟨after, more⟩ := second.leaves middle between
    exact ⟨after, Server.fixedTrans fixed more⟩

theorem staysServer (p : InProcess) (leaves : s.Leaves samples t) : Stays samples p s p t :=
  ⟨rfl, rfl, id, fun _ => leaves⟩

theorem staysKeeps (connected : p.isConnected = true) (keeps : s.Keeps samples p.session t) :
    Stays samples p s p t := by
  refine ⟨rfl, rfl, id, fun before => ?_⟩
  rcases before with registered | silent
  · exact keeps registered
  · rw [connected] at silent
    cases silent

theorem staysSend (proper : h.Proper samples) (packets : List Packet) (p : InProcess)
    (s : Server σ) : Stays samples p s (send h packets p s).2.1 (send h packets p s).2.2 := by
  have encoded := Outbound.leaves proper.timed.each p.session packets s
  unfold send
  split
  · exact staysRefl p s
  · simp only
    split
    · exact staysServer p encoded
    · exact ⟨rfl, rfl, id, fun _ => encoded⟩

theorem staysSendEach (proper : h.Proper samples) (packets : List Packet) (p : InProcess)
    (s : Server σ) : Stays samples p s (sendEach h packets p s).1 (sendEach h packets p s).2 := by
  induction packets generalizing p s with
  | nil => exact staysRefl p s
  | cons packet rest ih => exact staysTrans (staysSend proper [packet] p s) (ih _ _)

theorem staysPump (proper : h.Proper samples) (settings : Settings) (p : InProcess)
    (s : Server σ) : Stays samples p s (pump h settings p s).1 (pump h settings p s).2 := by
  unfold pump
  split
  · exact staysRefl p s
  · have taken : Stays samples p s p (s.takeDeliveries p.session).2 :=
      staysServer p (Server.leavesTakeDeliveries s p.session)
    have sent := staysTrans taken
      (staysSendEach proper (s.takeDeliveries p.session).1 p (s.takeDeliveries p.session).2)
    simp only
    split
    · split
      · exact staysTrans sent ⟨rfl, rfl, id, fun _ => Server.leavesRefl _⟩
      · exact staysTrans sent ⟨rfl, rfl, id, fun _ => Server.leavesCloseDeliveries _ _⟩
    · exact sent

theorem closeAgain (h : Handlers σ) (s : Server σ) (closed : p.isClosed = true) :
    close h p s = (p, s) := by
  simp [close, closed]

theorem closeFlags (h : Handlers σ) (s : Server σ) (opened : p.isClosed = false) :
    (close h p s).1 = { p with isClosed := true, isConnected := false } := by
  simp [close, opened]

theorem closeWithout (proper : h.Proper samples) (opened : p.isClosed = false)
    (orderly : s.Orderly samples) :
    (close h p s).2.Orderly samples ∧ s.Without p.session (close h p s).2 := by
  obtain ⟨dismissed, registry, inProcess, sessions⟩ :=
    Extension.dismissed proper.timed p.session orderly
  generalize gone : Extension.forgetPass h.extensions p.session (s.removeSession p.session) = t
    at dismissed registry inProcess sessions
  have untracked : { t with inProcess := t.inProcess.erase p.session }.Orderly samples :=
    { dismissed with tracked := dismissed.tracked.erase _ }
  have without : s.Without p.session { t with inProcess := t.inProcess.erase p.session } := by
    refine ⟨fun other => ?_, fun other => ?_, congrArg Table.keys sessions⟩
    · rw [registry]
      exact orderly.indexed.sessions.mem_erase_iff.trans and_comm
    · rw [inProcess]
      exact orderly.tracked.mem_erase_iff.trans and_comm
  have ended := Server.withoutEnd p.isConnected untracked without
  simpa only [close, opened, gone, Bool.false_eq_true, if_false] using ended

/-- The message gets past the extensions, and processing it asks to disconnect. -/
def asksOn (h : Handlers σ) (channel : Channel) (m : Message) (p : InProcess) (s : Server σ) :
    Bool :=
  let (accepted, c, s) := Extension.incomingPass h.extensions p.session
    ⟨transport, .inProcess, channel, m⟩ s
  accepted && match (Router.respond h.process [transport] p.session c s).1 with
    | .ok routed => routed.disconnect?.isSome
    | .error _ => false

def asks (h : Handlers σ) (m : Message) (p : InProcess) (s : Server σ) : Bool :=
  match m.channel? with
  | none => false
  | some path =>
    match Channel.resolve path with
    | .error _ => false
    | .ok channel => asksOn h channel m p s

/-- A carrier that is over is not asked any more. -/
def disconnects (h : Handlers σ) (m : Message) (p : InProcess) (s : Server σ) : Bool :=
  p.isConnected && asks h m p s

/-- Whether the message was taken, refused or failed, closing can only come last. -/
def Ends (samples : σ → Timesync.Samples) (h : Handlers σ) (p : InProcess) (s : Server σ)
    (closes : Bool) (after : InProcess × Server σ) : Prop :=
  ∃ q t, Stays samples p s q t ∧ after = if closes then close h q t else (q, t)

theorem endsOpen (stays : Stays samples p s q t) : Ends samples h p s false (q, t) :=
  ⟨q, t, stays, rfl⟩

theorem endsAfter (first : Stays samples p s q t) {closes : Bool} {after : InProcess × Server σ}
    (ends : Ends samples h q t closes after) : Ends samples h p s closes after := by
  obtain ⟨r, u, stays, same⟩ := ends
  exact ⟨r, u, staysTrans first stays, same⟩

theorem answerEnds (proper : h.Proper samples) (routed : Routed) (p : InProcess) (s : Server σ) :
    Ends samples h p s routed.disconnect?.isSome (answer h routed p s).2 := by
  have passed := fun u => Extension.leavesOutgoingPackets proper.timed.each p.session
    routed.packets u
  unfold answer
  cases routed.disconnect? with
  | none => exact endsOpen (staysServer p (passed s))
  | some channel =>
    have leaves := Server.leavesTrans (Router.leavesApplyDisconnect p.session channel s) (passed _)
    exact ⟨{ p with isConnected := false }, _, ⟨rfl, rfl, fun _ => rfl, fun _ => leaves⟩, rfl⟩

theorem injectOnEnds (proper : h.Proper samples) (channel : Channel) (m : Message)
    (connected : p.isConnected = true) (s : Server σ) :
    Ends samples h p s (asksOn h channel m p s) (injectOn h channel m p s).2 := by
  have passed := staysKeeps connected (Extension.keepsIncomingPass proper.timed.each p.session
    ⟨transport, .inProcess, channel, m⟩ s)
  unfold injectOn asksOn
  generalize Extension.incomingPass h.extensions p.session ⟨transport, .inProcess, channel, m⟩ s =
    pass at passed
  obtain ⟨accepted, c, t⟩ := pass
  cases accepted with
  | false => exact endsOpen passed
  | true =>
    have responded := staysTrans passed (staysKeeps connected
      (Router.keepsRespond proper.careful [transport] p.session c t))
    simp only [route, if_true, Bool.true_and]
    generalize Router.respond h.process [transport] p.session c t = response at responded
    obtain ⟨result, u⟩ := response
    cases result with
    | error e => exact endsOpen responded
    | ok routed => exact endsAfter responded (answerEnds proper routed p u)

theorem injectEnds (proper : h.Proper samples) (m : Message) (p : InProcess) (s : Server σ) :
    Ends samples h p s (disconnects h m p s) (inject h m p s).2 := by
  have touched : Stays samples p s { p with lastContact := s.clock } s :=
    ⟨rfl, rfl, id, fun _ => Server.leavesRefl s⟩
  unfold inject
  simp only
  split
  · rename_i silent
    have kept : disconnects h m p s = false := by
      simp only [disconnects, by simpa using silent, Bool.false_and]
    rw [kept]
    exact endsOpen touched
  · rename_i connected
    have open_ : p.isConnected = true := by simpa using connected
    have judged : disconnects h m p s = asks h m p s := by
      simp only [disconnects, open_, Bool.true_and]
    rw [judged, asks]
    cases m.channel? with
    | none => exact endsOpen touched
    | some path =>
      simp only
      cases Channel.resolve path with
      | error e => exact endsOpen touched
      | ok channel =>
        exact endsAfter touched
          (injectOnEnds (p := { p with lastContact := s.clock }) proper channel m open_ s)

end InProcess
end Bayeux
