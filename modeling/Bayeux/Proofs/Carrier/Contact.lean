import Bayeux.Proofs.Carrier.Errands
/-! When something was last heard on a carrier, and how long it may stay silent. Only a text or an
injected message is heard, and only an override changes the time allowed: nothing else that
happens to a carrier, and nothing that leaves it, counts. -/

namespace Bayeux

namespace WebSocket
variable {σ : Type} {w v u : WebSocket}

structure Rests (w v : WebSocket) : Prop where
  opened : v.opened = w.opened
  heard : v.lastInbound = w.lastInbound
  timeout : v.idleTimeout = w.idleTimeout

theorem restsRefl (w : WebSocket) : Rests w w := ⟨rfl, rfl, rfl⟩

theorem restsTrans (first : Rests w v) (second : Rests v u) : Rests w u :=
  ⟨second.opened.trans first.opened, second.heard.trans first.heard,
    second.timeout.trans first.timeout⟩

theorem restsCloseSink (w : WebSocket) (code : Nat) (reason : String) :
    Rests w (closeSink w code reason).2 := by
  rw [closeSinkFrame]
  exact ⟨rfl, rfl, rfl⟩

theorem restsWrite (h : Handlers σ) (settings : Settings) (packets : List Packet)
    (x : Handling σ) : Rests x.carrier (write h settings packets x).2.carrier := by
  obtain ⟨sink, waited, carrier, -⟩ := writeFrame h settings packets x
  rw [carrier]
  exact ⟨rfl, rfl, rfl⟩

theorem restsConclude (h : Handlers σ) (settings : Settings) (answered : Routed × Server σ)
    (x : Handling σ) : Rests x.carrier (conclude h settings answered x).2.carrier := by
  have written := restsWrite h settings answered.1.packets { x with server := answered.2 }
  unfold conclude disconnectAfter
  cases answered.1.disconnect? with
  | none => exact written
  | some channel => exact restsTrans written ⟨rfl, rfl, rfl⟩

theorem restsOnBatch (h : Handlers σ) (settings : Settings) (batch : List Value) (x : Handling σ) :
    Rests x.carrier (onBatch h settings batch x).2.1 := by
  have dispatched : Rests x.carrier (dispatch h settings batch .empty x).2.carrier :=
    dispatchRelated (R := fun x y : Handling σ => Rests x.carrier y.carrier)
      (fun x => restsRefl _) (fun first second => restsTrans first second)
      (fun m path x => restsConclude h settings _ x.counted) batch x
  have closed : ∀ y : Handling σ, Rests y.carrier (closeDisconnected y).2.carrier := by
    intro y
    have shut := restsCloseSink y.carrier CloseCode.normal ""
    unfold closeDisconnected
    split
    · simp only
      split <;> exact shut
    · exact restsRefl _
  have done := restsTrans dispatched (closed _)
  unfold onBatch
  simp only
  split <;> exact done

/- Whatever the text is, it is heard. -/
theorem restsOnText (h : Handlers σ) (settings : Settings) (text : String) (w : WebSocket)
    (s : Server σ) : Rests (w.touch s) (onText h settings text w s).2.1 := by
  have took := taken h settings text w s
  generalize onText h settings text w s = heard at took ⊢
  cases took with
  | unheard ended => exact restsRefl _
  | large opened connected beyond => exact restsCloseSink _ _ _
  | garbled opened connected within undecoded => exact restsRefl _
  | @read batch opened connected within decoded =>
    exact restsOnBatch h settings batch ⟨w.touch s, {}, s⟩

theorem restsDeliver (h : Handlers σ) (settings : Settings) (packets : List Packet)
    (w : WebSocket) (s : Server σ) : Rests w (deliver h settings packets w s).2.1 := by
  have written := restsWrite h settings packets ⟨w, {}, s⟩
  unfold deliver
  split
  · exact restsRefl w
  · split <;> rename_i found <;> rw [found] at written <;> exact written

theorem restsClose (w : WebSocket) : Rests w w.close.2 := by
  unfold close
  split
  · exact restsRefl w
  · exact restsCloseSink w _ _

theorem restsCloseIfIdle (w : WebSocket) (s : Server σ) : Rests w (w.closeIfIdle s).2 := by
  unfold closeIfIdle
  split
  · exact restsRefl w
  · split
    · exact restsRefl w
    · exact restsCloseSink w _ _

end WebSocket

namespace InProcess
variable {σ : Type} {p q r : InProcess}

structure Rests (p q : InProcess) : Prop where
  opened : q.opened = p.opened
  heard : q.lastContact = p.lastContact
  timeout : q.idleTimeout = p.idleTimeout

theorem restsRefl (p : InProcess) : Rests p p := ⟨rfl, rfl, rfl⟩

theorem restsTrans (first : Rests p q) (second : Rests q r) : Rests p r :=
  ⟨second.opened.trans first.opened, second.heard.trans first.heard,
    second.timeout.trans first.timeout⟩

theorem restsClose (h : Handlers σ) (p : InProcess) (s : Server σ) :
    Rests p (close h p s).1 := by
  unfold close
  split
  · exact restsRefl p
  · exact ⟨rfl, rfl, rfl⟩

theorem restsInject (h : Handlers σ) (m : Message) (p : InProcess) (s : Server σ) :
    Rests { p with lastContact := s.clock } (inject h m p s).2.1 := by
  have injected := injects h m p s
  generalize inject h m p s = result at injected ⊢
  obtain ⟨answer, q, v⟩ := result
  simp only at injected ⊢
  cases injected with
  | ended | nameless | invalid | denied | failed | stayed => exact restsRefl _
  | @parted _ _ _ _ _ v addressed pass response leaves goes =>
    have silent : Rests { p with lastContact := s.clock }
        { p with lastContact := s.clock, isConnected := false } := ⟨rfl, rfl, rfl⟩
    exact restsTrans silent (restsClose h _ v)

theorem restsSend (h : Handlers σ) (packets : List Packet) (p : InProcess) (s : Server σ) :
    Rests p (send h packets p s).2.1 := by
  unfold send
  split
  · exact restsRefl p
  · simp only
    split <;> exact ⟨rfl, rfl, rfl⟩

theorem restsSendEach (h : Handlers σ) (packets : List Packet) (p : InProcess) (s : Server σ) :
    Rests p (sendEach h packets p s).1 := by
  induction packets generalizing p s with
  | nil => exact restsRefl p
  | cons packet rest ih => exact restsTrans (restsSend h [packet] p s) (ih _ _)

theorem restsPump (h : Handlers σ) (settings : Settings) (p : InProcess) (s : Server σ) :
    Rests p (pump h settings p s).1 := by
  have sent := restsSendEach h (s.takeDeliveries p.session).1 p (s.takeDeliveries p.session).2
  unfold pump
  split
  · exact restsRefl p
  · simp only
    split
    · split <;> exact restsTrans sent ⟨rfl, rfl, rfl⟩
    · exact sent

end InProcess

namespace Client
variable {σ : Type} {c d : Client}

def opened : Client → Nat
  | .webSocket w => w.opened
  | .inProcess p => p.opened

/-- Something was last heard at this time, as far as the carrier can tell. -/
def Heard (time : Nat) : Client → Prop
  | .webSocket w => w.opened ≤ time ∧ w.lastInbound = w.elapsed time
  | .inProcess p => p.lastContact = time

theorem heardOpen (settings : WebSocket.Settings) (peer : Peer) (s : Server σ) :
    (webSocket (WebSocket.open settings peer s).1).Heard s.clock := by
  have clock : (s.openSession WebSocket.transport false settings.queueSize).2.clock = s.clock := rfl
  refine ⟨le_refl _, ?_⟩
  simp only [WebSocket.open, WebSocket.elapsed, clock, Nat.sub_self, Nat.zero_div]

theorem heardTouch {w : WebSocket} {s : Server σ} (opened : w.opened ≤ s.clock) :
    (webSocket (w.touch s)).Heard s.clock := by
  refine ⟨opened, ?_⟩
  simp only [WebSocket.touch, WebSocket.elapsed]

/-- What the transport of the client allows, negative where it does not say. -/
def interval (setup : Setup σ) : Client → Int
  | .webSocket _ => setup.webSocket.maxInterval
  | .inProcess _ => setup.inProcess.interval

inductive Rests : Client → Client → Prop where
  | webSocket {w v : WebSocket} (rests : w.Rests v) : Rests (.webSocket w) (.webSocket v)
  | inProcess {p q : InProcess} (rests : p.Rests q) : Rests (.inProcess p) (.inProcess q)

theorem restsRefl (c : Client) : Rests c c := by
  cases c with
  | webSocket w => exact .webSocket (WebSocket.restsRefl w)
  | inProcess p => exact .inProcess (InProcess.restsRefl p)

theorem restsSame (setup : Setup σ) (rests : Rests c d) : d.opened = c.opened ∧
    d.interval setup = c.interval setup ∧ (∀ time, d.Heard time ↔ c.Heard time) ∧
      d.idleTimeout = c.idleTimeout := by
  cases rests with
  | webSocket rests =>
    refine ⟨rests.opened, rfl, fun time => ?_, rests.timeout⟩
    simp only [Heard, WebSocket.elapsed, rests.opened, rests.heard]
  | inProcess rests =>
    exact ⟨rests.opened, rfl, fun time => by simp only [Heard, rests.heard], rests.timeout⟩

end Client
end Bayeux
