import Bayeux.Proofs.Carrier.Answers
import Bayeux.Proofs.Carrier.Departures
import Bayeux.Proofs.Server.Errands
import Bayeux.World
/-! What carriers do to the server. Whatever arrives on a carrier, is sent through it or ends it,
the carrier keeps its session and runs errands for that session alone. Only the pumps work on
the queue as well. -/

namespace Bayeux

namespace Client
variable {σ : Type}

structure Serves (h : Handlers σ) (c : Client) (s : Server σ) (d : Client) (t : Server σ) :
    Prop where
  session : d.session = c.session
  server : Server.Errands h c.session s t

variable {h : Handlers σ} {c d e : Client} {s t u : Server σ}

theorem servesRefl (c : Client) (s : Server σ) : Serves h c s c s := ⟨rfl, Server.errandsRefl s⟩

theorem servesTrans (first : Serves h c s d t) (second : Serves h d t e u) : Serves h c s e u :=
  ⟨second.session.trans first.session,
    Server.errandsTrans first.server (first.session ▸ second.server)⟩

end Client

namespace WebSocket
variable {σ : Type} {h : Handlers σ} {settings : Settings} {x y : Handling σ}

theorem servesWrite (h : Handlers σ) (settings : Settings) (packets : List Packet)
    (x : Handling σ) :
    Client.Serves h (.webSocket x.carrier) x.server
      (.webSocket (write h settings packets x).2.carrier)
      (write h settings packets x).2.server := by
  obtain ⟨sink, waited, carrier, server⟩ := writeFrame h settings packets x
  rw [carrier, server]
  exact ⟨rfl, Server.errandsTrans (Outbound.errands packets x.server)
    (Server.errandsOnce (.waits waited))⟩

theorem errandsAnswer (h : Handlers σ) (settings : Settings) (session : String) (peer : Peer)
    (m : Message) (path : String) (s : Server σ) :
    Server.Errands h session s (answer h settings session peer m path s).2 := by
  unfold answer answerOn answerRouted
  cases Channel.resolve path with
  | error fault => exact Server.errandsRefl s
  | ok channel =>
    have passed : Server.Errands h session s (Extension.incomingPass h.extensions session
        ⟨transport, peer, channel, m⟩ s).2.2 :=
      Extension.errandsIncomingPass (List.Subset.refl _) _ s
    simp only
    generalize Extension.incomingPass h.extensions session ⟨transport, peer, channel, m⟩ s = pass
      at passed
    obtain ⟨accepted, c, t⟩ := pass
    cases accepted with
    | false => exact passed
    | true =>
      have responded : Server.Errands h session t _ :=
        Server.errandsOnce (.request settings.transports c)
      simp only [if_true]
      generalize Router.respond h.process settings.transports session c t = response at responded
      obtain ⟨result, u⟩ := response
      cases result <;> exact Server.errandsTrans passed responded

theorem servesConclude (settings : Settings) {answered : Routed × Server σ}
    (before : Server.Errands h x.carrier.session x.server answered.2) :
    Client.Serves h (.webSocket x.carrier) x.server
      (.webSocket (conclude h settings answered x).2.carrier)
      (conclude h settings answered x).2.server := by
  have answering : Client.Serves h (.webSocket x.carrier) x.server (.webSocket x.carrier)
      answered.2 := ⟨rfl, before⟩
  have written := Client.servesTrans answering
    (servesWrite h settings answered.1.packets { x with server := answered.2 })
  unfold conclude
  generalize write h settings answered.1.packets { x with server := answered.2 } = done at written
  obtain ⟨result, y⟩ := done
  cases answered.1.disconnect? with
  | none => exact written
  | some channel =>
    have session : y.carrier.session = x.carrier.session := written.session
    refine ⟨session, Server.errandsTrans written.server ?_⟩
    simp only [disconnectAfter, Router.applyDisconnect, session]
    exact Server.errandsEnded y.server false (some channel)

theorem servesDispatch (h : Handlers σ) (settings : Settings) (batch : List Value)
    (x : Handling σ) :
    Client.Serves h (.webSocket x.carrier) x.server
      (.webSocket (dispatch h settings batch .empty x).2.carrier)
      (dispatch h settings batch .empty x).2.server := by
  refine dispatchRelated (R := fun x y : Handling σ =>
    Client.Serves h (.webSocket x.carrier) x.server (.webSocket y.carrier) y.server)
    (fun x => Client.servesRefl _ _) (fun first second => Client.servesTrans first second)
    (fun m path x => ?_) batch x
  exact servesConclude (x := x.counted) settings
    (errandsAnswer h settings x.carrier.session x.carrier.peer m path x.server)

theorem servesCloseDisconnected (x : Handling σ) :
    Client.Serves h (.webSocket x.carrier) x.server
      (.webSocket (closeDisconnected x).2.carrier) (closeDisconnected x).2.server := by
  have shuts := shutsCloseSink x.carrier CloseCode.normal ""
  unfold closeDisconnected
  split
  · simp only
    split <;> exact ⟨shuts.session, Server.errandsRefl _⟩
  · exact Client.servesRefl _ _

theorem servesOnBatch (h : Handlers σ) (settings : Settings) (batch : List Value)
    (x : Handling σ) :
    Client.Serves h (.webSocket x.carrier) x.server
      (.webSocket (onBatch h settings batch x).2.1) (onBatch h settings batch x).2.2 := by
  have done := Client.servesTrans (servesDispatch h settings batch x) (servesCloseDisconnected _)
  unfold onBatch
  simp only
  split <;> exact done

theorem servesOnText (h : Handlers σ) (settings : Settings) (text : String) (w : WebSocket)
    (s : Server σ) :
    Client.Serves h (.webSocket w) s (.webSocket (onText h settings text w s).2.1)
      (onText h settings text w s).2.2 := by
  have took := taken h settings text w s
  generalize onText h settings text w s = heard at took ⊢
  cases took with
  | unheard ended => exact ⟨rfl, Server.errandsRefl s⟩
  | large opened connected beyond =>
    exact ⟨(shutsCloseSink (w.touch s) _ _).session, Server.errandsRefl s⟩
  | garbled opened connected within undecoded => exact ⟨rfl, Server.errandsRefl s⟩
  | @read batch opened connected within decoded =>
    have touched : Client.Serves h (.webSocket w) s (.webSocket (w.touch s)) s :=
      ⟨rfl, Server.errandsRefl s⟩
    exact Client.servesTrans touched (servesOnBatch h settings batch ⟨w.touch s, {}, s⟩)

theorem servesDeliver (h : Handlers σ) (settings : Settings) (packets : List Packet)
    (w : WebSocket) (s : Server σ) :
    Client.Serves h (.webSocket w) s (.webSocket (deliver h settings packets w s).2.1)
      (deliver h settings packets w s).2.2 := by
  have written := servesWrite h settings packets ⟨w, {}, s⟩
  unfold deliver
  split
  · exact Client.servesRefl _ s
  · split <;> rename_i found <;> rw [found] at written <;> exact written

theorem servesOnClose (h : Handlers σ) (w : WebSocket) (s : Server σ) :
    Client.Serves h (.webSocket w) s (.webSocket (onClose h w s).1) (onClose h w s).2 := by
  have dismissed : Server.Errands h w.session s _ := Extension.errandsDismissed s
  refine ⟨rfl, ?_⟩
  unfold onClose
  simp only
  split
  · exact Server.errandsTrans dismissed (Server.errandsEnded _ true none)
  · exact dismissed

end WebSocket

namespace InProcess
variable {σ : Type} {h : Handlers σ} {p q : InProcess} {s t : Server σ}

theorem servesClose (h : Handlers σ) (p : InProcess) (s : Server σ) :
    Client.Serves h (.inProcess p) s (.inProcess (close h p s).1) (close h p s).2 := by
  have dismissed : Server.Errands h p.session s _ := Extension.errandsDismissed s
  have unlisted := Server.errandsTrans dismissed (Server.errandsOnce .unlisted)
  unfold close
  split
  · exact Client.servesRefl _ s
  · refine ⟨rfl, ?_⟩
    simp only
    split
    · exact Server.errandsTrans unlisted (Server.errandsEnded _ true none)
    · exact unlisted

theorem servesInject (h : Handlers σ) (m : Message) (p : InProcess) (s : Server σ) :
    Client.Serves h (.inProcess p) s (.inProcess (inject h m p s).2.1) (inject h m p s).2.2 := by
  have passed : ∀ {accepted c t channel}, Extension.incomingPass h.extensions p.session
      ⟨transport, .inProcess, channel, m⟩ s = (accepted, c, t) →
      Server.Errands h p.session s t := by
    intro accepted c t channel pass
    have errands : Server.Errands h p.session s (Extension.incomingPass h.extensions p.session
        ⟨transport, .inProcess, channel, m⟩ s).2.2 :=
      Extension.errandsIncomingPass (List.Subset.refl _) _ s
    rwa [pass] at errands
  have responded : ∀ {c t result u}, Router.respond h.process [transport] p.session c t =
      (result, u) → Server.Errands h p.session t u := by
    intro c t result u response
    have errands : Server.Errands h p.session t _ :=
      Server.errandsOnce (.request [transport] c)
    rwa [response] at errands
  have injected := injects h m p s
  generalize inject h m p s = result at injected ⊢
  obtain ⟨answer, q, v⟩ := result
  simp only at injected ⊢
  cases injected with
  | ended | nameless | invalid => exact ⟨rfl, Server.errandsRefl s⟩
  | denied addressed pass => exact ⟨rfl, passed pass⟩
  | failed addressed pass response =>
    exact ⟨rfl, Server.errandsTrans (passed pass) (responded response)⟩
  | stayed addressed pass response stays goes =>
    exact ⟨rfl, Server.errandsTrans (passed pass)
      (Server.errandsTrans (responded response) (Extension.errandsGoesOut goes))⟩
  | @parted _ path c t u v routed _ addressed pass response leaves goes =>
    have gone := Server.errandsTrans (passed pass) (responded response)
    have left := Server.errandsTrans gone (Server.errandsEnded u false (some path))
    have silent : Client.Serves h (.inProcess p) s
        (.inProcess { p with lastContact := s.clock, isConnected := false }) v :=
      ⟨rfl, Server.errandsTrans left (Extension.errandsGoesOut goes)⟩
    exact Client.servesTrans silent (servesClose h _ v)

theorem servesSend (h : Handlers σ) (packets : List Packet) (p : InProcess) (s : Server σ) :
    Client.Serves h (.inProcess p) s (.inProcess (send h packets p s).2.1)
      (send h packets p s).2.2 := by
  have sent := sends h packets p s
  generalize send h packets p s = result at sent ⊢
  obtain ⟨answer, q, t⟩ := result
  simp only at sent ⊢
  cases sent with
  | ended connected => exact Client.servesRefl _ s
  | taken connected goes waiting => exact ⟨rfl, Extension.errandsGoesOut goes⟩
  | lost connected goes waiting => exact ⟨rfl, Extension.errandsGoesOut goes⟩

theorem servesSendEach (h : Handlers σ) (packets : List Packet) (p : InProcess) (s : Server σ) :
    Client.Serves h (.inProcess p) s (.inProcess (sendEach h packets p s).1)
      (sendEach h packets p s).2 := by
  induction packets generalizing p s with
  | nil => exact Client.servesRefl _ s
  | cons packet rest ih => exact Client.servesTrans (servesSend h [packet] p s) (ih _ _)

theorem choresPump (h : Handlers σ) (settings : Settings) (p : InProcess) (s : Server σ) :
    Server.Chores h s (pump h settings p s).2 := by
  have sent := Server.choresTrans (Server.choresTakeDeliveries s p.session)
    (Server.choresErrands (servesSendEach h (s.takeDeliveries p.session).1 p
      (s.takeDeliveries p.session).2).server)
  unfold pump
  split
  · exact .refl
  · simp only
    split
    · split
      · exact sent
      · exact Server.choresTrans sent (Server.choresCloseDeliveries _ _)
    · exact sent

end InProcess
end Bayeux
