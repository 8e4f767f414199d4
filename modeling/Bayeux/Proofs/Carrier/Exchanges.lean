import Bayeux.Proofs.Carrier.InProcess
import Bayeux.Proofs.Server.Deeds
/-! What becomes of a message that is injected, and of what is sent and pumped. The server sees
deeds of the session; after a farewell it sees the disconnect, the replies on their way out,
and the carrier closing. -/

namespace Bayeux.InProcess
variable {σ : Type} {h : Handlers σ} {asks more : Context → Prop} {p q r : InProcess}
  {s t u : Server σ}

structure Talks (h : Handlers σ) (asks : Context → Prop) (p : InProcess) (s : Server σ)
    (q : InProcess) (t : Server σ) : Prop where
  session : q.session = p.session
  closed : q.isClosed = p.isClosed
  connected : q.isConnected = p.isConnected
  server : Server.Quietly h [transport] p.session asks s t

theorem talksServer (p : InProcess) (quiet : Server.Quietly h [transport] p.session asks s t) :
    Talks h asks p s p t :=
  ⟨rfl, rfl, rfl, quiet⟩

theorem talksRefl (p : InProcess) (s : Server σ) : Talks h asks p s p s :=
  talksServer p (Server.quietlyRefl s)

theorem talksTrans (first : Talks h asks p s q t) (second : Talks h asks q t r u) :
    Talks h asks p s r u :=
  ⟨second.session.trans first.session, second.closed.trans first.closed,
    second.connected.trans first.connected,
    Server.quietlyTrans first.server (first.session ▸ second.server)⟩

theorem talksSend (h : Handlers σ) (asks : Context → Prop) (packets : List Packet)
    (p : InProcess) (s : Server σ) :
    Talks h asks p s (send h packets p s).2.1 (send h packets p s).2.2 := by
  have encoded : Talks h asks p s p (Outbound.ofPackets? h.extensions p.session packets s).2 :=
    talksServer p (Outbound.quietly h.extensions packets s)
  unfold send
  split
  · exact talksRefl p s
  · simp only
    split
    · exact encoded
    · exact { encoded with }

theorem talksSendEach (h : Handlers σ) (asks : Context → Prop) (packets : List Packet)
    (p : InProcess) (s : Server σ) :
    Talks h asks p s (sendEach h packets p s).1 (sendEach h packets p s).2 := by
  induction packets generalizing p s with
  | nil => exact talksRefl p s
  | cons packet rest ih => exact talksTrans (talksSend h asks [packet] p s) (ih _ _)

theorem talksPump (h : Handlers σ) (asks : Context → Prop) (settings : Settings) (p : InProcess)
    (s : Server σ) :
    Talks h asks p s (pump h settings p s).1 (pump h settings p s).2 := by
  unfold pump
  split
  · exact talksRefl p s
  · have taken : Talks h asks p s p (s.takeDeliveries p.session).2 :=
      talksServer p (Server.quietlyOnce .takes)
    have sent := talksTrans taken
      (talksSendEach h asks (s.takeDeliveries p.session).1 p (s.takeDeliveries p.session).2)
    simp only
    split
    · split
      · exact { sent with }
      · refine talksTrans sent ⟨rfl, rfl, rfl, Server.quietlyOnce ?_⟩
        exact sent.session ▸ .stops
    · exact sent

/-- What the carrier asks of the processors on behalf of a message. -/
def Heard (h : Handlers σ) (session : String) (m : Message) (c : Context) : Prop :=
  ∃ path channel, m.channel? = some path ∧ Channel.resolve path = .ok channel ∧
    Extension.Passed h.extensions session ⟨transport, .inProcess, channel, m⟩ c

inductive Exchange (h : Handlers σ) (asks : Context → Prop) (p : InProcess) (s : Server σ) :
    Bool → InProcess → Server σ → Prop where
  | stayed {q : InProcess} {t : Server σ} (talks : Talks h asks p s q t) :
      Exchange h asks p s false q t
  | parted {q : InProcess} {channel : Channel} {t u : Server σ} (talks : Talks h asks p s q t)
      (path : channel.path = Route.disconnectPath)
      (replies : Server.Quietly h [transport] p.session asks
        (Router.applyDisconnect p.session channel t) u) :
      Exchange h asks p s true (close h { q with isConnected := false } u).1
        (close h { q with isConnected := false } u).2

theorem exchangeAfter {parts : Bool} (first : Talks h asks p s q t)
    (exchange : Exchange h asks q t parts r u) : Exchange h asks p s parts r u := by
  cases exchange with
  | stayed talks => exact .stayed (talksTrans first talks)
  | parted talks path replies =>
    rw [first.session] at replies
    exact .parted (talksTrans first talks) path replies

theorem exchangeMore {parts : Bool} (wider : ∀ c, asks c → more c)
    (exchange : Exchange h asks p s parts q t) : Exchange h more p s parts q t := by
  cases exchange with
  | stayed talks => exact .stayed { talks with server := Server.quietlyMore wider talks.server }
  | parted talks path replies =>
    exact .parted { talks with server := Server.quietlyMore wider talks.server } path
      (Server.quietlyMore wider replies)

theorem answerExchange (routed : Routed) (p : InProcess) (s : Server σ)
    (path : ∀ channel, routed.disconnect? = some channel → channel.path = Route.disconnectPath) :
    Exchange h asks p s routed.disconnect?.isSome (answer h routed p s).2.1
      (answer h routed p s).2.2 := by
  unfold answer
  cases leaving : routed.disconnect? with
  | none => exact .stayed (talksServer p (Extension.quietlyOutgoingPackets _ _ s))
  | some channel =>
    exact .parted (talksRefl p s) (path channel leaving) (Extension.quietlyOutgoingPackets _ _ _)

theorem injectOnExchange (h : Handlers σ) (channel : Channel) (m : Message) (p : InProcess)
    (s : Server σ) : Exchange h
      (Extension.Passed h.extensions p.session ⟨transport, .inProcess, channel, m⟩) p s
      (asksOn h channel m p s) (injectOn h channel m p s).2.1 (injectOn h channel m p s).2.2 := by
  have passed : Talks h (Extension.Passed h.extensions p.session
      ⟨transport, .inProcess, channel, m⟩) p s p _ :=
    talksServer p (Extension.quietlyIncomingPass h.extensions
      ⟨transport, .inProcess, channel, m⟩ s)
  unfold injectOn asksOn
  cases pass : Extension.incomingPass h.extensions p.session ⟨transport, .inProcess, channel, m⟩
      s with
  | mk accepted rest =>
    obtain ⟨c, t⟩ := rest
    rw [pass] at passed
    cases accepted with
    | false => exact .stayed passed
    | true =>
      have responded := talksTrans passed (talksServer p (Server.quietlyOnce
        (.request c ⟨s, by rw [pass], by rw [pass]⟩)))
      simp only [route, if_true, Bool.true_and]
      cases response : Router.respond h.process [transport] p.session c t with
      | mk result u =>
        rw [response] at responded
        cases result with
        | error e => exact .stayed responded
        | ok routed =>
          exact exchangeAfter responded (answerExchange routed p u fun channel leaving =>
            (Router.respondDisconnects (congrArg Prod.fst response) leaving).2)

theorem injectExchange (h : Handlers σ) (m : Message) (p : InProcess) (s : Server σ) :
    Exchange h (Heard h p.session m) p s (disconnects h m p s) (inject h m p s).2.1
      (inject h m p s).2.2 := by
  have touched : Talks h (Heard h p.session m) p s { p with lastContact := s.clock } s :=
    { talksRefl p s with }
  unfold inject
  simp only
  split
  · rename_i silent
    have kept : disconnects h m p s = false := by
      simp only [disconnects, by simpa using silent, Bool.false_and]
    rw [kept]
    exact .stayed touched
  · rename_i connected
    have judged : disconnects h m p s = asks h m p s := by
      simp only [disconnects, by simpa using connected, Bool.true_and]
    rw [judged, asks]
    cases named : m.channel? with
    | none => exact .stayed touched
    | some path =>
      simp only
      cases resolved : Channel.resolve path with
      | error e => exact .stayed touched
      | ok channel =>
        have exchange := injectOnExchange h channel m { p with lastContact := s.clock } s
        exact exchangeAfter touched (exchangeMore
          (fun c passed => ⟨path, channel, named, resolved, passed⟩) exchange)

end Bayeux.InProcess
