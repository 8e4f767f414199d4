import Bayeux.Carrier.InProcess
import Bayeux.Proofs.Carrier.Answers
import Bayeux.Proofs.Extension.Passes
import Bayeux.Proofs.Server.Correlation
/-! Messages that never get to the router: those whose channel is none, and those that an extension
denies. Either carrier answers them itself, with a reply that a client can match as well. -/

namespace Bayeux
variable {σ : Type} {h : Handlers σ} {m : Message} {path : String} {channel : Channel}
  {c : Context} {s t : Server σ}

namespace Reply

/-- One refusal of the request in a packet of its own. -/
def Refuses (path : String) (request : Message) (packets : List Packet) : Prop :=
  ∃ reply, packets = [.single .response reply] ∧ Correlates path request false reply

theorem refusalRefuses (path reason : String) (request : Message) (session : String) :
    Refuses path request [.single .response (refusal path reason request (some session))] :=
  ⟨_, rfl, correlatesRefusal path reason request (some session)⟩

/-- The request that was refused is the same one for a client. -/
def Alike (c d : Context) : Prop :=
  d.channel.path = c.channel.path ∧ d.message.get? Field.id = c.message.get? Field.id

theorem refusesAlike {d : Context} {packets : List Packet} (alike : Alike c d)
    (refuses : Refuses d.channel.path d.message packets) :
    Refuses c.channel.path c.message packets := by
  obtain ⟨reply, packets, correlates⟩ := refuses
  rw [alike.1] at correlates
  exact ⟨reply, packets, ⟨⟨correlates.channel, correlates.id.trans alike.2, correlates.ext⟩,
    correlates.successful, correlates.error⟩⟩

theorem alikePass {extensions : List (Extension σ)} {id : String}
    (keeps : ∀ e ∈ extensions, ∀ clock c memory, Alike c (e.incoming clock id c memory).2.1)
    {d : Context} {accepted : Bool}
    (pass : Extension.incomingPass extensions id c s = (accepted, d, t)) : Alike c d := by
  have kept := Extension.incomingPassContext (K := Alike) (fun _ => ⟨rfl, rfl⟩)
    (fun first second => ⟨second.1.trans first.1, second.2.trans first.2⟩) keeps c s
  rwa [pass] at kept

end Reply

/-- What comes back for a message that an extension denies: `d` is what they made of it. -/
structure Denial (extensions : List (Extension σ)) (id : String) (c d : Context)
    (packets : List Packet) : Prop where
  refuses : Reply.Refuses d.channel.path d.message packets
  original : (∀ e ∈ extensions, ∀ clock c memory,
      Reply.Alike c (e.incoming clock id c memory).2.1) →
    Reply.Refuses c.channel.path c.message packets

theorem denial {extensions : List (Extension σ)} {id : String} {d : Context}
    (denied : Extension.incomingPass extensions id c s = (false, d, t)) :
    Denial extensions id c d
      [.single .response (Reply.refusal d.channel.path Reply.denied d.message (some id))] where
  refuses := Reply.refusalRefuses _ _ _ _
  original keeps := Reply.refusesAlike (Reply.alikePass keeps denied) (Reply.refusalRefuses _ _ _ _)

namespace WebSocket
variable {settings : Settings} {x : Handling σ}

theorem handleInvalid {fault : ProtocolError} (scope : FrameScope) (x : Handling σ)
    (nowhere : Channel.resolve path = .error fault) :
    ∃ packets, Reply.Refuses path m packets ∧
      handle h settings m path scope x =
        ((write h settings packets x.counted).1, (scope.resolve path).2,
          (write h settings packets x.counted).2) := by
  refine ⟨_, Reply.refusalRefuses path Reply.invalidChannel m x.carrier.session, ?_⟩
  simp only [handleConcludes, answer, nowhere]
  rfl

theorem handleDenied
    (denied : Extension.incomingPass h.extensions x.carrier.session
      ⟨transport, x.carrier.peer, channel, m⟩ x.server = (false, c, t)) :
    ∃ packets, Denial h.extensions x.carrier.session ⟨transport, x.carrier.peer, channel, m⟩ c
        packets ∧
      handleOn h settings channel m x = write h settings packets { x with server := t } := by
  refine ⟨_, denial denied, ?_⟩
  simp only [handleOn, denied, Bool.false_eq_true, if_false]
  rfl

end WebSocket

namespace InProcess
variable {p : InProcess}

theorem injectInvalid {fault : ProtocolError} (connected : p.isConnected = true)
    (named : m.channel? = some path) (nowhere : Channel.resolve path = .error fault) :
    ∃ packets, Reply.Refuses path m packets ∧
      inject h m p s = (.ok packets, { p with lastContact := s.clock }, s) := by
  refine ⟨_, Reply.refusalRefuses path Reply.invalidChannel m p.session, ?_⟩
  simp only [inject, connected, Bool.not_true, Bool.false_eq_true, if_false, named, nowhere]
  rfl

theorem injectDenied
    (denied : Extension.incomingPass h.extensions p.session ⟨transport, .inProcess, channel, m⟩ s =
      (false, c, t)) :
    ∃ packets, Denial h.extensions p.session ⟨transport, .inProcess, channel, m⟩ c packets ∧
      injectOn h channel m p s = (.ok packets, p, t) := by
  refine ⟨_, denial denied, ?_⟩
  simp only [injectOn, denied, Bool.false_eq_true, if_false]
  rfl

end InProcess

/- Of all servers, and not only of those that come about. -/
theorem repliesCorrelate (settings : Standard.Settings) :
    (∀ transports id (c : Context) (s : Server σ),
      Router.Answered c (Router.respond (Standard.process settings) transports id c s).1) ∧
    (∀ (h : Handlers σ) carrier m path fault scope (x : WebSocket.Handling σ),
      Channel.resolve path = .error fault → ∃ packets, Reply.Refuses path m packets ∧
        WebSocket.handle h carrier m path scope x =
          ((WebSocket.write h carrier packets x.counted).1, (scope.resolve path).2,
            (WebSocket.write h carrier packets x.counted).2)) ∧
    (∀ (h : Handlers σ) carrier channel m (x : WebSocket.Handling σ) c t,
      let given : Context := ⟨WebSocket.transport, x.carrier.peer, channel, m⟩
      Extension.incomingPass h.extensions x.carrier.session given x.server = (false, c, t) →
      ∃ packets, Denial h.extensions x.carrier.session given c packets ∧
        WebSocket.handleOn h carrier channel m x =
          WebSocket.write h carrier packets { x with server := t }) ∧
    (∀ (h : Handlers σ) m path fault (p : InProcess) s, p.isConnected = true →
      m.channel? = some path → Channel.resolve path = .error fault →
      ∃ packets, Reply.Refuses path m packets ∧
        p.inject h m s = (.ok packets, { p with lastContact := s.clock }, s)) ∧
    ∀ (h : Handlers σ) channel m (p : InProcess) s c t,
      let given : Context := ⟨InProcess.transport, .inProcess, channel, m⟩
      Extension.incomingPass h.extensions p.session given s = (false, c, t) →
      ∃ packets, Denial h.extensions p.session given c packets ∧
        p.injectOn h channel m s = (.ok packets, p, t) := by
  refine ⟨fun transports id c s => Router.answered settings transports id c s,
    fun h carrier m path fault scope x nowhere => WebSocket.handleInvalid scope x nowhere,
    ?denied, fun h m path fault p s connected named nowhere =>
      InProcess.injectInvalid connected named nowhere, ?deniedInProcess⟩
  case denied =>
    intro h carrier channel m x c t given denied
    exact WebSocket.handleDenied denied
  case deniedInProcess =>
    intro h channel m p s c t given denied
    exact InProcess.injectDenied denied

end Bayeux
