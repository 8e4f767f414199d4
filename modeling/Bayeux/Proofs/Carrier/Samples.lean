import Bayeux.Proofs.Carrier.Accepting
import Bayeux.Proofs.Carrier.Departures
import Bayeux.Proofs.Carrier.Errands
import Bayeux.Proofs.Server.Echoes
/-! The clock synchronisation on a carrier. Only a message that comes in brings a sample into
being. A handshake or a connect that is answered leaves none of its own behind, whatever is
written or closed besides takes samples away at most, and on a sink that takes all that is
written no time passes in a frame. -/

namespace Bayeux

namespace Server
variable {σ : Type} {samples : σ → Timesync.Samples} {h : Handlers σ}
  {fresh : String → Timesync.Sample → Prop}

theorem sameTimesEnded (s : Server σ) (id : String) (abrupt : Bool) (channel? : Option Channel) :
    s.SameTimes ((s.markDisconnected id).disconnected id abrupt channel?) :=
  sameTimesOnSession s id false Session.markDisconnected

theorem sameTimesTake (s : Server σ) (id : String) : s.SameTimes (s.takeDeliveries id).2 :=
  sameTimesOnSession s id [] _

theorem recallsDismissed (each : ∀ e ∈ h.extensions, e.Fits samples) (id : String)
    (s : Server σ) :
    s.Recalls samples fresh (Extension.forgetPass h.extensions id (s.removeSession id)) :=
  Extension.recallsForgetPass each id (s.removeSession id)

end Server

namespace InProcess
variable {σ : Type} {samples : σ → Timesync.Samples} {h : Handlers σ}
  {fresh : String → Timesync.Sample → Prop}

theorem recallsClose (each : ∀ e ∈ h.extensions, e.Fits samples) (p : InProcess) (s : Server σ) :
    s.Recalls samples fresh (close h p s).2 := by
  have dismissed : s.Recalls samples fresh _ := Server.recallsDismissed each p.session s
  unfold close
  split
  · exact Server.recallsRefl s
  · generalize Extension.forgetPass h.extensions p.session (s.removeSession p.session) = t
      at dismissed
    have unlisted : s.Recalls samples fresh { t with inProcess := t.inProcess.erase p.session } :=
      dismissed
    simp only
    split
    · exact Server.recallsTrans unlisted
        (Server.recallsSame (Server.sameTimesEnded _ p.session true none).1)
    · exact unlisted

theorem recallsSend (each : ∀ e ∈ h.extensions, e.Fits samples) (packets : List Packet)
    (p : InProcess) (s : Server σ) : s.Recalls samples fresh (send h packets p s).2.2 := by
  have sent := sends h packets p s
  generalize send h packets p s = result at sent ⊢
  obtain ⟨answer, q, t⟩ := result
  simp only at sent ⊢
  cases sent with
  | ended connected => exact Server.recallsRefl s
  | taken connected goes waiting => exact Extension.recallsGoesOut each goes
  | lost connected goes waiting => exact Extension.recallsGoesOut each goes

theorem recallsSendEach (each : ∀ e ∈ h.extensions, e.Fits samples) (packets : List Packet)
    (p : InProcess) (s : Server σ) : s.Recalls samples fresh (sendEach h packets p s).2 := by
  induction packets generalizing p s with
  | nil => exact Server.recallsRefl s
  | cons packet rest ih => exact Server.recallsTrans (recallsSend each [packet] p s) (ih _ _)

theorem recallsPump (each : ∀ e ∈ h.extensions, e.Fits samples) (settings : Settings)
    (p : InProcess) (s : Server σ) : s.Recalls samples fresh (pump h settings p s).2 := by
  have took : s.Recalls samples fresh (s.takeDeliveries p.session).2 :=
    Server.recallsSame (Server.sameTimesTake s p.session).1
  have sent := Server.recallsTrans took (recallsSendEach each (s.takeDeliveries p.session).1 p _)
  unfold pump
  split
  · exact Server.recallsRefl s
  · simp only
    split
    · split
      · exact sent
      · exact Server.recallsTrans sent
          (Server.recallsSame (Server.sameTimesOnSession _ _ () _).1)
    · exact sent

/- An injected message may bring a sample for its own session. -/
theorem recallsInject {processing : Standard.Settings}
    (process : h.process = Standard.process processing)
    (synced : Extension.Synced samples h.extensions) (m : Message) (p : InProcess)
    (s : Server σ) :
    s.Recalls samples (fun id _ => id = p.session) (inject h m p s).2.2 := by
  have each := fun e inside => Extension.plainFits (synced.plain e inside)
  have passed : ∀ {accepted c t channel}, Extension.incomingPass h.extensions p.session
      ⟨transport, .inProcess, channel, m⟩ s = (accepted, c, t) →
      s.Recalls samples (fun id _ => id = p.session) t := by
    intro accepted c t channel pass
    have recalls := Extension.recallsIncomingPass synced p.session
      ⟨transport, .inProcess, channel, m⟩ s
    rw [pass] at recalls
    exact Timesync.recallsMore (fun _ _ own => own.1) recalls
  have responded : ∀ {c t result u}, Router.respond h.process [transport] p.session c t =
      (result, u) → t.Recalls samples (fun id _ => id = p.session) u := by
    intro c t result u response
    have same := Router.sameTimesRespond processing [transport] p.session c t
    rw [← process, response] at same
    exact Server.recallsSame same.1
  have injected := injects h m p s
  generalize inject h m p s = result at injected ⊢
  obtain ⟨answer, q, v⟩ := result
  simp only at injected ⊢
  cases injected with
  | ended | nameless | invalid => exact Server.recallsRefl s
  | denied addressed pass => exact passed pass
  | failed addressed pass response =>
    exact Server.recallsTrans (passed pass) (responded response)
  | stayed addressed pass response stays goes =>
    exact Server.recallsTrans (passed pass)
      (Server.recallsTrans (responded response) (Extension.recallsGoesOut each goes))
  | @parted _ path c t u v routed _ addressed pass response leaves goes =>
    have gone := Server.recallsTrans (passed pass) (responded response)
    have left := Server.recallsTrans gone
      (Server.recallsSame (Server.sameTimesEnded u p.session false (some path)).1)
    have written := Server.recallsTrans left (Extension.recallsGoesOut each goes)
    exact Server.recallsTrans written (recallsClose each _ v)

end InProcess

namespace WebSocket
variable {σ : Type} {samples : σ → Timesync.Samples} {h : Handlers σ} {settings : Settings}
  {processing : Standard.Settings} {fresh : String → Timesync.Sample → Prop} {x y : Handling σ}

theorem recallsWrite (each : ∀ e ∈ h.extensions, e.Fits samples) (settings : Settings)
    (packets : List Packet) (x : Handling σ) :
    x.server.Recalls samples fresh (write h settings packets x).2.server := by
  obtain ⟨out, posts⟩ := writePosts h settings packets x
  obtain ⟨u, waited, goes, server⟩ := posts.goes
  have recalls : x.server.Recalls samples fresh u := Extension.recallsGoesOut each goes
  rw [server]
  exact recalls

theorem recallsDeliver (each : ∀ e ∈ h.extensions, e.Fits samples) (packets : List Packet)
    (w : WebSocket) (s : Server σ) :
    s.Recalls samples fresh (deliver h settings packets w s).2.2 := by
  have recalls : s.Recalls samples fresh (write h settings packets ⟨w, {}, s⟩).2.server :=
    recallsWrite each settings packets ⟨w, {}, s⟩
  unfold deliver
  split
  · exact Server.recallsRefl s
  · split <;> rename_i written <;> rw [written] at recalls <;> exact recalls

theorem recallsOnClose (each : ∀ e ∈ h.extensions, e.Fits samples) (w : WebSocket)
    (s : Server σ) : s.Recalls samples fresh (onClose h w s).2 := by
  have dismissed : s.Recalls samples fresh _ := Server.recallsDismissed each w.session s
  unfold onClose
  simp only
  split
  · exact Server.recallsTrans dismissed
      (Server.recallsSame (Server.sameTimesEnded _ w.session true none).1)
  · exact dismissed

/- One message of a frame. -/

section
variable {session : String} {peer : Peer} {m : Message} {path : String} {s : Server σ}

theorem answerArrives (plain : ∀ e ∈ h.extensions, e.Plain samples) (settings : Settings)
    {channel : Channel} (place : Channel.resolve path = .ok channel) (session : String)
    (peer : Peer) (m : Message) (s : Server σ) : ∃ notices,
    answer h settings session peer m path s =
      answerRouted h settings session ⟨transport, peer, channel, m⟩ { s with
        memory := Extension.takeIn s.clock session ⟨transport, peer, channel, m⟩ h.extensions
          s.memory
        notices } := by
  obtain ⟨notices, passed⟩ :=
    Extension.plainIncoming plain session ⟨transport, peer, channel, m⟩ s
  exact ⟨notices, by simp only [answer, place, answerOn, passed, if_true]⟩

theorem sameTimesRouted (process : h.process = Standard.process processing)
    (settings : Settings) (session : String) (c : Context) (s : Server σ) :
    s.SameTimes (answerRouted h settings session c s).2 := by
  have same := Router.sameTimesRespond processing settings.transports session c s
  unfold answerRouted
  rw [process]
  generalize Router.respond (Standard.process processing) settings.transports session c s =
    response at same
  obtain ⟨result, t⟩ := response
  cases result <;> exact same

theorem answerClock (process : h.process = Standard.process processing)
    (plain : ∀ e ∈ h.extensions, e.Plain samples) (settings : Settings) (session : String)
    (peer : Peer) (m : Message) (path : String) (s : Server σ) :
    (answer h settings session peer m path s).2.clock = s.clock := by
  cases place : Channel.resolve path with
  | error fault => simp only [answer, place]
  | ok channel =>
    obtain ⟨notices, arrives⟩ := answerArrives plain settings place session peer m s
    rw [arrives]
    exact (sameTimesRouted process settings session _ _).2

theorem recallsAnswer (process : h.process = Standard.process processing)
    (synced : Extension.Synced samples h.extensions) (settings : Settings) (session : String)
    (peer : Peer) (m : Message) (path : String) (s : Server σ) :
    s.Recalls samples (fun other sample => other = session ∧ Timesync.isTimed m = true ∧
      Timesync.sample? (Timesync.reading s.clock) m = some sample)
      (answer h settings session peer m path s).2 := by
  cases place : Channel.resolve path with
  | error fault =>
    simp only [answer, place]
    exact Server.recallsRefl s
  | ok channel =>
    have arrived := Extension.recallsIncomingPass synced session
      ⟨transport, peer, channel, m⟩ s
    have routed := fun c t => (sameTimesRouted process settings session c t).1
    simp only [answer, place, answerOn]
    generalize Extension.incomingPass h.extensions session ⟨transport, peer, channel, m⟩ s = pass
      at arrived
    obtain ⟨accepted, c, t⟩ := pass
    cases accepted with
    | false => exact arrived
    | true => exact Server.recallsTrans arrived (Server.recallsSame (routed c t))

/-- The answer to a handshake or a connect: nothing, or one reply. -/
inductive Timed (path : String) (m : Message) : Routed → Prop where
  | unread : Timed path m ⟨[], none⟩
  | replied {reply : Message} (repeats : Reply.Repeats path m reply) :
      Timed path m ⟨[.single .response reply], none⟩

theorem timedPath (timed : Timesync.isTimed m = true) (named : m.channel? = some path) :
    path = Route.handshakePath ∨ path = Route.connectPath := by
  simpa [Timesync.isTimed, named] using timed

theorem timedPlace (timed : path = Route.handshakePath ∨ path = Route.connectPath) :
    ∃ channel, Channel.resolve path = .ok channel ∧ channel.path = path := by
  have valid : Channel.fault? path = none := by
    rcases timed with rfl | rfl <;> decide
  exact ⟨⟨path, valid⟩, Channel.resolveOk.mpr (Channel.parsePath ⟨path, valid⟩), rfl⟩

theorem routedTimed (process : h.process = Standard.process processing) {c : Context}
    (timed : c.channel.path = Route.handshakePath ∨ c.channel.path = Route.connectPath)
    (session : String) (s : Server σ) :
    Timed c.channel.path c.message (answerRouted h settings session c s).1 := by
  have answered := Router.respondTimed processing settings.transports session s timed
  unfold answerRouted
  rw [process]
  generalize Router.respond (Standard.process processing) settings.transports session c s =
    response at answered
  obtain ⟨result, t⟩ := response
  cases answered with
  | unread e => exact .unread
  | replied repeats => exact .replied repeats

/-- A handshake or a connect behind the extensions and the router. -/
structure TimedHeard (samples : σ → Timesync.Samples) (session : String) (m : Message)
    (path : String) (s : Server σ) (answered : Routed × Server σ) : Prop where
  routed : Timed path m answered.1
  clock : answered.2.clock = s.clock
  distinct : (samples s.memory).Distinct → (samples answered.2.memory).Distinct
  waits : (samples answered.2.memory).get? session =
    Timesync.noted (Timesync.reading s.clock) m ((samples s.memory).get? session)

theorem answerHeard (process : h.process = Standard.process processing)
    (synced : Extension.Synced samples h.extensions) (timed : Timesync.isTimed m = true)
    (named : m.channel? = some path) (settings : Settings) (session : String) (peer : Peer)
    (s : Server σ) :
    TimedHeard samples session m path s (answer h settings session peer m path s) := by
  have timedPath := timedPath timed named
  obtain ⟨channel, place, rfl⟩ := timedPlace timedPath
  obtain ⟨notices, arrives⟩ := answerArrives synced.plain settings place session peer m s
  let c : Context := ⟨transport, peer, channel, m⟩
  have memory := fun t => (sameTimesRouted process settings session c t).1
  refine ⟨?_, answerClock process synced.plain settings session peer m _ s, fun distinct => ?_, ?_⟩
  · rw [arrives]
    exact routedTimed (c := c) process timedPath session _
  · rw [arrives, memory]
    exact Extension.takeInDistinct synced.plain c distinct
  · rw [arrives, memory]
    exact Extension.takeInNoted synced c

end
end WebSocket
end Bayeux
