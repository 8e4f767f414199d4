import Bayeux.Proofs.Extension.Chain
import Bayeux.Proofs.Server.Deeds
/-! What the server hears of the coming and going of a session. Deeds are not heard of in this
way, whoever does them, and so do not bring a session back that has ended. -/

namespace Bayeux

def Notice.announces (id : String) : Notice → Bool
  | .added session | .removed session | .disconnected session _ _ | .forgotten _ session =>
    session == id
  | _ => false

namespace Server
variable {σ : Type} {s t u : Server σ} {id own : String}

def announced (id : String) (s : Server σ) : List Notice :=
  (s.notices.filter (Notice.announces id)).reverse

theorem announcedNote (s : Server σ) (id : String) (notice : Notice) :
    (s.note notice).announced id =
      s.announced id ++ if notice.announces id then [notice] else [] := by
  simp only [announced, note, List.filter_cons]
  split <;> simp

/-- Nothing is announced of the session, it does not come back, and none is opened. -/
structure Spares (id : String) (s t : Server σ) : Prop where
  announced : t.announced id = s.announced id
  ended : s.stateOf id = .disconnected → t.stateOf id = .disconnected
  names : Table.keys t.sessions = Table.keys s.sessions

theorem sparesRefl (s : Server σ) : s.Spares id s := ⟨rfl, fun ended => ended, rfl⟩

theorem sparesTrans (first : s.Spares id t) (second : t.Spares id u) : s.Spares id u :=
  ⟨second.announced.trans first.announced, fun ended => second.ended (first.ended ended),
    second.names.trans first.names⟩

theorem sparesAside (notices : t.notices = s.notices) (sessions : t.sessions = s.sessions) :
    s.Spares id t :=
  ⟨by simp only [announced, notices], fun ended => by simpa only [stateOf, session?, sessions],
    congrArg Table.keys sessions⟩

theorem sparesNote (s : Server σ) {notice : Notice} (other : notice.announces id = false) :
    s.Spares id (s.note notice) :=
  ⟨by simp [announcedNote, other], fun ended => ended, rfl⟩

theorem sparesOnRegistry (s : Server σ) (act : Registry → Registry) :
    s.Spares id (s.onRegistry act) :=
  sparesAside rfl rfl

theorem sparesOnSession {β : Type} (s : Server σ) (own : String) (missing : β)
    {act : Session → β × Session}
    (ended : ∀ x : Session, x.state = .disconnected → (act x).2.state = .disconnected) :
    s.Spares id (s.onSession own missing act).2 := by
  have frame := onSessionFrame s own missing act
  have session := sessionOnSession s own id missing act
  have names := keysOnSession s own missing act
  generalize (s.onSession own missing act).2 = t at frame session names
  refine ⟨by rw [frame]; rfl, fun before => ?_, names⟩
  unfold stateOf at before ⊢
  rw [session]
  split
  · rename_i found
    split at found
    · rename_i same
      subst same
      obtain ⟨x, here, rfl⟩ := Option.map_eq_some_iff.mp found
      exact ended x (by simpa only [here] using before)
    · simpa only [found] using before
  · rfl

theorem sparesDeliver (s : Server σ) (own : String) (p : Packet) :
    s.Spares id (s.deliver own p).2 :=
  sparesOnSession s own false fun _ ended => ended

theorem sparesTakeDeliveries (s : Server σ) (own : String) :
    s.Spares id (s.takeDeliveries own).2 :=
  sparesOnSession s own [] fun _ ended => ended

theorem sparesCloseDeliveries (s : Server σ) (own : String) :
    s.Spares id (s.closeDeliveries own) :=
  sparesOnSession s own () fun _ ended => ended

theorem sparesTransition (s : Server σ) (own : String) {before after : SessionState}
    (alive : before ≠ .disconnected) : s.Spares id (s.transition own before after).2 := by
  refine sparesOnSession s own false fun x ended => ?_
  unfold Session.transition
  split
  · rename_i here
    exact absurd (here.symm.trans ended) alive
  · exact ended

theorem sparesMark (s : Server σ) (own : String) : s.Spares id (s.markDisconnected own) :=
  sparesOnSession s own false fun _ _ => rfl

theorem sparesPublish (s : Server σ) (sender? : Option String) (p : Packet) :
    s.Spares id (s.publish sender? p).2 :=
  publishKeeps sparesRefl sparesTrans sparesDeliver (fun s _ _ => sparesNote s rfl) s sender? p

end Server

/-- The coming and going of sessions is not for the processors to bring about. -/
def Discreet {σ : Type} (process : Processor σ) : Prop :=
  ∀ transports own c request (s : Server σ) id, s.Spares id (process transports own c request s).2

theorem Standard.discreet {σ : Type} (settings : Settings) :
    Discreet (process settings : Processor σ) := by
  intro transports own c request s id
  obtain ⟨done, after, processed, effect⟩ := processEffect settings transports own c request s
  rw [processed]
  cases effect with
  | handshook succeeded state shared => exact Server.sparesTransition s own (by decide)
  | connected succeeded mine state transport => exact Server.sparesTransition s own (by decide)
  | published succeeded mine state answer routed => exact Server.sparesPublish s _ _
  | refused failed => exact Server.sparesRefl s
  | reconnected succeeded mine state => exact Server.sparesRefl s
  | leaving succeeded => exact Server.sparesRefl s
  | subscribed succeeded mine state asked => exact Server.sparesRefl s
  | unsubscribed succeeded mine state asked => exact Server.sparesRefl s

namespace Server
variable {σ : Type} {h : Handlers σ} {transports : List String} {asks : Context → Prop}
  {s t u : Server σ} {id own : String}

theorem sparesNotify (own : String) (c : Context) (s : Server σ) (request : Request)
    (event? : Option SessionEvent) : s.Spares id (Router.notify own c s request event?) := by
  unfold Router.notify
  split
  · exact sparesNote s rfl
  · exact sparesTrans (sparesNote s rfl) (sparesOnRegistry _ _)
  · exact sparesTrans (sparesNote s rfl) (sparesOnRegistry _ _)
  · exact sparesRefl s

theorem sparesRespond {process : Processor σ} (discreet : Discreet process)
    (transports : List String) (own : String) (c : Context) (s : Server σ) :
    s.Spares id (Router.respond process transports own c s).2 :=
  Router.respondRelated sparesRefl sparesTrans
    (fun request => discreet transports own c request s id) (sparesNotify own c)

theorem sparesDeed (discreet : Discreet h.process) (deed : Deed h transports own asks s t) :
    s.Spares id t := by
  cases deed with
  | incoming extension memory => exact ⟨(sparesNote s rfl).announced, fun ended => ended, rfl⟩
  | outgoing extension memory => exact ⟨(sparesNote s rfl).announced, fun ended => ended, rfl⟩
  | request c asked => exact sparesRespond discreet transports own c s
  | waits nanoseconds => exact sparesAside rfl rfl
  | takes => exact sparesTakeDeliveries s own
  | stops => exact sparesCloseDeliveries s own

theorem sparesQuietly (discreet : Discreet h.process) (quiet : Quietly h transports own asks s t) :
    s.Spares id t := by
  induction quiet with
  | refl => exact sparesRefl s
  | tail _ deed ih => exact sparesTrans ih (sparesDeed discreet deed)

/- What is announced of a session when it ends. -/
theorem stateMarked (s : Server σ) (id : String) :
    (s.markDisconnected id).stateOf id = .disconnected := by
  have session := sessionOnSession s id id false Session.markDisconnected
  unfold stateOf markDisconnected
  rw [session, if_pos rfl]
  cases s.session? id <;> rfl

theorem announcedDisconnected (s : Server σ) (id : String) (abrupt : Bool)
    (channel? : Option Channel) :
    ((s.markDisconnected id).disconnected id abrupt channel?).announced id =
      s.announced id ++ [.disconnected id abrupt (channel?.map Channel.path)] := by
  have noted := announcedNote (s.markDisconnected id) id
    (.disconnected id abrupt (channel?.map Channel.path))
  simp only [Notice.announces, beq_self_eq_true, if_true] at noted
  exact noted.trans (congrArg (· ++ _) (sparesMark s id).announced)

theorem sparesDisconnected (s : Server σ) (abrupt : Bool) (channel? : Option Channel)
    (different : own ≠ id) :
    s.Spares id ((s.markDisconnected own).disconnected own abrupt channel?) :=
  sparesTrans (sparesMark s own) (sparesTrans (sparesNote _ (by simp [Notice.announces, different]))
    (sparesOnRegistry _ _))

theorem announcedForgetPass (extensions : List (Extension σ)) (id : String) (s : Server σ) :
    (Extension.forgetPass extensions id s).announced id =
      s.announced id ++ extensions.map fun e => .forgotten e.name id := by
  unfold Extension.forgetPass
  induction extensions generalizing s with
  | nil => simp
  | cons e rest ih =>
    have noted : (s.note (.forgotten e.name id)).announced id =
        s.announced id ++ [.forgotten e.name id] := by
      have noted := announcedNote s id (.forgotten e.name id)
      simp only [Notice.announces, beq_self_eq_true, if_true] at noted
      exact noted
    refine (ih { s.note (.forgotten e.name id) with memory := e.forget id s.memory }).trans ?_
    rw [List.map_cons, ← List.singleton_append, ← List.append_assoc, ← noted]
    rfl

theorem sparesForgetPass (extensions : List (Extension σ)) (s : Server σ) (different : own ≠ id) :
    s.Spares id (Extension.forgetPass extensions own s) := by
  refine Extension.forgetPassRelated sparesRefl sparesTrans (fun e _ s => ?_) s
  have noted : s.Spares id (s.note (.forgotten e.name own)) :=
    sparesNote s (by simp [Notice.announces, different])
  exact ⟨noted.announced, noted.ended, rfl⟩

theorem announcedDismissed (extensions : List (Extension σ)) (id : String) (s : Server σ) :
    (Extension.forgetPass extensions id (s.removeSession id)).announced id =
      s.announced id ++ .removed id :: extensions.map fun e => .forgotten e.name id := by
  have noted := announcedNote s id (.removed id)
  simp only [Notice.announces, beq_self_eq_true, if_true] at noted
  refine (announcedForgetPass extensions id _).trans ?_
  rw [List.append_cons]
  exact congrArg (· ++ _) noted

theorem stateDismissed (extensions : List (Extension σ)) (own id : String) (s : Server σ) :
    (Extension.forgetPass extensions own (s.removeSession own)).stateOf id = s.stateOf id := by
  rw [Extension.forgetPassFrame]
  rfl

theorem sparesDismissed (extensions : List (Extension σ)) (s : Server σ) (different : own ≠ id) :
    s.Spares id (Extension.forgetPass extensions own (s.removeSession own)) := by
  have removed : s.Spares id (s.removeSession own) :=
    sparesTrans (sparesNote s (by simp [Notice.announces, different])) (sparesOnRegistry _ _)
  exact sparesTrans removed (sparesForgetPass extensions _ different)

end Server
end Bayeux
