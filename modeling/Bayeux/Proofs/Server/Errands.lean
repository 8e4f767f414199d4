import Bayeux.Proofs.Extension.Outgoing
import Bayeux.Router
import Mathlib.Logic.Relation
/-! All that happens to a server. Errands are what a carrier does for its session: it asks the
extensions, has a message routed, waits, and lets the session end. Chores are these, the work
on the queue of a session, and its coming into the lists of the server. Nothing else changes
a server, unless somebody publishes past all carriers. -/

namespace Bayeux

namespace Server
variable {σ : Type}

inductive Errand (h : Handlers σ) (id : String) (s : Server σ) : Server σ → Prop where
  | incoming {e : Extension σ} (member : e ∈ h.extensions) (c : Context) :
      Errand h id s { s.note (.incoming e.name) with
        memory := (e.incoming s.clock id c s.memory).2.2 }
  | outgoing {e : Extension σ} (member : e ∈ h.extensions) (m : Message) :
      Errand h id s { s.note (.outgoing e.name) with
        memory := (e.outgoing s.clock id m s.memory).2.2 }
  | forgets {e : Extension σ} (member : e ∈ h.extensions) :
      Errand h id s { s.note (.forgotten e.name id) with memory := e.forget id s.memory }
  | request (transports : List String) (c : Context) :
      Errand h id s (Router.respond h.process transports id c s).2
  | waits (nanoseconds : Nat) : Errand h id s { s with clock := s.clock + nanoseconds }
  | marked : Errand h id s (s.markDisconnected id)
  | parted (abrupt : Bool) (channel? : Option Channel) :
      Errand h id s (s.disconnected id abrupt channel?)
  | removed : Errand h id s (s.removeSession id)
  | unlisted : Errand h id s { s with inProcess := s.inProcess.erase id }

def Errands (h : Handlers σ) (id : String) : Server σ → Server σ → Prop :=
  Relation.ReflTransGen (Errand h id)

inductive Chore (h : Handlers σ) (s : Server σ) : Server σ → Prop where
  | errand {id : String} {t : Server σ} (done : Errand h id s t) : Chore h s t
  | queue {β : Type} (id : String) (missing : β) (act : Queue Packet → β × Queue Packet) :
      Chore h s (s.onSession id missing fun x =>
        ((act x.deliveries).1, { x with deliveries := (act x.deliveries).2 })).2
  | placed (id : String) (session : Session) : Chore h s (s.setSession id session)
  | added (id : String) : Chore h s (s.addSession id)
  | listed (id : String) : Chore h s { s with inProcess := s.inProcess ++ [id] }
  | subscribed (id : String) (channel : Channel) : Chore h s (s.subscribed id channel)
  | unsubscribed (id : String) (channel : Channel) : Chore h s (s.unsubscribed id channel)

def Chores (h : Handlers σ) : Server σ → Server σ → Prop := Relation.ReflTransGen (Chore h)

variable {h : Handlers σ} {id : String} {s t u : Server σ}

theorem errandsRefl (s : Server σ) : Errands h id s s := .refl

theorem errandsTrans (first : Errands h id s t) (second : Errands h id t u) : Errands h id s u :=
  first.trans second

theorem errandsOnce (done : Errand h id s t) : Errands h id s t := .single done

theorem choresRefl (s : Server σ) : Chores h s s := .refl

theorem choresTrans (first : Chores h s t) (second : Chores h t u) : Chores h s u :=
  first.trans second

theorem choresOnce (done : Chore h s t) : Chores h s t := .single done

theorem choresErrands (done : Errands h id s t) : Chores h s t := by
  refine Relation.ReflTransGen.mono (fun _ _ errand => ?_) _ _ done
  exact .errand errand

theorem errandsEnded (s : Server σ) (abrupt : Bool) (channel? : Option Channel) :
    Errands h id s ((s.markDisconnected id).disconnected id abrupt channel?) :=
  errandsTrans (errandsOnce .marked) (errandsOnce (.parted abrupt channel?))

theorem choresTakeDeliveries (s : Server σ) (id : String) : Chores h s (s.takeDeliveries id).2 :=
  choresOnce (.queue id [] Queue.takeAll)

theorem choresCloseDeliveries (s : Server σ) (id : String) : Chores h s (s.closeDeliveries id) :=
  choresOnce (.queue id () fun q => ((), q.close))

theorem choresDeliver (s : Server σ) (id : String) (p : Packet) :
    Chores h s (s.deliver id p).2 :=
  choresOnce (.queue id false fun q => q.offer p)

end Server

namespace Extension
variable {σ : Type} {h : Handlers σ} {id : String} {s t : Server σ}
  {extensions : List (Extension σ)}

theorem errandsIncomingPass (among : extensions ⊆ h.extensions) (c : Context)
    (s : Server σ) : Server.Errands h id s (incomingPass extensions id c s).2.2 :=
  incomingPassRelated Server.errandsRefl Server.errandsTrans
    (fun _ inside c _ => Server.errandsOnce (.incoming (among inside) c)) c s

theorem errandsOutgoingPass (among : extensions ⊆ h.extensions) (m : Message)
    (s : Server σ) : Server.Errands h id s (outgoingPass extensions id m s).2.2 :=
  outgoingPassRelated Server.errandsRefl Server.errandsTrans
    (fun _ inside m _ => Server.errandsOnce (.outgoing (among inside) m)) m s

theorem errandsGoesOut {messages out : List Message}
    (goes : GoesOut h.extensions id messages s out t) : Server.Errands h id s t :=
  goesOutRelated Server.errandsRefl Server.errandsTrans
    (errandsOutgoingPass (List.Subset.refl _)) goes

theorem errandsForgetPass (among : extensions ⊆ h.extensions) (s : Server σ) :
    Server.Errands h id s (forgetPass extensions id s) :=
  forgetPassRelated Server.errandsRefl Server.errandsTrans
    (fun _ inside _ => Server.errandsOnce (.forgets (among inside))) s

theorem errandsDismissed (s : Server σ) :
    Server.Errands h id s (forgetPass h.extensions id (s.removeSession id)) :=
  Server.errandsTrans (Server.errandsOnce .removed)
    (errandsForgetPass (List.Subset.refl _) _)

end Extension

theorem Outbound.errands {σ : Type} {h : Handlers σ} {id : String} (packets : List Packet)
    (s : Server σ) : Server.Errands h id s (ofPackets? h.extensions id packets s).2 := by
  obtain ⟨out, goes, -⟩ := goesOut h.extensions id packets s
  exact Extension.errandsGoesOut goes

end Bayeux
