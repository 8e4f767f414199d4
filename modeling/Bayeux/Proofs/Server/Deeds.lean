import Bayeux.Carrier.Outbound
import Bayeux.Proofs.Extension.Passes
import Bayeux.Proofs.Server.Effects
import Mathlib.Logic.Relation
/-! What a carrier may do to the server while its connection lasts. It lets the extensions see a
message, has one processed that it was asked to, waits, or takes what was delivered. All
else that it does is a sequence of these, apart from a disconnect that takes effect. -/

namespace Bayeux

namespace Server
variable {σ : Type}

inductive Deed (h : Handlers σ) (transports : List String) (id : String) (asks : Context → Prop)
    (s : Server σ) : Server σ → Prop where
  | incoming (extension : String) (memory : σ) :
      Deed h transports id asks s { s.note (.incoming extension) with memory }
  | outgoing (extension : String) (memory : σ) :
      Deed h transports id asks s { s.note (.outgoing extension) with memory }
  | request (c : Context) (asked : asks c) :
      Deed h transports id asks s (Router.respond h.process transports id c s).2
  | waits (nanoseconds : Nat) :
      Deed h transports id asks s { s with clock := s.clock + nanoseconds }
  | takes : Deed h transports id asks s (s.takeDeliveries id).2
  | stops : Deed h transports id asks s (s.closeDeliveries id)

def Quietly (h : Handlers σ) (transports : List String) (id : String) (asks : Context → Prop) :
    Server σ → Server σ → Prop :=
  Relation.ReflTransGen (Deed h transports id asks)

variable {h : Handlers σ} {transports : List String} {id : String} {asks more : Context → Prop}
  {s t u : Server σ}

theorem quietlyRefl (s : Server σ) : Quietly h transports id asks s s := .refl

theorem quietlyTrans (first : Quietly h transports id asks s t)
    (second : Quietly h transports id asks t u) : Quietly h transports id asks s u :=
  first.trans second

theorem quietlyOnce (deed : Deed h transports id asks s t) : Quietly h transports id asks s t :=
  .single deed

theorem quietlyMore (wider : ∀ c, asks c → more c) (quiet : Quietly h transports id asks s t) :
    Quietly h transports id more s t := by
  refine Relation.ReflTransGen.mono (fun a b deed => ?_) _ _ quiet
  cases deed with
  | request c asked => exact .request c (wider c asked)
  | incoming extension memory => exact .incoming extension memory
  | outgoing extension memory => exact .outgoing extension memory
  | waits nanoseconds => exact .waits nanoseconds
  | takes => exact .takes
  | stops => exact .stops

end Server

namespace Extension
variable {σ : Type} {h : Handlers σ} {transports : List String} {id : String}
  {asks : Context → Prop}

/-- All extensions let the message through, and leave it like this. -/
def Passed (extensions : List (Extension σ)) (id : String) (arrived c : Context) : Prop :=
  ∃ s : Server σ, (incomingPass extensions id arrived s).1 = true ∧
    (incomingPass extensions id arrived s).2.1 = c

theorem quietlyIncomingPass (extensions : List (Extension σ)) (c : Context) (s : Server σ) :
    Server.Quietly h transports id asks s (incomingPass extensions id c s).2.2 :=
  incomingPassRelated Server.quietlyRefl Server.quietlyTrans
    (fun e _ _ _ => Server.quietlyOnce (.incoming e.name _)) c s

theorem quietlyOutgoingPass (extensions : List (Extension σ)) (m : Message) (s : Server σ) :
    Server.Quietly h transports id asks s (outgoingPass extensions id m s).2.2 :=
  outgoingPassRelated Server.quietlyRefl Server.quietlyTrans
    (fun e _ _ _ => Server.quietlyOnce (.outgoing e.name _)) m s

theorem quietlyOutgoingPackets (extensions : List (Extension σ)) (packets : List Packet)
    (s : Server σ) :
    Server.Quietly h transports id asks s (outgoingPackets extensions id packets s).2 :=
  outgoingPacketsRelated Server.quietlyRefl Server.quietlyTrans (quietlyOutgoingPass extensions)
    packets s

end Extension

theorem Outbound.quietly {σ : Type} {h : Handlers σ} {transports : List String} {id : String}
    {asks : Context → Prop} (extensions : List (Extension σ)) (packets : List Packet)
    (s : Server σ) :
    Server.Quietly h transports id asks s (ofPackets? extensions id packets s).2 :=
  Extension.quietlyOutgoingPackets extensions packets s

namespace Route

def path? : Route → Option String
  | .handshake => some handshakePath
  | .connect => some connectPath
  | .disconnect => some disconnectPath
  | .subscribe => some subscribePath
  | .unsubscribe => some unsubscribePath
  | _ => none

theorem pathOnly {path only : String} (operation : (ofPath path).path? = some only) :
    path = only := by
  unfold ofPath path? at operation
  grind

end Route

namespace Router
variable {σ : Type} {process : Processor σ} {transports : List String} {id : String} {c : Context}
  {s : Server σ} {routed : Routed} {channel : Channel}

theorem disconnectsRoute {request : Request} {event? : Option SessionEvent}
    (read : Request.ReadAs c.message (Route.ofPath c.channel.path) request)
    (asked : disconnects c request event? = some channel) :
    channel = c.channel ∧ Route.ofPath c.channel.path = .disconnect := by
  generalize Route.ofPath c.channel.path = route at read
  cases read with
  | disconnect read =>
    cases event? with
    | none => cases asked
    | some event => cases event <;> cases asked; exact ⟨rfl, rfl⟩
  | handshake read => cases asked
  | connect read => cases asked
  | subscribe read => cases asked
  | unsubscribe read => cases asked
  | publish read => cases asked

theorem respondDisconnects (answered : (respond process transports id c s).1 = .ok routed)
    (asked : routed.disconnect? = some channel) :
    channel = c.channel ∧ channel.path = Route.disconnectPath := by
  obtain ⟨result, after, outcome, handled⟩ := handled process transports id c s
  rw [outcome] at answered
  cases handled with
  | unprocessed closed =>
    cases answered
    cases asked
  | undecodable reader fault => cases answered
  | failed read answer => cases answered
  | answered read answer =>
    cases answered
    obtain ⟨rfl, route⟩ := disconnectsRoute read asked
    exact ⟨rfl, Route.pathOnly (congrArg Route.path? route)⟩

end Router
end Bayeux
