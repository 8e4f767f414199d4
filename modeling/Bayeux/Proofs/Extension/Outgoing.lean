import Bayeux.Carrier.Outbound
import Bayeux.Proofs.Extension.Passes
/-! The way out. Messages go through the chain one after the other, each of them once and through
all extensions until one refuses it; nothing else than what was let through, as the extensions
left it, is in the packets and in the text made of them. -/

namespace Bayeux

namespace Extension
variable {σ : Type} {extensions : List (Extension σ)} {id : String} {s t u : Server σ}

inductive GoesOut (extensions : List (Extension σ)) (id : String) :
    List Message → Server σ → List Message → Server σ → Prop where
  | nothing (s : Server σ) : GoesOut extensions id [] s [] s
  | passed {m n : Message} {rest out : List Message} {s t u : Server σ}
      (pass : outgoingPass extensions id m s = (true, n, t))
      (others : GoesOut extensions id rest t out u) :
      GoesOut extensions id (m :: rest) s (n :: out) u
  | vetoed {m n : Message} {rest out : List Message} {s t u : Server σ}
      (pass : outgoingPass extensions id m s = (false, n, t))
      (others : GoesOut extensions id rest t out u) : GoesOut extensions id (m :: rest) s out u

theorem goesOutAppend {early late left right : List Message}
    (first : GoesOut extensions id early s left t) (second : GoesOut extensions id late t right u) :
    GoesOut extensions id (early ++ late) s (left ++ right) u := by
  induction first with
  | nothing s => exact second
  | passed pass others ih => exact .passed pass (ih second)
  | vetoed pass others ih => exact .vetoed pass (ih second)

/- What every passage of a message does to the server, all of them do. -/
theorem goesOutRelated {R : Server σ → Server σ → Prop} (refl : ∀ s, R s s)
    (trans : ∀ {s t u}, R s t → R t u → R s u)
    (asks : ∀ m s, R s (outgoingPass extensions id m s).2.2) {messages out : List Message}
    (goes : GoesOut extensions id messages s out t) : R s t := by
  have asked : ∀ {m n accepted s t}, outgoingPass extensions id m s = (accepted, n, t) →
      R s t := by
    intro m n accepted s t pass
    have done := asks m s
    rwa [pass] at done
  induction goes with
  | nothing s => exact refl s
  | passed pass others ih => exact trans (asked pass) ih
  | vetoed pass others ih => exact trans (asked pass) ih

theorem goesOutMessages (extensions : List (Extension σ)) (id : String) (messages : List Message)
    (s : Server σ) : GoesOut extensions id messages s (outgoingMessages extensions id messages s).1
      (outgoingMessages extensions id messages s).2 := by
  induction messages generalizing s with
  | nil => exact .nothing s
  | cons m rest ih =>
    simp only [outgoingMessages]
    cases pass : outgoingPass extensions id m s with
    | mk accepted left =>
      obtain ⟨n, t⟩ := left
      cases accepted with
      | true => exact .passed pass (ih t)
      | false => exact .vetoed pass (ih t)

theorem goesOutPackets (extensions : List (Extension σ)) (id : String) (packets : List Packet)
    (s : Server σ) : GoesOut extensions id (packets.flatMap Packet.messages) s
      ((outgoingPackets extensions id packets s).1.flatMap Packet.messages)
      (outgoingPackets extensions id packets s).2 := by
  induction packets generalizing s with
  | nil => exact .nothing s
  | cons p rest ih =>
    simp only [outgoingPackets, List.flatMap_cons]
    exact goesOutAppend (goesOutMessages extensions id p.messages s) (ih _)

end Extension

namespace Outbound
variable {σ : Type}

/-- The text of these messages, none if there are none. -/
def ofMessages? (messages : List Message) : Option Outbound :=
  if messages.isEmpty then none else some ⟨Packet.messagesText messages, messages.length⟩

theorem goesOut (extensions : List (Extension σ)) (id : String) (packets : List Packet)
    (s : Server σ) : ∃ out, Extension.GoesOut extensions id (packets.flatMap Packet.messages) s out
        (ofPackets? extensions id packets s).2 ∧
      (ofPackets? extensions id packets s).1 = ofMessages? out := by
  refine ⟨_, Extension.goesOutPackets extensions id packets s, ?_⟩
  simp only [ofPackets?, Packet.textOfMessages, ofMessages?, List.isEmpty_iff]
  split <;> rfl

end Outbound
end Bayeux
