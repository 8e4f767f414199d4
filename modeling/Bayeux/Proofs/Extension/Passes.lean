import Bayeux.Extension
/-! What holds of the server before and after each single extension has been asked, and goes on
from one to the next, holds before and after a whole pass. -/

namespace Bayeux.Extension
variable {σ : Type} {R : Server σ → Server σ → Prop} {extensions : List (Extension σ)}
  {id : String}

theorem incomingPassRelated (refl : ∀ s, R s s) (trans : ∀ {s t u}, R s t → R t u → R s u)
    (asks : ∀ e ∈ extensions, ∀ c s, R s
      { s.note (.incoming e.name) with memory := (e.incoming s.clock id c s.memory).2.2 })
    (c : Context) (s : Server σ) : R s (incomingPass extensions id c s).2.2 := by
  induction extensions generalizing c s with
  | nil => exact refl s
  | cons e rest ih =>
    obtain ⟨here, others⟩ := List.forall_mem_cons.mp asks
    unfold incomingPass
    simp only
    split
    · exact trans (here c s) (ih others _ _)
    · exact here c s

/- The same for the message and what is known of it. -/
theorem incomingPassContext {K : Context → Context → Prop} (refl : ∀ c, K c c)
    (trans : ∀ {c d e}, K c d → K d e → K c e)
    (keeps : ∀ e ∈ extensions, ∀ clock c memory, K c (e.incoming clock id c memory).2.1)
    (c : Context) (s : Server σ) : K c (incomingPass extensions id c s).2.1 := by
  induction extensions generalizing c s with
  | nil => exact refl c
  | cons e rest ih =>
    obtain ⟨here, others⟩ := List.forall_mem_cons.mp keeps
    unfold incomingPass
    simp only
    split
    · exact trans (here _ c _) (ih others _ _)
    · exact here _ c _

theorem outgoingPassRelated (refl : ∀ s, R s s) (trans : ∀ {s t u}, R s t → R t u → R s u)
    (asks : ∀ e ∈ extensions, ∀ m s, R s
      { s.note (.outgoing e.name) with memory := (e.outgoing s.clock id m s.memory).2.2 })
    (m : Message) (s : Server σ) : R s (outgoingPass extensions id m s).2.2 := by
  induction extensions generalizing m s with
  | nil => exact refl s
  | cons e rest ih =>
    obtain ⟨here, others⟩ := List.forall_mem_cons.mp asks
    unfold outgoingPass
    simp only
    split
    · exact trans (here m s) (ih others _ _)
    · exact here m s

theorem outgoingMessagesRelated (refl : ∀ s, R s s) (trans : ∀ {s t u}, R s t → R t u → R s u)
    (passes : ∀ m s, R s (outgoingPass extensions id m s).2.2) (messages : List Message)
    (s : Server σ) : R s (outgoingMessages extensions id messages s).2 := by
  induction messages generalizing s with
  | nil => exact refl s
  | cons m rest ih => exact trans (passes m s) (ih _)

theorem outgoingPacketsRelated (refl : ∀ s, R s s) (trans : ∀ {s t u}, R s t → R t u → R s u)
    (passes : ∀ m s, R s (outgoingPass extensions id m s).2.2) (packets : List Packet)
    (s : Server σ) : R s (outgoingPackets extensions id packets s).2 := by
  induction packets generalizing s with
  | nil => exact refl s
  | cons p rest ih =>
    exact trans (outgoingMessagesRelated refl trans passes p.messages s) (ih _)

theorem forgetPassRelated (refl : ∀ s, R s s) (trans : ∀ {s t u}, R s t → R t u → R s u)
    (forgets : ∀ e ∈ extensions, ∀ s, R s
      { s.note (.forgotten e.name id) with memory := e.forget id s.memory })
    (s : Server σ) : R s (forgetPass extensions id s) := by
  unfold forgetPass
  induction extensions generalizing s with
  | nil => exact refl s
  | cons e rest ih =>
    obtain ⟨here, others⟩ := List.forall_mem_cons.mp forgets
    exact trans (here s) (ih others _)

end Bayeux.Extension
