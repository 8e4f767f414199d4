import Bayeux.Proofs.Extension.Outgoing
/-! Extensions that let everything pass. Behind a chain of them a message arrives as it was sent,
what is written is what was to be written, and the server has changed in nothing but what the
extensions remember and the notes that they were asked. -/

namespace Bayeux

namespace Extension
variable {σ : Type} {extensions : List (Extension σ)}

structure Lenient (e : Extension σ) : Prop where
  incoming : ∀ clock id c memory, (e.incoming clock id c memory).1 = true ∧
    (e.incoming clock id c memory).2.1 = c
  outgoing : ∀ clock id m memory, (e.outgoing clock id m memory).1 = true ∧
    (e.outgoing clock id m memory).2.1 = m

theorem lenientIncoming (lenient : ∀ e ∈ extensions, e.Lenient) (id : String) (c : Context)
    (s : Server σ) :
    ∃ memory notices, incomingPass extensions id c s = (true, c, { s with memory, notices }) := by
  induction extensions generalizing s with
  | nil => exact ⟨s.memory, s.notices, rfl⟩
  | cons e rest ih =>
    obtain ⟨accepted, kept⟩ := (lenient e (by simp)).incoming s.clock id c s.memory
    unfold incomingPass
    simp only [accepted, kept, if_true]
    exact ih (fun e inside => lenient e (by simp [inside])) _

theorem lenientOutgoing (lenient : ∀ e ∈ extensions, e.Lenient) (id : String) (m : Message)
    (s : Server σ) :
    ∃ memory notices, outgoingPass extensions id m s = (true, m, { s with memory, notices }) := by
  induction extensions generalizing s with
  | nil => exact ⟨s.memory, s.notices, rfl⟩
  | cons e rest ih =>
    obtain ⟨accepted, kept⟩ := (lenient e (by simp)).outgoing s.clock id m s.memory
    unfold outgoingPass
    simp only [accepted, kept, if_true]
    exact ih (fun e inside => lenient e (by simp [inside])) _

theorem lenientGoesOut (lenient : ∀ e ∈ extensions, e.Lenient) {id : String}
    {messages out : List Message} {s t : Server σ} (goes : GoesOut extensions id messages s out t) :
    out = messages ∧ ∃ memory notices, t = { s with memory, notices } := by
  induction goes with
  | nothing s => exact ⟨rfl, s.memory, s.notices, rfl⟩
  | @passed m n rest out s t u pass others ih =>
    obtain ⟨memory, notices, kept⟩ := lenientOutgoing lenient id m s
    rw [kept] at pass
    cases pass
    obtain ⟨rfl, same⟩ := ih
    exact ⟨rfl, same⟩
  | @vetoed m n rest out s t u pass others ih =>
    obtain ⟨memory, notices, kept⟩ := lenientOutgoing lenient id m s
    rw [kept] at pass
    cases pass

end Extension

theorem Extension.lenientPackets {σ : Type} {extensions : List (Extension σ)}
    (lenient : ∀ e ∈ extensions, e.Lenient) (id : String) (packets : List Packet) (s : Server σ) :
    ∃ memory notices, (outgoingPackets extensions id packets s).2 = { s with memory, notices } ∧
      Packet.textOfAll? (outgoingPackets extensions id packets s).1 =
        Packet.textOfAll? packets := by
  obtain ⟨same, memory, notices, server⟩ :=
    lenientGoesOut lenient (goesOutPackets extensions id packets s)
  exact ⟨memory, notices, server, by rw [Packet.textOfMessages, same, ← Packet.textOfMessages]⟩

end Bayeux
