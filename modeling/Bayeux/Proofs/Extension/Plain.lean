import Bayeux.Proofs.Extension.Chain
import Bayeux.Proofs.Extension.Lenient
/-! Chains of extensions that let everything pass, with the clock synchronisation anywhere among
them. What such an extension does with a message of a session depends on the sample of that
session, and it leaves the samples of the others alone. -/

namespace Bayeux

namespace Timesync
variable {now : Int} {id : String} {m : Message} {left right : Samples}

theorem recordOwn (same : right.get? id = left.get? id) :
    (record now id m right).get? id = (record now id m left).get? id := by
  unfold record
  split
  · split
    · rw [Table.getPutSame, Table.getPutSame, same]
    · exact same
  · exact same

theorem answeredOwn (same : right.get? id = left.get? id) :
    answered? id m right = answered? id m left := by
  simp only [answered?, same]

theorem removeOwn (distinct : left.Distinct) (distinct' : right.Distinct) :
    (Table.remove right id).get? id = (Table.remove left id).get? id := by
  rw [Table.getRemoveSame distinct, Table.getRemoveSame distinct']

theorem answerOwn (distinct : left.Distinct) (distinct' : right.Distinct)
    (same : right.get? id = left.get? id) :
    (answer now id m right).1 = (answer now id m left).1 ∧
      (answer now id m right).2.get? id = (answer now id m left).2.get? id := by
  simp only [answer, answeredOwn same]
  cases answered? id m left with
  | none => exact ⟨rfl, same⟩
  | some sample => exact ⟨rfl, removeOwn distinct distinct'⟩

end Timesync

namespace Extension
variable {σ : Type} {samples : σ → Timesync.Samples} {e : Extension σ} {id other : String}
  {memory memory' : σ}

/-- Lets everything pass and leaves the samples alone, or is the clock synchronisation. -/
def Plain (samples : σ → Timesync.Samples) (e : Extension σ) : Prop :=
  e.Synchronises samples ∨ e.Lenient ∧ e.Ignores samples

theorem plainFits (plain : e.Plain samples) : e.Fits samples :=
  plain.imp id And.right

theorem synchronisesIncoming (sync : e.Synchronises samples) (clock : Nat) (id : String)
    (c : Context) (memory : σ) :
    (e.incoming clock id c memory).1 = true ∧ (e.incoming clock id c memory).2.1 = c ∧
      samples (e.incoming clock id c memory).2.2 =
        Timesync.record (Timesync.reading clock) id c.message (samples memory) := by
  simpa only [Timesync.extension, Prod.mk.injEq] using sync.incoming clock id c memory

theorem synchronisesOutgoing (sync : e.Synchronises samples) (clock : Nat) (id : String)
    (m : Message) (memory : σ) :
    (e.outgoing clock id m memory).1 = true ∧
      (e.outgoing clock id m memory).2.1 =
        (Timesync.answer (Timesync.reading clock) id m (samples memory)).1 ∧
      samples (e.outgoing clock id m memory).2.2 =
        (Timesync.answer (Timesync.reading clock) id m (samples memory)).2 := by
  simpa only [Timesync.extension, Prod.mk.injEq, Prod.ext_iff] using
    sync.outgoing clock id m memory

theorem plainArrives (plain : e.Plain samples) (clock : Nat) (id : String) (c : Context)
    (memory : σ) :
    (e.incoming clock id c memory).1 = true ∧ (e.incoming clock id c memory).2.1 = c := by
  rcases plain with sync | ⟨lenient, -⟩
  · obtain ⟨accepted, kept, -⟩ := synchronisesIncoming sync clock id c memory
    exact ⟨accepted, kept⟩
  · exact lenient.incoming clock id c memory

theorem plainLeaves (plain : e.Plain samples) (clock : Nat) (id : String) (m : Message)
    (memory : σ) : (e.outgoing clock id m memory).1 = true := by
  rcases plain with sync | ⟨lenient, -⟩
  · exact (synchronisesOutgoing sync clock id m memory).1
  · exact (lenient.outgoing clock id m memory).1

/- The samples of the others. -/

theorem incomingOther (fits : e.Fits samples) (clock : Nat) (c : Context)
    (different : other ≠ id) :
    (samples (e.incoming clock id c memory).2.2).get? other = (samples memory).get? other := by
  rcases fits with sync | ignores
  · rw [(synchronisesIncoming sync clock id c memory).2.2]
    exact Timesync.recordOther different
  · rw [ignores.incoming]

theorem outgoingOther (fits : e.Fits samples) (clock : Nat) (m : Message)
    (different : other ≠ id) :
    (samples (e.outgoing clock id m memory).2.2).get? other = (samples memory).get? other := by
  rcases fits with sync | ignores
  · rw [(synchronisesOutgoing sync clock id m memory).2.2]
    exact Timesync.answerOther different
  · rw [ignores.outgoing]

theorem forgetOther (fits : e.Fits samples) (different : other ≠ id) :
    (samples (e.forget id memory)).get? other = (samples memory).get? other := by
  rcases fits with sync | ignores
  · rw [sync.forget]
    exact Table.getRemoveOther _ different
  · rw [ignores.forget]

/- The sample of the session itself, for two memories that agree on it. -/

theorem incomingOwn (fits : e.Fits samples) (clock : Nat) (c : Context)
    (same : (samples memory').get? id = (samples memory).get? id) :
    (samples (e.incoming clock id c memory').2.2).get? id =
      (samples (e.incoming clock id c memory).2.2).get? id := by
  rcases fits with sync | ignores
  · rw [(synchronisesIncoming sync clock id c memory).2.2,
      (synchronisesIncoming sync clock id c memory').2.2]
    exact Timesync.recordOwn same
  · rw [ignores.incoming, ignores.incoming, same]

theorem outgoingOwn (plain : e.Plain samples) (clock : Nat) (m : Message)
    (distinct : (samples memory).Distinct) (distinct' : (samples memory').Distinct)
    (same : (samples memory').get? id = (samples memory).get? id) :
    (e.outgoing clock id m memory').2.1 = (e.outgoing clock id m memory).2.1 ∧
      (samples (e.outgoing clock id m memory').2.2).get? id =
        (samples (e.outgoing clock id m memory).2.2).get? id := by
  rcases plain with sync | ⟨lenient, ignores⟩
  · obtain ⟨-, message, kept⟩ := synchronisesOutgoing sync clock id m memory
    obtain ⟨-, message', kept'⟩ := synchronisesOutgoing sync clock id m memory'
    rw [message, message', kept, kept']
    exact Timesync.answerOwn distinct distinct' same
  · rw [(lenient.outgoing clock id m memory).2, (lenient.outgoing clock id m memory').2,
      ignores.outgoing, ignores.outgoing]
    exact ⟨rfl, same⟩

theorem forgetOwn (fits : e.Fits samples) (distinct : (samples memory).Distinct)
    (distinct' : (samples memory').Distinct)
    (same : (samples memory').get? id = (samples memory).get? id) :
    (samples (e.forget id memory')).get? id = (samples (e.forget id memory)).get? id := by
  rcases fits with sync | ignores
  · rw [sync.forget, sync.forget]
    exact Timesync.removeOwn distinct distinct'
  · rw [ignores.forget, ignores.forget, same]

end Extension
end Bayeux
