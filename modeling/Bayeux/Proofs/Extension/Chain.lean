import Bayeux.Proofs.Extension.Passes
import Bayeux.Proofs.Server.Orderly
/-! A chain of extensions with the clock synchronisation somewhere in it. The others may change
and refuse messages and remember what they like, but leave the samples alone. A pass over
an arriving message may leave a sample for its session and for no other, a pass over a
leaving one leaves none, and a session that is forgotten has none. -/

namespace Bayeux

namespace Timesync

/-- Samples for others than `may` were there before. -/
structure Moves (may : String → Prop) (before after : Samples) : Prop where
  distinct : before.Distinct → after.Distinct
  keys : ∀ id ∈ Table.keys after, id ∈ Table.keys before ∨ may id

theorem movesRefl (may : String → Prop) (samples : Samples) : Moves may samples samples :=
  ⟨id, fun _ inside => .inl inside⟩

theorem movesTrans {may : String → Prop} {before between after : Samples}
    (first : Moves may before between) (second : Moves may between after) :
    Moves may before after := by
  refine ⟨second.distinct ∘ first.distinct, fun id inside => ?_⟩
  rcases second.keys id inside with old | new
  · exact first.keys id old
  · exact .inr new

theorem movesRecord (now : Int) (session : String) (m : Message) (samples : Samples) :
    Moves (· = session) samples (record now session m samples) := by
  unfold record
  split
  · split
    · refine ⟨fun distinct => Table.distinctPut distinct _ _, fun id inside => ?_⟩
      rw [Table.keysPut] at inside
      split at inside
      · exact .inl inside
      · simpa using inside
    · exact movesRefl _ samples
  · exact movesRefl _ samples

theorem movesRemove (may : String → Prop) (session : String) (samples : Samples) :
    Moves may samples (samples.remove session) := by
  refine ⟨fun distinct => Table.distinctRemove distinct _, fun id inside => .inl ?_⟩
  rw [Table.keysRemove] at inside
  exact List.mem_of_mem_erase inside

theorem movesAnswer (may : String → Prop) (now : Int) (session : String) (m : Message)
    (samples : Samples) : Moves may samples (answer now session m samples).2 := by
  unfold answer
  split
  · exact movesRemove may session samples
  · exact movesRefl may samples

end Timesync

namespace Extension
variable {σ : Type} {samples : σ → Timesync.Samples} {extensions : List (Extension σ)}

/-- Seen through `samples`, the extension is the clock synchronisation. -/
structure Synchronises (samples : σ → Timesync.Samples) (e : Extension σ) : Prop where
  incoming : ∀ clock id c memory,
    ((e.incoming clock id c memory).1, (e.incoming clock id c memory).2.1,
      samples (e.incoming clock id c memory).2.2) =
      Timesync.extension.incoming clock id c (samples memory)
  outgoing : ∀ clock id m memory,
    ((e.outgoing clock id m memory).1, (e.outgoing clock id m memory).2.1,
      samples (e.outgoing clock id m memory).2.2) =
      Timesync.extension.outgoing clock id m (samples memory)
  forget : ∀ id memory,
    samples (e.forget id memory) = Timesync.extension.forget id (samples memory)

structure Ignores (samples : σ → Timesync.Samples) (e : Extension σ) : Prop where
  incoming : ∀ clock id c memory, samples (e.incoming clock id c memory).2.2 = samples memory
  outgoing : ∀ clock id m memory, samples (e.outgoing clock id m memory).2.2 = samples memory
  forget : ∀ id memory, samples (e.forget id memory) = samples memory

def Fits (samples : σ → Timesync.Samples) (e : Extension σ) : Prop :=
  e.Synchronises samples ∨ e.Ignores samples

structure Timed (samples : σ → Timesync.Samples) (extensions : List (Extension σ)) : Prop where
  each : ∀ e ∈ extensions, e.Fits samples
  present : ∃ e ∈ extensions, e.Synchronises samples

theorem movesIncoming {e : Extension σ} (fits : e.Fits samples)
    (clock : Nat) (id : String) (c : Context) (memory : σ) :
    Timesync.Moves (· = id) (samples memory) (samples (e.incoming clock id c memory).2.2) := by
  rcases fits with sync | other
  · have after := congrArg (fun answer => answer.2.2) (sync.incoming clock id c memory)
    simp only at after
    rw [after]
    exact Timesync.movesRecord _ id c.message _
  · rw [other.incoming]
    exact Timesync.movesRefl _ _

theorem movesOutgoing {e : Extension σ} (fits : e.Fits samples)
    (clock : Nat) (id : String) (m : Message) (memory : σ) :
    Timesync.Moves (fun _ => False) (samples memory)
      (samples (e.outgoing clock id m memory).2.2) := by
  rcases fits with sync | other
  · have after := congrArg (fun answer => answer.2.2) (sync.outgoing clock id m memory)
    simp only at after
    rw [after]
    exact Timesync.movesAnswer _ _ id m _
  · rw [other.outgoing]
    exact Timesync.movesRefl _ _

theorem movesForget {e : Extension σ} (fits : e.Fits samples)
    (id : String) (memory : σ) :
    Timesync.Moves (fun _ => False) (samples memory) (samples (e.forget id memory)) := by
  rcases fits with sync | other
  · rw [sync.forget]
    exact Timesync.movesRemove _ id _
  · rw [other.forget]
    exact Timesync.movesRefl _ _

theorem leavesMemory {may : String → Prop} {s : Server σ} {memory : σ} (notices : List Notice)
    (moves : Timesync.Moves may (samples s.memory) (samples memory))
    (registered : ∀ id, may id → id ∈ s.registry.sessions) :
    s.Leaves samples { s with memory, notices } := by
  intro orderly
  refine ⟨⟨orderly.indexed, orderly.subscribed, moves.distinct orderly.distinct,
    fun id inside => ?_, orderly.tracked⟩, rfl, rfl, rfl⟩
  rcases moves.keys id inside with old | new
  · exact orderly.sampled id old
  · exact registered id new

theorem keepsIncomingPass (each : ∀ e ∈ extensions, e.Fits samples)
    (id : String) (c : Context) (s : Server σ) :
    s.Keeps samples id (incomingPass extensions id c s).2.2 := by
  refine incomingPassRelated (fun s => Server.leavesKeeps (Server.leavesRefl s))
    Server.keepsTrans (fun e inside c s registered => ?_) c s
  exact leavesMemory _ (movesIncoming (each e inside) s.clock id c s.memory)
    fun other same => same ▸ registered

theorem leavesOutgoingPass (each : ∀ e ∈ extensions, e.Fits samples)
    (id : String) (m : Message) (s : Server σ) :
    s.Leaves samples (outgoingPass extensions id m s).2.2 :=
  outgoingPassRelated Server.leavesRefl Server.leavesTrans (fun e inside m s =>
    leavesMemory _ (movesOutgoing (each e inside) s.clock id m s.memory)
      fun _ none => none.elim) m s

theorem leavesOutgoingPackets (each : ∀ e ∈ extensions, e.Fits samples) (id : String)
    (packets : List Packet) (s : Server σ) :
    s.Leaves samples (outgoingPackets extensions id packets s).2 :=
  outgoingPacketsRelated Server.leavesRefl Server.leavesTrans (leavesOutgoingPass each id)
    packets s

theorem forgetPassFrame (extensions : List (Extension σ)) (id : String) (s : Server σ) :
    forgetPass extensions id s = { s with
      memory := (forgetPass extensions id s).memory
      notices := (forgetPass extensions id s).notices } := by
  unfold forgetPass
  induction extensions generalizing s with
  | nil => rfl
  | cons e rest ih => exact ih _

theorem movesForgetPass (each : ∀ e ∈ extensions, e.Fits samples)
    (id : String) (s : Server σ) :
    Timesync.Moves (fun _ => False) (samples s.memory)
      (samples (forgetPass extensions id s).memory) :=
  forgetPassRelated
    (R := fun s t => Timesync.Moves (fun _ => False) (samples s.memory) (samples t.memory))
    (fun _ => Timesync.movesRefl _ _) Timesync.movesTrans
    (fun e inside s => movesForget (each e inside) id s.memory) s

theorem forgotten (timed : Timed samples extensions) (id : String) (s : Server σ)
    (distinct : (samples s.memory).Distinct) :
    id ∉ Table.keys (samples (forgetPass extensions id s).memory) := by
  obtain ⟨each, e, inside, sync⟩ := timed
  obtain ⟨before, after, rfl⟩ := List.append_of_mem inside
  have left := movesForgetPass (fun e inside => each e (List.mem_append_left _ inside)) id s
  have right : ∀ t, Timesync.Moves (fun _ => False) (samples t.memory)
      (samples (forgetPass after id t).memory) := movesForgetPass
    (fun e inside => each e (List.mem_append_right _ (List.mem_cons_of_mem _ inside))) id
  unfold forgetPass at *
  rw [List.foldl_append, List.foldl_cons]
  generalize List.foldl _ s before = t at left ⊢
  intro sampled
  rcases (right _).keys id sampled with before | none
  · simp only [sync.forget] at before
    have gone := Table.getRemoveSame (left.distinct distinct) id
    rw [Table.getNoneIff] at gone
    exact gone before
  · exact none

theorem dismissed (timed : Timed samples extensions) (id : String) {s : Server σ}
    (orderly : s.Orderly samples) :
    (forgetPass extensions id (s.removeSession id)).Orderly samples ∧
      (forgetPass extensions id (s.removeSession id)).registry = s.registry.remove id ∧
      (forgetPass extensions id (s.removeSession id)).inProcess = s.inProcess ∧
      (forgetPass extensions id (s.removeSession id)).sessions = s.sessions := by
  have moves := movesForgetPass timed.each id (s.removeSession id)
  have forgot := forgotten timed id (s.removeSession id) orderly.distinct
  have frame := forgetPassFrame extensions id (s.removeSession id)
  generalize forgetPass extensions id (s.removeSession id) = t at *
  have registry : t.registry = s.registry.remove id := by rw [frame]; rfl
  have inProcess : t.inProcess = s.inProcess := by rw [frame]; rfl
  have sessions : t.sessions = s.sessions := by rw [frame]; rfl
  have left : ∀ other ∈ s.registry.sessions, other ≠ id → other ∈ t.registry.sessions := by
    intro other inside different
    rw [registry]
    exact orderly.indexed.sessions.mem_erase_iff.mpr ⟨different, inside⟩
  refine ⟨⟨?_, fun other pattern held => ?_, moves.distinct orderly.distinct,
    fun other sampled => ?_, ?_⟩, registry, inProcess, sessions⟩
  · rw [registry]
    exact Registry.indexedRemove orderly.indexed id
  · rw [registry] at held
    obtain ⟨before, different⟩ := (Registry.holdsRemove orderly.indexed id other pattern).mp held
    obtain ⟨registered, connected⟩ := orderly.subscribed other pattern before
    refine ⟨left other registered different, ?_⟩
    simpa only [Server.stateOf, Server.session?, sessions] using connected
  · rcases moves.keys other sampled with before | none
    · exact left other (orderly.sampled other before) fun same => forgot (same ▸ sampled)
    · exact none.elim
  · rw [inProcess]
    exact orderly.tracked

end Extension

namespace Server
variable {σ : Type} {samples : σ → Timesync.Samples} {s t : Server σ}

/-- The one session is gone, the others stand as they did. -/
structure Without (id : String) (s t : Server σ) : Prop where
  sessions : ∀ other, other ∈ t.registry.sessions ↔ other ∈ s.registry.sessions ∧ other ≠ id
  inProcess : ∀ other, other ∈ t.inProcess ↔ other ∈ s.inProcess ∧ other ≠ id
  names : Table.keys t.sessions = Table.keys s.sessions

theorem withoutEnd {id : String} (abrupt : Bool) (orderly : t.Orderly samples)
    (without : s.Without id t) :
    (if abrupt = true then (t.markDisconnected id).disconnected id true none else t).Orderly
        samples ∧
      s.Without id (if abrupt = true then (t.markDisconnected id).disconnected id true none
        else t) := by
  split
  · obtain ⟨after, fixed⟩ := leavesDisconnected t id true none orderly
    refine ⟨after, fun other => ?_, fun other => ?_, fixed.names.trans without.names⟩
    · rw [fixed.sessions]
      exact without.sessions other
    · rw [fixed.inProcess]
      exact without.inProcess other
  · exact ⟨orderly, without⟩

end Server
end Bayeux
