import Bayeux.Proofs.World.Isolation
import Bayeux.Proofs.World.Turns
/-! A sweep for clients in the same process that were silent for too long, in one piece. It goes
through the clients one after the other, and what it makes of each is decided by how they all
stood before: those that are due are closed and leave nothing behind, and the others keep what
they had. -/

namespace Bayeux

namespace Server
variable {σ : Type} {gone late : String → Prop} {s t u : Server σ}

/-- Some sessions are gone from the lists of the server, and the others stand as they did. -/
structure Rids (gone : String → Prop) (s t : Server σ) : Prop where
  registered : ∀ id, id ∈ t.registry.sessions ↔ id ∈ s.registry.sessions ∧ ¬gone id
  held : ∀ id pattern, t.registry.Holds id pattern ↔ s.registry.Holds id pattern ∧ ¬gone id
  members : ∀ id pattern, id ∈ Registry.membersIn t.registry.subscriptions pattern ↔
    id ∈ Registry.membersIn s.registry.subscriptions pattern ∧ ¬gone id
  tracked : ∀ id, id ∈ t.inProcess ↔ id ∈ s.inProcess ∧ ¬gone id
  sessions : ∀ id, ¬gone id → t.session? id = s.session? id

structure Kept (s : Server σ) : Prop where
  indexed : s.registry.Indexed
  once : s.inProcess.Nodup

theorem ridsNothing (nothing : ∀ id, ¬gone id) (s : Server σ) : Rids gone s s := by
  have all : ∀ {held : Prop} (id : String), held ↔ held ∧ ¬gone id := fun id =>
    (and_iff_left (nothing id)).symm
  exact ⟨fun id => all id, fun id _ => all id, fun id _ => all id, fun id => all id, fun _ _ => rfl⟩

theorem ridsTrans (first : Rids gone s t) (second : Rids late t u) :
    Rids (fun id => gone id ∨ late id) s u := by
  have both : ∀ {before between after : Prop} {id : String}, (between ↔ before ∧ ¬gone id) →
      (after ↔ between ∧ ¬late id) → (after ↔ before ∧ ¬(gone id ∨ late id)) := by
    intro before between after id early next
    rw [next, early, not_or, and_assoc]
  exact ⟨fun id => both (first.registered id) (second.registered id),
    fun id pattern => both (first.held id pattern) (second.held id pattern),
    fun id pattern => both (first.members id pattern) (second.members id pattern),
    fun id => both (first.tracked id) (second.tracked id), fun id stays =>
      (second.sessions id (not_or.mp stays).2).trans (first.sessions id (not_or.mp stays).1)⟩

theorem ridsSame (same : ∀ id, late id ↔ gone id) (rids : Rids gone s t) : Rids late s t := by
  have alike : late = gone := funext fun id => propext (same id)
  rwa [alike]

theorem membersRid (kept : s.Kept) (kept' : t.Kept)
    (held : ∀ id pattern, t.registry.Holds id pattern ↔ s.registry.Holds id pattern ∧ ¬gone id)
    (id pattern : String) : id ∈ Registry.membersIn t.registry.subscriptions pattern ↔
      id ∈ Registry.membersIn s.registry.subscriptions pattern ∧ ¬gone id := by
  rw [kept'.indexed.inverse, kept.indexed.inverse, held]

/- That a session which is gone is said to have ended changes nothing more. -/
theorem ridsEnd {id : String} (kept : s.Kept) (kept' : t.Kept) (rids : Rids (· = id) s t) :
    Rids (· = id) s ((t.markDisconnected id).disconnected id true none) ∧
      ((t.markDisconnected id).disconnected id true none).Kept := by
  have others : ∀ other, other ≠ id →
      (t.markDisconnected id).session? other = t.session? other := by
    intro other different
    exact (sessionOnSession t id other false _).trans (if_neg different)
  have marked := onSessionFrame t id false Session.markDisconnected
  change t.markDisconnected id = _ at marked
  have registry : ((t.markDisconnected id).disconnected id true none).registry =
      t.registry.unsubscribeAll id := by rw [marked]; rfl
  have inProcess : ((t.markDisconnected id).disconnected id true none).inProcess =
      t.inProcess := by rw [marked]; rfl
  have sessions : ∀ other, ((t.markDisconnected id).disconnected id true none).session? other =
      (t.markDisconnected id).session? other := fun _ => rfl
  generalize (t.markDisconnected id).disconnected id true none = u at registry inProcess sessions ⊢
  have indexed := Registry.indexedUnsubscribeAll kept'.indexed id
  have after : u.Kept := ⟨registry ▸ indexed, inProcess ▸ kept'.once⟩
  have held : ∀ other pattern, u.registry.Holds other pattern ↔
      s.registry.Holds other pattern ∧ ¬other = id := by
    intro other pattern
    rw [registry, Registry.holdsUnsubscribeAll kept'.indexed, rids.held, and_assoc, and_self]
  refine ⟨⟨fun other => ?_, held, membersRid kept after held, fun other => ?_,
    fun other stays => ?_⟩, after⟩
  · rw [registry]
    exact rids.registered other
  · rw [inProcess]
    exact rids.tracked other
  · rw [sessions, others other stays, rids.sessions other stays]

end Server

namespace InProcess
variable {σ : Type} {p : InProcess} {s : Server σ}

theorem closeRids (h : Handlers σ) (kept : s.Kept) (opened : p.isClosed = false) :
    s.Rids (· = p.session) (p.close h s).2 ∧ (p.close h s).2.Kept := by
  have frame := Extension.forgetPassFrame h.extensions p.session (s.removeSession p.session)
  simp only [close, opened, Bool.false_eq_true, if_false]
  generalize Extension.forgetPass h.extensions p.session (s.removeSession p.session) = t at frame ⊢
  have registry : t.registry = s.registry.remove p.session := by rw [frame]; rfl
  have inProcess : t.inProcess = s.inProcess := by rw [frame]; rfl
  have sessions : t.sessions = s.sessions := by rw [frame]; rfl
  generalize unlisted : { t with inProcess := t.inProcess.erase p.session } = u
  have after : u.Kept := by
    subst unlisted
    refine ⟨registry ▸ Registry.indexedRemove kept.indexed p.session, ?_⟩
    exact (inProcess ▸ kept.once).erase _
  have held : ∀ id pattern, u.registry.Holds id pattern ↔
      s.registry.Holds id pattern ∧ ¬id = p.session := by
    subst unlisted
    simp only [registry]
    exact Registry.holdsRemove kept.indexed p.session
  have rids : s.Rids (· = p.session) u := by
    refine ⟨fun id => ?_, held, Server.membersRid kept after held, fun id => ?_, fun id _ => ?_⟩
    all_goals subst unlisted
    · rw [registry]
      exact kept.indexed.sessions.mem_erase_iff.trans and_comm
    · rw [inProcess]
      exact kept.once.mem_erase_iff.trans and_comm
    · simp only [Server.session?, sessions]
  cases p.isConnected with
  | false => exact ⟨rids, after⟩
  | true => exact Server.ridsEnd kept after rids

end InProcess

namespace Client
variable {σ : Type} {c d : Client} {s t : Server σ} {now : Nat}

/-- Open, in the same process, and silent for longer than it may be. -/
def Due (now : Nat) : Client → Prop
  | .webSocket _ => False
  | .inProcess p =>
    p.isClosed = false ∧ (p.lastContact : Int) + Server.millisecond * p.idleTimeout < now

instance (now : Nat) (c : Client) : Decidable (c.Due now) := by
  cases c <;> unfold Due <;> infer_instance

def expired : Client → Client
  | .webSocket w => .webSocket w
  | .inProcess p => .inProcess { p with isClosed := true, isConnected := false }

/-- The transport knows which carriers are open, and every one is allowed some time. -/
structure Fits (c : Client) (s : Server σ) : Prop where
  tracked : c.session ∈ s.inProcess ↔ c.IsTracked
  allowed : 0 ≤ c.idleTimeout

theorem isExpiredIff {p : InProcess} (allowed : 0 ≤ p.idleTimeout) (now : Nat) :
    p.isExpired now = true ↔ (p.lastContact : Int) + Server.millisecond * p.idleTimeout < now := by
  unfold InProcess.isExpired Server.millisecond
  rw [decide_eq_true_iff]
  omega

theorem expireDue (h : Handlers σ) (kept : s.Kept) (fits : c.Fits s) (due : c.Due s.clock) :
    ∃ t, World.expire h c s = (true, c.expired, t) ∧ s.Rids (· = c.session) t ∧ t.Kept ∧
      t.clock = s.clock := by
  cases c with
  | webSocket w => exact due.elim
  | inProcess p =>
    obtain ⟨opened, silent⟩ := due
    have tracked : p.session ∈ s.inProcess := fits.tracked.mpr opened
    have silence : p.isExpired s.clock = true := (isExpiredIff fits.allowed s.clock).mpr silent
    -- The sweep takes the carrier out of the table first; closing it is the rest.
    have unlisted : { s with inProcess := s.inProcess.erase p.session }.Kept :=
      ⟨kept.indexed, kept.once.erase _⟩
    obtain ⟨rids, after⟩ := InProcess.closeRids h unlisted opened
    have clock := closeClock h p { s with inProcess := s.inProcess.erase p.session }
    refine ⟨_, ?_, { rids with tracked := fun id => ?_ }, after, clock⟩
    · simp only [World.expire, tracked, silence, InProcess.closeFlags h _ opened, decide_true,
        Bool.true_and, if_true, expired]
    · refine (rids.tracked id).trans ?_
      simp only [kept.once.mem_erase_iff, session]
      tauto

theorem expireRests (h : Handlers σ) (fits : c.Fits s) (rests : ¬c.Due s.clock) :
    World.expire h c s = (false, c, s) := by
  cases c with
  | webSocket w => rfl
  | inProcess p =>
    have still : (decide (p.session ∈ s.inProcess) && p.isExpired s.clock) = false := by
      rw [Bool.and_eq_false_iff, decide_eq_false_iff_not, ← Bool.not_eq_true,
        isExpiredIff fits.allowed]
      refine or_iff_not_imp_left.mpr fun tracked silent => rests ⟨?_, silent⟩
      exact fits.tracked.mp (not_not.mp tracked)
    simp only [World.expire, still, Bool.false_eq_true, if_false]

/- Others come and go without a trace on this one. -/
theorem fitsRid {gone : String → Prop} (fits : c.Fits s) (rids : s.Rids gone t)
    (stays : ¬gone c.session) : c.Fits t :=
  ⟨(rids.tracked c.session).trans ((and_iff_left stays).trans fits.tracked), fits.allowed⟩

end Client

namespace World
variable {σ : Type} {clients : List Client} {s : Server σ}

def DueSession (now : Nat) (clients : List Client) (id : String) : Prop :=
  ∃ c ∈ clients, c.Due now ∧ c.session = id

theorem expireAllAtOnce (h : Handlers σ) (kept : s.Kept)
    (apart : (clients.map Client.session).Nodup) (fits : ∀ c ∈ clients, c.Fits s) :
    ∃ t, expireAll h clients s = (clients.countP (·.Due s.clock),
        clients.map fun c => if c.Due s.clock then c.expired else c, t) ∧
      s.Rids (DueSession s.clock clients) t ∧ t.Kept := by
  induction clients generalizing s with
  | nil => exact ⟨s, rfl, Server.ridsNothing (by simp [DueSession]) s, kept⟩
  | cons c rest ih =>
    obtain ⟨fit, others⟩ := List.forall_mem_cons.mp fits
    rw [List.map_cons, List.nodup_cons] at apart
    obtain ⟨alone, apart⟩ := apart
    by_cases due : c.Due s.clock
    · obtain ⟨t, expired, rids, after, clock⟩ := Client.expireDue h kept fit due
      -- Closing takes no time and no other session away, so the rest is judged as it was before.
      have still : ∀ d ∈ rest, d.Fits t := fun d inside =>
        Client.fitsRid (others d inside) rids fun same =>
          alone (List.mem_map.mpr ⟨d, inside, same⟩)
      obtain ⟨u, swept, more, last⟩ := ih after apart still
      rw [clock] at swept more
      refine ⟨u, ?_, Server.ridsSame (fun id => ?_) (Server.ridsTrans rids more), last⟩
      · simp [expireAll, expired, swept, due]
      · simp [DueSession, due, eq_comm]
    · obtain ⟨u, swept, more, last⟩ := ih kept apart others
      refine ⟨u, ?_, Server.ridsSame (fun id => ?_) more, last⟩
      · simp [expireAll, Client.expireRests h fit due, swept, due]
      · simp [DueSession, due]

end World
end Bayeux
