import Bayeux.Proofs.Carrier.InProcess
import Bayeux.World
/-! One turn of one client. Until it is torn down a client is registered; its flags tell that it
was torn down, and say nothing else where they cannot know. A turn keeps that and touches
the place of nobody else. -/

namespace Bayeux

/-- The others stand as they did. -/
structure Server.Apart {σ : Type} (id : String) (s t : Server σ) : Prop where
  sessions : ∀ other, other ≠ id → (other ∈ t.registry.sessions ↔ other ∈ s.registry.sessions)
  inProcess : ∀ other, other ≠ id → (other ∈ t.inProcess ↔ other ∈ s.inProcess)
  names : Table.keys t.sessions = Table.keys s.sessions

namespace Client
variable {σ : Type} {samples : σ → Timesync.Samples} {h : Handlers σ} {gone later last : Prop}
  {c d e : Client} {s t u : Server σ}

def IsSpent : Client → Prop
  | .webSocket w => w.isClosed = true ∧ w.isConnected = false
  | .inProcess p => p.isConnected = false

/-- In the table of the transport of clients in the same process. -/
def IsTracked : Client → Prop
  | .webSocket _ => False
  | .inProcess p => p.isClosed = false

/-- A closed WebSocket may still wait to be torn down, a closed carrier of the other kind has
been. -/
def Tells (gone : Prop) : Client → Prop
  | .webSocket _ => True
  | .inProcess p => p.isClosed = true ↔ gone

structure Placed (gone : Prop) (c : Client) (s : Server σ) : Prop where
  registered : c.session ∈ s.registry.sessions ↔ ¬gone
  tracked : c.session ∈ s.inProcess ↔ c.IsTracked
  tells : c.Tells gone
  spent : gone → c.IsSpent

structure Turn (samples : σ → Timesync.Samples) (gone : Prop) (c : Client) (s : Server σ)
    (later : Prop) (d : Client) (t : Server σ) : Prop where
  session : d.session = c.session
  keeps : s.Orderly samples → c.Placed gone s →
    t.Orderly samples ∧ d.Placed later t ∧ s.Apart c.session t

theorem turnTrans (first : Turn samples gone c s later d t)
    (second : Turn samples later d t last e u) : Turn samples gone c s last e u := by
  refine ⟨second.session.trans first.session, fun orderly placed => ?_⟩
  obtain ⟨between, standing, apart⟩ := first.keeps orderly placed
  obtain ⟨after, place, more⟩ := second.keeps between standing
  rw [first.session] at more
  exact ⟨after, place,
    fun other different => (more.sessions other different).trans (apart.sessions other different),
    fun other different => (more.inProcess other different).trans (apart.inProcess other different),
    more.names.trans apart.names⟩

theorem placedApart {id : String} (placed : c.Placed gone s) (apart : s.Apart id t)
    (different : c.session ≠ id) : c.Placed gone t :=
  ⟨(apart.sessions _ different).trans placed.registered,
    (apart.inProcess _ different).trans placed.tracked, placed.tells, placed.spent⟩

theorem turnFixed (session : d.session = c.session) (tracked : d.IsTracked ↔ c.IsTracked)
    (tells : c.Tells gone → d.Tells gone) (spent : c.IsSpent → d.IsSpent)
    (leaves : c.session ∈ s.registry.sessions ∨ c.IsSpent → s.Leaves samples t) :
    Turn samples gone c s gone d t := by
  refine ⟨session, fun orderly placed => ?_⟩
  -- Whoever was torn down does nothing, and everybody else acts for a registered session.
  have standing : c.session ∈ s.registry.sessions ∨ c.IsSpent := by
    by_cases torn : gone
    · exact .inr (placed.spent torn)
    · exact .inl (placed.registered.mpr torn)
  obtain ⟨after, fixed⟩ := leaves standing orderly
  refine ⟨after, ⟨?_, ?_, tells placed.tells, fun torn => spent (placed.spent torn)⟩,
    fun other _ => ?_, fun other _ => ?_, fixed.names⟩
  · rw [session, fixed.sessions, placed.registered]
  · rw [session, fixed.inProcess, placed.tracked, tracked]
  · rw [fixed.sessions]
  · rw [fixed.inProcess]

theorem turnLeaves (c : Client) (leaves : s.Leaves samples t) : Turn samples gone c s gone c t :=
  turnFixed rfl Iff.rfl id id fun _ => leaves

theorem turnWithout (session : d.session = c.session) (torn : later) (tells : d.Tells later)
    (untracked : ¬d.IsTracked) (spent : d.IsSpent)
    (without : s.Orderly samples → c.Placed gone s →
      t.Orderly samples ∧ s.Without c.session t) : Turn samples gone c s later d t := by
  refine ⟨session, fun orderly placed => ?_⟩
  obtain ⟨after, left⟩ := without orderly placed
  refine ⟨after, ⟨?_, ?_, tells, fun _ => spent⟩, fun other different => ?_,
    fun other different => ?_, left.names⟩
  · rw [session, left.sessions]
    simp [torn]
  · rw [session, left.inProcess]
    simp [untracked]
  · rw [left.sessions]
    simp [different]
  · rw [left.inProcess]
    simp [different]

theorem turnOnward {w v : WebSocket} (onward : WebSocket.Onward samples ⟨w, {}, s⟩ ⟨v, {}, t⟩)
    (ended : w.isClosed = true → s.Leaves samples t) :
    Turn samples gone (.webSocket w) s gone (.webSocket v) t := by
  refine turnFixed onward.session Iff.rfl id
    (fun spent => ⟨onward.closed spent.1, onward.connected spent.2⟩) fun standing => ?_
  rcases standing with registered | spent
  · exact onward.keeps registered
  · exact ended spent.1

theorem turnFlags {w v : WebSocket} (session : v.session = w.session)
    (closed : w.isClosed = true → v.isClosed = true)
    (connected : w.isConnected = false → v.isConnected = false) :
    Turn samples gone (.webSocket w) s gone (.webSocket v) s :=
  turnFixed session Iff.rfl id (fun spent => ⟨closed spent.1, connected spent.2⟩)
    fun _ => Server.leavesRefl s

theorem turnShuts {w v : WebSocket} (shuts : WebSocket.Shuts w v) :
    Turn samples gone (.webSocket w) s gone (.webSocket v) s :=
  turnFlags shuts.session shuts.closed shuts.connected.trans

theorem turnStays {p q : InProcess} (stays : InProcess.Stays samples p s q t) :
    Turn samples gone (.inProcess p) s gone (.inProcess q) t := by
  refine turnFixed stays.session ?_ (fun tells => ?_) stays.connected stays.leaves
  · simp only [IsTracked, stays.closed]
  · simpa only [Tells, stays.closed] using tells

theorem turnOnClose (proper : h.Proper samples) (w : WebSocket) (s : Server σ) (torn : later) :
    Turn samples gone (.webSocket w) s later (.webSocket (w.onClose h s).1) (w.onClose h s).2 :=
  turnWithout rfl torn trivial id ⟨rfl, rfl⟩ fun orderly placed =>
    WebSocket.onCloseWithout proper orderly placed.tracked.mp

theorem turnClose (proper : h.Proper samples) (p : InProcess) (s : Server σ) (torn : later) :
    Turn samples gone (.inProcess p) s later (.inProcess (p.close h s).1) (p.close h s).2 := by
  cases closed : p.isClosed with
  | true =>
    rw [InProcess.closeAgain h s closed]
    refine ⟨rfl, fun orderly placed => ?_⟩
    have before : gone := placed.tells.mp closed
    have apart : s.Apart p.session s := ⟨fun _ _ => Iff.rfl, fun _ _ => Iff.rfl, rfl⟩
    refine ⟨orderly, ⟨?_, placed.tracked, ?_, fun _ => placed.spent before⟩, apart⟩
    · simpa only [torn, before] using placed.registered
    · simpa only [Tells, torn, before] using placed.tells
  | false =>
    rw [InProcess.closeFlags h s closed]
    exact turnWithout rfl torn (by simpa [Tells] using torn) (by simp [IsTracked]) rfl
      fun orderly _ => InProcess.closeWithout proper closed orderly

theorem turnInject (proper : h.Proper samples) (before : Prop) (m : Message) (p : InProcess)
    (s : Server σ) : Turn samples before (.inProcess p) s (before ∨ p.disconnects h m s = true)
      (.inProcess (p.inject h m s).2.1) (p.inject h m s).2.2 := by
  obtain ⟨q, t, stays, ends⟩ := InProcess.injectEnds proper m p s
  rw [ends]
  cases p.disconnects h m s with
  | false => simpa using turnStays stays
  | true => exact turnTrans (turnStays stays) (turnClose proper q t (.inr rfl))

theorem turnExpire (proper : h.Proper samples) (before : Prop) (c : Client) (s : Server σ) :
    Turn samples before c s (before ∨ (World.expire h c s).1 = true)
      (World.expire h c s).2.1 (World.expire h c s).2.2 := by
  cases c with
  | webSocket w => simpa [World.expire] using turnLeaves _ (Server.leavesRefl s)
  | inProcess p =>
    unfold World.expire
    simp only
    split
    · rename_i due
      simp only [Bool.and_eq_true, decide_eq_true_eq] at due
      cases closed : p.isClosed with
      | true =>
        refine ⟨by rw [InProcess.closeAgain h _ closed], fun orderly placed => ?_⟩
        have opened : p.isClosed = false := placed.tracked.mp due.1
        rw [closed] at opened
        cases opened
      | false =>
        rw [InProcess.closeFlags h _ closed]
        refine turnWithout rfl (.inr rfl) (by simp [Tells]) (by simp [IsTracked]) rfl
          fun orderly _ => ?_
        -- The sweep takes the carrier out of the table first; closing it is the rest.
        have untracked : { s with inProcess := s.inProcess.erase p.session }.Orderly samples :=
          { orderly with tracked := orderly.tracked.erase _ }
        obtain ⟨after, without⟩ := InProcess.closeWithout proper closed untracked
        refine ⟨after, without.sessions, fun other => ?_, without.names⟩
        refine (without.inProcess other).trans ?_
        rw [orderly.tracked.mem_erase_iff]
        exact ⟨fun left => ⟨left.1.2, left.2⟩, fun left => ⟨⟨left.2, left.1⟩, left.2⟩⟩
    · simpa using turnLeaves _ (Server.leavesRefl s)

end Client
end Bayeux
