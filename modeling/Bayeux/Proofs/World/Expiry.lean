import Bayeux.Proofs.World.Tracking
/-! Who is idle expires, and nobody else does. Whatever has happened to the clients, a WebSocket is
closed as idle if it is open and its time has passed since it was last heard, and a sweep
closes those in the same process that are open and were silent for longer than their time. A
WebSocket counts its time in whole milliseconds from its opening, and what this costs against
exact instants is less than one of them. -/

namespace Bayeux

namespace WebSocket
variable {σ : Type} {contact now : Nat} {w : WebSocket}

/-- The time allowed since the contact is over, in the whole milliseconds of the carrier. -/
def Lapsed (contact now : Nat) (w : WebSocket) : Prop :=
  (w.elapsed contact : Int) + w.idleTimeout ≤ w.elapsed now

def Overdue (contact now : Nat) (w : WebSocket) : Prop :=
  w.isClosed = false ∧ w.Lapsed contact now

/-- The same against exact instants: what has passed has lapsed, and what has lapsed will have
passed within the millisecond, or already has if the contact fell on a whole one. -/
structure Punctual (contact now : Nat) (w : WebSocket) : Prop where
  passed : (contact : Int) + Server.millisecond * w.idleTimeout ≤ now → w.Lapsed contact now
  within : w.Lapsed contact now →
    (contact : Int) + Server.millisecond * w.idleTimeout < now + Server.millisecond
  whole : Server.millisecond ∣ contact - w.opened →
    (w.Lapsed contact now ↔ (contact : Int) + Server.millisecond * w.idleTimeout ≤ now)

/-- What comes of looking whether a WebSocket is idle. -/
structure IdleClose (contact now : Nat) (w : WebSocket) (result : Except TransportError Bool)
    (v : WebSocket) : Prop where
  issues : v.sink.calls = ⟨.close CloseCode.normal "Idle timeout", true⟩ :: w.sink.calls ↔
    w.Overdue contact now
  closes : w.Overdue contact now →
    v = { w with isClosed := true, sink := (w.sink.close CloseCode.normal "Idle timeout").2 }
  stays : ¬w.Overdue contact now → v = w
  tells : ∀ closed, result = .ok closed → (closed = true ↔ w.Lapsed contact now)

theorem punctual (opened : w.opened ≤ contact) (past : w.opened ≤ now) :
    w.Punctual contact now := by
  constructor <;> (unfold Lapsed elapsed Server.millisecond; omega)

theorem idleDeadlineIff (heard : w.lastInbound = w.elapsed contact) (past : w.opened ≤ now)
    (allowed : 0 ≤ w.idleTimeout) : now < w.idleDeadline ↔ ¬w.Lapsed contact now := by
  unfold idleDeadline Lapsed
  rw [← heard]
  unfold elapsed Server.millisecond
  omega

theorem idleStays {closed : Bool} (rests : ¬w.Overdue contact now)
    (tells : closed = true ↔ w.Lapsed contact now) : IdleClose contact now w (.ok closed) w where
  issues := iff_of_false (by simp) rests
  closes overdue := absurd overdue rests
  stays _ := rfl
  tells _ same := Except.ok.inj same ▸ tells

theorem closesIfIdle {s : Server σ} (heard : w.lastInbound = w.elapsed contact)
    (past : w.opened ≤ s.clock) (allowed : 0 ≤ w.idleTimeout) :
    IdleClose contact s.clock w (w.closeIfIdle s).1 (w.closeIfIdle s).2 := by
  unfold closeIfIdle
  split
  · rename_i early
    rw [idleDeadlineIff heard past allowed] at early
    exact idleStays (fun overdue => early overdue.2) (by simpa using early)
  · rename_i late
    have lapsed := not_not.mp ((idleDeadlineIff heard past allowed).not.mp late)
    cases closed : w.isClosed with
    | true =>
      exact idleStays (fun overdue => nomatch closed.symm.trans overdue.1) (by simpa using lapsed)
    | false =>
      have frame := closeSinkFrame w CloseCode.normal "Idle timeout"
      refine ⟨iff_of_true ?_ ⟨closed, lapsed⟩, fun _ => frame,
        fun rests => absurd ⟨closed, lapsed⟩ rests, fun done same => ?_⟩
      · exact congrArg (fun v : WebSocket => v.sink.calls) frame
      · simp only [Bool.false_eq_true, if_false] at same
        cases ended : (closeSink w CloseCode.normal "Idle timeout").1 with
        | error fault =>
          rw [ended] at same
          cases same
        | ok written =>
          rw [ended] at same
          exact iff_of_true (Except.ok.inj same).symm lapsed

end WebSocket

namespace World
variable {σ : Type} {setup : Setup σ} {processing : Standard.Settings} {world : World σ}

theorem reachedRun (setup : Setup σ) (memory : σ) (actions : List Action) :
    Reached setup memory (run setup (start memory) actions) := by
  induction actions using List.reverseRecOn with
  | nil => exact .start
  | append_singleton actions action ih =>
    rw [runSnoc]
    exact .settled (.acted ih action)

theorem regularRun (process : setup.handlers.process = Standard.process processing)
    (memory : σ) (actions : List Action) :
    Regular (fun _ => []) (run setup (start memory) actions) :=
  regularReached process (fun _ _ => .inr ⟨fun _ _ _ _ => rfl, fun _ _ _ _ => rfl, fun _ _ => rfl⟩)
    rfl (reachedRun setup memory actions)

theorem resolvesAllowed {interval : Int} {override? : Option Int} {timeout : Int}
    (resolves : Resolves interval override? timeout) : 0 ≤ timeout := by
  cases resolves with
  | own given => exact given
  | transport unset given => exact given
  | platform unset none => decide

theorem allowedRun (process : setup.handlers.process = Standard.process processing)
    (memory : σ) (actions : List Action) :
    ∀ c ∈ (run setup (start memory) actions).clients, 0 ≤ c.idleTimeout := by
  intro c inside
  obtain ⟨client, here⟩ := List.mem_iff_getElem?.mp inside
  obtain ⟨override?, -, resolves⟩ :=
    ((awaitedRun process memory actions).1 client c here).1.timeout
  exact resolvesAllowed resolves

theorem tracksRun (process : setup.handlers.process = Standard.process processing)
    (memory : σ) (actions : List Action) : (run setup (start memory) actions).Tracks := by
  induction actions using List.reverseRecOn with
  | nil => exact ⟨List.nodup_nil, fun id => by simp [run, start, Server.start, Tracked]⟩
  | append_singleton actions action ih =>
    -- A sweep is right about the table only if every client is allowed some time, so the times
    -- come before the table.
    have regular := regularRun process memory actions
    rw [runSnoc]
    exact tracksSettle process (tracksAct process regular.named regular.sound.indexed ih
      (allowedRun process memory actions) action)

/-- After these actions who is idle expires, and nobody else does. -/
structure OnlyIdle (setup : Setup σ) (memory : σ) (actions : List Action) (world : World σ) :
    Prop where
  awaited : ∀ client c, world.client? client = some c → Awaited setup memory actions client c
  closed : ∀ client w, world.client? client = some (.webSocket w) →
    ∃ contact, LatestContact setup memory client actions contact ∧
      w.Punctual contact world.server.clock ∧
      ∃ result v, w.IdleClose contact world.server.clock result v ∧
        world.act setup (.closeIfIdle client) =
          (.closed result, world.setClient client (.webSocket v) world.server)
  tracked : ∀ id, id ∈ world.server.inProcess ↔ Tracked world.clients id
  swept : ∃ t, world.act setup .expireIdle =
      (.count (world.clients.countP (·.Due world.server.clock)),
        ⟨t, world.clients.map fun c => if c.Due world.server.clock then c.expired else c⟩) ∧
    world.server.Rids (DueSession world.server.clock world.clients) t

end World
end Bayeux
