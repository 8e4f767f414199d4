import Bayeux.Proofs.Carrier.Lives
/-! A server with any number of connections, over WebSockets and in the same process. Whatever
happens to which of them, in whatever order, the server and its extensions hear of each one
exactly what belongs to its course, and its session has ended when it is over. -/

namespace Bayeux

inductive Member where
  | connection (c : Connection)
  | inProcess (p : InProcess)

namespace Member

def session : Member → String
  | .connection c => c.carrier.session
  | .inProcess p => p.session

def isOver : Member → Bool
  | .connection c => c.isOver
  | .inProcess p => p.isClosed

def stage (goodbye : Bool) : Member → Server.Stage
  | .connection c => c.stage goodbye
  | .inProcess p => p.stage goodbye

end Member

structure Company (σ : Type) where
  server : Server σ
  members : List Member

/-- Nobody takes the connection of a carrier away from it. -/
inductive Occasion where
  | openConnection (peer : Peer) (behaviour : Sink)
  | openInProcess
  | signal (member : Nat) (signal : Signal)
  | operation (member : Nat) (operation : InProcess.Operation)
  | deliver (session : String) (p : Packet)
  | publish (sender? : Option String) (p : Packet)
  | advance (nanoseconds : Nat)

def Connection.openOn {σ : Type} (settings : WebSocket.Settings) (peer : Peer) (behaviour : Sink)
    (s : Server σ) : Connection × Server σ :=
  let (c, s) := Connection.open settings peer s
  (c.withCarrier { c.carrier with sink := c.carrier.sink.behaveAs behaviour }, s)

namespace Company
variable {σ : Type} {setup : Setup σ} {company : Company σ} {gone more : List Nat}

def start (memory : σ) : Company σ := ⟨.start memory, []⟩

def onConnection (company : Company σ) (member : Nat)
    (act : Connection → Server σ → Connection × Server σ) : Company σ :=
  match company.members[member]? with
  | some (.connection c) =>
    let (c, s) := act c company.server
    ⟨s, company.members.set member (.connection c)⟩
  | _ => company

def onInProcess (company : Company σ) (member : Nat)
    (act : InProcess → Server σ → InProcess × Server σ) : Company σ :=
  match company.members[member]? with
  | some (.inProcess p) =>
    let (p, s) := act p company.server
    ⟨s, company.members.set member (.inProcess p)⟩
  | _ => company

def step (setup : Setup σ) (company : Company σ) : Occasion → Company σ
  | .openConnection peer behaviour =>
    if Queue.canHold setup.webSocket.queueSize then
      let (c, s) := Connection.openOn setup.webSocket peer behaviour company.server
      ⟨s, company.members ++ [.connection c]⟩
    else company
  | .openInProcess =>
    if Queue.canHold setup.inProcess.queueSize then
      let (p, s) := InProcess.open setup.inProcess company.server
      ⟨s, company.members ++ [.inProcess p]⟩
    else company
  | .signal member signal =>
    company.onConnection member fun c s => c.step setup.handlers setup.webSocket s signal
  | .operation member operation =>
    company.onInProcess member fun p s => p.perform setup.handlers setup.inProcess s operation
  | .deliver session p => { company with server := (company.server.deliver session p).2 }
  | .publish sender? p => { company with server := (company.server.publish sender? p).2 }
  | .advance nanoseconds =>
    { company with server := { company.server with
      clock := company.server.clock + nanoseconds } }

def run (setup : Setup σ) (company : Company σ) (occasions : List Occasion) : Company σ :=
  occasions.foldl (step setup) company

/-- Who parts goodbye: a `/meta/disconnect` was routed, and the disconnect was deferred. -/
def parting (setup : Setup σ) (company : Company σ) : Occasion → List Nat
  | .signal member signal =>
    match company.members[member]? with
    | some (.connection c) =>
      if c.parts setup.handlers setup.webSocket company.server signal then [member] else []
    | _ => []
  | .operation member operation =>
    match company.members[member]? with
    | some (.inProcess p) =>
      if p.parts setup.handlers company.server operation then [member] else []
    | _ => []
  | _ => []

def allParting (setup : Setup σ) (company : Company σ) : List Occasion → List Nat
  | [] => []
  | occasion :: rest =>
    parting setup company occasion ++ allParting setup (company.step setup occasion) rest

structure Kept (setup : Setup σ) (gone : List Nat) (company : Company σ) : Prop where
  numbered : company.server.Numbered company.members.length
  sessions : ∀ (i : Nat) m, company.members[i]? = some m → m.session = Server.sessionId i
  standing : ∀ (i : Nat) m, company.members[i]? = some m →
    Server.Standing setup.handlers.extensions m.session (m.stage (decide (i ∈ gone))) company.server
  fresh : ∀ i, company.members.length ≤ i → company.server.announced (Server.sessionId i) = []
  past : ∀ i ∈ gone, i < company.members.length

theorem keptStart (memory : σ) : Kept setup [] (start memory) where
  numbered := rfl
  sessions := by simp [start]
  standing := by simp [start]
  fresh := fun _ _ => rfl
  past := by simp

theorem keptSpares (kept : Kept setup gone company) {t : Server σ}
    (spares : ∀ any, company.server.Spares any t) :
    Kept setup gone { company with server := t } where
  numbered := (spares "").names.trans kept.numbered
  sessions := kept.sessions
  standing i m here := (Server.passesSpares spares).standing (kept.standing i m here)
  fresh i beyond := (spares _).announced.trans (kept.fresh i beyond)
  past := kept.past

theorem keptTurn (kept : Kept setup gone company) {i : Nat} {m n : Member} {t : Server σ}
    (here : company.members[i]? = some m) (only : ∀ j ∈ more, j = i)
    (session : n.session = m.session)
    (passes : Server.Passes setup.handlers.extensions m.session (m.stage (decide (i ∈ gone)))
      company.server (n.stage (decide (i ∈ gone ++ more))) t) :
    Kept setup (gone ++ more) ⟨t, company.members.set i n⟩ := by
  have named := kept.sessions i m here
  obtain ⟨inside, -⟩ := List.getElem?_eq_some_iff.mp here
  -- Of whoever stands in another place the session has another name.
  have others : ∀ j, j ≠ i → company.server.Spares (Server.sessionId j) t := by
    intro j different
    refine passes.others _ fun same => different ?_
    exact (Server.sessionIdInjective (named.symm.trans same)).symm
  refine ⟨?_, fun j e there => ?_, fun j e there => ?_, fun j beyond => ?_, fun j parted => ?_⟩
  · rw [List.length_set]
    exact (others (i + 1) (by omega)).names.trans kept.numbered
  · exact Server.namedSet kept.sessions here session there
  · by_cases same : i = j
    · subst same
      rw [List.getElem?_set_self inside] at there
      obtain rfl := Option.some.inj there
      rw [session]
      exact passes.standing (kept.standing i m here)
    · rw [List.getElem?_set_ne same] at there
      have still : decide (j ∈ gone ++ more) = decide (j ∈ gone) := by
        have unmoved : j ∉ more := fun later => same (only j later).symm
        simp [unmoved]
      have before := kept.standing j e there
      have spares := others j (Ne.symm same)
      rw [← kept.sessions j e there] at spares
      rw [still]
      exact ⟨spares.announced.trans before.log, before.flag,
        fun silent => spares.ended (before.ended silent)⟩
  · rw [List.length_set] at beyond
    exact (others j (by omega)).announced.trans (kept.fresh j beyond)
  · rw [List.length_set]
    rcases List.mem_append.mp parted with before | now
    · exact kept.past j before
    · exact only j now ▸ inside

theorem keptParting (kept : Kept setup gone company) {i : Nat} {m n : Member} {t : Server σ}
    (here : company.members[i]? = some m) {parted : Bool} (session : n.session = m.session)
    (passes : Server.Passes setup.handlers.extensions m.session (m.stage (decide (i ∈ gone)))
      company.server (n.stage (decide (i ∈ gone) || parted)) t) :
    Kept setup (gone ++ if parted then [i] else []) ⟨t, company.members.set i n⟩ := by
  have flag : (decide (i ∈ gone) || parted) =
      decide (i ∈ gone ++ if parted then [i] else []) := by
    cases parted <;> simp
  rw [flag] at passes
  exact keptTurn kept here (by cases parted <;> simp) session passes

theorem keptSignal (discreet : Discreet setup.handlers.process) (kept : Kept setup gone company)
    (member : Nat) (signal : Signal) :
    Kept setup (gone ++ parting setup company (.signal member signal))
      (company.step setup (.signal member signal)) := by
  simp only [parting, step, onConnection]
  cases here : company.members[member]? with
  | none => simpa using kept
  | some m =>
    cases m with
    | inProcess p => simpa using kept
    | connection c =>
      have turns := Connection.turnsStep setup.webSocket discreet (decide (member ∈ gone)) c
        company.server signal
      exact keptParting (n := .connection _) kept here turns.session turns.passes

theorem keptOperation (discreet : Discreet setup.handlers.process)
    (kept : Kept setup gone company) (member : Nat) (operation : InProcess.Operation) :
    Kept setup (gone ++ parting setup company (.operation member operation))
      (company.step setup (.operation member operation)) := by
  simp only [parting, step, onInProcess]
  cases here : company.members[member]? with
  | none => simpa using kept
  | some m =>
    cases m with
    | connection c => simpa using kept
    | inProcess p =>
      have turns := InProcess.turnsPerform setup.inProcess discreet (decide (member ∈ gone)) p
        company.server operation
      exact keptParting (n := .inProcess _) kept here turns.session turns.passes

/- The next number is free, and nothing was announced of it. -/
theorem keptJoin (kept : Kept setup gone company) {m : Member} {t : Server σ} {session : Session}
    (name : m.session = Server.sessionId (List.length company.server.sessions))
    (stage : m.stage false = ⟨false, false, true⟩)
    (opened : ∀ any, Server.Spares any
      ((company.server.setSession m.session session).addSession m.session) t) :
    Kept setup gone ⟨t, company.members ++ [m]⟩ := by
  rw [Server.numberedCount kept.numbered] at name
  have others : ∀ i, i ≠ company.members.length →
      t.announced (Server.sessionId i) = company.server.announced (Server.sessionId i) ∧
      (company.server.stateOf (Server.sessionId i) = .disconnected →
        t.stateOf (Server.sessionId i) = .disconnected) := by
    intro i different
    have unlike : Server.sessionId i ≠ m.session := fun same =>
      different (Server.sessionIdInjective (same.trans name))
    have noted := (Server.sparesNote (company.server.setSession m.session session)
      (by simp [Notice.announces, unlike.symm] :
        (Notice.added m.session).announces (Server.sessionId i) = false)).announced
    refine ⟨(opened _).announced.trans noted, fun ended => (opened _).ended ?_⟩
    exact (Server.stateSetOther company.server session unlike).trans ended
  have own : Server.Standing setup.handlers.extensions m.session (m.stage false) t := by
    have noted := Server.announcedNote (company.server.setSession m.session session) m.session
      (.added m.session)
    simp only [Notice.announces, beq_self_eq_true, if_true] at noted
    rw [stage]
    refine ⟨(opened _).announced.trans (noted.trans ?_), rfl, fun silent => by cases silent⟩
    rw [name]
    exact congrArg (· ++ _) (kept.fresh _ (Nat.le_refl _))
  refine ⟨?_, fun i n here => ?_, fun i n here => ?_, fun i beyond => ?_, fun i parted => ?_⟩
  · simp only [List.length_append, List.length_singleton]
    have names := Server.numberedNext kept.numbered session
    rw [← name] at names
    exact (opened "").names.trans names
  · exact Server.namedConcat kept.sessions name here
  · rcases Server.concatCases here with ⟨before, inside⟩ | ⟨last, same⟩
    · have standing := kept.standing i n before
      obtain ⟨announced, ended⟩ := others i (Nat.ne_of_lt inside)
      rw [← kept.sessions i n before] at announced ended
      exact ⟨announced.trans standing.log, standing.flag,
        fun silent => ended (standing.ended silent)⟩
    · have quiet : decide (i ∈ gone) = false := by
        simp only [decide_eq_false_iff_not]
        intro parted
        have := kept.past i parted
        omega
      rw [quiet, same]
      exact own
  · simp only [List.length_append, List.length_singleton] at beyond
    exact (others i (by omega)).1.trans (kept.fresh i (by omega))
  · simp only [List.length_append, List.length_singleton]
    have := kept.past i parted
    omega

theorem keptStep (discreet : Discreet setup.handlers.process) (kept : Kept setup gone company)
    (occasion : Occasion) :
    Kept setup (gone ++ parting setup company occasion) (company.step setup occasion) := by
  cases occasion with
  | openConnection peer behaviour =>
    simp only [parting, List.append_nil, step]
    split
    · exact keptJoin (m := .connection _) kept rfl rfl fun _ => Server.sparesRefl _
    · exact kept
  | openInProcess =>
    simp only [parting, List.append_nil, step]
    split
    · exact keptJoin (m := .inProcess _) kept rfl rfl fun _ => Server.sparesAside rfl rfl
    · exact kept
  | signal member signal => exact keptSignal discreet kept member signal
  | operation member operation => exact keptOperation discreet kept member operation
  | deliver session p =>
    simp only [parting, List.append_nil]
    exact keptSpares kept fun _ => Server.sparesDeliver _ _ _
  | publish sender? p =>
    simp only [parting, List.append_nil]
    exact keptSpares kept fun _ => Server.sparesPublish _ _ _
  | advance nanoseconds =>
    simp only [parting, List.append_nil]
    exact keptSpares kept fun _ => Server.sparesAside rfl rfl

theorem keptRun (discreet : Discreet setup.handlers.process) (kept : Kept setup gone company)
    (occasions : List Occasion) :
    Kept setup (gone ++ allParting setup company occasions) (company.run setup occasions) := by
  induction occasions generalizing company gone with
  | nil => simpa [allParting, run] using kept
  | cons occasion rest ih =>
    have after := ih (keptStep discreet kept occasion)
    rw [List.append_assoc] at after
    exact after

/-- What was announced of everybody, when those of `gone` have said goodbye. -/
structure Announced (setup : Setup σ) (gone : List Nat) (company : Company σ) : Prop where
  distinct : (company.members.map Member.session).Nodup
  log : ∀ (i : Nat) m, company.members[i]? = some m →
    company.server.announced m.session =
      Server.course setup.handlers.extensions m.session (decide (i ∈ gone)) m.isOver
  ended : ∀ (i : Nat) m, company.members[i]? = some m → m.isOver = true →
    company.server.stateOf m.session = .disconnected
  closedAgain : ∀ (i : Nat) p, company.members[i]? = some (.inProcess p) → p.isClosed = true →
    ∀ s, p.close setup.handlers s = (p, s)

theorem announced (kept : Kept setup gone company) : Announced setup gone company where
  distinct := Server.namedNodup kept.sessions
  log i m here := by
    have log := (kept.standing i m here).log
    cases m <;> exact log
  ended i m here finished := by
    have standing := kept.standing i m here
    have silent : (m.stage (decide (i ∈ gone))).connected = false := by
      have ended : (m.stage (decide (i ∈ gone))).finished = true := by cases m <;> exact finished
      rw [standing.flag, ended, Bool.not_true, Bool.and_false]
    exact standing.ended silent
  closedAgain _ _ _ closed s := InProcess.closeAgain setup.handlers s closed

theorem announcedOnce (discreet : Discreet setup.handlers.process) (memory : σ)
    (occasions : List Occasion) :
    Announced setup (allParting setup (start memory) occasions)
      (run setup (start memory) occasions) :=
  announced (keptRun discreet (keptStart memory) occasions)

theorem announcedOnceThreeMembers :
    let setup : Setup Timesync.Samples :=
      ⟨⟨Standard.process ⟨.current, .current, 0, 30000⟩, [Timesync.extension]⟩,
        ⟨-1, none, 65536, [WebSocket.transport], 16⟩, ⟨60000, 1000, 1000, 16⟩⟩
    let goodbye := "\x7b\"channel\":\"/meta/disconnect\"\x7d"
    let occasions : List Occasion :=
      [.openConnection .inProcess (.failing "gone"), .openConnection .inProcess .accepting,
        .openInProcess, .signal 0 (.text goodbye), .signal 1 .broken,
        .advance (70000 * Server.millisecond), .operation 2 .expire]
    Discreet setup.handlers.process ∧ allParting setup (start []) occasions = [0] ∧
      (run setup (start []) occasions).members.map Member.isOver = [true, true, true] ∧
      Announced setup (allParting setup (start []) occasions)
        (run setup (start []) occasions) := by
  intro setup goodbye occasions
  have discreet : Discreet setup.handlers.process := Standard.discreet _
  exact ⟨discreet, by decide +kernel, by decide +kernel, announcedOnce discreet [] occasions⟩

end Company
end Bayeux
