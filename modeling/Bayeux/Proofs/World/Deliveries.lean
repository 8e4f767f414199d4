import Bayeux.Proofs.Carrier.Deliveries
import Bayeux.Proofs.World.Company
import Mathlib.Data.List.Flatten
/-! Deliveries in a company. Whoever publishes and whatever else happens in between, the packets
that a queue took in leave it in the same order, each of them once and none left out; what a
client gets of them are the batches its carrier could pass on. -/

namespace Bayeux

namespace Queue
variable {α : Type} {q r t : Queue α} {came later gone next : List α}

/-- Without a reader nothing waits. -/
def Sound (q : Queue α) : Prop := q.isOpen = false → q.waiting = []

/-- Items came in at the end, others went at the front, and what was left waits if there still is
a reader. If there was none already, nothing came and nothing went. -/
structure Passes (q : Queue α) (came gone : List α) (r : Queue α) : Prop where
  order : ∃ left, q.waiting ++ came = gone ++ left ∧ (r.isOpen = true → r.waiting = left)
  sound : r.Sound
  shut : q.isOpen = false → came = [] ∧ gone = [] ∧ r.isOpen = false

theorem soundExtends (sound : q.Sound) (grows : Extends q r) : r.Sound := by
  obtain ⟨reader, new, waiting, none⟩ := grows
  intro closed
  rw [reader] at closed
  rw [waiting, sound closed, none closed]
  rfl

theorem passesFlows (sound : q.Sound) (flows : Flows q gone r) :
    Passes q (r.waiting.drop (q.waiting.length - gone.length)) gone r := by
  obtain ⟨rest, whole, ends⟩ := flows
  have remaining : q.waiting.length - gone.length = rest.length := by
    rw [whole, List.length_append]
    omega
  have nothing : q.isOpen = false → gone = [] ∧ rest = [] := fun closed =>
    List.append_eq_nil_iff.mp (whole.symm.trans (sound closed))
  rw [remaining]
  rcases ends with grows | ⟨closed, none⟩
  · have kept :=
      soundExtends (q := { q with waiting := rest }) (fun closed => (nothing closed).2) grows
    obtain ⟨reader, new, waiting, none⟩ := grows
    simp only at reader waiting none
    rw [waiting, List.drop_left]
    refine ⟨⟨rest ++ new, by rw [whole, List.append_assoc], fun _ => waiting⟩, kept,
      fun closed => ?_⟩
    exact ⟨none closed, (nothing closed).1, reader.trans closed⟩
  · rw [none, List.drop_nil]
    refine ⟨⟨rest, by rw [whole, List.append_nil], fun open_ => ?_⟩, fun _ => none, fun shut => ?_⟩
    · rw [closed] at open_
      cases open_
    · exact ⟨rfl, (nothing shut).1, closed⟩

theorem passesTrans (first : Passes q came gone r) (second : Passes r later next t) :
    Passes q (came ++ later) (gone ++ next) t := by
  obtain ⟨left, whole, waits⟩ := first.order
  obtain ⟨rest, others, still⟩ := second.order
  refine ⟨?_, second.sound, fun shut => ?_⟩
  · cases reader : r.isOpen with
    | true =>
      rw [waits reader] at others
      exact ⟨rest, by rw [← List.append_assoc, whole, List.append_assoc, others, List.append_assoc],
        still⟩
    | false =>
      obtain ⟨rfl, rfl, closed⟩ := second.shut reader
      refine ⟨left, by simpa using whole, fun open_ => ?_⟩
      rw [closed] at open_
      cases open_
  · obtain ⟨rfl, rfl, closed⟩ := first.shut shut
    obtain ⟨rfl, rfl, ended⟩ := second.shut closed
    exact ⟨rfl, rfl, ended⟩

end Queue

theorem Batch.arrivalsArrived (batches : List Batch) :
    batches.flatMap Batch.arrivals = (batches.filter Batch.arrived).flatMap Batch.texts := by
  induction batches with
  | nil => rfl
  | cons b rest ih =>
    rw [List.flatMap_cons, ih, List.filter_cons]
    unfold Batch.arrivals
    split <;> rfl

namespace Company
variable {σ α : Type} {setup : Setup σ} {company after : Company σ} {i : Nat}

/-- A pump also hands on single packets, and looks at its connection by itself. -/
inductive Moment where
  | occasion (occasion : Occasion)
  | forward (member : Nat)
  | look (member : Nat)

/-- Whose turn it is. -/
def Moment.member? : Moment → Option Nat
  | .occasion (.signal member _) => some member
  | .occasion (.operation member _) => some member
  | .forward member => some member
  | .look member => some member
  | _ => none

def turn (setup : Setup σ) (company : Company σ) : Moment → Company σ
  | .occasion occasion => company.step setup occasion
  | .forward member => company.onInProcess member fun p s => p.forward setup.handlers s
  | .look member => company.onInProcess member fun p s => p.look setup.inProcess s

def turns (setup : Setup σ) (company : Company σ) (moments : List Moment) : Company σ :=
  moments.foldl (turn setup) company

def ofConnection (company : Company σ) (member : Nat) (act : Connection → List α) : List α :=
  match company.members[member]? with
  | some (.connection c) => act c
  | _ => []

def ofInProcess (company : Company σ) (member : Nat) (act : InProcess → List α) : List α :=
  match company.members[member]? with
  | some (.inProcess p) => act p
  | _ => []

/-- What the carrier whose turn it is takes out of its queue. -/
def takes (setup : Setup σ) (company : Company σ) : Moment → List Batch
  | .occasion (.signal member signal) =>
    company.ofConnection member (·.taken setup.handlers setup.webSocket company.server signal)
  | .occasion (.operation member operation) =>
    company.ofInProcess member (·.taken setup.handlers company.server operation)
  | .forward member => company.ofInProcess member (·.forwarded setup.handlers company.server)
  | _ => []

/-- What the client whose turn it is gets, when it is the turn of its deliveries. -/
def gets (setup : Setup σ) (company : Company σ) : Moment → List SinkFrame
  | .occasion (.signal member .deliveries) =>
    company.ofConnection member fun c =>
      let d := (c.step setup.handlers setup.webSocket company.server .deliveries).1
      d.carrier.sink.arrivedSince c.carrier.sink.calls.length
  | .occasion (.operation member .pump) =>
    company.ofInProcess member fun p =>
      let q := (p.pump setup.handlers setup.inProcess company.server).1
      (q.inbox.waiting.drop p.inbox.waiting.length).map .text
  | .forward member =>
    company.ofInProcess member fun p =>
      let q := (p.forward setup.handlers company.server).1
      (q.inbox.waiting.drop p.inbox.waiting.length).map .text
  | _ => []

def own (i : Nat) (each : Company σ → Moment → List α) (company : Company σ) (moment : Moment) :
    List α :=
  if moment.member? = some i then each company moment else []

def queueOf (company : Company σ) (i : Nat) : Queue Packet :=
  ((company.members[i]?).map fun m => company.server.queueOf m.session).getD ⟨0, [], false, 0⟩

def taken (setup : Setup σ) (i : Nat) : Company σ → Moment → List Batch := own i (takes setup)

def got (setup : Setup σ) (i : Nat) : Company σ → Moment → List SinkFrame := own i (gets setup)

/-- What the queue of a member took in stands behind what was left over. -/
def accepted (setup : Setup σ) (i : Nat) (company : Company σ) (moment : Moment) : List Packet :=
  ((company.turn setup moment).queueOf i).waiting.drop ((company.queueOf i).waiting.length -
    ((taken setup i company moment).flatMap Batch.packets).length)

/-- One turn after the other. -/
def gathered (setup : Setup σ) (each : Company σ → Moment → List α) (company : Company σ) :
    List Moment → List α
  | [] => []
  | moment :: rest => each company moment ++ gathered setup each (company.turn setup moment) rest

/- Which queues a turn touches. -/

/-- Something happened beside the members, one came, or one had its turn and took packets. -/
inductive Turned (company : Company σ) (member? : Option Nat) (packets : List Packet) :
    Company σ → Prop where
  | aside {t : Server σ} (nothing : packets = []) (offers : company.server.Offers t) :
      Turned company member? packets ⟨t, company.members⟩
  | joined {m : Member} {session : Session} {t : Server σ} (nothing : packets = [])
      (name : m.session = Server.sessionId (List.length company.server.sessions))
      (placed : t.sessions = (company.server.setSession m.session session).sessions)
      (fresh : session.deliveries.isOpen = true ∧ session.deliveries.waiting = []) :
      Turned company member? packets ⟨t, company.members ++ [m]⟩
  | served {j : Nat} {m n : Member} {t : Server σ} (turn : member? = some j)
      (here : company.members[j]? = some m) (session : n.session = m.session)
      (drains : company.server.Drains m.session packets t) :
      Turned company member? packets ⟨t, company.members.set j n⟩

theorem turnedStill (company : Company σ) (member? : Option Nat) :
    Turned company member? [] company :=
  .aside rfl (Server.offersRefl company.server)

theorem turnedConnection (company : Company σ) (member : Nat)
    (act : Connection → Server σ → Connection × Server σ) (take : Connection → List Batch)
    (drains : ∀ c, Client.Drains (.webSocket c.carrier) ((take c).flatMap Batch.packets)
      company.server (.webSocket (act c company.server).1.carrier) (act c company.server).2) :
    Turned company (some member) ((company.ofConnection member take).flatMap Batch.packets)
      (company.onConnection member act) := by
  unfold ofConnection onConnection
  cases here : company.members[member]? with
  | none => exact turnedStill company _
  | some m =>
    cases m with
    | inProcess p => exact turnedStill company _
    | connection c => exact .served rfl here (drains c).session (drains c).server

theorem turnedInProcess (company : Company σ) (member : Nat)
    (act : InProcess → Server σ → InProcess × Server σ) (take : InProcess → List Batch)
    (drains : ∀ p, Client.Drains (.inProcess p) ((take p).flatMap Batch.packets)
      company.server (.inProcess (act p company.server).1) (act p company.server).2) :
    Turned company (some member) ((company.ofInProcess member take).flatMap Batch.packets)
      (company.onInProcess member act) := by
  unfold ofInProcess onInProcess
  cases here : company.members[member]? with
  | none => exact turnedStill company _
  | some m =>
    cases m with
    | connection c => exact turnedStill company _
    | inProcess p => exact .served rfl here (drains p).session (drains p).server

theorem turned (offering : Offering setup.handlers.process) (company : Company σ)
    (moment : Moment) :
    Turned company moment.member? ((takes setup company moment).flatMap Batch.packets)
      (company.turn setup moment) := by
  cases moment with
  | forward member =>
    exact turnedInProcess company member _ _ fun p =>
      InProcess.forwardDrains offering p company.server
  | look member =>
    have looked := turnedInProcess company member _ (fun _ => []) fun p =>
      InProcess.lookDrains setup.inProcess p company.server
    have nothing : company.ofInProcess member (fun _ => ([] : List Batch)) = [] := by
      unfold ofInProcess
      split <;> rfl
    rwa [nothing] at looked
  | occasion occasion =>
    cases occasion with
    | signal member signal =>
      exact turnedConnection company member
        (fun c s => c.step setup.handlers setup.webSocket s signal) _ fun c =>
        Connection.stepDrains offering setup.webSocket c company.server signal
    | operation member operation =>
      exact turnedInProcess company member
        (fun p s => p.perform setup.handlers setup.inProcess s operation) _ fun p =>
        InProcess.performDrains offering setup.inProcess p company.server operation
    | deliver session p => exact .aside rfl (Server.offersDeliver _ _ _)
    | publish sender? p => exact .aside rfl (Server.offersPublish _ _ _)
    | advance nanoseconds => exact .aside rfl (Server.offersAside rfl)
    | openConnection peer behaviour =>
      simp only [turn, step]
      split
      · exact .joined rfl rfl rfl ⟨rfl, rfl⟩
      · exact turnedStill company _
    | openInProcess =>
      simp only [turn, step]
      split
      · exact .joined rfl rfl rfl ⟨rfl, rfl⟩
      · exact turnedStill company _

/-- Everybody has the session of its number, and nothing waits without a reader. -/
structure Seated (company : Company σ) : Prop where
  numbered : company.server.Numbered company.members.length
  sessions : ∀ (i : Nat) m, company.members[i]? = some m → m.session = Server.sessionId i
  sound : ∀ id, (company.server.queueOf id).Sound

theorem seatedStart (memory : σ) : Seated (start memory) where
  numbered := rfl
  sessions := by simp [start]
  sound := fun _ _ => rfl

variable {member? : Option Nat} {packets : List Packet}

theorem seatedTurned (seated : Seated company) (turned : Turned company member? packets after) :
    Seated after := by
  cases turned with
  | aside nothing offers =>
    exact ⟨offers.names.trans seated.numbered, seated.sessions,
      fun id => Queue.soundExtends (seated.sound id) (offers.queues id)⟩
  | @joined m session t nothing name placed fresh =>
    rw [Server.numberedCount seated.numbered] at name
    have names := Server.numberedNext seated.numbered session
    rw [← name, ← placed] at names
    refine ⟨?_, fun i n here => Server.namedConcat seated.sessions name here, fun id => ?_⟩
    · rw [List.length_append, List.length_singleton]
      exact names
    · rw [Server.queuePlaced placed]
      split
      · exact fun closed => fresh.2
      · exact seated.sound id
  | @served j m n t turn here session drains =>
    refine ⟨?_, fun i e there => Server.namedSet seated.sessions here session there, fun id => ?_⟩
    · rw [List.length_set]
      exact drains.names.trans seated.numbered
    · by_cases same : id = m.session
      · rw [same]
        exact (Queue.passesFlows (seated.sound _) drains.own).sound
      · exact Queue.soundExtends (seated.sound id) (drains.others id same)

theorem queueNamed (seated : Seated company) (inside : i < company.members.length) :
    company.queueOf i = company.server.queueOf (Server.sessionId i) := by
  rw [queueOf, List.getElem?_eq_getElem inside, Option.map_some, Option.getD_some,
    seated.sessions i _ (List.getElem?_eq_getElem inside)]

theorem insideTurned (turned : Turned company member? packets after)
    (inside : i < company.members.length) : i < after.members.length := by
  cases turned with
  | aside nothing offers => exact inside
  | joined nothing name placed fresh =>
    rw [List.length_append]
    exact Nat.lt_add_right _ inside
  | served turn here session drains => rwa [List.length_set]

theorem flowsTurned (seated : Seated company) (turned : Turned company member? packets after)
    (inside : i < company.members.length) :
    (company.queueOf i).Flows (if member? = some i then packets else []) (after.queueOf i) := by
  rw [queueNamed seated inside,
    queueNamed (seatedTurned seated turned) (insideTurned turned inside)]
  cases turned with
  | aside nothing offers =>
    rw [nothing, ite_self]
    exact Queue.flowsExtends (offers.queues _)
  | joined nothing name placed fresh =>
    have other : Server.sessionId i ≠ Server.sessionId company.members.length := fun same =>
      Nat.ne_of_lt inside (Server.sessionIdInjective same)
    rw [Server.numberedCount seated.numbered] at name
    rw [nothing, ite_self, Server.queuePlaced placed, name, if_neg other]
    exact Queue.flowsExtends (Queue.extendsRefl _)
  | @served j m n t turn here session drains =>
    rw [seated.sessions j m here] at drains
    rw [turn]
    by_cases same : j = i
    · rw [if_pos (congrArg some same), ← same]
      exact drains.own
    · have other : Server.sessionId i ≠ Server.sessionId j := fun equal =>
        same (Server.sessionIdInjective equal).symm
      rw [if_neg fun equal => same (Option.some.inj equal)]
      exact Queue.flowsExtends (drains.others _ other)

/- Nothing is taken for somebody who has not come yet, and who comes has an empty queue. -/
theorem outsideTurned (turned : Turned company member? packets after)
    (outside : company.members.length ≤ i) :
    (if member? = some i then packets else []) = [] ∧ (after.queueOf i).waiting = [] := by
  have absent : ∀ {t : Server σ}, ((⟨t, company.members⟩ : Company σ).queueOf i).waiting = [] := by
    intro t
    rw [queueOf, List.getElem?_eq_none outside]
    rfl
  cases turned with
  | aside nothing offers => exact ⟨by rw [nothing, ite_self], absent⟩
  | @joined m session t nothing name placed fresh =>
    refine ⟨by rw [nothing, ite_self], ?_⟩
    rw [queueOf]
    cases here : (company.members ++ [m])[i]? with
    | none => rfl
    | some n =>
      rcases Server.concatCases here with ⟨-, inside⟩ | ⟨-, same⟩
      · omega
      · rw [same, Option.map_some, Option.getD_some, Server.queuePlaced placed, if_pos rfl]
        exact fresh.2
  | @served j m n t turn here session drains =>
    obtain ⟨inside, -⟩ := List.getElem?_eq_some_iff.mp here
    have other : member? ≠ some i := by
      rw [turn]
      intro same
      have := Option.some.inj same
      omega
    refine ⟨if_neg other, ?_⟩
    rw [queueOf, List.getElem?_eq_none (by rwa [List.length_set])]
    rfl

/- Runs. -/

theorem takenPackets (setup : Setup σ) (i : Nat) (company : Company σ) (moment : Moment) :
    (taken setup i company moment).flatMap Batch.packets =
      if moment.member? = some i then (takes setup company moment).flatMap Batch.packets
      else [] := by
  unfold taken own
  split <;> rfl

theorem passesTurns (offering : Offering setup.handlers.process) (seated : Seated company)
    (inside : i < company.members.length) (moments : List Moment) :
    (company.queueOf i).Passes (gathered setup (accepted setup i) company moments)
      ((gathered setup (taken setup i) company moments).flatMap Batch.packets)
      ((company.turns setup moments).queueOf i) := by
  have sound : (company.queueOf i).Sound := by
    rw [queueNamed seated inside]
    exact seated.sound _
  induction moments generalizing company with
  | nil => exact ⟨⟨_, List.append_nil _, fun _ => rfl⟩, sound, fun shut => ⟨rfl, rfl, shut⟩⟩
  | cons moment rest ih =>
    have one := turned offering company moment
    have flows := flowsTurned seated one inside
    rw [← takenPackets] at flows
    have first := Queue.passesFlows sound flows
    have later := ih (seatedTurned seated one) (insideTurned one inside) first.sound
    simp only [gathered, List.flatMap_append]
    exact Queue.passesTrans first later

theorem orderTurns (offering : Offering setup.handlers.process) (seated : Seated company)
    (i : Nat) (moments : List Moment) :
    ∃ left, (company.queueOf i).waiting ++ gathered setup (accepted setup i) company moments =
        (gathered setup (taken setup i) company moments).flatMap Batch.packets ++ left ∧
      (((company.turns setup moments).queueOf i).isOpen = true →
        ((company.turns setup moments).queueOf i).waiting = left) := by
  induction moments generalizing company with
  | nil => exact ⟨_, List.append_nil _, fun _ => rfl⟩
  | cons moment rest ih =>
    rcases Nat.lt_or_ge i company.members.length with inside | outside
    · exact (passesTurns offering seated inside (moment :: rest)).order
    · have one := turned offering company moment
      obtain ⟨nothing, empty⟩ := outsideTurned one outside
      obtain ⟨left, order, waits⟩ := ih (seatedTurned seated one)
      have absent : (company.queueOf i).waiting = [] := by
        rw [queueOf, List.getElem?_eq_none outside]
        rfl
      have came : accepted setup i company moment = [] := by rw [accepted, empty, List.drop_nil]
      rw [empty, List.nil_append] at order
      refine ⟨left, ?_, waits⟩
      simp only [gathered, List.flatMap_append, takenPackets, nothing, absent, came,
        List.nil_append]
      exact order

/- Each turn of deliveries. -/

theorem getsTakes (lenient : ∀ e ∈ setup.handlers.extensions, e.Lenient) (company : Company σ)
    (moment : Moment) :
    gets setup company moment = ((takes setup company moment).flatMap Batch.arrivals).map .text ∧
      ∀ b ∈ takes setup company moment, b.Fair := by
  have nothing : ([] : List SinkFrame) = (([] : List Batch).flatMap Batch.arrivals).map .text ∧
      ∀ b ∈ ([] : List Batch), b.Fair := ⟨rfl, List.forall_mem_nil _⟩
  cases moment with
  | look member => exact nothing
  | forward member =>
    simp only [gets, takes, ofInProcess]
    split
    · rename_i p here
      obtain ⟨waiting, fair⟩ := InProcess.forwardArrives lenient p company.server
      rw [waiting, List.drop_left]
      exact ⟨rfl, fair⟩
    · exact nothing
  | occasion occasion =>
    cases occasion with
    | openConnection | openInProcess | deliver | publish | advance => exact nothing
    | signal member signal =>
      cases signal with
      | deliveries =>
        simp only [gets, takes, ofConnection]
        split
        · rename_i c here
          exact Connection.stepArrives lenient setup.webSocket c company.server
        · exact nothing
      | text | binary | ping | close | broken | tick =>
        simp only [gets, takes, ofConnection]
        split <;> exact nothing
    | operation member operation =>
      cases operation with
      | pump =>
        simp only [gets, takes, ofInProcess]
        split
        · rename_i p here
          obtain ⟨waiting, fair⟩ := InProcess.pumpArrives lenient setup.inProcess p company.server
          rw [waiting, List.drop_left]
          exact ⟨rfl, fair⟩
        · exact nothing
      | inject | send | close | expire | collect | setIdleTimeout | dropReader =>
        simp only [gets, takes, ofInProcess]
        split <;> exact nothing

theorem gatheredMap {β : Type} {each : Company σ → Moment → List α}
    {other : Company σ → Moment → List β} {f : α → List β}
    (one : ∀ company moment, other company moment = (each company moment).flatMap f)
    (company : Company σ) (moments : List Moment) :
    gathered setup other company moments = (gathered setup each company moments).flatMap f := by
  induction moments generalizing company with
  | nil => rfl
  | cons moment rest ih => rw [gathered, gathered, ih, one, List.flatMap_append]

theorem gatheredAll {each : Company σ → Moment → List α} {p : α → Prop}
    (one : ∀ company moment, ∀ x ∈ each company moment, p x) (company : Company σ)
    (moments : List Moment) : ∀ x ∈ gathered setup each company moments, p x := by
  induction moments generalizing company with
  | nil => exact List.forall_mem_nil _
  | cons moment rest ih =>
    rw [gathered]
    exact List.forall_mem_append.mpr ⟨one company moment, ih _⟩

/-- How the deliveries of a member fare: what was taken is what was accepted, up to what still
waits, and the client gets the texts of those batches that arrived. -/
structure InOrder (setup : Setup σ) (i : Nat) (company : Company σ) (moments : List Moment) :
    Prop where
  got : gathered setup (got setup i) company moments =
    (((gathered setup (taken setup i) company moments).filter Batch.arrived).flatMap
      Batch.texts).map .text
  subsequence : (((gathered setup (taken setup i) company moments).filter
    Batch.arrived).flatMap Batch.packets).Sublist
      (gathered setup (accepted setup i) company moments)
  front : ((gathered setup (taken setup i) company moments).flatMap Batch.packets).IsPrefix
    (gathered setup (accepted setup i) company moments)
  waiting : ((company.turns setup moments).queueOf i).isOpen = true →
    gathered setup (accepted setup i) company moments =
      (gathered setup (taken setup i) company moments).flatMap Batch.packets ++
        ((company.turns setup moments).queueOf i).waiting
  fair : ∀ b ∈ gathered setup (taken setup i) company moments, b.Fair

theorem deliveredInOrder (offering : Offering setup.handlers.process)
    (lenient : ∀ e ∈ setup.handlers.extensions, e.Lenient) (memory : σ) (i : Nat)
    (moments : List Moment) : InOrder setup i (start memory) moments := by
  obtain ⟨left, order, waits⟩ := orderTurns offering (seatedStart memory) i moments
  have before : ((start memory : Company σ).queueOf i).waiting = [] := rfl
  rw [before, List.nil_append] at order
  have gets : ∀ company moment, got setup i company moment =
      (taken setup i company moment).flatMap fun b => b.arrivals.map .text := by
    intro company moment
    unfold got taken own
    split
    · rw [(getsTakes lenient company moment).1, List.map_flatMap]
    · rfl
  have fair : ∀ company moment, ∀ b ∈ taken setup i company moment, b.Fair := by
    intro company moment
    unfold taken own
    split
    · exact (getsTakes lenient company moment).2
    · exact List.forall_mem_nil _
  have front : ((gathered setup (taken setup i) (start memory) moments).flatMap
      Batch.packets).IsPrefix (gathered setup (accepted setup i) (start memory) moments) :=
    ⟨left, order.symm⟩
  refine ⟨?_, ?_, front, fun reader => by rw [order, waits reader], gatheredAll fair _ _⟩
  · rw [gatheredMap gets, ← Batch.arrivalsArrived, List.map_flatMap]
  · exact (List.filter_sublist.flatMap _).trans front.sublist

/- A WebSocket whose second write fails, and an inbox for a single text. -/
theorem deliveredInOrderTwoMembers :
    let setup : Setup Unit :=
      ⟨⟨Standard.process ⟨.current, .current, 0, 30000⟩, [.silent "audit"]⟩,
        ⟨-1, none, 65536, [WebSocket.transport], 16⟩, ⟨60000, 1000, 1000, 1⟩⟩
    let packet (id : Int) : Packet := .single .delivery ⟨.plain [("id", .integer id)]⟩
    let failing : Sink := ⟨fun calls => if calls.isEmpty then .written else .failed "gone",
      fun _ => none, []⟩
    let give (member : Nat) (id : Int) : Moment :=
      .occasion (.deliver (Server.sessionId member) (packet id))
    let flush : Moment := .occasion (.signal 0 .deliveries)
    let moments : List Moment :=
      [.occasion (.openConnection .inProcess failing), .occasion .openInProcess, give 0 1,
        give 1 2, give 0 3, flush, .forward 1, give 1 4, give 0 5, .forward 1, flush, give 0 6]
    let fates (i : Nat) := (gathered setup (taken setup i) (start ()) moments).map fun b =>
      (b.packets.length, b.arrived)
    Offering setup.handlers.process ∧ (∀ e ∈ setup.handlers.extensions, e.Lenient) ∧
      fates 0 = [(2, true), (1, false)] ∧ fates 1 = [(1, true), (1, false)] ∧
      InOrder setup 0 (start ()) moments ∧ InOrder setup 1 (start ()) moments := by
  intro setup packet failing give flush moments fates
  have offering : Offering setup.handlers.process := Standard.offering _
  have lenient : ∀ e ∈ setup.handlers.extensions, e.Lenient := by
    intro e member
    obtain rfl : e = .silent "audit" := List.mem_singleton.mp member
    exact ⟨fun _ _ _ _ => ⟨rfl, rfl⟩, fun _ _ _ _ => ⟨rfl, rfl⟩⟩
  exact ⟨offering, lenient, by decide +kernel, by decide +kernel,
    deliveredInOrder offering lenient () 0 moments, deliveredInOrder offering lenient () 1 moments⟩

end Company
end Bayeux
