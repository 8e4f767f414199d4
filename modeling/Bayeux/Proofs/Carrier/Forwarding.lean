import Bayeux.Proofs.Carrier.Lives
import Bayeux.Proofs.Server.Queues
/-! The pump of a carrier in the same process, one packet after the other. Whatever waits when it
comes to its turn could as well have been handed on packet by packet, with anything of others in
between, before it looks at its connection. -/

namespace Bayeux

namespace Table
variable {α : Type}

theorem putSame {t : Table α} {key : String} {value : α} (found : t.get? key = some value) :
    t.put key value = t := by
  induction t with
  | nil => cases found
  | cons entry rest ih =>
    obtain ⟨k, held⟩ := entry
    by_cases same : k = key
    · simp only [get?, if_pos same, Option.some.injEq] at found
      rw [put, if_pos same, found]
    · simp only [get?, if_neg same] at found
      rw [put, if_neg same, ih found]

theorem putAgain (t : Table α) (key : String) (first second : α) :
    (t.put key first).put key second = t.put key second := by
  induction t with
  | nil => simp [put]
  | cons entry rest ih =>
    obtain ⟨k, held⟩ := entry
    by_cases same : k = key
    · simp [put, same]
    · simp [put, same, ih]

end Table

namespace Server
variable {σ : Type} {s : Server σ} {id : String}

theorem takeNothing (nothing : (s.queueOf id).waiting = []) : s.takeDeliveries id = ([], s) := by
  unfold takeDeliveries onSession queueOf at *
  cases found : s.session? id with
  | none => rfl
  | some x =>
    rw [found] at nothing
    have empty : x.deliveries.waiting = [] := nothing
    have same : { x with deliveries := x.deliveries.takeAll.2 } = x := by
      obtain ⟨id, transport, isLocal, state, capacity, waiting, isOpen, refused⟩ := x
      simp only at empty
      rw [empty]
      rfl
    simp only [same, setSession, Table.putSame found]
    exact congrArg (·, s) empty

theorem takeFirst {packet : Packet} {rest : List Packet}
    (waiting : (s.queueOf id).waiting = packet :: rest) :
    (s.takeDelivery id).1 = some packet ∧
      ((s.takeDelivery id).2.queueOf id).waiting = rest ∧
      ((s.takeDelivery id).2.takeDeliveries id).2 = (s.takeDeliveries id).2 := by
  have left := queueOnSession s id id none fun session =>
    (session.deliveries.take.1, { session with deliveries := session.deliveries.take.2 })
  rw [if_pos rfl] at left
  unfold takeDelivery
  rw [left]
  unfold queueOf at waiting
  cases found : s.session? id with
  | none =>
    rw [found] at waiting
    cases waiting
  | some x =>
    rw [found] at waiting
    have holds : x.deliveries.waiting = packet :: rest := waiting
    have again : ∀ first second : Session,
        ((s.setSession id first).setSession id second) = s.setSession id second := fun _ _ => by
      simp only [setSession, Table.putAgain]
    have placed : ∀ first : Session, (s.setSession id first).session? id = some first := fun _ => by
      simp only [session?, setSession, Table.getPutSame]
    simp only [onSession, found, takeDeliveries, placed, again]
    simp only [Queue.take, Queue.takeAll, holds, Option.map_some, Option.getD_some, and_self]

end Server

/- The queues of the sessions are not looked at when something is sent. -/

namespace Extension
variable {σ : Type}

theorem outgoingPassSessions (extensions : List (Extension σ)) (id : String) (m : Message)
    (s : Server σ) (sessions : Table Session) :
    outgoingPass extensions id m { s with sessions } =
      ((outgoingPass extensions id m s).1, (outgoingPass extensions id m s).2.1,
        { (outgoingPass extensions id m s).2.2 with sessions }) := by
  induction extensions generalizing m s with
  | nil => rfl
  | cons e rest ih =>
    unfold outgoingPass
    simp only
    split
    · exact ih _ { s.note (.outgoing e.name) with memory := (e.outgoing s.clock id m s.memory).2.2 }
    · rfl

theorem outgoingMessagesSessions (extensions : List (Extension σ)) (id : String)
    (messages : List Message) (s : Server σ) (sessions : Table Session) :
    outgoingMessages extensions id messages { s with sessions } =
      ((outgoingMessages extensions id messages s).1,
        { (outgoingMessages extensions id messages s).2 with sessions }) := by
  induction messages generalizing s with
  | nil => rfl
  | cons m rest ih => simp only [outgoingMessages, outgoingPassSessions, ih]

theorem outgoingPacketsSessions (extensions : List (Extension σ)) (id : String)
    (packets : List Packet) (s : Server σ) (sessions : Table Session) :
    outgoingPackets extensions id packets { s with sessions } =
      ((outgoingPackets extensions id packets s).1,
        { (outgoingPackets extensions id packets s).2 with sessions }) := by
  induction packets generalizing s with
  | nil => rfl
  | cons p rest ih => simp only [outgoingPackets, outgoingMessagesSessions, ih]

end Extension

namespace InProcess
variable {σ : Type} {h : Handlers σ}

theorem sendSessions (h : Handlers σ) (packets : List Packet) (p : InProcess) (s : Server σ)
    (sessions : Table Session) :
    send h packets p { s with sessions } =
      ((send h packets p s).1, (send h packets p s).2.1,
        { (send h packets p s).2.2 with sessions }) := by
  unfold send
  split
  · rfl
  · simp only [Outbound.ofPackets?, Extension.outgoingPacketsSessions]
    split <;> rfl

theorem sendTaken (h : Handlers σ) (packets : List Packet) (p : InProcess) (s : Server σ)
    (id : String) :
    send h packets p (s.takeDeliveries id).2 =
      ((send h packets p s).1, (send h packets p s).2.1,
        ((send h packets p s).2.2.takeDeliveries id).2) := by
  have same : (send h packets p s).2.2.sessions = s.sessions :=
    congrArg (fun done => done.2.2.sessions) (sendSessions h packets p s s.sessions)
  have taken : ∀ t : Server σ, t.sessions = s.sessions →
      (t.takeDeliveries id).2 = { t with sessions := (s.takeDeliveries id).2.sessions } := by
    intro t same
    unfold Server.takeDeliveries Server.onSession Server.session?
    rw [same]
    cases Table.get? s.sessions id with
    | none => rw [← same]
    | some x => simp only [Server.setSession, same]
  rw [taken s rfl, sendSessions, taken _ same]

/-- The pump hands a single packet on, if one waits. -/
def forward (h : Handlers σ) (p : InProcess) (s : Server σ) : InProcess × Server σ :=
  if !p.isPumping then (p, s)
  else
    let (packet?, s) := s.takeDelivery p.session
    sendEach h packet?.toList p s

/-- The pump looks at the connection if it is time. -/
def look (settings : Settings) (p : InProcess) (s : Server σ) : InProcess × Server σ :=
  let due := p.dueLooks settings s.clock
  if p.isPumping && decide (p.looks < due) then
    if p.isConnected then ({ p with looks := due }, s)
    else ({ p with looks := due, isPumping := false }, s.closeDeliveries p.session)
  else (p, s)

def forwards (h : Handlers σ) : Nat → InProcess → Server σ → InProcess × Server σ
  | 0, p, s => (p, s)
  | count + 1, p, s =>
    let (p, s) := forward h p s
    forwards h count p s

theorem sendPumping (h : Handlers σ) (packets : List Packet) (p : InProcess) (s : Server σ) :
    (send h packets p s).2.1.isPumping = p.isPumping ∧
      (send h packets p s).2.1.session = p.session := by
  unfold send
  split
  · exact ⟨rfl, rfl⟩
  · simp only
    split <;> exact ⟨rfl, rfl⟩

theorem forwardsEach (h : Handlers σ) (packets : List Packet) {p : InProcess} {s : Server σ}
    (pumping : p.isPumping = true) (waiting : (s.queueOf p.session).waiting = packets) :
    forwards h packets.length p s = sendEach h packets p (s.takeDeliveries p.session).2 ∧
      (forwards h packets.length p s).1.isPumping = true := by
  induction packets generalizing p s with
  | nil =>
    rw [Server.takeNothing waiting]
    exact ⟨rfl, pumping⟩
  | cons packet rest ih =>
    obtain ⟨taken, left, others⟩ := Server.takeFirst waiting
    generalize first : s.takeDelivery p.session = took at taken left others
    obtain ⟨packet?, t⟩ := took
    simp only at taken left others
    subst taken
    have handed : forward h p s = (send h [packet] p t).2 := by
      simp only [forward, pumping, first, Bool.not_true, Bool.false_eq_true, if_false]
      rfl
    obtain ⟨still, session⟩ := sendPumping h [packet] p t
    have same : (send h [packet] p t).2.2.sessions = t.sessions :=
      congrArg (fun done => done.2.2.sessions) (sendSessions h [packet] p t t.sessions)
    have remaining : ((send h [packet] p t).2.2.queueOf p.session).waiting = rest := by
      simp only [Server.queueOf, Server.session?, same] at left ⊢
      exact left
    have later := ih (still.trans pumping) (session ▸ remaining)
    simp only [List.length_cons, forwards, sendEach, handed, ← others, sendTaken]
    rwa [session] at later

theorem pumpSteps (h : Handlers σ) (settings : Settings) (p : InProcess) (s : Server σ) :
    pump h settings p s =
      let (q, t) := forwards h (s.queueOf p.session).waiting.length p s
      look settings q t := by
  cases pumping : p.isPumping with
  | false =>
    have stays : ∀ count, forwards h count p s = (p, s) := fun count => by
      induction count with
      | zero => rfl
      | succ count ih => simpa only [forwards, forward, pumping, Bool.not_false, if_true] using ih
    simp [pump, look, stays, pumping]
  | true =>
    obtain ⟨each, still⟩ := forwardsEach h (s.queueOf p.session).waiting pumping rfl
    have taken := (Server.queueTakeDeliveries s p.session).1
    rw [each] at still ⊢
    simp only [pump, look, pumping, taken, still, Bool.not_true, Bool.false_eq_true, if_false,
      Bool.true_and, decide_eq_true_eq]

end InProcess
end Bayeux
