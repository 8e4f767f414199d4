import Bayeux.Proofs.Registry.History
import Bayeux.Proofs.Server.Effects
import Bayeux.Proofs.Server.Errands
/-! Who touches the queue of a session. Requests and extensions, of whomever, only ever append to
it while somebody reads it, and what waits is taken or thrown away for the session itself. -/

namespace Bayeux

namespace Queue
variable {α : Type} {q r t : Queue α}

/-- Items were appended, and none if nobody reads them. -/
structure Extends (q r : Queue α) : Prop where
  reader : r.isOpen = q.isOpen
  waiting : ∃ new, r.waiting = q.waiting ++ new ∧ (q.isOpen = false → new = [])

theorem extendsRefl (q : Queue α) : Extends q q := ⟨rfl, [], by simp⟩

theorem extendsTrans (first : Extends q r) (second : Extends r t) : Extends q t := by
  obtain ⟨reader, early, left, none⟩ := first
  obtain ⟨still, late, right, nothing⟩ := second
  refine ⟨still.trans reader, early ++ late, by rw [right, left, List.append_assoc], fun gone => ?_⟩
  rw [none gone, nothing (reader.trans gone)]
  rfl

theorem extendsOffer (q : Queue α) (item : α) : Extends q (q.offer item).2 := by
  unfold offer
  cases reader : q.isOpen with
  | false => exact ⟨rfl, [], by simp⟩
  | true =>
    simp only [Bool.not_true, Bool.false_eq_true, if_false]
    split
    · exact ⟨reader.symm, [], by simp⟩
    · exact ⟨reader.symm, [item], rfl, fun gone => by rw [reader] at gone; cases gone⟩

end Queue

namespace Server
variable {σ : Type} {h : Handlers σ} {s t u : Server σ} {id other : String}

/-- The queue of a session; one that is not known has a queue without reader. -/
def queueOf (s : Server σ) (id : String) : Queue Packet :=
  ((s.session? id).map Session.deliveries).getD ⟨0, [], false, 0⟩

/-- The sessions are the same, and packets were appended to their queues. -/
structure Offers (s t : Server σ) : Prop where
  names : Table.keys t.sessions = Table.keys s.sessions
  queues : ∀ id, (s.queueOf id).Extends (t.queueOf id)

theorem offersTrans (first : Offers s t) (second : Offers t u) : Offers s u :=
  ⟨second.names.trans first.names,
    fun id => Queue.extendsTrans (first.queues id) (second.queues id)⟩

theorem offersAside (same : t.sessions = s.sessions) : Offers s t := by
  refine ⟨congrArg Table.keys same, fun id => ?_⟩
  have queue : t.queueOf id = s.queueOf id := by simp only [queueOf, session?, same]
  exact queue ▸ Queue.extendsRefl _

theorem offersRefl (s : Server σ) : Offers s s := offersAside rfl

theorem queueOnSession {β : Type} (s : Server σ) (id other : String) (missing : β)
    (act : Session → β × Session) :
    (s.onSession id missing act).2.queueOf other =
      if other = id then ((s.session? id).map fun x => (act x).2.deliveries).getD
        ⟨0, [], false, 0⟩ else s.queueOf other := by
  unfold queueOf
  rw [sessionOnSession]
  split
  · rw [Option.map_map]
    rfl
  · rfl

theorem offersOnSession {β : Type} (s : Server σ) (id : String) (missing : β)
    {act : Session → β × Session}
    (grows : ∀ x : Session, x.deliveries.Extends (act x).2.deliveries) :
    Offers s (s.onSession id missing act).2 := by
  refine ⟨keysOnSession s id missing act, fun other => ?_⟩
  rw [queueOnSession]
  split
  · rename_i same
    subst same
    unfold queueOf
    cases s.session? other with
    | none => exact Queue.extendsRefl _
    | some x => exact grows x
  · exact Queue.extendsRefl _

theorem offersDeliver (s : Server σ) (id : String) (p : Packet) : Offers s (s.deliver id p).2 :=
  offersOnSession s id false fun x => Queue.extendsOffer x.deliveries p

theorem offersPublish (s : Server σ) (sender? : Option String) (p : Packet) :
    Offers s (s.publish sender? p).2 :=
  publishKeeps offersRefl (fun first second => offersTrans first second) offersDeliver
    (fun _ _ _ => offersAside rfl) s sender? p

theorem offersTransition (s : Server σ) (id : String) (before after : SessionState) :
    Offers s (s.transition id before after).2 := by
  refine offersOnSession s id false fun x => ?_
  unfold Session.transition
  split <;> exact Queue.extendsRefl _

theorem offersMarkDisconnected (s : Server σ) (id : String) : Offers s (s.markDisconnected id) :=
  offersOnSession s id false fun _ => Queue.extendsRefl _

end Server

/-- A processor that takes nothing out of the queues of the sessions. -/
def Offering {σ : Type} (process : Processor σ) : Prop :=
  ∀ transports id c request (s : Server σ), s.Offers (process transports id c request s).2

theorem Standard.offering {σ : Type} (settings : Settings) :
    Offering (process settings : Processor σ) := by
  intro transports id c request s
  obtain ⟨done, after, processed, effect⟩ := processEffect settings transports id c request s
  rw [processed]
  cases effect with
  | refused | reconnected | leaving | subscribed | unsubscribed => exact Server.offersRefl s
  | handshook | connected => exact Server.offersTransition s id _ _
  | published => exact Server.offersPublish s _ _

namespace Server
variable {σ : Type} {h : Handlers σ} {s t u : Server σ} {id other : String}

theorem offersRespond {process : Processor σ} (offering : Offering process)
    (transports : List String) (c : Context) (s : Server σ) :
    Offers s (Router.respond process transports id c s).2 := by
  refine Router.respondRelated offersRefl offersTrans
    (fun request => offering transports id c request s) fun t request event? => ?_
  have noted : (Router.notify id c t request event?).sessions = t.sessions := by
    unfold Router.notify
    split <;> rfl
  exact offersAside noted

theorem offersErrand (offering : Offering h.process) (done : Errand h id s t) : Offers s t := by
  cases done with
  | request transports c => exact offersRespond offering transports c s
  | marked => exact offersMarkDisconnected s id
  | incoming | outgoing | forgets | waits | parted | removed | unlisted => exact offersAside rfl

theorem offersErrands (offering : Offering h.process) (done : Errands h id s t) : Offers s t := by
  induction done with
  | refl => exact offersRefl s
  | tail _ last ih => exact offersTrans ih (offersErrand offering last)

theorem queuePlaced {x : Session} (placed : t.sessions = (s.setSession id x).sessions) :
    t.queueOf other = if other = id then x.deliveries else s.queueOf other := by
  simp only [queueOf, session?, placed, setSession, Table.getPut]
  split <;> rfl

theorem queueTakeDeliveries (s : Server σ) (id : String) :
    (s.takeDeliveries id).1 = (s.queueOf id).waiting ∧
      (s.takeDeliveries id).2.queueOf id = { s.queueOf id with waiting := [] } := by
  unfold takeDeliveries
  rw [queueOnSession, if_pos rfl]
  unfold onSession queueOf
  cases s.session? id <;> exact ⟨rfl, rfl⟩

theorem queueTakeDelivery (s : Server σ) (id : String) :
    (s.takeDelivery id).1 = (s.queueOf id).take.1 ∧
      (s.takeDelivery id).2.queueOf id = (s.queueOf id).take.2 := by
  unfold takeDelivery
  rw [queueOnSession, if_pos rfl]
  unfold onSession queueOf
  cases s.session? id <;> exact ⟨rfl, rfl⟩

theorem queueCloseDeliveries (s : Server σ) (id : String) :
    (s.closeDeliveries id).queueOf id = (s.queueOf id).close := by
  unfold closeDeliveries
  rw [queueOnSession, if_pos rfl]
  unfold queueOf
  cases s.session? id <;> rfl

theorem queueOther {β : Type} (s : Server σ) (missing : β) (act : Session → β × Session)
    (different : other ≠ id) : (s.onSession id missing act).2.queueOf other = s.queueOf other := by
  rw [queueOnSession, if_neg different]

end Server

namespace Queue
variable {α : Type} {q r t : Queue α} {items : List α}

/-- Items were taken from the front, and what is left stays in front of what came, unless the
reader went away with it. -/
def Flows (q : Queue α) (items : List α) (r : Queue α) : Prop :=
  ∃ rest, q.waiting = items ++ rest ∧
    ({ q with waiting := rest }.Extends r ∨ r.isOpen = false ∧ r.waiting = [])

theorem flowsExtends (grows : Extends q r) : Flows q [] r := ⟨q.waiting, rfl, .inl grows⟩

theorem flowsTrans (first : Flows q items r) (second : Extends r t) : Flows q items t := by
  obtain ⟨rest, whole, first⟩ := first
  refine ⟨rest, whole, first.imp (fun grows => extendsTrans grows second) fun gone => ?_⟩
  obtain ⟨reader, new, waiting, none⟩ := second
  exact ⟨reader.trans gone.1, by rw [waiting, gone.2, none gone.1]; rfl⟩

theorem flowsClose (first : Flows q items r) : Flows q items r.close := by
  obtain ⟨rest, whole, -⟩ := first
  exact ⟨rest, whole, .inr ⟨rfl, rfl⟩⟩

end Queue

namespace Server
variable {σ : Type} {h : Handlers σ} {s t u : Server σ} {id other : String}
  {packets : List Packet}

/-- A turn of a session that takes these packets: the queues of the others only grow. -/
structure Drains (id : String) (packets : List Packet) (s t : Server σ) : Prop where
  names : Table.keys t.sessions = Table.keys s.sessions
  own : (s.queueOf id).Flows packets (t.queueOf id)
  others : ∀ other, other ≠ id → (s.queueOf other).Extends (t.queueOf other)

theorem drainsOffers (offers : Offers s t) : Drains id [] s t :=
  ⟨offers.names, Queue.flowsExtends (offers.queues id), fun other _ => offers.queues other⟩

theorem drainsTrans (first : Drains id packets s t) (second : Offers t u) :
    Drains id packets s u :=
  ⟨second.names.trans first.names, Queue.flowsTrans first.own (second.queues id),
    fun other different => Queue.extendsTrans (first.others other different) (second.queues other)⟩

theorem drainsTake (s : Server σ) (id : String) :
    Drains id (s.takeDeliveries id).1 s (s.takeDeliveries id).2 := by
  obtain ⟨taken, left⟩ := queueTakeDeliveries s id
  refine ⟨keysOnSession _ _ _ _, ⟨[], by rw [taken, List.append_nil], .inl ?_⟩,
    fun other different => ?_⟩
  · rw [left]
    exact Queue.extendsRefl _
  · rw [show (s.takeDeliveries id).2.queueOf other = _ from queueOther s _ _ different]
    exact Queue.extendsRefl _

theorem drainsTakeFirst (s : Server σ) (id : String) :
    Drains id (s.takeDelivery id).1.toList s (s.takeDelivery id).2 := by
  obtain ⟨taken, left⟩ := queueTakeDelivery s id
  have only : ∀ q : Queue Packet, { q with waiting := q.take.2.waiting } = q.take.2 := fun q => by
    unfold Queue.take
    split <;> rfl
  refine ⟨keysOnSession _ _ _ _, ⟨(s.queueOf id).take.2.waiting, ?_, .inl ?_⟩,
    fun other different => ?_⟩
  · rw [taken, Queue.takeWaiting]
  · rw [left, only]
    exact Queue.extendsRefl _
  · rw [show (s.takeDelivery id).2.queueOf other = _ from queueOther s _ _ different]
    exact Queue.extendsRefl _

theorem drainsClose (first : Drains id packets s t) :
    Drains id packets s (t.closeDeliveries id) := by
  refine ⟨(keysOnSession _ _ _ _).trans first.names, ?_, fun other different => ?_⟩
  · rw [queueCloseDeliveries]
    exact Queue.flowsClose first.own
  · rw [show (t.closeDeliveries id).queueOf other = _ from queueOther t _ _ different]
    exact first.others other different

theorem drainsRefl (s : Server σ) (id : String) : Drains id [] s s := drainsOffers (offersRefl s)

end Server

end Bayeux
