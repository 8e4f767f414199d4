import Bayeux.Packet
import Bayeux.Text.Quoted
/-! Sessions: the protocol state of one client, and the bounded queue of packets that wait for
its carrier. A full queue refuses the newest packet and counts it. -/

namespace Bayeux

/-- What waits for one reader. Nothing is taken in once the reader is gone. -/
structure Queue (α : Type) where
  capacity : Nat
  waiting : List α
  isOpen : Bool
  refused : Nat

namespace Queue
variable {α : Type}

/-- No queue is larger. -/
def largest : Nat := 2305843009213693951

def canHold (size : Nat) : Bool := decide (max size 1 ≤ largest)

/-- There is room for one at least. -/
def ofSize (size : Nat) : Queue α := ⟨max size 1, [], true, 0⟩

def isFull (q : Queue α) : Bool := decide (q.capacity ≤ q.waiting.length)

/-- Whether the item was taken in. -/
def offer (q : Queue α) (item : α) : Bool × Queue α :=
  if !q.isOpen then (false, q)
  else if q.isFull then (false, { q with refused := q.refused + 1 })
  else (true, { q with waiting := q.waiting ++ [item] })

def take (q : Queue α) : Option α × Queue α :=
  match q.waiting with
  | [] => (none, q)
  | item :: rest => (some item, { q with waiting := rest })

def takeAll (q : Queue α) : List α × Queue α := (q.waiting, { q with waiting := [] })

/-- The reader goes away with what still waited. -/
def close (q : Queue α) : Queue α := { q with waiting := [], isOpen := false }

theorem ofSizePositive (size : Nat) : 0 < (ofSize size : Queue α).capacity := by
  simp only [ofSize]
  omega

theorem offerTaken {q : Queue α} {item : α} :
    (q.offer item).1 = true ↔ q.isOpen = true ∧ q.isFull = false := by
  unfold offer
  cases ho : q.isOpen <;> cases hf : q.isFull <;> simp

theorem offerWaiting (q : Queue α) (item : α) :
    (q.offer item).2.waiting =
      if (q.offer item).1 then q.waiting ++ [item] else q.waiting := by
  unfold offer
  cases ho : q.isOpen <;> cases hf : q.isFull <;> simp

theorem offerWithin {q : Queue α} (item : α) (h : q.waiting.length ≤ q.capacity) :
    (q.offer item).2.waiting.length ≤ (q.offer item).2.capacity := by
  unfold offer isFull
  split
  · exact h
  · split
    · exact h
    · rename_i room
      simp only [decide_eq_true_eq] at room
      simp only [List.length_append, List.length_singleton]
      omega

theorem takeWaiting (q : Queue α) : q.take.1.toList ++ q.take.2.waiting = q.waiting := by
  unfold take
  cases h : q.waiting <;> simp [h]

end Queue

inductive SessionState where
  | initialized
  | handshook
  | connected
  | disconnected
  deriving DecidableEq, Repr

def SessionState.name : SessionState → String
  | .initialized => "Initialized"
  | .handshook => "Handshook"
  | .connected => "Connected"
  | .disconnected => "Disconnected"

structure Session where
  id : String
  transport : String
  isLocal : Bool
  state : SessionState
  deliveries : Queue Packet

namespace Session

def defaultQueueSize : Nat := 1024

def opened (id transport : String) (isLocal : Bool) (queueSize : Nat) : Session :=
  ⟨id, transport, isLocal, .initialized, .ofSize queueSize⟩

def isHandshook (s : Session) : Bool := s.state == .handshook || s.state == .connected

/-- Move between two states, from the first one only. -/
def transition (s : Session) (before after : SessionState) : Bool × Session :=
  if s.state = before then (true, { s with state := after }) else (false, s)

/-- Whether the session was alive. -/
def markDisconnected (s : Session) : Bool × Session :=
  (s.state != .disconnected, { s with state := .disconnected })

def deliver (s : Session) (p : Packet) : Bool × Session :=
  let (taken, deliveries) := s.deliveries.offer p
  (taken, { s with deliveries })

def dropped (s : Session) : Nat := s.deliveries.refused

def describe (s : Session) : String :=
  "Session \x7b id: " ++ Text.quoted s.id ++ ", transport: " ++ Text.quoted s.transport ++
    ", local: " ++ toString s.isLocal ++ ", state: " ++ s.state.name ++ " \x7d"

end Session

inductive SessionEvent where
  | connected
  | disconnected
  | subscribed (channel : Channel)
  | unsubscribed (channel : Channel)
  deriving DecidableEq

end Bayeux
