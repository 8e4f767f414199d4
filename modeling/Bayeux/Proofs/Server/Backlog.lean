import Bayeux.Session
import Mathlib.Data.List.Induction
/-! The packets of one session, from the offer to the reader. As long as there is a reader, what it
got and what still waits are the packets that were taken in, in their order; those refused
meanwhile are counted. Once it is gone nothing is taken in and nothing is counted. -/

namespace Bayeux.Session

inductive Use where
  | deliver (p : Packet)
  | receive
  | receiveAll
  | dropReader

inductive Outcome where
  | delivered (p : Packet) (taken : Bool)
  | received (packets : List Packet)
  | parted

def use (s : Session) : Use → Outcome × Session
  | .deliver p => (.delivered p (s.deliver p).1, (s.deliver p).2)
  | .receive => (.received s.deliveries.take.1.toList, { s with deliveries := s.deliveries.take.2 })
  | .receiveAll =>
    (.received s.deliveries.takeAll.1, { s with deliveries := s.deliveries.takeAll.2 })
  | .dropReader => (.parted, { s with deliveries := s.deliveries.close })

def useAll (s : Session) : List Use → List Outcome × Session
  | [] => ([], s)
  | first :: rest =>
    let (outcome, s) := s.use first
    let (outcomes, s) := s.useAll rest
    (outcome :: outcomes, s)

namespace Outcome

def accepted : Outcome → List Packet
  | .delivered p true => [p]
  | _ => []

def handed : Outcome → List Packet
  | .received packets => packets
  | _ => []

/-- How many packets were refused before the reader went. -/
def refusals : List Outcome → Nat
  | [] => 0
  | .delivered _ false :: rest => refusals rest + 1
  | .parted :: _ => 0
  | _ :: rest => refusals rest

end Outcome

/-- What has become of the packets of a session with a queue of this size. -/
structure Ledger (size : Nat) (outcomes : List Outcome) (s : Session) : Prop where
  capacity : s.deliveries.capacity = max size 1
  bounded : s.deliveries.waiting.length ≤ max size 1
  reader : s.deliveries.isOpen = true ↔ .parted ∉ outcomes
  kept : .parted ∉ outcomes →
    outcomes.flatMap Outcome.handed ++ s.deliveries.waiting = outcomes.flatMap Outcome.accepted
  parted : .parted ∈ outcomes → s.deliveries.waiting = [] ∧
    outcomes.flatMap Outcome.handed <+: outcomes.flatMap Outcome.accepted
  dropped : s.dropped = Outcome.refusals outcomes

inductive Delivers (size : Nat) (outcomes : List Outcome) (s : Session) (p : Packet) :
    Bool × Session → Prop where
  | taken (reader : .parted ∉ outcomes) (room : s.deliveries.waiting.length < max size 1) :
      Delivers size outcomes s p (true,
        { s with deliveries := { s.deliveries with waiting := s.deliveries.waiting ++ [p] } })
  | full (reader : .parted ∉ outcomes) (full : s.deliveries.waiting.length = max size 1) :
      Delivers size outcomes s p (false,
        { s with deliveries := { s.deliveries with refused := s.deliveries.refused + 1 } })
  | unread (gone : .parted ∈ outcomes) : Delivers size outcomes s p (false, s)

section
variable {size : Nat} {uses : List Use} {outcomes : List Outcome} {outcome : Outcome} {s : Session}
  {p : Packet}

theorem useAllSnoc (s : Session) (uses : List Use) (next : Use) : s.useAll (uses ++ [next]) =
    ((s.useAll uses).1 ++ [((s.useAll uses).2.use next).1], ((s.useAll uses).2.use next).2) := by
  induction uses generalizing s with
  | nil => rfl
  | cons first rest ih =>
    simp only [List.cons_append, useAll, ih]

namespace Outcome

theorem refusalsAlive (alive : .parted ∉ outcomes) (outcome : Outcome) :
    refusals (outcomes ++ [outcome]) = refusals outcomes + refusals [outcome] := by
  induction outcomes with
  | nil => simp [refusals]
  | cons first rest ih =>
    rw [List.mem_cons, not_or] at alive
    have behind := ih alive.2
    cases first with
    | delivered p taken =>
      cases taken with
      | false =>
        simp only [List.cons_append, refusals, behind]
        omega
      | true => exact behind
    | received packets => exact behind
    | parted => exact absurd rfl alive.1

theorem refusalsParted (gone : .parted ∈ outcomes) (outcome : Outcome) :
    refusals (outcomes ++ [outcome]) = refusals outcomes := by
  induction outcomes with
  | nil => cases gone
  | cons first rest ih =>
    have behind : first ≠ .parted → refusals (rest ++ [outcome]) = refusals rest := fun alive =>
      ih ((List.mem_cons.mp gone).resolve_left (Ne.symm alive))
    cases first with
    | delivered p taken =>
      cases taken with
      | false => simp only [List.cons_append, refusals, behind (by simp)]
      | true => exact behind (by simp)
    | received packets => exact behind (by simp)
    | parted => rfl

end Outcome

theorem ledgerOpened (id transport : String) (isLocal : Bool) (size : Nat) :
    Ledger size [] (Session.opened id transport isLocal size) where
  capacity := rfl
  bounded := Nat.zero_le _
  reader := by simp [opened, Queue.ofSize]
  kept _ := rfl
  parted gone := by cases gone
  dropped := rfl

theorem delivers (ledger : Ledger size outcomes s) (p : Packet) :
    Delivers size outcomes s p (s.deliver p) := by
  have bounded := ledger.bounded
  cases reader : s.deliveries.isOpen with
  | false =>
    have unread : s.deliver p = (false, s) := by simp [deliver, Queue.offer, reader]
    rw [unread]
    refine .unread (Classical.not_not.mp fun alive => ?_)
    rw [ledger.reader.mpr alive] at reader
    cases reader
  | true =>
    have alive := ledger.reader.mp reader
    by_cases room : s.deliveries.waiting.length < max size 1
    · have taken : s.deliver p = (true, { s with
          deliveries := { s.deliveries with waiting := s.deliveries.waiting ++ [p] } }) := by
        simp [deliver, Queue.offer, Queue.isFull, reader, ledger.capacity, Nat.not_le.mpr room]
      rw [taken]
      exact .taken alive room
    · have full : s.deliver p = (false,
          { s with deliveries := { s.deliveries with refused := s.deliveries.refused + 1 } }) := by
        simp [deliver, Queue.offer, Queue.isFull, reader, ledger.capacity, Nat.not_lt.mp room]
      rw [full]
      exact .full alive (by omega)

theorem ledgerDeliver (ledger : Ledger size outcomes s) (p : Packet) :
    Ledger size (outcomes ++ [.delivered p (s.deliver p).1]) (s.deliver p).2 := by
  have same : ∀ taken, .parted ∈ outcomes ++ [.delivered p taken] ↔ .parted ∈ outcomes := by simp
  have becomes := delivers ledger p
  generalize s.deliver p = next at becomes
  cases becomes with
  | taken reader room =>
    exact {
      capacity := ledger.capacity
      bounded := by
        simp only [List.length_append, List.length_singleton]
        omega
      reader := by rw [same]; exact ledger.reader
      kept := fun _ => by
        simp [← ledger.kept reader, Outcome.accepted, Outcome.handed]
      parted := fun gone => absurd ((same true).mp gone) reader
      dropped := by
        rw [Outcome.refusalsAlive reader]
        exact ledger.dropped }
  | full reader full =>
    exact {
      capacity := ledger.capacity
      bounded := ledger.bounded
      reader := by rw [same]; exact ledger.reader
      kept := fun _ => by
        simp [← ledger.kept reader, Outcome.accepted, Outcome.handed]
      parted := fun gone => absurd ((same false).mp gone) reader
      dropped := by
        rw [Outcome.refusalsAlive reader, ← ledger.dropped]
        rfl }
  | unread gone =>
    exact {
      capacity := ledger.capacity
      bounded := ledger.bounded
      reader := by rw [same]; exact ledger.reader
      kept := fun alive => absurd ((same false).mpr gone) alive
      parted := fun _ => by
        simpa [Outcome.accepted, Outcome.handed] using ledger.parted gone
      dropped := by rw [Outcome.refusalsParted gone]; exact ledger.dropped }

/- The reader gets the front of what waits. -/
theorem ledgerReceived (ledger : Ledger size outcomes s) {front behind : List Packet}
    (split : s.deliveries.waiting = front ++ behind) :
    Ledger size (outcomes ++ [.received front])
      { s with deliveries := { s.deliveries with waiting := behind } } := by
  have same : .parted ∈ outcomes ++ [.received front] ↔ .parted ∈ outcomes := by simp
  exact {
    capacity := ledger.capacity
    bounded := by
      have bounded := ledger.bounded
      rw [split, List.length_append] at bounded
      exact Nat.le_trans (Nat.le_add_left _ _) bounded
    reader := by rw [same]; exact ledger.reader
    kept := fun alive => by
      have kept := ledger.kept (same.not.mp alive)
      rw [split] at kept
      simpa [Outcome.accepted, Outcome.handed] using kept
    parted := fun gone => by
      obtain ⟨none, handed⟩ := ledger.parted (same.mp gone)
      rw [split, List.append_eq_nil_iff] at none
      obtain ⟨rfl, rfl⟩ := none
      simpa [Outcome.accepted, Outcome.handed] using handed
    dropped := by
      by_cases gone : .parted ∈ outcomes
      · rw [Outcome.refusalsParted gone]
        exact ledger.dropped
      · rw [Outcome.refusalsAlive gone]
        exact ledger.dropped }

theorem ledgerParted (ledger : Ledger size outcomes s) :
    Ledger size (outcomes ++ [.parted]) { s with deliveries := s.deliveries.close } where
  capacity := ledger.capacity
  bounded := Nat.zero_le _
  reader := by simp [Queue.close]
  kept alive := by simp at alive
  parted _ := by
    refine ⟨rfl, ?_⟩
    simp only [List.flatMap_append, List.flatMap_singleton, Outcome.accepted, Outcome.handed,
      List.append_nil]
    by_cases gone : .parted ∈ outcomes
    · exact (ledger.parted gone).2
    · exact ⟨_, ledger.kept gone⟩
  dropped := by
    by_cases gone : .parted ∈ outcomes
    · rw [Outcome.refusalsParted gone]
      exact ledger.dropped
    · rw [Outcome.refusalsAlive gone]
      exact ledger.dropped

theorem ledgerUse (ledger : Ledger size outcomes s) (next : Use) :
    Ledger size (outcomes ++ [(s.use next).1]) (s.use next).2 := by
  cases next with
  | deliver p => exact ledgerDeliver ledger p
  | receive =>
    have split := (Queue.takeWaiting s.deliveries).symm
    have after : s.deliveries.take.2 =
        { s.deliveries with waiting := s.deliveries.take.2.waiting } := by
      unfold Queue.take
      split <;> rfl
    simp only [use]
    rw [after]
    exact ledgerReceived ledger split
  | receiveAll => exact ledgerReceived ledger (List.append_nil _).symm
  | dropReader => exact ledgerParted ledger

theorem queueAccounts (id transport : String) (isLocal : Bool) (size : Nat) (uses : List Use) :
    let ended := (Session.opened id transport isLocal size).useAll uses
    Ledger size ended.1 ended.2 ∧ ∀ p, Delivers size ended.1 ended.2 p (ended.2.deliver p) := by
  have ledger : Ledger size ((Session.opened id transport isLocal size).useAll uses).1
      ((Session.opened id transport isLocal size).useAll uses).2 := by
    induction uses using List.reverseRecOn with
    | nil => exact ledgerOpened id transport isLocal size
    | append_singleton uses next ih =>
      rw [useAllSnoc]
      exact ledgerUse ih next
  exact ⟨ledger, delivers ledger⟩

end

end Bayeux.Session
