import Bayeux.Channel
import Bayeux.Table
/-! Who is registered and who is subscribed to what. Subscriptions are held twice, by pattern
and by session, and neither side keeps an entry without members. -/

namespace Bayeux

structure Subscription where
  channel : Channel
  sessions : List String

structure Registry where
  sessions : List String
  subscriptions : Table Subscription
  channels : Table (List String)

namespace Registry

def empty : Registry := ⟨[], [], []⟩

def isRegistered (r : Registry) (session : String) : Bool := decide (session ∈ r.sessions)

def add (r : Registry) (session : String) : Registry :=
  if session ∈ r.sessions then r else { r with sessions := r.sessions ++ [session] }

/-- Take a session out of one subscription, and the subscription away with its last one. -/
def leave (subscriptions : Table Subscription) (pattern session : String) : Table Subscription :=
  match subscriptions.get? pattern with
  | none => subscriptions
  | some s =>
    let rest := s.sessions.erase session
    if rest.isEmpty then subscriptions.remove pattern
    else subscriptions.put pattern { s with sessions := rest }

def join (subscriptions : Table Subscription) (channel : Channel) (session : String) :
    Table Subscription :=
  match subscriptions.get? channel.path with
  | none => subscriptions.put channel.path ⟨channel, [session]⟩
  | some s => subscriptions.put channel.path { s with sessions := s.sessions.insert session }

def patternsOf (r : Registry) (session : String) : List String :=
  (r.channels.get? session).getD []

def unsubscribeAll (r : Registry) (session : String) : Registry :=
  { r with
    subscriptions := (r.patternsOf session).foldl (leave · · session) r.subscriptions
    channels := r.channels.remove session }

def remove (r : Registry) (session : String) : Registry :=
  { r.unsubscribeAll session with sessions := r.sessions.erase session }

def subscribe (r : Registry) (session : String) (channel : Channel) : Registry :=
  { r with
    subscriptions := join r.subscriptions channel session
    channels := r.channels.put session ((r.patternsOf session).insert channel.path) }

def unsubscribe (r : Registry) (session : String) (channel : Channel) : Registry :=
  let patterns := (r.patternsOf session).erase channel.path
  { r with
    subscriptions := leave r.subscriptions channel.path session
    channels :=
      if patterns.isEmpty then r.channels.remove session else r.channels.put session patterns }

/-- Looked up from the side of the session. -/
def isSubscribed (r : Registry) (session : String) (channel : Channel) : Bool :=
  (r.patternsOf session).any fun pattern =>
    match r.subscriptions.get? pattern with
    | some s => s.channel.covers channel
    | none => false

/-- Looked up from the side of the patterns; each session once. -/
def subscribers (r : Registry) (channel : Channel) : List String :=
  ((r.subscriptions.filter fun e => e.2.channel.covers channel).flatMap
    fun e => e.2.sessions).eraseDups

/-- Sessions, patterns with a subscriber, and pairs of a session and a pattern. -/
structure Statistics where
  sessions : Nat
  channels : Nat
  subscriptions : Nat
  deriving DecidableEq

def statistics (r : Registry) : Statistics where
  sessions := r.sessions.length
  channels := List.length r.subscriptions
  subscriptions := (r.channels.flatMap fun e => e.2).length

theorem patternsUnsubscribeAll {r : Registry} (distinct : r.channels.Distinct) (session : String) :
    (r.unsubscribeAll session).patternsOf session = [] := by
  simp [patternsOf, unsubscribeAll, Table.getRemoveSame distinct]

theorem patternsSubscribe (r : Registry) (session : String) (channel : Channel) :
    (r.subscribe session channel).patternsOf session =
      (r.patternsOf session).insert channel.path := by
  simp [patternsOf, subscribe, Table.getPutSame]

theorem patternsSubscribeOther (r : Registry) {session other : String} (channel : Channel)
    (h : other ≠ session) :
    (r.subscribe session channel).patternsOf other = r.patternsOf other := by
  simp [patternsOf, subscribe, Table.getPutOther _ _ h]

theorem isRegisteredAdd (r : Registry) (session : String) :
    (r.add session).isRegistered session = true := by
  unfold add isRegistered
  split <;> simp_all

end Registry
end Bayeux
