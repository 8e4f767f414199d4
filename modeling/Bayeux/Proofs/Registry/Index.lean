import Bayeux.Proofs.Table
import Bayeux.Server.Registry
/-! The two indexes of subscriptions, kept inverse to each other by every operation. Both are
finite functions into nonempty lists without repetition, and what an operation does is
said once, as a change of the pairs of a session and a pattern. -/

namespace Bayeux.Registry

def membersIn (subscriptions : Table Subscription) (pattern : String) : List String :=
  match subscriptions.get? pattern with
  | some s => s.sessions
  | none => []

structure Tidy (subscriptions : Table Subscription) : Prop where
  distinct : subscriptions.Distinct
  filled : ∀ pattern s, subscriptions.get? pattern = some s → s.sessions ≠ []
  path : ∀ pattern s, subscriptions.get? pattern = some s → s.channel.path = pattern
  once : ∀ pattern s, subscriptions.get? pattern = some s → s.sessions.Nodup

structure Listed (channels : Table (List String)) : Prop where
  distinct : channels.Distinct
  filled : ∀ session patterns, channels.get? session = some patterns → patterns ≠ []
  once : ∀ session patterns, channels.get? session = some patterns → patterns.Nodup

def Holds (r : Registry) (session pattern : String) : Prop := pattern ∈ r.patternsOf session

structure Indexed (r : Registry) : Prop where
  sessions : r.sessions.Nodup
  subscriptions : Tidy r.subscriptions
  channels : Listed r.channels
  inverse : ∀ session pattern,
    session ∈ membersIn r.subscriptions pattern ↔ r.Holds session pattern

theorem memMembersIn {t : Table Subscription} {pattern session : String} :
    session ∈ membersIn t pattern ↔ ∃ s, t.get? pattern = some s ∧ session ∈ s.sessions := by
  unfold membersIn
  cases t.get? pattern <;> simp

theorem holdsIff {r : Registry} {session pattern : String} :
    r.Holds session pattern ↔
      ∃ patterns, r.channels.get? session = some patterns ∧ pattern ∈ patterns := by
  unfold Holds patternsOf
  cases r.channels.get? session <;> simp

theorem onceMembers {t : Table Subscription} (tidy : Tidy t) (pattern : String) :
    (membersIn t pattern).Nodup := by
  unfold membersIn
  cases found : t.get? pattern with
  | none => exact List.nodup_nil
  | some s => exact tidy.once pattern s found

theorem oncePatterns {r : Registry} (listed : Listed r.channels) (session : String) :
    (r.patternsOf session).Nodup := by
  unfold patternsOf
  cases found : r.channels.get? session with
  | none => exact List.nodup_nil
  | some patterns => exact listed.once session patterns found

/- Writing one entry keeps a table tidy if the new entry is, and so does removing one. -/
theorem tidyPut {t : Table Subscription} (tidy : Tidy t) (s : Subscription)
    (filled : s.sessions ≠ []) (once : s.sessions.Nodup) : Tidy (t.put s.channel.path s) := by
  have entry : ∀ p x, (t.put s.channel.path s).get? p = some x →
      (p = s.channel.path ∧ s = x) ∨ t.get? p = some x := by
    intro p x found
    rw [Table.getPut] at found
    split at found
    · rename_i here
      exact .inl ⟨here, Option.some.inj found⟩
    · exact .inr found
  refine ⟨Table.distinctPut tidy.distinct _ _, ?_, ?_, ?_⟩ <;> intro p x found <;>
    rcases entry p x found with ⟨here, same⟩ | old
  · exact same ▸ filled
  · exact tidy.filled p x old
  · exact same ▸ here.symm
  · exact tidy.path p x old
  · exact same ▸ once
  · exact tidy.once p x old

theorem tidyRemove {t : Table Subscription} (tidy : Tidy t) (pattern : String) :
    Tidy (t.remove pattern) := by
  have entry : ∀ p x, (t.remove pattern).get? p = some x → t.get? p = some x := by
    intro p x found
    rw [Table.getRemove tidy.distinct] at found
    split at found
    · cases found
    · exact found
  exact ⟨Table.distinctRemove tidy.distinct _, fun p x found => tidy.filled p x (entry p x found),
    fun p x found => tidy.path p x (entry p x found),
    fun p x found => tidy.once p x (entry p x found)⟩

theorem listedPut {t : Table (List String)} (listed : Listed t) (session : String)
    {patterns : List String} (filled : patterns ≠ []) (once : patterns.Nodup) :
    Listed (t.put session patterns) := by
  have entry : ∀ id ps, (t.put session patterns).get? id = some ps →
      patterns = ps ∨ t.get? id = some ps := by
    intro id ps found
    rw [Table.getPut] at found
    split at found
    · exact .inl (Option.some.inj found)
    · exact .inr found
  refine ⟨Table.distinctPut listed.distinct _ _, ?_, ?_⟩ <;> intro id ps found <;>
    rcases entry id ps found with same | old
  · exact same ▸ filled
  · exact listed.filled id ps old
  · exact same ▸ once
  · exact listed.once id ps old

theorem listedRemove {t : Table (List String)} (listed : Listed t) (session : String) :
    Listed (t.remove session) := by
  have entry : ∀ id ps, (t.remove session).get? id = some ps → t.get? id = some ps := by
    intro id ps found
    rw [Table.getRemove listed.distinct] at found
    split at found
    · cases found
    · exact found
  exact ⟨Table.distinctRemove listed.distinct _,
    fun id ps found => listed.filled id ps (entry id ps found),
    fun id ps found => listed.once id ps (entry id ps found)⟩

theorem membersPut (t : Table Subscription) (pattern p : String) (s : Subscription) :
    membersIn (t.put pattern s) p = if p = pattern then s.sessions else membersIn t p := by
  unfold membersIn
  rw [Table.getPut]
  by_cases h : p = pattern <;> simp [h]

theorem membersRemove {t : Table Subscription} (tidy : Tidy t) (pattern p : String) :
    membersIn (t.remove pattern) p = if p = pattern then [] else membersIn t p := by
  unfold membersIn
  rw [Table.getRemove tidy.distinct]
  by_cases h : p = pattern <;> simp [h]

theorem tidyLeave {t : Table Subscription} (tidy : Tidy t) (pattern session : String) :
    Tidy (leave t pattern session) := by
  unfold leave
  cases found : t.get? pattern with
  | none => exact tidy
  | some s =>
    simp only
    split
    · exact tidyRemove tidy pattern
    · rename_i more
      have path := tidy.path pattern s found
      have put := tidyPut tidy { s with sessions := s.sessions.erase session }
        (by simpa [List.isEmpty_iff] using more) ((tidy.once pattern s found).erase session)
      simpa only [path] using put

theorem membersLeave {t : Table Subscription} (tidy : Tidy t) (pattern session p : String) :
    membersIn (leave t pattern session) p =
      if p = pattern then (membersIn t p).erase session else membersIn t p := by
  unfold leave
  cases found : t.get? pattern with
  | none =>
    have nobody : membersIn t pattern = [] := by simp [membersIn, found]
    by_cases h : p = pattern
    · simp [h, nobody]
    · simp [h]
  | some s =>
    have here : membersIn t pattern = s.sessions := by simp [membersIn, found]
    simp only
    split
    · rename_i last
      rw [membersRemove tidy]
      by_cases h : p = pattern
      · simp [h, here, List.isEmpty_iff.mp last]
      · simp [h]
    · rw [membersPut]
      by_cases h : p = pattern
      · simp [h, here]
      · simp [h]

theorem memLeave {t : Table Subscription} (tidy : Tidy t) (pattern session p other : String) :
    other ∈ membersIn (leave t pattern session) p ↔
      other ∈ membersIn t p ∧ ¬(p = pattern ∧ other = session) := by
  rw [membersLeave tidy]
  by_cases h : p = pattern
  · rw [if_pos h, (onceMembers tidy p).mem_erase_iff]
    simp only [h, true_and]
    exact and_comm
  · rw [if_neg h]
    simp [h]

theorem tidyJoin {t : Table Subscription} (tidy : Tidy t) (channel : Channel) (session : String) :
    Tidy (join t channel session) := by
  unfold join
  cases found : t.get? channel.path with
  | none => exact tidyPut tidy ⟨channel, [session]⟩ (by simp) (by simp)
  | some s =>
    have path := tidy.path _ s found
    have put := tidyPut tidy { s with sessions := s.sessions.insert session }
      (List.ne_nil_of_mem List.mem_insert_self) (tidy.once _ s found).insert
    simpa only [path] using put

theorem memJoin (t : Table Subscription) (channel : Channel) (session p other : String) :
    other ∈ membersIn (join t channel session) p ↔
      other ∈ membersIn t p ∨ (p = channel.path ∧ other = session) := by
  unfold join
  cases found : t.get? channel.path with
  | none =>
    have nobody : membersIn t channel.path = [] := by simp [membersIn, found]
    simp only [membersPut]
    by_cases h : p = channel.path
    · simp [h, nobody]
    · simp [h]
  | some s =>
    have here : membersIn t channel.path = s.sessions := by simp [membersIn, found]
    simp only [membersPut]
    by_cases h : p = channel.path
    · simp [h, here, List.mem_insert_iff, or_comm]
    · simp [h]

theorem leaveEach {t : Table Subscription} (tidy : Tidy t) (patterns : List String)
    (session : String) :
    Tidy (patterns.foldl (leave · · session) t) ∧
      ∀ p other, other ∈ membersIn (patterns.foldl (leave · · session) t) p ↔
        other ∈ membersIn t p ∧ ¬(p ∈ patterns ∧ other = session) := by
  induction patterns generalizing t with
  | nil => exact ⟨tidy, by simp⟩
  | cons pattern rest ih =>
    obtain ⟨kept, members⟩ := ih (tidyLeave tidy pattern session)
    refine ⟨kept, fun p other => ?_⟩
    rw [List.foldl_cons, members, memLeave tidy]
    simp only [List.mem_cons]
    tauto

theorem indexedEmpty : Indexed empty where
  sessions := List.nodup_nil
  subscriptions := ⟨List.nodup_nil, by simp [empty, Table.get?], by simp [empty, Table.get?],
    by simp [empty, Table.get?]⟩
  channels := ⟨List.nodup_nil, by simp [empty, Table.get?], by simp [empty, Table.get?]⟩
  inverse := by simp [empty, membersIn, Holds, patternsOf, Table.get?]

theorem onceAdd {r : Registry} (once : r.sessions.Nodup) (session : String) :
    (r.add session).sessions.Nodup := by
  unfold add
  split
  · exact once
  · rename_i fresh
    refine List.nodup_append.mpr ⟨once, by simp, fun a inside b last => ?_⟩
    rw [List.mem_singleton.mp last]
    exact fun same => fresh (same ▸ inside)

theorem indexedAdd {r : Registry} (indexed : Indexed r) (session : String) :
    Indexed (r.add session) := by
  have once := onceAdd indexed.sessions session
  unfold add at once ⊢
  split
  · exact indexed
  · rename_i fresh
    exact { indexed with sessions := by simpa only [if_neg fresh] using once }

theorem holdsAdd (r : Registry) (session other pattern : String) :
    (r.add session).Holds other pattern ↔ r.Holds other pattern := by
  unfold add
  split <;> rfl

theorem holdsUnsubscribeAll {r : Registry} (indexed : Indexed r) (session other pattern : String) :
    (r.unsubscribeAll session).Holds other pattern ↔
      r.Holds other pattern ∧ other ≠ session := by
  simp only [Holds, patternsOf, unsubscribeAll, Table.getRemove indexed.channels.distinct]
  by_cases h : other = session <;> simp [h]

theorem indexedUnsubscribeAll {r : Registry} (indexed : Indexed r) (session : String) :
    Indexed (r.unsubscribeAll session) := by
  obtain ⟨tidy, members⟩ := leaveEach indexed.subscriptions (r.patternsOf session) session
  refine ⟨indexed.sessions, tidy, listedRemove indexed.channels session, fun other pattern => ?_⟩
  rw [holdsUnsubscribeAll indexed]
  refine (members pattern other).trans ?_
  rw [indexed.inverse]
  -- A session that leaves gives up all it holds, so the two exceptions are the same.
  constructor
  · rintro ⟨held, kept⟩
    exact ⟨held, fun same => kept ⟨same ▸ held, same⟩⟩
  · rintro ⟨held, different⟩
    exact ⟨held, fun gone => different gone.2⟩

theorem indexedRemove {r : Registry} (indexed : Indexed r) (session : String) :
    Indexed (r.remove session) :=
  { indexedUnsubscribeAll indexed session with sessions := indexed.sessions.erase session }

theorem holdsRemove {r : Registry} (indexed : Indexed r) (session other pattern : String) :
    (r.remove session).Holds other pattern ↔ r.Holds other pattern ∧ other ≠ session :=
  holdsUnsubscribeAll indexed session other pattern

theorem holdsSubscribe (r : Registry) (session : String) (channel : Channel)
    (other pattern : String) :
    (r.subscribe session channel).Holds other pattern ↔
      r.Holds other pattern ∨ (other = session ∧ pattern = channel.path) := by
  unfold Holds
  by_cases h : other = session
  · rw [h, patternsSubscribe, List.mem_insert_iff]
    simp [or_comm]
  · rw [patternsSubscribeOther r channel h]
    simp [h]

theorem indexedSubscribe {r : Registry} (indexed : Indexed r) (session : String)
    (channel : Channel) : Indexed (r.subscribe session channel) := by
  have listed := listedPut indexed.channels session
    (List.ne_nil_of_mem (List.mem_insert_self (a := channel.path) (l := r.patternsOf session)))
    (oncePatterns indexed.channels session).insert
  refine ⟨indexed.sessions, tidyJoin indexed.subscriptions channel session, listed,
    fun other pattern => ?_⟩
  rw [holdsSubscribe]
  refine (memJoin r.subscriptions channel session pattern other).trans ?_
  rw [indexed.inverse, and_comm (a := pattern = channel.path)]

theorem patternsUnsubscribe {r : Registry} (listed : Listed r.channels) (session : String)
    (channel : Channel) (other : String) :
    (r.unsubscribe session channel).patternsOf other =
      if other = session then (r.patternsOf session).erase channel.path
      else r.patternsOf other := by
  unfold unsubscribe
  generalize left : (r.patternsOf session).erase channel.path = patterns
  simp only [patternsOf]
  split
  · rename_i nothing
    rw [Table.getRemove listed.distinct]
    by_cases h : other = session
    · simp [h, List.isEmpty_iff.mp nothing]
    · simp [h]
  · rw [Table.getPut]
    by_cases h : other = session <;> simp [h]

theorem holdsUnsubscribe {r : Registry} (indexed : Indexed r) (session : String)
    (channel : Channel) (other pattern : String) :
    (r.unsubscribe session channel).Holds other pattern ↔
      r.Holds other pattern ∧ ¬(other = session ∧ pattern = channel.path) := by
  unfold Holds
  rw [patternsUnsubscribe indexed.channels]
  by_cases h : other = session
  · rw [if_pos h, h, (oncePatterns indexed.channels session).mem_erase_iff]
    simp only [true_and]
    exact and_comm
  · rw [if_neg h]
    simp [h]

theorem indexedUnsubscribe {r : Registry} (indexed : Indexed r) (session : String)
    (channel : Channel) : Indexed (r.unsubscribe session channel) := by
  refine ⟨indexed.sessions, tidyLeave indexed.subscriptions _ _, ?_, fun other pattern => ?_⟩
  · unfold unsubscribe
    simp only
    split
    · exact listedRemove indexed.channels session
    · rename_i more
      exact listedPut indexed.channels session (by simpa [List.isEmpty_iff] using more)
        ((oncePatterns indexed.channels session).erase _)
  · rw [holdsUnsubscribe indexed]
    refine (memLeave indexed.subscriptions channel.path session pattern other).trans ?_
    rw [indexed.inverse, and_comm (a := pattern = channel.path)]

end Bayeux.Registry
