import Bayeux.Extension.Timesync
import Bayeux.Proofs.Registry.FanOut
/-! What is kept for sessions is kept for registered ones only: subscriptions for connected
sessions, samples for sessions that may still be answered. Each function of the server
keeps this order, and most of them leave alone who is registered. -/

namespace Bayeux.Server
variable {σ : Type} {samples : σ → Timesync.Samples} {s t u : Server σ}

theorem sessionIdInjective : Function.Injective sessionId := by
  intro m n same
  have chars := congrArg String.toList same
  simp only [sessionId, String.toList_append, String.toList_ofList, List.append_assoc,
    List.append_cancel_left_eq] at chars
  have values := congrArg (fun digits => Nat.ofDigitChars 10 digits 0) chars
  simpa [Nat.ofDigitChars_append, Nat.ofDigitChars_replicate_zero] using values

section
variable {α : Type} {members : List α} {session : α → String} {x y z : α} {i j : Nat}

theorem concatCases (here : (members ++ [x])[i]? = some y) :
    members[i]? = some y ∧ i < members.length ∨ i = members.length ∧ y = x := by
  rcases Nat.lt_trichotomy i members.length with inside | last | beyond
  · rw [List.getElem?_append_left inside] at here
    exact .inl ⟨here, inside⟩
  · subst last
    simp only [List.getElem?_concat_length, Option.some.injEq] at here
    exact .inr ⟨rfl, here.symm⟩
  · rw [List.getElem?_eq_none (by simp only [List.length_append, List.length_singleton]; omega)]
      at here
    cases here

variable (named : ∀ (i : Nat) x, members[i]? = some x → session x = sessionId i)
include named

theorem namedNodup : (members.map session).Nodup := by
  have numbered : members.map session = (List.range members.length).map sessionId := by
    refine List.ext_getElem? fun i => ?_
    rw [List.getElem?_map, List.getElem?_map]
    cases here : members[i]? with
    | none => rw [List.getElem?_eq_none (by simpa using here), Option.map_none, Option.map_none]
    | some x =>
      obtain ⟨inside, -⟩ := List.getElem?_eq_some_iff.mp here
      rw [List.getElem?_range inside, Option.map_some, Option.map_some, named i x here]
  rw [numbered]
  exact List.nodup_range.map sessionIdInjective

theorem namedSet (here : members[i]? = some x) (same : session y = session x)
    (there : (members.set i y)[j]? = some z) : session z = sessionId j := by
  by_cases own : i = j
  · subst own
    obtain ⟨inside, -⟩ := List.getElem?_eq_some_iff.mp here
    rw [List.getElem?_set_self inside] at there
    rw [← Option.some.inj there, same]
    exact named i x here
  · rw [List.getElem?_set_ne own] at there
    exact named j z there

theorem namedConcat (last : session x = sessionId members.length)
    (here : (members ++ [x])[i]? = some y) : session y = sessionId i := by
  rcases concatCases here with ⟨before, -⟩ | ⟨rfl, rfl⟩
  · exact named i y before
  · exact last

end

/-- So many sessions were opened, and all of them are known. -/
def Numbered (count : Nat) (s : Server σ) : Prop :=
  Table.keys s.sessions = (List.range count).map sessionId

theorem numberedCount {count : Nat} (numbered : s.Numbered count) :
    List.length s.sessions = count := by
  have lengths := congrArg List.length numbered
  simpa [Table.keys] using lengths

theorem numberedFresh {count : Nat} (numbered : s.Numbered count) :
    sessionId count ∉ Table.keys s.sessions := by
  rw [numbered]
  intro inside
  obtain ⟨i, before, same⟩ := List.mem_map.mp inside
  have equal := sessionIdInjective same
  have := List.mem_range.mp before
  omega

theorem numberedNext {count : Nat} (numbered : s.Numbered count) (session : Session) :
    Table.keys (s.setSession (sessionId count) session).sessions =
      (List.range (count + 1)).map sessionId := by
  have keys := Table.keysPut s.sessions (sessionId count) session
  rw [if_neg (numberedFresh numbered)] at keys
  rw [List.range_succ, List.map_append, ← numbered]
  exact keys

/-- `samples` reads from the memory of all extensions what the clock synchronisation keeps. -/
structure Orderly (samples : σ → Timesync.Samples) (s : Server σ) : Prop where
  indexed : s.registry.Indexed
  subscribed : ∀ id pattern, s.registry.Holds id pattern →
    id ∈ s.registry.sessions ∧ s.stateOf id = .connected
  distinct : (samples s.memory).Distinct
  sampled : ∀ id ∈ Table.keys (samples s.memory), id ∈ s.registry.sessions
  tracked : s.inProcess.Nodup

structure Fixed (s t : Server σ) : Prop where
  sessions : t.registry.sessions = s.registry.sessions
  inProcess : t.inProcess = s.inProcess
  names : Table.keys t.sessions = Table.keys s.sessions

def Leaves (samples : σ → Timesync.Samples) (s t : Server σ) : Prop :=
  s.Orderly samples → t.Orderly samples ∧ s.Fixed t

/-- The same on behalf of a session that is registered. -/
def Keeps (samples : σ → Timesync.Samples) (id : String) (s t : Server σ) : Prop :=
  id ∈ s.registry.sessions → s.Leaves samples t

theorem fixedTrans (first : s.Fixed t) (second : t.Fixed u) : s.Fixed u :=
  ⟨second.sessions.trans first.sessions, second.inProcess.trans first.inProcess,
    second.names.trans first.names⟩

theorem leavesRefl (s : Server σ) : s.Leaves samples s := fun orderly => ⟨orderly, rfl, rfl, rfl⟩

theorem leavesTrans (first : s.Leaves samples t) (second : t.Leaves samples u) :
    s.Leaves samples u := by
  intro orderly
  obtain ⟨between, fixed⟩ := first orderly
  obtain ⟨after, more⟩ := second between
  exact ⟨after, fixedTrans fixed more⟩

theorem leavesKeeps {id : String} (leaves : s.Leaves samples t) : s.Keeps samples id t :=
  fun _ => leaves

theorem keepsTrans {id : String} (first : s.Keeps samples id t) (second : t.Keeps samples id u) :
    s.Keeps samples id u := by
  intro registered orderly
  obtain ⟨between, fixed⟩ := first registered orderly
  obtain ⟨after, more⟩ := second (fixed.sessions ▸ registered) between
  exact ⟨after, fixedTrans fixed more⟩

theorem leavesAside (registry : t.registry = s.registry) (inProcess : t.inProcess = s.inProcess)
    (names : Table.keys t.sessions = Table.keys s.sessions)
    (state : ∀ id, s.stateOf id = .connected → t.stateOf id = .connected)
    (memory : samples t.memory = samples s.memory) : s.Leaves samples t := by
  intro orderly
  refine ⟨⟨registry ▸ orderly.indexed, fun id pattern held => ?_, memory ▸ orderly.distinct,
    fun id inside => ?_, inProcess ▸ orderly.tracked⟩, registry ▸ rfl, inProcess, names⟩
  · rw [registry] at held ⊢
    obtain ⟨registered, connected⟩ := orderly.subscribed id pattern held
    exact ⟨registered, state id connected⟩
  · rw [registry]
    exact orderly.sampled id (memory ▸ inside)

theorem leavesNote (s : Server σ) (notice : Notice) : s.Leaves samples (s.note notice) :=
  leavesAside rfl rfl rfl (fun _ connected => connected) rfl

theorem leavesClock (s : Server σ) (clock : Nat) : s.Leaves samples { s with clock } :=
  leavesAside rfl rfl rfl (fun _ connected => connected) rfl

theorem leavesOnSession {β : Type} (s : Server σ) (id : String) (missing : β)
    {act : Session → β × Session}
    (state : ∀ x : Session, x.state = .connected → (act x).2.state = .connected) :
    s.Leaves samples (s.onSession id missing act).2 := by
  have names := keysOnSession s id missing act
  unfold onSession at names ⊢
  cases found : s.session? id with
  | none => exact leavesRefl s
  | some x =>
    rw [found] at names
    refine leavesAside rfl rfl names (fun other connected => ?_) rfl
    by_cases same : other = id
    · rw [same, stateSetSession]
      exact state x (by simpa only [same, stateOf, found] using connected)
    · rw [stateSetOther _ _ same]
      exact connected

theorem leavesDeliver (s : Server σ) (id : String) (p : Packet) :
    s.Leaves samples (s.deliver id p).2 :=
  leavesOnSession s id false fun _ connected => connected

theorem leavesTakeDeliveries (s : Server σ) (id : String) :
    s.Leaves samples (s.takeDeliveries id).2 :=
  leavesOnSession s id [] fun _ connected => connected

theorem leavesCloseDeliveries (s : Server σ) (id : String) :
    s.Leaves samples (s.closeDeliveries id) :=
  leavesOnSession s id () fun _ connected => connected

theorem leavesTransition (s : Server σ) (id : String) {before after : SessionState}
    (moves : before = .connected → after = .connected) :
    s.Leaves samples (s.transition id before after).2 := by
  refine leavesOnSession s id false fun x connected => ?_
  unfold Session.transition
  split
  · rename_i here
    exact moves (here ▸ connected)
  · exact connected

theorem leavesPublish (s : Server σ) (sender? : Option String) (p : Packet) :
    s.Leaves samples (s.publish sender? p).2 :=
  publishKeeps leavesRefl leavesTrans leavesDeliver (fun s _ _ => leavesNote s _) s sender? p

theorem leavesUnsubscribed (s : Server σ) (id : String) (channel : Channel) :
    s.Leaves samples (s.unsubscribed id channel) := by
  intro orderly
  refine ⟨⟨Registry.indexedUnsubscribe orderly.indexed id channel, fun other pattern held => ?_,
    orderly.distinct, orderly.sampled, orderly.tracked⟩, rfl, rfl, rfl⟩
  have before := (Registry.holdsUnsubscribe orderly.indexed id channel other pattern).mp held
  exact orderly.subscribed other pattern before.1

theorem keepsSubscribed {id : String} (connected : s.stateOf id = .connected)
    (channel : Channel) : s.Keeps samples id (s.subscribed id channel) := by
  intro registered orderly
  refine ⟨⟨Registry.indexedSubscribe orderly.indexed id channel, fun other pattern held => ?_,
    orderly.distinct, orderly.sampled, orderly.tracked⟩, rfl, rfl, rfl⟩
  rcases (Registry.holdsSubscribe s.registry id channel other pattern).mp held with old | new
  · exact orderly.subscribed other pattern old
  · rw [new.1]
    exact ⟨registered, connected⟩

theorem stateMarkOther (s : Server σ) {id other : String} (different : other ≠ id) :
    (s.markDisconnected id).stateOf other = s.stateOf other := by
  unfold markDisconnected onSession
  cases s.session? id with
  | none => rfl
  | some x => exact stateSetOther s _ different

theorem leavesDisconnected (s : Server σ) (id : String) (abrupt : Bool)
    (channel? : Option Channel) :
    s.Leaves samples ((s.markDisconnected id).disconnected id abrupt channel?) := by
  have frame : s.markDisconnected id = { s with sessions := (s.markDisconnected id).sessions } :=
    onSessionFrame s id false Session.markDisconnected
  have names : Table.keys (s.markDisconnected id).sessions = Table.keys s.sessions :=
    keysOnSession s id false Session.markDisconnected
  have others : ∀ other, other ≠ id → (s.markDisconnected id).stateOf other = s.stateOf other :=
    fun other => stateMarkOther s
  generalize (s.markDisconnected id).sessions = sessions at frame names
  rw [frame] at others ⊢
  intro orderly
  refine ⟨⟨Registry.indexedUnsubscribeAll orderly.indexed id, fun other pattern held => ?_,
    orderly.distinct, orderly.sampled, orderly.tracked⟩, rfl, rfl, names⟩
  -- Who still holds a pattern is somebody else, whose state nothing was done to.
  obtain ⟨before, different⟩ :=
    (Registry.holdsUnsubscribeAll orderly.indexed id other pattern).mp held
  obtain ⟨registered, connected⟩ := orderly.subscribed other pattern before
  exact ⟨registered, (others other different).trans connected⟩

end Bayeux.Server
