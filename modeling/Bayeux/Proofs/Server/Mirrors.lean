import Bayeux.Proofs.Server.Isolation
/-! Two servers that agree on the part of one session: its state and queue, what it is subscribed
to, its sample, and the clock. What is done for that session gives the same answers on both
and leaves them in agreement, whatever they hold for other sessions. -/

namespace Bayeux

namespace Server
variable {σ : Type} {samples : σ → Timesync.Samples} {id : String} {s t : Server σ}

/-- What one session has of a server is the same on both. -/
structure SamePart (samples : σ → Timesync.Samples) (id : String) (s t : Server σ) : Prop where
  clock : t.clock = s.clock
  session : t.session? id = s.session? id
  holds : ∀ pattern, t.registry.Holds id pattern ↔ s.registry.Holds id pattern
  sample : (samples t.memory).get? id = (samples s.memory).get? id

structure Mirrors (samples : σ → Timesync.Samples) (id : String) (s t : Server σ) : Prop where
  left : s.Sound samples
  right : t.Sound samples
  part : SamePart samples id s t

/-- Two runs with the same answer, behind which the servers agree. -/
def InMirror {α : Type} (samples : σ → Timesync.Samples) (id : String) (left right : α × Server σ) :
    Prop :=
  ∃ answer s t, left = (answer, s) ∧ right = (answer, t) ∧ Mirrors samples id s t

theorem mirrorsState (mirrors : Mirrors samples id s t) : t.stateOf id = s.stateOf id := by
  simp only [stateOf, mirrors.part.session]

theorem mirrorsSubscribed (mirrors : Mirrors samples id s t) (channel : Channel) :
    t.isSubscribed id channel = s.isSubscribed id channel := by
  have held : t.registry.SubscribedTo id channel ↔ s.registry.SubscribedTo id channel := by
    rw [Registry.subscribedToHolds mirrors.left.indexed,
      Registry.subscribedToHolds mirrors.right.indexed]
    simp only [mirrors.part.holds]
  refine Bool.eq_iff_iff.mpr ?_
  exact (Registry.isSubscribedExact mirrors.right.indexed id channel).trans
    (held.trans (Registry.isSubscribedExact mirrors.left.indexed id channel).symm)

theorem mirrorsAside (mirrors : Mirrors samples id s t) {clock clock' : Nat}
    (same : clock' = clock) (notices notices' : List Notice) :
    Mirrors samples id { s with clock, notices }
      { t with clock := clock', notices := notices' } where
  left := { mirrors.left with }
  right := { mirrors.right with }
  part := { mirrors.part with clock := same }

theorem mirrorsMemory (mirrors : Mirrors samples id s t) (notices notices' : List Notice)
    {memory memory' : σ} (distinct : (samples memory).Distinct)
    (distinct' : (samples memory').Distinct)
    (sample : (samples memory').get? id = (samples memory).get? id) :
    Mirrors samples id { s with memory, notices }
      { t with memory := memory', notices := notices' } where
  left := ⟨mirrors.left.indexed, distinct⟩
  right := ⟨mirrors.right.indexed, distinct'⟩
  part := { mirrors.part with sample := sample }

theorem mirrorsUnlisted (mirrors : Mirrors samples id s t) (others others' : List String) :
    Mirrors samples id { s with inProcess := others } { t with inProcess := others' } where
  left := { mirrors.left with }
  right := { mirrors.right with }
  part := { mirrors.part with }

theorem mirrorsOnSession (mirrors : Mirrors samples id s t) {β : Type} (missing : β)
    (act : Session → β × Session) :
    Mirrors samples id (s.onSession id missing act).2 (t.onSession id missing act).2 where
  left := (mindsOnSession mirrors.left id missing act).sound
  right := (mindsOnSession mirrors.right id missing act).sound
  part := by
    have session : (t.onSession id missing act).2.session? id =
        (s.onSession id missing act).2.session? id := by
      rw [sessionOnSession, sessionOnSession, if_pos rfl, mirrors.part.session]
      simp
    have frame := onSessionFrame s id missing act
    have frame' := onSessionFrame t id missing act
    generalize (s.onSession id missing act).2 = after at session frame ⊢
    generalize (t.onSession id missing act).2 = after' at session frame' ⊢
    rw [frame, frame'] at session ⊢
    exact { mirrors.part with session := session }

theorem mirrorsOnRegistry (mirrors : Mirrors samples id s t) {act : Registry → Registry}
    (acts : Registry.ActsFor id act) (notice notice' : Notice) :
    Mirrors samples id ((s.note notice).onRegistry act) ((t.note notice').onRegistry act) where
  left := (mindsOnRegistry mirrors.left acts notice).sound
  right := (mindsOnRegistry mirrors.right acts notice').sound
  part := { mirrors.part with
    holds := acts.own mirrors.left.indexed mirrors.right.indexed mirrors.part.holds }

/- Not even how many were reached shows on the side of the sender. -/
theorem mirrorsPublish (mirrors : Mirrors samples id s t) {p : Packet} {route : Channel}
    (routed : p.route? = some route) (sent : p.sender? = some id) :
    Mirrors samples id (s.publish (some id) p).2 (t.publish (some id) p).2 where
  left := (mindsPublish mirrors.left routed sent).sound
  right := (mindsPublish mirrors.right routed sent).sound
  part := by
    have frame := (fansOut mirrors.left.indexed (some id) routed).frame
    have frame' := (fansOut mirrors.right.indexed (some id) routed).frame
    have session : (t.publish (some id) p).2.session? id =
        (s.publish (some id) p).2.session? id := by
      rw [sessionSender s routed, sessionSender t routed, mirrors.part.session]
    generalize (s.publish (some id) p).2 = after at session frame ⊢
    generalize (t.publish (some id) p).2 = after' at session frame' ⊢
    rw [frame, frame'] at session ⊢
    exact { mirrors.part with session := session }

theorem mirrorsChange {change : Server σ → Server σ} (does : Change id change)
    (mirrors : Mirrors samples id s t) : Mirrors samples id (change s) (change t) := by
  induction does generalizing s t with
  | nothing => exact mirrors
  | moved after alive => exact mirrorsOnSession mirrors false _
  | published c => exact mirrorsPublish mirrors rfl rfl
  | connected transport => exact mirrorsAside mirrors mirrors.part.clock _ _
  | subscribed channel => exact mirrorsOnRegistry mirrors (Registry.actsSubscribe id channel) _ _
  | unsubscribed channel =>
    exact mirrorsOnRegistry mirrors (Registry.actsUnsubscribe id channel) _ _
  | followed one other left right => exact right (left mirrors)

theorem mirrorsEnded (mirrors : Mirrors samples id s t) (abrupt : Bool)
    (channel? : Option Channel) :
    Mirrors samples id ((s.markDisconnected id).disconnected id abrupt channel?)
      ((t.markDisconnected id).disconnected id abrupt channel?) :=
  mirrorsOnRegistry (mirrorsOnSession mirrors false _) (Registry.actsUnsubscribeAll id) _ _

theorem mirrorsRespond {h : Handlers σ} {processing : Standard.Settings}
    (process : h.process = Standard.process processing) (mirrors : Mirrors samples id s t)
    (transports : List String) (c : Context) :
    InMirror samples id (Router.respond h.process transports id c s)
      (Router.respond h.process transports id c t) := by
  obtain ⟨answer, change, does, left, right⟩ := Router.respondInStep processing
    transports transports id (c := c) ⟨rfl, rfl⟩ (fun _ => rfl) (fun _ => rfl)
    (mirrorsState mirrors) (mirrorsSubscribed mirrors c.channel)
  rw [process, left, right]
  exact ⟨answer, _, _, rfl, rfl, mirrorsChange does mirrors⟩

end Server

namespace Extension
variable {σ : Type} {samples : σ → Timesync.Samples} {extensions : List (Extension σ)}
  {id : String} {s t : Server σ}

theorem mirrorsIncoming (plain : ∀ e ∈ extensions, e.Plain samples)
    (mirrors : Server.Mirrors samples id s t) (c : Context) :
    ∃ s' t', incomingPass extensions id c s = (true, c, s') ∧
      incomingPass extensions id c t = (true, c, t') ∧ Server.Mirrors samples id s' t' := by
  induction extensions generalizing s t with
  | nil => exact ⟨s, t, rfl, rfl, mirrors⟩
  | cons e rest ih =>
    have here := plain e (by simp)
    have fits := plainFits here
    obtain ⟨accepted, kept⟩ := plainArrives here s.clock id c s.memory
    obtain ⟨accepted', kept'⟩ := plainArrives here s.clock id c t.memory
    have own := incomingOwn fits s.clock c mirrors.part.sample
    have moves := movesIncoming fits s.clock id c
    unfold incomingPass
    simp only [mirrors.part.clock, accepted, accepted', kept, kept', if_true]
    exact ih (fun e inside => plain e (List.mem_cons_of_mem _ inside))
      (Server.mirrorsMemory mirrors _ _ ((moves s.memory).distinct mirrors.left.distinct)
        ((moves t.memory).distinct mirrors.right.distinct) own)

theorem mirrorsOutgoing (plain : ∀ e ∈ extensions, e.Plain samples)
    (mirrors : Server.Mirrors samples id s t) (m : Message) :
    ∃ n s' t', outgoingPass extensions id m s = (true, n, s') ∧
      outgoingPass extensions id m t = (true, n, t') ∧ Server.Mirrors samples id s' t' := by
  induction extensions generalizing m s t with
  | nil => exact ⟨m, s, t, rfl, rfl, mirrors⟩
  | cons e rest ih =>
    have here := plain e (by simp)
    have accepted := plainLeaves here s.clock id m
    obtain ⟨message, own⟩ := outgoingOwn here s.clock m mirrors.left.distinct
      mirrors.right.distinct mirrors.part.sample
    have moves := movesOutgoing (plainFits here) s.clock id m
    unfold outgoingPass
    simp only [mirrors.part.clock, accepted, message, if_true]
    exact ih (fun e inside => plain e (List.mem_cons_of_mem _ inside))
      (Server.mirrorsMemory mirrors _ _ ((moves s.memory).distinct mirrors.left.distinct)
        ((moves t.memory).distinct mirrors.right.distinct) own) _

theorem mirrorsMessages (plain : ∀ e ∈ extensions, e.Plain samples)
    (mirrors : Server.Mirrors samples id s t) (messages : List Message) :
    Server.InMirror samples id (outgoingMessages extensions id messages s)
      (outgoingMessages extensions id messages t) := by
  induction messages generalizing s t with
  | nil => exact ⟨[], s, t, rfl, rfl, mirrors⟩
  | cons m rest ih =>
    obtain ⟨n, s', t', here, there, between⟩ := mirrorsOutgoing plain mirrors m
    obtain ⟨others, u, v, left, right, after⟩ := ih between
    simp only [outgoingMessages, here, there, left, right, if_true]
    exact ⟨_, u, v, rfl, rfl, after⟩

theorem mirrorsPackets (plain : ∀ e ∈ extensions, e.Plain samples)
    (mirrors : Server.Mirrors samples id s t) (packets : List Packet) :
    Server.InMirror samples id (outgoingPackets extensions id packets s)
      (outgoingPackets extensions id packets t) := by
  induction packets generalizing s t with
  | nil => exact ⟨[], s, t, rfl, rfl, mirrors⟩
  | cons p rest ih =>
    obtain ⟨messages, s', t', here, there, between⟩ := mirrorsMessages plain mirrors p.messages
    obtain ⟨others, u, v, left, right, after⟩ := ih between
    simp only [outgoingPackets, here, there, left, right]
    exact ⟨_, u, v, rfl, rfl, after⟩

theorem mirrorsForgetPass (plain : ∀ e ∈ extensions, e.Plain samples)
    (mirrors : Server.Mirrors samples id s t) :
    Server.Mirrors samples id (forgetPass extensions id s) (forgetPass extensions id t) := by
  unfold forgetPass
  induction extensions generalizing s t with
  | nil => exact mirrors
  | cons e rest ih =>
    have fits := plainFits (plain e (by simp))
    have own := forgetOwn fits mirrors.left.distinct mirrors.right.distinct mirrors.part.sample
    have moves := movesForget fits id
    exact ih (fun e inside => plain e (List.mem_cons_of_mem _ inside))
      (Server.mirrorsMemory mirrors _ _ ((moves s.memory).distinct mirrors.left.distinct)
        ((moves t.memory).distinct mirrors.right.distinct) own)

theorem mirrorsDismissed (plain : ∀ e ∈ extensions, e.Plain samples)
    (mirrors : Server.Mirrors samples id s t) :
    Server.Mirrors samples id (forgetPass extensions id (s.removeSession id))
      (forgetPass extensions id (t.removeSession id)) :=
  mirrorsForgetPass plain (Server.mirrorsOnRegistry mirrors (Registry.actsRemove id) _ _)

end Extension
end Bayeux
