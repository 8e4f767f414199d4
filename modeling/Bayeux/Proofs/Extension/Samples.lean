import Bayeux.Proofs.Extension.Plain
/-! The samples that wait, behind a chain of extensions that let everything pass and have the clock
synchronisation among them. A request that arrives may replace the sample of its session, a
reply that leaves may take it along, and however often the chain synchronises, once makes the
difference. Nothing else brings a sample into being. -/

namespace Bayeux

namespace Timesync
variable {now : Int} {id : String} {m : Message} {waiting? : Option Sample} {samples : Samples}

/-- What waits once a request has arrived. -/
def noted (now : Int) (m : Message) (waiting? : Option Sample) : Option Sample :=
  if isTimed m then
    match sample? now m with
    | some sample => some (newer waiting? sample)
    | none => waiting?
  else waiting?

/-- What a leaving message takes along of what waits. -/
def owed (m : Message) (waiting? : Option Sample) : Option Sample :=
  if isTimed m then
    match requestId? m, waiting? with
    | some id, some sample => if sample.id.same id then some sample else none
    | _, _ => none
  else none

/-- The message with what it takes along. -/
def stamped (now : Int) (m : Message) (waiting? : Option Sample) : Message :=
  match owed m waiting? with
  | some sample => m.putExt extensionName (stamp now sample)
  | none => m

/-- What waits behind it. -/
def left (m : Message) (waiting? : Option Sample) : Option Sample :=
  if (owed m waiting?).isSome then none else waiting?

theorem notedCases {sample : Sample} (waits : noted now m waiting? = some sample) :
    waiting? = some sample ∨ isTimed m = true ∧ sample? now m = some sample := by
  unfold noted at waits
  split at waits
  · rename_i timed
    cases asked : sample? now m with
    | none =>
      rw [asked] at waits
      exact .inl waits
    | some own =>
      simp only [asked, newer] at waits
      split at waits
      · split at waits
        · exact .inr ⟨timed, waits⟩
        · exact .inl waits
      · exact .inr ⟨timed, waits⟩
  · exact .inl waits

theorem leftOld {sample : Sample} (waits : left m waiting? = some sample) :
    waiting? = some sample := by
  unfold left at waits
  split at waits
  · cases waits
  · exact waits

theorem getRecord (now : Int) (id : String) (m : Message) (samples : Samples) :
    (record now id m samples).get? id = noted now m (samples.get? id) := by
  unfold record noted
  split
  · cases sample? now m with
    | none => rfl
    | some sample => exact Table.getPutSame _ _ _
  · rfl

theorem answeredOwed (id : String) (m : Message) (samples : Samples) :
    answered? id m samples = owed m (samples.get? id) := rfl

theorem getAnswer (now : Int) (id : String) (m : Message) (distinct : samples.Distinct) :
    (answer now id m samples).1 = stamped now m (samples.get? id) ∧
      (answer now id m samples).2.get? id = left m (samples.get? id) := by
  unfold answer stamped left
  rw [answeredOwed]
  cases owed m (samples.get? id) with
  | none => exact ⟨rfl, rfl⟩
  | some sample => exact ⟨rfl, Table.getRemoveSame distinct id⟩

theorem notedTwice (now : Int) (m : Message) (waiting? : Option Sample) :
    noted now m (noted now m waiting?) = noted now m waiting? := by
  unfold noted
  split
  · split
    · rename_i sample _
      cases waiting? with
      | none => simp [newer]
      | some waiting =>
        by_cases older : waiting.tc ≤ sample.tc <;> simp [newer, older]
    · rfl
  · rfl

theorem owedStamped (now : Int) (m : Message) (waiting? : Option Sample) :
    owed (stamped now m waiting?) (left m waiting?) = none := by
  unfold stamped left
  cases found : owed m waiting? with
  | none => exact found
  | some sample =>
    simp only [Option.isSome_some, if_true]
    unfold owed
    split
    · split <;> simp_all
    · rfl

/-- Each sample that waits afterwards has waited before, or is a fresh one. -/
structure Recalls (fresh : String → Sample → Prop) (before after : Samples) : Prop where
  distinct : before.Distinct → after.Distinct
  known : before.Distinct → ∀ id sample, after.get? id = some sample →
    before.get? id = some sample ∨ fresh id sample

section
variable {fresh more : String → Sample → Prop} {before between after : Samples}

theorem recallsRefl (samples : Samples) : Recalls fresh samples samples :=
  ⟨id, fun _ _ _ => .inl⟩

theorem recallsTrans (first : Recalls fresh before between) (second : Recalls fresh between after) :
    Recalls fresh before after := by
  refine ⟨second.distinct ∘ first.distinct, fun distinct id sample waits => ?_⟩
  rcases second.known (first.distinct distinct) id sample waits with old | new
  · exact first.known distinct id sample old
  · exact .inr new

theorem recallsMore (wider : ∀ id sample, fresh id sample → more id sample)
    (recalls : Recalls fresh before after) : Recalls more before after :=
  ⟨recalls.distinct, fun distinct id sample waits =>
    (recalls.known distinct id sample waits).imp_right (wider id sample)⟩

theorem recallsRemove (session : String) (samples : Samples) :
    Recalls fresh samples (samples.remove session) := by
  refine ⟨fun distinct => Table.distinctRemove distinct _, fun distinct id sample waits => .inl ?_⟩
  by_cases own : id = session
  · rw [own, Table.getRemoveSame distinct] at waits
    cases waits
  · rwa [Table.getRemoveOther _ own] at waits

theorem recallsAnswer (now : Int) (session : String) (m : Message) (samples : Samples) :
    Recalls fresh samples (answer now session m samples).2 := by
  unfold answer
  split
  · exact recallsRemove session samples
  · exact recallsRefl samples

end

end Timesync

namespace Server
variable {σ : Type} {samples : σ → Timesync.Samples} {fresh : String → Timesync.Sample → Prop}
  {s t u : Server σ}

/-- The same of what the extensions of two servers remember. -/
def Recalls (samples : σ → Timesync.Samples) (fresh : String → Timesync.Sample → Prop)
    (s t : Server σ) : Prop :=
  Timesync.Recalls fresh (samples s.memory) (samples t.memory)

theorem recallsTrans (first : s.Recalls samples fresh t) (second : t.Recalls samples fresh u) :
    s.Recalls samples fresh u :=
  Timesync.recallsTrans first second

theorem recallsSame (same : t.memory = s.memory) : s.Recalls samples fresh t := by
  rw [Recalls, same]
  exact Timesync.recallsRefl _

theorem recallsRefl (s : Server σ) : s.Recalls samples fresh s := recallsSame rfl

end Server

namespace Extension
variable {σ : Type} {samples : σ → Timesync.Samples} {e : Extension σ}
  {extensions : List (Extension σ)} {clock : Nat} {id : String} {memory : σ}

/-- Everything passes, and the clocks are synchronised. -/
structure Synced (samples : σ → Timesync.Samples) (extensions : List (Extension σ)) : Prop where
  plain : ∀ e ∈ extensions, e.Plain samples
  present : ∃ e ∈ extensions, e.Synchronises samples

/-- What the extensions remember of a message that arrives. -/
def takeIn (clock : Nat) (id : String) (c : Context) (extensions : List (Extension σ))
    (memory : σ) : σ :=
  extensions.foldl (fun memory e => (e.incoming clock id c memory).2.2) memory

/-- A message that leaves, with what they put into it and what they remember then. -/
def letOut (clock : Nat) (id : String) (extensions : List (Extension σ)) (said : Message × σ) :
    Message × σ :=
  extensions.foldl (fun said e => (e.outgoing clock id said.1 said.2).2) said

theorem syncedBehind {rest : List (Extension σ)} (other : ¬e.Synchronises samples)
    (present : ∃ x ∈ e :: rest, x.Synchronises samples) : ∃ x ∈ rest, x.Synchronises samples := by
  obtain ⟨x, inside, sync⟩ := present
  rcases List.mem_cons.mp inside with rfl | behind
  · exact absurd sync other
  · exact ⟨x, behind, sync⟩

theorem plainIncoming (plain : ∀ e ∈ extensions, e.Plain samples) (id : String) (c : Context)
    (s : Server σ) : ∃ notices, incomingPass extensions id c s =
      (true, c, { s with memory := takeIn s.clock id c extensions s.memory, notices }) := by
  induction extensions generalizing s with
  | nil => exact ⟨s.notices, rfl⟩
  | cons e rest ih =>
    obtain ⟨here, others⟩ := List.forall_mem_cons.mp plain
    obtain ⟨accepted, kept⟩ := plainArrives here s.clock id c s.memory
    unfold incomingPass
    simp only [accepted, kept, if_true]
    exact ih others { s.note (.incoming e.name) with
      memory := (e.incoming s.clock id c s.memory).2.2 }

theorem plainOutgoing (plain : ∀ e ∈ extensions, e.Plain samples) (id : String) (m : Message)
    (s : Server σ) : ∃ notices, outgoingPass extensions id m s =
      (true, (letOut s.clock id extensions (m, s.memory)).1,
        { s with memory := (letOut s.clock id extensions (m, s.memory)).2, notices }) := by
  induction extensions generalizing m s with
  | nil => exact ⟨s.notices, rfl⟩
  | cons e rest ih =>
    obtain ⟨here, others⟩ := List.forall_mem_cons.mp plain
    unfold outgoingPass
    simp only [plainLeaves here, if_true]
    exact ih others _ { s.note (.outgoing e.name) with
      memory := (e.outgoing s.clock id m s.memory).2.2 }

theorem takeInDistinct (plain : ∀ e ∈ extensions, e.Plain samples) (c : Context)
    (distinct : (samples memory).Distinct) :
    (samples (takeIn clock id c extensions memory)).Distinct := by
  induction extensions generalizing memory with
  | nil => exact distinct
  | cons e rest ih =>
    obtain ⟨here, others⟩ := List.forall_mem_cons.mp plain
    exact ih others ((movesIncoming (plainFits here) clock id c memory).distinct distinct)

/- A chain without the synchronisation, or behind one, has nothing to note any more. -/
theorem takeInAgain (plain : ∀ e ∈ extensions, e.Plain samples) (c : Context)
    (known : Timesync.noted (Timesync.reading clock) c.message ((samples memory).get? id) =
      (samples memory).get? id) :
    (samples (takeIn clock id c extensions memory)).get? id = (samples memory).get? id := by
  induction extensions generalizing memory with
  | nil => rfl
  | cons e rest ih =>
    obtain ⟨here, others⟩ := List.forall_mem_cons.mp plain
    have same :
        (samples (e.incoming clock id c memory).2.2).get? id = (samples memory).get? id := by
      rcases here with sync | ⟨-, ignores⟩
      · rw [(synchronisesIncoming sync clock id c memory).2.2, Timesync.getRecord, known]
      · rw [ignores.incoming]
    exact (ih others (by rw [same, known])).trans same

theorem takeInNoted (synced : Synced samples extensions) (c : Context) :
    (samples (takeIn clock id c extensions memory)).get? id =
      Timesync.noted (Timesync.reading clock) c.message ((samples memory).get? id) := by
  obtain ⟨plain, present⟩ := synced
  induction extensions generalizing memory with
  | nil => simp at present
  | cons e rest ih =>
    obtain ⟨here, others⟩ := List.forall_mem_cons.mp plain
    change (samples (takeIn clock id c rest (e.incoming clock id c memory).2.2)).get? id = _
    by_cases sync : e.Synchronises samples
    · have noted : (samples (e.incoming clock id c memory).2.2).get? id =
          Timesync.noted (Timesync.reading clock) c.message ((samples memory).get? id) := by
        rw [(synchronisesIncoming sync clock id c memory).2.2, Timesync.getRecord]
      rw [takeInAgain others c (by rw [noted, Timesync.notedTwice]), noted]
    · rw [ih others (syncedBehind sync present), (here.resolve_left sync).2.incoming]

/- Likewise a chain that has nothing to put into the message. -/
theorem letOutAgain (plain : ∀ e ∈ extensions, e.Plain samples) {m : Message}
    (distinct : (samples memory).Distinct)
    (known : Timesync.owed m ((samples memory).get? id) = none) :
    (letOut clock id extensions (m, memory)).1 = m ∧
      (samples (letOut clock id extensions (m, memory)).2).get? id = (samples memory).get? id := by
  induction extensions generalizing memory with
  | nil => exact ⟨rfl, rfl⟩
  | cons e rest ih =>
    obtain ⟨here, others⟩ := List.forall_mem_cons.mp plain
    have still : (e.outgoing clock id m memory).2.1 = m ∧
        (samples (e.outgoing clock id m memory).2.2).get? id = (samples memory).get? id := by
      rcases here with sync | ⟨lenient, ignores⟩
      · obtain ⟨-, message, kept⟩ := synchronisesOutgoing sync clock id m memory
        obtain ⟨stamped, left⟩ := Timesync.getAnswer (Timesync.reading clock) id m distinct
        rw [message, kept, stamped, left, Timesync.stamped, Timesync.left, known]
        exact ⟨rfl, rfl⟩
      · rw [(lenient.outgoing clock id m memory).2, ignores.outgoing]
        exact ⟨rfl, rfl⟩
    have distinct' := (movesOutgoing (plainFits here) clock id m memory).distinct distinct
    obtain ⟨message, kept⟩ := ih others distinct' (by rw [still.2, known])
    have split : (e.outgoing clock id m memory).2 = (m, (e.outgoing clock id m memory).2.2) :=
      Prod.ext still.1 rfl
    rw [show letOut clock id (e :: rest) (m, memory) =
      letOut clock id rest (e.outgoing clock id m memory).2 from rfl, split]
    exact ⟨message, kept.trans still.2⟩

theorem letOutStamped (synced : Synced samples extensions) (clock : Nat) (id : String)
    (m : Message) (distinct : (samples memory).Distinct) :
    (letOut clock id extensions (m, memory)).1 =
        Timesync.stamped (Timesync.reading clock) m ((samples memory).get? id) ∧
      (samples (letOut clock id extensions (m, memory)).2).get? id =
        Timesync.left m ((samples memory).get? id) := by
  obtain ⟨plain, present⟩ := synced
  induction extensions generalizing memory with
  | nil => simp at present
  | cons e rest ih =>
    obtain ⟨here, others⟩ := List.forall_mem_cons.mp plain
    have distinct' := (movesOutgoing (plainFits here) clock id m memory).distinct distinct
    have out : ∀ n, (e.outgoing clock id m memory).2.1 = n →
        letOut clock id (e :: rest) (m, memory) =
          letOut clock id rest (n, (e.outgoing clock id m memory).2.2) := by
      rintro n rfl
      rfl
    by_cases sync : e.Synchronises samples
    · obtain ⟨-, message, kept⟩ := synchronisesOutgoing sync clock id m memory
      obtain ⟨stamped, left⟩ := Timesync.getAnswer (Timesync.reading clock) id m distinct
      rw [stamped] at message
      rw [← kept] at left
      have nothing : Timesync.owed (Timesync.stamped (Timesync.reading clock) m
          ((samples memory).get? id)) ((samples (e.outgoing clock id m memory).2.2).get? id) =
          none := by
        rw [left, Timesync.owedStamped]
      obtain ⟨same, still⟩ := letOutAgain others distinct' nothing
      rw [out _ message]
      exact ⟨same, still.trans left⟩
    · obtain ⟨lenient, ignores⟩ := here.resolve_left sync
      rw [out _ (lenient.outgoing clock id m memory).2]
      have later := ih distinct' others (syncedBehind sync present)
      rwa [ignores.outgoing] at later

theorem outgoingSingle (plain : ∀ e ∈ extensions, e.Plain samples) (id : String)
    (type : PacketType) (m : Message) (s : Server σ) : ∃ notices,
      outgoingPackets extensions id [.single type m] s =
        ([.single type (letOut s.clock id extensions (m, s.memory)).1],
          { s with memory := (letOut s.clock id extensions (m, s.memory)).2, notices }) := by
  obtain ⟨notices, passed⟩ := plainOutgoing plain id m s
  exact ⟨notices, by simp [outgoingPackets, outgoingMessages, Packet.single, passed]⟩

theorem clockGoesOut (plain : ∀ e ∈ extensions, e.Plain samples) {messages out : List Message}
    {s t : Server σ} (goes : GoesOut extensions id messages s out t) : t.clock = s.clock := by
  refine goesOutRelated (R := fun s t => t.clock = s.clock) (fun _ => rfl)
    (fun first second => second.trans first) (fun m s => ?_) goes
  obtain ⟨notices, passed⟩ := plainOutgoing plain id m s
  rw [passed]

/- The chain as a whole, for all sessions. -/

section
variable {fresh : String → Timesync.Sample → Prop} {s t : Server σ}

theorem takeInOther (plain : ∀ e ∈ extensions, e.Plain samples) (c : Context) {other : String}
    (different : other ≠ id) :
    (samples (takeIn clock id c extensions memory)).get? other = (samples memory).get? other := by
  induction extensions generalizing memory with
  | nil => rfl
  | cons e rest ih =>
    obtain ⟨here, others⟩ := List.forall_mem_cons.mp plain
    exact (ih others).trans (incomingOther (plainFits here) clock c different)

/- A message that arrives brings in what it has to say about the clocks. -/
theorem recallsIncomingPass (synced : Synced samples extensions) (id : String) (c : Context)
    (s : Server σ) : s.Recalls samples (fun other sample => other = id ∧
      Timesync.isTimed c.message = true ∧
        Timesync.sample? (Timesync.reading s.clock) c.message = some sample)
      (incomingPass extensions id c s).2.2 := by
  obtain ⟨notices, passed⟩ := plainIncoming synced.plain id c s
  rw [passed]
  refine ⟨takeInDistinct synced.plain c, fun _ other sample waits => ?_⟩
  by_cases own : other = id
  · subst own
    rw [takeInNoted synced] at waits
    exact (Timesync.notedCases waits).imp_right fun asked => ⟨rfl, asked⟩
  · rw [takeInOther synced.plain c own] at waits
    exact .inl waits

theorem recallsOutgoing (fits : e.Fits samples) (clock : Nat) (id : String) (m : Message)
    (memory : σ) : Timesync.Recalls fresh (samples memory)
      (samples (e.outgoing clock id m memory).2.2) := by
  rcases fits with sync | ignores
  · rw [(synchronisesOutgoing sync clock id m memory).2.2]
    exact Timesync.recallsAnswer _ id m _
  · rw [ignores.outgoing]
    exact Timesync.recallsRefl _

theorem recallsForget (fits : e.Fits samples) (id : String) (memory : σ) :
    Timesync.Recalls fresh (samples memory) (samples (e.forget id memory)) := by
  rcases fits with sync | ignores
  · rw [sync.forget]
    exact Timesync.recallsRemove id _
  · rw [ignores.forget]
    exact Timesync.recallsRefl _

theorem recallsOutgoingPass (each : ∀ e ∈ extensions, e.Fits samples) (id : String) (m : Message)
    (s : Server σ) : s.Recalls samples fresh (outgoingPass extensions id m s).2.2 :=
  outgoingPassRelated Server.recallsRefl Server.recallsTrans
    (fun e inside m s => recallsOutgoing (each e inside) s.clock id m s.memory) m s

theorem recallsGoesOut (each : ∀ e ∈ extensions, e.Fits samples) {messages out : List Message}
    (goes : GoesOut extensions id messages s out t) : s.Recalls samples fresh t :=
  goesOutRelated Server.recallsRefl Server.recallsTrans (recallsOutgoingPass each id) goes

theorem recallsForgetPass (each : ∀ e ∈ extensions, e.Fits samples) (id : String)
    (s : Server σ) : s.Recalls samples fresh (forgetPass extensions id s) :=
  forgetPassRelated Server.recallsRefl Server.recallsTrans
    (fun e inside s => recallsForget (each e inside) id s.memory) s

end

end Extension
end Bayeux
