import Bayeux.Packet
import Bayeux.Proofs.Request.Fields
/-! Packets merged one after the other. Of each packet the messages that pass come behind those of
the base, and the base itself is handed on where there are none; whether a message passes is
seen in what it shows, so an overlay passes as what lies below. -/

namespace Bayeux

theorem Value.asStringIff {v : Value} {s : String} :
    v.asString? = some s ↔ v.visible = .string s := by
  cases v <;> simp [asString?, visible]

namespace Message
variable {m : Message} {path : String}

/-- The message shows the path as its channel. An empty text is no channel. -/
def Names (m : Message) (path : String) : Prop :=
  path ≠ "" ∧ m.visible.field? Field.channel = some (.string path)

theorem channelIff : m.channel? = some path ↔ m.Names path := by
  have shown : m.visible.field? Field.channel = m.shown? Field.channel := by
    rw [visible, Value.visibleObject, ← getVisible]
    rfl
  have text : m.textField? Field.channel = some path ↔
      m.shown? Field.channel = some (.string path) := by
    simp only [textField?, shown?, Option.bind_eq_some_iff, Option.map_eq_some_iff,
      Value.asStringIff]
  rw [channel?, Option.filter_eq_some_iff, text, Names, shown, decide_eq_true_iff]
  exact and_comm

theorem namesOverlay : m.overlay.Names path ↔ m.Names path := by
  rw [Names, visibleOverlay]
  rfl

/-- The same message or an overlay of it. -/
def Overlays (above m : Message) : Prop := above = m ∨ above = m.overlay

theorem overlaysVisible {above : Message} (same : above.Overlays m) :
    above.visible = m.visible := by
  rcases same with rfl | rfl
  · rfl
  · exact visibleOverlay m

end Message

namespace Packet
variable {base p : Packet} {filtered? : Option Channel} {m : Message}

/-- A message passes unless it names the filtered channel. -/
def Passes (filtered? : Option Channel) (m : Message) : Prop :=
  ∀ route, filtered? = some route → ¬m.Names route.path

theorem passesIff : qualifies filtered? m = true ↔ Passes filtered? m := by
  cases filtered? with
  | none => exact ⟨fun _ => nofun, fun _ => rfl⟩
  | some route =>
    rw [qualifies, bne_iff_ne, ne_eq, Message.channelIff]
    exact ⟨fun differs _ same => Option.some.inj same ▸ differs, fun passes => passes route rfl⟩

instance (filtered? : Option Channel) : DecidablePred (Passes filtered?) :=
  fun _ => decidable_of_iff _ passesIff

theorem passesOverlaid {above : Message} (same : above.Overlays m) :
    Passes filtered? above ↔ Passes filtered? m := by
  rcases same with rfl | rfl
  · rfl
  · exact forall₂_congr fun route _ => not_congr Message.namesOverlay

theorem filterPasses (messages : List Message) (filtered? : Option Channel) :
    messages.filter (qualifies filtered?) = messages.filter fun m => Passes filtered? m :=
  List.filter_congr fun _ _ => Bool.eq_iff_iff.mpr (passesIff.trans (decide_eq_true_iff).symm)

/-! A chain of merges, each with the route that is filtered out of its packet. -/

abbrev Chain := List (Packet × Option Channel)

def mergeAll (base : Packet) (chain : Chain) : Packet :=
  chain.foldl (fun merged step => merged.merge step.1 step.2) base

/-- The packet that the merges have made, `none` while each of them has handed the very base on. -/
def mergeAll? (base : Packet) (chain : Chain) : Option Packet :=
  chain.foldl (fun made? step => ((made?.getD base).joined? step.1 step.2).or made?) none

def survivors (chain : Chain) : List Message :=
  chain.flatMap fun step => step.1.messages.filter fun m => Passes step.2 m

/-- The base with more messages behind its own, `none` where there are no more. -/
def behind? (base : Packet) (more : List Message) : Option Packet :=
  if more.isEmpty then none else some { base with messages := base.messages ++ more }

theorem getBehind (base : Packet) (more : List Message) :
    (base.behind? more).getD base = { base with messages := base.messages ++ more } := by
  cases more <;> simp [behind?]

theorem behindNone {more : List Message} : base.behind? more = none ↔ more = [] := by
  cases more <;> simp [behind?]

theorem behindTwice (base : Packet) (front more : List Message) :
    (((base.behind? front).getD base).behind? more).or (base.behind? front) =
      base.behind? (front ++ more) := by
  rw [getBehind]
  cases front <;> cases more <;> simp [behind?]

theorem joinedBehind (base other : Packet) (filtered? : Option Channel) :
    base.joined? other filtered? =
      base.behind? (other.messages.filter fun m => Passes filtered? m) := by
  have decides : other.messages.any (qualifies filtered?) =
      !(other.messages.filter fun m => Passes filtered? m).isEmpty := by
    rw [← filterPasses, Bool.eq_iff_iff]
    simp [List.filter_eq_nil_iff]
  rw [joined?, behind?, decides, filterPasses]
  cases (other.messages.filter fun m => Passes filtered? m).isEmpty <;> rfl

/- Induction from the end of the chain, where a fold takes its last step. -/
theorem mergeAllBehind (base : Packet) (chain : Chain) :
    mergeAll? base chain = base.behind? (survivors chain) := by
  induction chain using List.reverseRecOn with
  | nil => rfl
  | append_singleton front step ih =>
    calc mergeAll? base (front ++ [step])
        = (((mergeAll? base front).getD base).joined? step.1 step.2).or (mergeAll? base front) := by
          simp only [mergeAll?, List.foldl_append, List.foldl_cons, List.foldl_nil]
      _ = base.behind? (survivors front ++ step.1.messages.filter fun m => Passes step.2 m) := by
          rw [ih, joinedBehind, behindTwice]
      _ = base.behind? (survivors (front ++ [step])) := by
          simp only [survivors, List.flatMap_append, List.flatMap_singleton]

theorem getMergeAll (base : Packet) (chain : Chain) :
    (mergeAll? base chain).getD base = mergeAll base chain := by
  induction chain using List.reverseRecOn with
  | nil => rfl
  | append_singleton front step ih =>
    simp only [mergeAll?, mergeAll, List.foldl_append, List.foldl_cons, List.foldl_nil] at ih ⊢
    rw [Option.getD_or, ih]
    rfl

theorem mergeAllMessages (base : Packet) (chain : Chain) :
    mergeAll base chain = { base with messages := base.messages ++ survivors chain } := by
  rw [← getMergeAll, mergeAllBehind, getBehind]

theorem noneSurvives (chain : Chain) :
    survivors chain = [] ↔ ∀ step ∈ chain, ∀ m ∈ step.1.messages, ¬Passes step.2 m := by
  simp [survivors, List.flatMap_eq_nil_iff, List.filter_eq_nil_iff]

theorem baseStands (base : Packet) (chain : Chain) :
    mergeAll base chain = base ↔ survivors chain = [] := by
  rw [mergeAllMessages]
  constructor
  · intro same
    exact List.append_right_eq_self.mp (congrArg messages same)
  · intro none_
    rw [none_, List.append_nil]

/- Under one route it does not matter how the messages are spread over packets. -/
theorem mergeAllSameRoute (base : Packet) (packets : List Packet) (filtered? : Option Channel)
    {whole : Packet} (together : whole.messages = packets.flatMap messages) :
    mergeAll? base (packets.map fun p => (p, filtered?)) = base.joined? whole filtered? := by
  rw [mergeAllBehind, joinedBehind, together]
  congr 1
  simp only [survivors, List.flatMap_map, List.filter_flatMap]

/-! Packets as they are or frozen. -/

def MayFreeze (p frozen : Packet) : Prop := frozen = p ∨ frozen = p.freeze

/-- Any of the packets may be frozen; the routes are the same. -/
abbrev Chain.MayFreeze : Chain → Chain → Prop :=
  List.Forall₂ fun step frozen => step.1.MayFreeze frozen.1 ∧ frozen.2 = step.2

/-- Which messages pass, packet by packet. -/
def fates (chain : Chain) : List (List Bool) :=
  chain.map fun step => step.1.messages.map fun m => Passes step.2 m

abbrev Overlaid : List Message → List Message → Prop := List.Forall₂ Message.Overlays

theorem overlaidMap {β : Type} {f : Message → β} {above messages : List Message}
    (alike : ∀ above m : Message, above.Overlays m → f above = f m)
    (same : Overlaid above messages) : above.map f = messages.map f := by
  induction same with
  | nil => rfl
  | cons first _ ih => rw [List.map_cons, List.map_cons, alike _ _ first, ih]

theorem frozenOverlaid {frozen : Packet} (may : p.MayFreeze frozen) :
    Overlaid frozen.messages p.messages := by
  rcases may with rfl | rfl
  · exact List.forall₂_same.mpr fun m _ => .inl rfl
  · exact List.forall₂_map_left_iff.mpr (List.forall₂_same.mpr fun m _ => .inr rfl)

theorem fatesFrozen {chain frozen : Chain} (may : chain.MayFreeze frozen) :
    fates frozen = fates chain := by
  induction may with
  | nil => rfl
  | @cons step other front rest both _ ih =>
    obtain ⟨p, _⟩ := step
    obtain ⟨q, route⟩ := other
    obtain ⟨packet, rfl⟩ := both
    have alike : ∀ above m : Message, above.Overlays m →
        decide (Passes route above) = decide (Passes route m) :=
      fun _ _ same => decide_eq_decide.mpr (passesOverlaid same)
    exact congrArg₂ List.cons (overlaidMap alike (frozenOverlaid packet)) ih

theorem survivorsFrozen {chain frozen : Chain} (may : chain.MayFreeze frozen) :
    Overlaid (survivors frozen) (survivors chain) := by
  induction may with
  | nil => exact .nil
  | @cons step other front rest both _ ih =>
    obtain ⟨p, _⟩ := step
    obtain ⟨q, route⟩ := other
    obtain ⟨packet, rfl⟩ := both
    refine List.rel_append (List.rel_filter (fun _ _ same => ?_) (frozenOverlaid packet)) ih
    simpa using passesOverlaid same

theorem overlaidText {q : Packet} (same : Overlaid q.messages p.messages) : q.text = p.text := by
  rw [textMessages, textMessages, messagesText, messagesText,
    overlaidMap (fun _ _ => Message.overlaysVisible) same]

theorem mergeAllFrozen {chain frozen : Chain} {frozenBase : Packet}
    (mayBase : base.MayFreeze frozenBase) (may : chain.MayFreeze frozen) :
    Overlaid (mergeAll frozenBase frozen).messages (mergeAll base chain).messages := by
  rw [mergeAllMessages, mergeAllMessages]
  exact List.rel_append (frozenOverlaid mayBase) (survivorsFrozen may)

theorem madeFrozen {chain frozen : Chain} {frozenBase : Packet} (may : chain.MayFreeze frozen) :
    mergeAll? frozenBase frozen = none ↔ mergeAll? base chain = none := by
  have lengths := (survivorsFrozen may).length_eq
  rw [mergeAllBehind, mergeAllBehind, behindNone, behindNone, ← List.length_eq_zero_iff, lengths,
    List.length_eq_zero_iff]

theorem mergesInOrder (base : Packet) (chain : Chain) :
    mergeAll base chain =
      { base with messages := base.messages ++
          chain.flatMap fun step => step.1.messages.filter fun m => Passes step.2 m } ∧
    (mergeAll? base chain).getD base = mergeAll base chain ∧
    (mergeAll? base chain = none ↔ ∀ step ∈ chain, ∀ m ∈ step.1.messages, ¬Passes step.2 m) ∧
    (mergeAll base chain = base ↔ mergeAll? base chain = none) ∧
    (∀ (p q : Packet) (filtered? : Option Channel),
      let both : Packet := { p with messages := p.messages ++ q.messages }
      (base.merge p filtered?).merge q filtered? = base.merge both filtered? ∧
      mergeAll? base [(p, filtered?), (q, filtered?)] = base.joined? both filtered?) ∧
    ∀ (frozenBase : Packet) (frozen : Chain), base.MayFreeze frozenBase → chain.MayFreeze frozen →
      fates frozen = fates chain ∧
      (mergeAll? frozenBase frozen = none ↔ mergeAll? base chain = none) ∧
      Overlaid (mergeAll frozenBase frozen).messages (mergeAll base chain).messages ∧
      (mergeAll frozenBase frozen).text = (mergeAll base chain).text := by
  refine ⟨mergeAllMessages base chain, getMergeAll base chain, ?none_, ?stands, ?spread, ?frozen⟩
  case none_ =>
    rw [mergeAllBehind, behindNone, noneSurvives]
  case stands =>
    rw [baseStands, mergeAllBehind, behindNone]
  case spread =>
    intro p q filtered? both
    have joined : mergeAll? base [(p, filtered?), (q, filtered?)] = base.joined? both filtered? :=
      mergeAllSameRoute base [p, q] filtered? (by simp [both])
    refine ⟨?_, joined⟩
    rw [merge.eq_def base both, ← joined, getMergeAll]
    rfl
  case frozen =>
    intro frozenBase frozen mayBase may
    have overlaid := mergeAllFrozen mayBase may
    exact ⟨fatesFrozen may, madeFrozen may, overlaid, overlaidText overlaid⟩

/- An overlaid message, one whose channel is empty and one whose channel is no text. -/
theorem mergesInOrderMixed :
    let room : Channel := ⟨"/a", by decide⟩
    let own := Message.forChannel "/a"
    let base : Packet := (single .response (.forChannel "/b")).withSender "s"
    let first : Packet := response [own.overlay, .forChannel "", Message.empty.put "channel" .null]
    let second : Packet := single .delivery own
    let chain : Chain := [(first, some room), (second, some room), (second, none)]
    let frozen : Chain := [(first, some room), (second.freeze, some room), (second, none)]
    (mergeAll base chain).messages =
      [.forChannel "/b", .forChannel "", Message.empty.put "channel" .null, own] ∧
    mergeAll? base [(second, some room)] = none ∧
    fates frozen = [[false, true, true], [false], [true]] ∧
    (mergeAll base.freeze frozen).text = (mergeAll base chain).text := by
  intro room own base first second chain frozen
  have fate : fates chain = [[false, true, true], [false], [true]] := by decide
  obtain ⟨merged, -, -, -, -, freezing⟩ := mergesInOrder base chain
  obtain ⟨-, -, stands, -⟩ := mergesInOrder base [(second, some room)]
  obtain ⟨fates_, -, -, text⟩ := freezing base.freeze frozen (.inr rfl)
    (.cons ⟨.inl rfl, rfl⟩ (.cons ⟨.inr rfl, rfl⟩ (.cons ⟨.inl rfl, rfl⟩ .nil)))
  refine ⟨?_, stands.mpr ?_, fates_.trans fate, text⟩
  · rw [merged]
    rfl
  · simp only [List.forall_mem_singleton]
    decide

end Packet
end Bayeux
