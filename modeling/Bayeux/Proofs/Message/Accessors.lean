import Bayeux.Message
import Bayeux.Proofs.Value.Equality
/-! Fields of a message that are handed out to be changed. What is handed out is the field as it is
seen, or an overlay of it; a missing one is made first where the accessor says so. The
change is written back to its field, and the others stay. -/

namespace Bayeux.Message
variable {m : Message} {name other : String} {β : Type}

theorem getPut (m : Message) (name other : String) (value : Value) :
    (m.put name value).get? other = if other = name then some value else m.get? other :=
  Record.getPut m.fields name other value

/-- The accessor has reached a field and handed out what starts the change. -/
structure Hands {α : Type} (m : Message) (name : String) (wrap : α → Value) (start : α)
    (change : α → α × β) (after : Message × Option β) : Prop where
  given : after.2 = some (change start).2
  own : after.1.get? name = some (wrap (change start).1)
  others : ∀ other, other ≠ name → after.1.get? other = m.get? other
  distinct : m.fields.Distinct → after.1.fields.Distinct

theorem editAbsent (change : Value → Value × β) (absent : m.get? name = none) :
    m.edit name change = (m, none) := by
  simp only [edit, Record.editAbsent Value.overlay change absent]

theorem editHands (change : Value → Value × β) {v : Value} (present : m.get? name = some v) :
    ∃ start, (start = v ∨ start = v.overlay) ∧
      Hands m name id start change (m.edit name change) := by
  obtain ⟨start, from_, given, distinct, fields⟩ :=
    Record.editPresent Value.overlay change present
  refine ⟨start, from_, given, (fields name).trans (if_pos rfl), fun other different => ?_,
    distinct⟩
  exact (fields other).trans (if_neg different)

/-- A field that is there stays, and a missing one is put. -/
theorem handsMade {α : Type} {present : Bool} {missing : Value} {wrap : α → Value} {start : α}
    {change : α → α × β} {after : Message × Option β}
    (hands : Hands (m.withField present name missing) name wrap start change after) :
    Hands m name wrap start change after where
  given := hands.given
  own := hands.own
  others other different := by
    rw [hands.others other different, withField]
    split
    · rfl
    · rw [getPut, if_neg different]
  distinct proper := by
    refine hands.distinct ?_
    unfold withField
    split
    · exact proper
    · exact Record.distinctPut proper name missing

theorem editObjectHands (m : Message) (name : String)
    (change : Record Value → Record Value × β) :
    ∃ start, (start = (m.object? name).getD .empty ∨
        start = ((m.object? name).getD .empty).overlay) ∧
      Hands m name .object start change (m.editObject name change) := by
  have found : (m.withField (m.object? name).isSome name (.object .empty)).get? name =
      some (.object ((m.object? name).getD .empty)) := by
    unfold withField object?
    cases held : m.get? name with
    | none => exact getPutSame m name _
    | some v =>
      cases v with
      | object fields => exact held
      | null | bool | number | string | array => exact getPutSame m name _
  obtain ⟨start, from_, hands⟩ := editHands (onObject change) found
  obtain ⟨fields, rfl, stems⟩ : ∃ fields, start = .object fields ∧
      (fields = (m.object? name).getD .empty ∨
        fields = ((m.object? name).getD .empty).overlay) := by
    rcases from_ with rfl | rfl
    · exact ⟨_, rfl, .inl rfl⟩
    · exact ⟨_, rfl, .inr rfl⟩
  have made := handsMade hands
  refine ⟨fields, stems, ?_, made.own, made.others, made.distinct⟩
  simp only [editObject, made.given, onObject]
  rfl

theorem editDataHands (m : Message) (change : Value → Value × β) :
    ∃ start, (start = m.data?.getD (.object .empty) ∨
        start = (m.data?.getD (.object .empty)).overlay) ∧
      Hands m Field.data id start change (m.editData change) := by
  have found : (m.withField m.data?.isSome Field.data (.object .empty)).get? Field.data =
      some (m.data?.getD (.object .empty)) := by
    unfold withField data?
    cases held : m.get? Field.data with
    | none => exact getPutSame m Field.data _
    | some v => exact held
  obtain ⟨start, from_, hands⟩ := editHands change found
  exact ⟨start, from_, handsMade hands⟩

theorem getPutWithin (m : Message) (field : String) (value : Value) (different : other ≠ name) :
    (m.putWithin name field value).get? other = m.get? other := by
  obtain ⟨start, -, hands⟩ := editObjectHands m name fun fields => (fields.put field value, ())
  exact hands.others other different

/- Nothing stands in the object but the field that was put and what stood there before. -/
theorem objectPutWithin (m : Message) (name field : String) (value : Value) :
    ∃ base : Record Value,
      (m.putWithin name field value).object? name = some (base.put field value) ∧
        ∀ entry, base.get? entry = (m.object? name).bind (·.get? entry) := by
  obtain ⟨base, stems, hands⟩ :=
    editObjectHands m name fun fields => (fields.put field value, ())
  refine ⟨base, ?_, fun entry => ?_⟩
  · rw [object?, putWithin, hands.own]
    rfl
  · have stood : base.get? entry = ((m.object? name).getD .empty).get? entry := by
      rcases stems with rfl | rfl
      · rfl
      · exact Record.getOverlay _ entry
    rw [stood]
    cases m.object? name <;> rfl

theorem getPutWithinOwn (m : Message) (name field : String) (value : Value) :
    ((m.putWithin name field value).object? name).bind (·.get? field) = some value := by
  obtain ⟨base, written, -⟩ := objectPutWithin m name field value
  rw [written]
  exact Record.getPutSame base field value

theorem getPutWithinBeside (m : Message) (name : String) {field entry : String} (value : Value)
    (different : entry ≠ field) :
    ((m.putWithin name field value).object? name).bind (·.get? entry) =
      (m.object? name).bind (·.get? entry) := by
  obtain ⟨base, written, stood⟩ := objectPutWithin m name field value
  rw [written, ← stood entry]
  exact (Record.getPut base field entry value).trans (if_neg different)

/-- An equal value of the same type, with nothing more or less to be seen in it. -/
structure StandsFor (start v : Value) : Prop where
  shown : start.visible = v.visible
  type : start.type = v.type
  equal : v.Sound → start.same v = true

theorem standsFor {start v : Value} (stems : start = v ∨ start = v.overlay) :
    StandsFor start v := by
  rcases stems with rfl | rfl
  · exact ⟨rfl, rfl, fun sound => Value.twinsSame (Value.twinsRefl sound)⟩
  · refine ⟨Value.visibleOverlay v, ?_, fun sound =>
      Value.twinsSame (Value.twinsOverlay (Value.twinsRefl sound))⟩
    cases v <;> rfl

/- Of any message, whatever layers it has. -/
theorem accessorsReach (m : Message) :
    (∀ name (change : Value → Value × β),
      (m.edit name change).2.isSome = (m.get? name).isSome ∧
      (m.get? name = none → m.edit name change = (m, none)) ∧
      ∀ v, m.get? name = some v → ∃ start, StandsFor start v ∧
        Hands m name id start change (m.edit name change)) ∧
    (∀ name (change : Record Value → Record Value × β), ∃ start : Record Value,
      StandsFor (.object start) (.object ((m.object? name).getD .empty)) ∧
        Hands m name .object start change (m.editObject name change)) ∧
    ∀ change : Value → Value × β, ∃ start, StandsFor start (m.data?.getD (.object .empty)) ∧
      Hands m Field.data id start change (m.editData change) := by
  refine ⟨fun name change => ⟨?found, editAbsent change, fun v present => ?present⟩,
    fun name change => ?object, fun change => ?data⟩
  case found =>
    cases present : m.get? name with
    | none => rw [editAbsent change present]; rfl
    | some v =>
      obtain ⟨start, -, hands⟩ := editHands change present
      rw [hands.given]
      rfl
  case present =>
    obtain ⟨start, stems, hands⟩ := editHands change present
    exact ⟨start, standsFor stems, hands⟩
  case object =>
    obtain ⟨start, stems, hands⟩ := editObjectHands m name change
    refine ⟨start, standsFor ?_, hands⟩
    rcases stems with rfl | rfl
    · exact .inl rfl
    · exact .inr rfl
  case data =>
    obtain ⟨start, stems, hands⟩ := editDataHands m change
    exact ⟨start, standsFor stems, hands⟩

end Bayeux.Message
