import Bayeux.Packet
import Bayeux.Proofs.Json.Sameness
import Bayeux.Proofs.Value.Edits
import Bayeux.Proofs.Value.Shape
import Mathlib.Data.Finset.Card
import Mathlib.Logic.Function.Iterate
/-! Values as they are made: plain ones, and what edits at any place make of them and hand out. All
of their layers have their shape, wherever they stand in one another, and so every object lists
each visible name once. -/

namespace Bayeux

namespace Record
variable {α : Type}

/-- The outermost layer: no field is written and removed, only what the base shows is removed, and
the base is no untouched overlay. -/
def Proper : Record α → Prop
  | .plain fields => Table.Distinct fields
  | .view base => base.isView = false
  | .patched base outer removed =>
    base.isView = false ∧ Table.Distinct outer ∧
      (∀ name, ¬(name ∈ Table.keys outer ∧ name ∈ removed)) ∧ ∀ name ∈ removed, name ∈ base.names

/-- What is listed is what can be looked up, once each. -/
structure Listed (r : Record α) : Prop where
  once : ∀ name, r.names.count name = if (r.get? name).isSome then 1 else 0
  fields : ∀ name value, (name, value) ∈ r.entries ↔ r.get? name = some value
  size : r.size = r.names.toFinset.card
  has : ∀ name, r.has name = true ↔ name ∈ r.names

/-- Overlays over one another. -/
def layers : Record α → Nat
  | .plain _ => 0
  | .view base => base.layers + 1
  | .patched base _ _ => base.layers + 1

theorem wellFormedProper {r : Record α} (shape : r.WellFormed) : r.Proper := by
  cases r with
  | plain fields => exact shape
  | view base => exact shape.2
  | patched base outer removed =>
    obtain ⟨-, written, distinct, -, apart, shown⟩ := shape
    refine ⟨written, distinct, fun name both => ?_, fun name gone => ?_⟩
    · exact (Table.getNoneIff outer name).mp (apart name both.2) both.1
    · exact (hasNames base name).mp (shown name gone)

theorem distinctListed {r : Record α} (distinct : r.Distinct) : r.Listed where
  once name := by
    rw [List.Nodup.count (namesOnce distinct)]
    simp only [memNames]
  fields name value := by
    rw [← getEntries]
    exact ⟨Table.getOfMem (namesOnce distinct), Table.memOfGet⟩
  size := by
    rw [List.toFinset_card_of_nodup (namesOnce distinct), names, Table.keys, List.length_map]
    rfl
  has := hasNames r

theorem layersOverlay (r : Record α) : r.overlay.layers ≤ r.layers + 1 := by
  unfold overlay
  split
  · exact Nat.le_succ _
  · exact Nat.le_refl _

end Record

namespace Sequence
variable {α : Type}

/-- The outermost layer: the base is no untouched overlay. -/
def Proper : Sequence α → Prop
  | .plain _ => True
  | .view base => base.isView = false
  | .copied base _ => base.isView = false

def layers : Sequence α → Nat
  | .plain _ => 0
  | .view base => base.layers + 1
  | .copied base _ => base.layers + 1

theorem wellFormedProper {s : Sequence α} (shape : s.WellFormed) : s.Proper := by
  cases s with
  | plain items => trivial
  | view base => exact shape.2
  | copied base items => exact shape.2

theorem layersOverlay (s : Sequence α) : s.overlay.layers ≤ s.layers + 1 := by
  unfold overlay
  split
  · exact Nat.le_succ _
  · exact Nat.le_refl _

theorem clearItems (s : Sequence α) : s.clear = s.withItems [] := by
  cases s <;> rfl

end Sequence

namespace Value

/-- Values that can come about. Reaching down a path hands out what stands there to be changed in
place, and what an edit gives back may be used in turn. -/
inductive Built : Value → Prop
  | null : Built .null
  | bool (b : Bool) : Built (.bool b)
  | number (n : Number) : Built (.number n)
  | string (s : String) : Built (.string s)
  | array {items : List Value} (each : ∀ v ∈ items, Built v) : Built (.array (.plain items))
  | object {fields : Table Value} (distinct : fields.Distinct)
      (each : ∀ field ∈ fields, Built field.2) : Built (.object (.plain fields))
  | edited {v : Value} (built : Built v) (path : Path) (edit : Edit Value)
      (written : ∀ w ∈ edit.written, Built w) : Built (v.editAt edit.apply path).1
  | given {v w : Value} (built : Built v) (path : Path) (edit : Edit Value)
      (written : ∀ w ∈ edit.written, Built w)
      (answer : (v.editAt edit.apply path).2 = some (.value (some w))) : Built w
  | read {v w : Value} (built : Built v) (path : Path) (found : v.at? path = some w) : Built w

/-- All layers below, and all layers of what stands in them. -/
inductive Shaped : Value → Prop
  | null : Shaped .null
  | bool (b : Bool) : Shaped (.bool b)
  | number (n : Number) : Shaped (.number n)
  | string (s : String) : Shaped (.string s)
  | array {items : Sequence Value} (shape : items.WellFormed)
      (each : ∀ v ∈ items.held, Shaped v) : Shaped (.array items)
  | object {fields : Record Value} (shape : fields.WellFormed)
      (each : ∀ v ∈ fields.held, Shaped v) : Shaped (.object fields)

/-- The first value is a part of the second: it stands in one of its layers, at any depth, or is
such a layer itself. -/
inductive Inside : Value → Value → Prop
  | self (v : Value) : Inside v v
  | item {items : Sequence Value} {v w : Value} (held : v ∈ items.held) (inside : Inside w v) :
      Inside w (.array items)
  | field {fields : Record Value} {v w : Value} (held : v ∈ fields.held) (inside : Inside w v) :
      Inside w (.object fields)
  | underView {base : Record Value} {w : Value} (inside : Inside w (.object base)) :
      Inside w (.object (.view base))
  | underPatch {base : Record Value} {outer : Table Value} {removed : List String} {w : Value}
      (inside : Inside w (.object base)) : Inside w (.object (.patched base outer removed))
  | underItems {base : Sequence Value} {w : Value} (inside : Inside w (.array base)) :
      Inside w (.array (.view base))
  | underCopy {base : Sequence Value} {items : List Value} {w : Value}
      (inside : Inside w (.array base)) : Inside w (.array (.copied base items))

variable {v w : Value}

theorem shapedObject {fields : Record Value} :
    Shaped (.object fields) ↔ fields.WellFormed ∧ ∀ v ∈ fields.held, Shaped v :=
  ⟨fun | .object shape each => ⟨shape, each⟩, fun both => .object both.1 both.2⟩

theorem shapedArray {items : Sequence Value} :
    Shaped (.array items) ↔ items.WellFormed ∧ ∀ v ∈ items.held, Shaped v :=
  ⟨fun | .array shape each => ⟨shape, each⟩, fun both => .array both.1 both.2⟩

theorem shapedOverlay (shaped : v.Shaped) : v.overlay.Shaped := by
  cases shaped with
  | null | bool | number | string => constructor
  | array shape each =>
    exact .array (Sequence.overlayWellFormed shape) (by rwa [Sequence.heldOverlay])
  | object shape each =>
    exact .object (Record.overlayWellFormed shape) (by rwa [Record.heldOverlay])

theorem shapedStart {start : Value} (shaped : v.Shaped) (stems : start = v ∨ start = v.overlay) :
    start.Shaped := by
  rcases stems with rfl | rfl
  · exact shaped
  · exact shapedOverlay shaped

theorem shapedWithItems {s : Sequence Value} (shaped : Shaped (.array s)) {items : List Value}
    (each : ∀ v ∈ items, Shaped v) : Shaped (.array (s.withItems items)) := by
  obtain ⟨shape, old⟩ := shapedArray.mp shaped
  exact .array (Sequence.withItemsWellFormed shape items)
    fun v inside => (Sequence.heldWithItems inside).elim (each v) (old v)

theorem shapedItems {s : Sequence Value} (shaped : Shaped (.array s)) : ∀ v ∈ s.items, Shaped v :=
  fun v inside => (shapedArray.mp shaped).2 v (Sequence.itemsHeld inside)

theorem shapedField {fields : Record Value} (shaped : Shaped (.object fields)) {name : String}
    (found : fields.get? name = some v) : v.Shaped :=
  (shapedObject.mp shaped).2 v (Record.getHeld found)

/-- What an edit gives back has the shape too. -/
inductive Fit : Edit.Outcome → Prop
  | done : Fit .done
  | nothing : Fit (.value none)
  | value {w : Value} (shaped : w.Shaped) : Fit (.value (some w))
  | fits (inside : Bool) : Fit (.fits inside)
  | misfit : Fit .misfit

def Keeps (result : Value × Edit.Outcome) : Prop := result.1.Shaped ∧ Fit result.2

theorem onRecordShaped {e : Edit Value} (written : ∀ w ∈ e.written, Shaped w)
    {fields : Record Value} (shaped : Shaped (.object fields)) :
    Keeps (.object (e.onRecord fields).1, (e.onRecord fields).2) := by
  obtain ⟨shape, each⟩ := shapedObject.mp shaped
  cases e with
  | put name value =>
    refine ⟨.object (Record.putWellFormed shape name value) fun v inside => ?_, .done⟩
    rcases Record.heldPut inside with rfl | old
    · exact written v (List.mem_singleton_self v)
    · exact each v old
  | remove name =>
    refine ⟨.object (Record.removeWellFormed shape name) fun v inside => ?_, ?_⟩
    · exact each v (Record.heldRemove inside)
    · simp only [Edit.onRecord, Record.removed]
      cases found : fields.get? name with
      | none => exact .nothing
      | some w => exact .value (shapedField shaped found)
  | clear =>
    exact ⟨.object (Record.clearWellFormed shape) fun v inside => each v (Record.heldClear inside),
      .done⟩
  | look | overlay | assign | push | set | insert | erase | extend => exact ⟨shaped, .misfit⟩

theorem onSequenceShaped {e : Edit Value} (written : ∀ w ∈ e.written, Shaped w)
    {items : Sequence Value} (shaped : Shaped (.array items)) :
    Keeps (.array (e.onSequence items).1, (e.onSequence items).2) := by
  have old := shapedItems shaped
  have answered : ∀ {index : Nat} {v : Value}, items.items[index]? = some v → v.Shaped :=
    fun found => old _ (List.mem_of_getElem? found)
  cases e with
  | push value =>
    refine ⟨shapedWithItems shaped (List.forall_mem_append.mpr ⟨old, ?_⟩), .done⟩
    exact written
  | extend values =>
    exact ⟨shapedWithItems shaped (List.forall_mem_append.mpr ⟨old, written⟩), .done⟩
  | clear =>
    simp only [Edit.onSequence, Sequence.clearItems]
    exact ⟨shapedWithItems shaped (List.forall_mem_nil _), .done⟩
  | set index value =>
    simp only [Edit.onSequence, Sequence.set, Sequence.get?]
    split
    · exact ⟨shaped, .nothing⟩
    · rename_i former found
      refine ⟨shapedWithItems shaped fun v inside => ?_, .value (answered found)⟩
      rcases List.mem_or_eq_of_mem_set inside with inside | rfl
      · exact old v inside
      · exact written v (List.mem_singleton_self v)
  | insert index value =>
    simp only [Edit.onSequence, Sequence.insert]
    split
    · refine ⟨shapedWithItems shaped fun v inside => ?_, .fits true⟩
      rcases List.mem_append.mp inside with before | behind
      · exact old v (List.mem_of_mem_take before)
      · rcases List.mem_cons.mp behind with rfl | behind
        · exact written v (List.mem_singleton_self v)
        · exact old v (List.mem_of_mem_drop behind)
    · exact ⟨shapedWithItems shaped old, .fits false⟩
  | erase index =>
    simp only [Edit.onSequence, Sequence.remove, Sequence.get?]
    split
    · exact ⟨shaped, .nothing⟩
    · rename_i former found
      exact ⟨shapedWithItems shaped fun v inside => old v (List.mem_of_mem_eraseIdx inside),
        .value (answered found)⟩
  | look | overlay | assign | put | remove => exact ⟨shaped, .misfit⟩

theorem insideEditShaped {e : Edit Value} (written : ∀ w ∈ e.written, Shaped w)
    (shaped : v.Shaped) : Keeps (e.inside v) := by
  cases v with
  | array items => exact onSequenceShaped written shaped
  | object fields => exact onRecordShaped written shaped
  | null | bool | number | string => exact ⟨shaped, .misfit⟩

theorem applyShaped {e : Edit Value} (written : ∀ w ∈ e.written, Shaped w) (shaped : v.Shaped) :
    Keeps (e.apply v) := by
  have deeper := insideEditShaped written shaped
  cases e with
  | look => exact ⟨shaped, .value shaped⟩
  | overlay => exact ⟨shapedOverlay shaped, .value (shapedOverlay shaped)⟩
  | assign value => exact ⟨written value (List.mem_singleton_self value), .done⟩
  | put | remove | clear | push | set | insert | erase | extend => exact deeper

/- The induction is on the path; what is handed down at each step is a visible part or its
overlay. -/
theorem editAtShaped {β : Type} {change : Value → Value × β} {fits : β → Prop}
    (step : ∀ x, x.Shaped → (change x).1.Shaped ∧ fits (change x).2) (path : Path)
    (shaped : v.Shaped) : (v.editAt change path).1.Shaped ∧
      ∀ result, (v.editAt change path).2 = some result → fits result := by
  induction path generalizing v with
  | nil =>
    obtain ⟨after, answer⟩ := step v shaped
    refine ⟨after, fun result found => ?_⟩
    cases found
    exact answer
  | cons first rest ih =>
    cases v with
    | null | bool | number | string => cases first <;> exact ⟨shaped, nofun⟩
    | array items =>
      cases first with
      | field => exact ⟨shaped, nofun⟩
      | index position =>
        have below : ∀ {value start : Value}, items.items[position]? = some value →
            (start = value ∨ start = value.overlay) → start.Shaped := fun found stems =>
          shapedStart (shapedItems shaped _ (List.mem_of_getElem? found)) stems
        obtain ⟨shape, each⟩ := shapedArray.mp shaped
        refine ⟨.array (Sequence.editWellFormed shape _ _ _) fun v inside => ?_,
          fun result answer => ?_⟩
        · rcases Sequence.heldEdit inside with old | ⟨value, start, found, stems, rfl⟩
          · exact each v old
          · exact (ih (below found stems)).1
        · obtain ⟨value, start, found, stems, given⟩ :=
            Sequence.editAnswer (Option.join_eq_some_iff.mp answer)
          exact (ih (below found stems)).2 result given.symm
    | object fields =>
      cases first with
      | index => exact ⟨shaped, nofun⟩
      | field name =>
        have below : ∀ {value start : Value}, fields.get? name = some value →
            (start = value ∨ start = value.overlay) → start.Shaped := fun found stems =>
          shapedStart (shapedField shaped found) stems
        obtain ⟨shape, each⟩ := shapedObject.mp shaped
        refine ⟨.object (Record.editWellFormed shape _ _ _) fun v inside => ?_,
          fun result answer => ?_⟩
        · rcases Record.heldEdit inside with old | ⟨value, start, found, stems, rfl⟩
          · exact each v old
          · exact (ih (below found stems)).1
        · obtain ⟨value, start, found, stems, given⟩ :=
            Record.editAnswer (Option.join_eq_some_iff.mp answer)
          exact (ih (below found stems)).2 result given.symm

theorem editedShaped {e : Edit Value} (written : ∀ w ∈ e.written, Shaped w) (path : Path)
    (shaped : v.Shaped) : (v.editAt e.apply path).1.Shaped ∧
      ∀ answer, (v.editAt e.apply path).2 = some answer → Fit answer :=
  editAtShaped (fun _ here => applyShaped written here) path shaped

theorem atShaped (path : Path) (shaped : v.Shaped) (found : v.at? path = some w) : w.Shaped := by
  induction path generalizing v with
  | nil =>
    cases found
    exact shaped
  | cons step rest ih =>
    obtain ⟨child, here, deeper⟩ := Option.bind_eq_some_iff.mp found
    refine ih ?_ deeper
    cases v with
    | null | bool | number | string => cases step <;> cases here
    | array items =>
      cases step with
      | field => cases here
      | index position => exact shapedItems shaped child (List.mem_of_getElem? here)
    | object fields =>
      cases step with
      | field name => exact shapedField shaped here
      | index => cases here

theorem builtShaped (built : v.Built) : v.Shaped := by
  induction built with
  | null => exact .null
  | bool b => exact .bool b
  | number n => exact .number n
  | string s => exact .string s
  | array _ each => exact .array trivial each
  | object distinct _ each =>
    refine .object distinct fun v inside => ?_
    obtain ⟨field, member, rfl⟩ := List.mem_map.mp inside
    exact each field member
  | edited _ path edit _ shaped written => exact (editedShaped written path shaped).1
  | given _ path edit _ answer shaped written =>
    cases (editedShaped written path shaped).2 _ answer with
    | value shaped => exact shaped
  | read built path found shaped => exact atShaped path shaped found

/- Whatever is read as a tree can come about. -/
theorem builtOfJson {j : Json} (distinct : j.Distinct) : (ofJson j).Built := by
  induction j using Json.membersInduct with
  | null => exact .null
  | bool b => exact .bool b
  | number n => exact .number n
  | string s => exact .string s
  | array items ih =>
    rw [ofJson, ofItemsMap]
    refine .array fun v inside => ?_
    obtain ⟨item, member, rfl⟩ := List.mem_map.mp inside
    exact ih item member ((Json.distinctItemsIff items).mp distinct item member)
  | object fields ih =>
    rw [ofJson, ofFieldsMap]
    refine .object ?_ fun field inside => ?_
    · rw [Table.Distinct, Table.keysMapValues]
      exact distinct.1
    · obtain ⟨entry, member, rfl⟩ := List.mem_map.mp inside
      exact ih entry member ((Json.distinctFieldsIff fields).mp distinct.2 entry member)

/- A layer below another one is a value of its own, and what it holds is held above it too. -/
theorem insideShaped (inside : Inside w v) (shaped : v.Shaped) : w.Shaped := by
  induction inside with
  | self v => exact shaped
  | item held _ ih => exact ih ((shapedArray.mp shaped).2 _ held)
  | field held _ ih => exact ih ((shapedObject.mp shaped).2 _ held)
  | underView _ ih =>
    obtain ⟨shape, each⟩ := shapedObject.mp shaped
    exact ih (.object shape.1 each)
  | underPatch _ ih =>
    obtain ⟨shape, each⟩ := shapedObject.mp shaped
    exact ih (.object shape.1 fun v held => each v (List.mem_append_right _ held))
  | underItems _ ih =>
    obtain ⟨shape, each⟩ := shapedArray.mp shaped
    exact ih (.array shape.1 each)
  | underCopy _ ih =>
    obtain ⟨shape, each⟩ := shapedArray.mp shaped
    exact ih (.array shape.1 fun v held => each v (List.mem_append_right _ held))

def layers : Value → Nat
  | .array items => items.layers
  | .object fields => fields.layers
  | _ => 0

theorem layersOverlay (v : Value) : v.overlay.layers ≤ v.layers + 1 := by
  cases v with
  | null | bool | number | string => exact Nat.zero_le _
  | array items => exact items.layersOverlay
  | object fields => exact fields.layersOverlay

theorem overlayTwice (v : Value) : v.overlay.overlay = v.overlay := by
  cases v with
  | null | bool | number | string => rfl
  | array items => exact congrArg Value.array items.overlayTwice
  | object fields => exact congrArg Value.object fields.overlayTwice

end Value

theorem iterateOnce {α : Type} {f : α → α} (again : ∀ x, f (f x) = f x) (n : Nat) (x : α) :
    f^[n + 1] x = f x := by
  rw [Function.iterate_succ_apply]
  exact Function.iterate_fixed (again x) n

theorem Packet.freezeTwice (p : Packet) : p.freeze.freeze = p.freeze := by
  simp only [freeze, List.map_map]
  congr 1
  exact List.map_congr_left fun m _ => congrArg Message.mk m.fields.overlayTwice

theorem Packet.layersFreeze (n : Nat) (p : Packet) :
    List.Forall₂ (fun frozen m : Message => frozen.fields.layers ≤ m.fields.layers + 1)
      (Packet.freeze^[n] p).messages p.messages := by
  cases n with
  | zero => exact List.forall₂_same.mpr fun m _ => Nat.le_succ _
  | succ n =>
    rw [iterateOnce freezeTwice]
    exact List.forall₂_map_left_iff.mpr
      (List.forall₂_same.mpr fun m _ => Record.layersOverlay m.fields)

namespace Value
variable {v : Value}

theorem layersOverlays (n : Nat) (v : Value) : (overlay^[n] v).layers ≤ v.layers + 1 := by
  cases n with
  | zero => exact Nat.le_succ _
  | succ n =>
    rw [iterateOnce overlayTwice]
    exact layersOverlay v

theorem layersKeepShape (built : v.Built) :
    (∀ fields, Inside (.object fields) v → fields.Proper ∧ fields.Listed) ∧
    (∀ items, Inside (.array items) v → items.Proper) ∧
    (∀ n, overlay^[n + 1] v = v.overlay ∧ (overlay^[n] v).layers ≤ v.layers + 1) ∧
    ∀ n (p : Packet), Packet.freeze^[n + 1] p = p.freeze ∧
      List.Forall₂ (fun frozen m : Message => frozen.fields.layers ≤ m.fields.layers + 1)
        (Packet.freeze^[n] p).messages p.messages := by
  have shaped := builtShaped built
  refine ⟨fun fields inside => ?_, fun items inside => ?_,
    fun n => ⟨iterateOnce overlayTwice n v, layersOverlays n v⟩,
    fun n p => ⟨iterateOnce Packet.freezeTwice n p, Packet.layersFreeze n p⟩⟩
  · obtain ⟨shape, -⟩ := shapedObject.mp (insideShaped inside shaped)
    exact ⟨Record.wellFormedProper shape, Record.distinctListed (Record.wellFormedDistinct shape)⟩
  · obtain ⟨shape, -⟩ := shapedArray.mp (insideShaped inside shaped)
    exact Sequence.wellFormedProper shape

/- One field reached and written to, one removed, and an overlay over it all. -/
theorem layersKeepShapeNested :
    let inner : Record Value := .patched (.plain [("x", .bool true)]) [("y", .null)] []
    let v : Value := .object (.view (.patched
      (.plain [("a", .object (.plain [("x", .bool true)])), ("b", .null)])
      [("a", .object inner)] ["b"]))
    v.Built ∧ Inside (.object inner) v ∧ inner.Proper ∧ inner.Listed ∧
      ∀ n, (overlay^[n] v).layers ≤ 3 := by
  intro inner v
  have base := builtOfJson (j := .object [("a", .object [("x", .bool true)]), ("b", .null)])
    ⟨by decide, ⟨by decide, trivial, trivial⟩, trivial, trivial⟩
  have reached := (base.edited [] .overlay nofun).edited [.field "a"] (.put "y" .null)
    (List.forall_mem_singleton.mpr .null)
  have built : v.Built := (reached.edited [] (.remove "b") nofun).edited [] .overlay nofun
  have inside : Inside (.object inner) v := .underView (.field List.mem_cons_self (.self _))
  obtain ⟨objects, -, overlays, -⟩ := layersKeepShape built
  exact ⟨built, inside, (objects inner inside).1, (objects inner inside).2,
    fun n => (overlays n).2⟩

end Value
end Bayeux
