import Bayeux.Proofs.Json.Sameness
import Bayeux.Proofs.Json.Weights
/-! What is read can be written and read again, and is no deeper than there was room unless the text
embeds a document. -/

namespace Bayeux.Json

theorem throughoutItemsIff (holds : Json → Prop) (items : List Json) :
    ThroughoutItems holds items ↔ ∀ item ∈ items, Throughout holds item := by
  induction items with
  | nil => simp [ThroughoutItems]
  | cons item items ih => simp [ThroughoutItems, ih]

theorem throughoutFieldsIff (holds : Json → Prop) (fields : Table Json) :
    ThroughoutFields holds fields ↔ ∀ field ∈ fields, Throughout holds field.2 := by
  induction fields with
  | nil => simp [ThroughoutFields]
  | cons field fields ih => simp [ThroughoutFields, ih]

theorem depthItemsIff (items : List Json) (room : Nat) :
    depthItems items ≤ room ↔ ∀ item ∈ items, depth item ≤ room := by
  induction items with
  | nil => simp [depthItems]
  | cons item items ih => simp [depthItems, ih]

theorem depthFieldsIff (fields : Table Json) (room : Nat) :
    depthFields fields ≤ room ↔ ∀ field ∈ fields, depth field.2 ≤ room := by
  induction fields with
  | nil => simp [depthFields]
  | cons field fields ih => simp [depthFields, ih]

/-- What reading makes of a text: integers in range, no object that stands for another tree,
and no name twice. -/
structure Sane (j : Json) : Prop where
  ranged : Throughout Ranged j
  unembedded : Throughout Unembedded j
  distinct : Distinct j

theorem Leaf.sane {j : Json} (leaf : Leaf j) : Sane j := by
  cases leaf with
  | null => exact ⟨trivial, trivial, trivial⟩
  | bool b => exact ⟨trivial, trivial, trivial⟩
  | number ranged => exact ⟨ranged, trivial, trivial⟩
  | string s => exact ⟨trivial, trivial, trivial⟩

theorem saneItems (items : List Json) :
    Sane (.array items) ↔ ∀ item ∈ items, Sane item := by
  have ranged := throughoutItemsIff Ranged items
  have unembedded := throughoutItemsIff Unembedded items
  have distinct := distinctItemsIff items
  constructor
  · rintro ⟨⟨-, a⟩, ⟨-, b⟩, c⟩ item inside
    exact ⟨ranged.mp a item inside, unembedded.mp b item inside, distinct.mp c item inside⟩
  · intro each
    exact ⟨⟨trivial, ranged.mpr fun item inside => (each item inside).ranged⟩,
      ⟨trivial, unembedded.mpr fun item inside => (each item inside).unembedded⟩,
      distinct.mpr fun item inside => (each item inside).distinct⟩

theorem saneFields (fields : Table Json) :
    Sane (.object fields) ↔ fields.Distinct ∧ Unembedded (.object fields) ∧
      ∀ field ∈ fields, Sane field.2 := by
  have ranged := throughoutFieldsIff Ranged fields
  have unembedded := throughoutFieldsIff Unembedded fields
  have distinct := distinctFieldsIff fields
  constructor
  · rintro ⟨⟨-, a⟩, ⟨here, b⟩, names, c⟩
    exact ⟨names, here, fun field inside =>
      ⟨ranged.mp a field inside, unembedded.mp b field inside, distinct.mp c field inside⟩⟩
  · rintro ⟨names, here, each⟩
    exact ⟨⟨trivial, ranged.mpr fun field inside => (each field inside).ranged⟩,
      ⟨here, unembedded.mpr fun field inside => (each field inside).unembedded⟩, names,
      distinct.mpr fun field inside => (each field inside).distinct⟩

theorem sanePut {fields : Table Json} {name : String} {value : Json}
    (sane : Sane (.object fields)) (plain : fields = [] → name ≠ embeddedField)
    (here : Sane value) : Sane (.object (fields.put name value)) := by
  obtain ⟨names, first, each⟩ := (saneFields fields).mp sane
  refine (saneFields _).mpr ⟨Table.distinctPut names name value, ?_, fun field inside => ?_⟩
  · cases fields with
    | nil => exact plain rfl
    | cons field fields =>
      obtain ⟨other, held⟩ := field
      unfold Table.put
      split <;> exact first
  · rcases Table.memPut inside with rfl | inside
    · exact here
    · exact each field inside

def Stage.Sane : Stage → Prop
  | .value _ => True
  | .items _ before => ∀ item ∈ before, Json.Sane item
  | .fields _ before _ => Json.Sane (.object before)
  | .document => True

theorem readSane {stage : Stage} {input rest : Bytes} {j : Json} (read : Reads stage input j rest)
    (begun : stage.Begun) (sane : stage.Sane) : Sane j := by
  induction read with
  | string opened known => exact (Leaf.string _).sane
  | array opened inside ih => exact ih trivial (fun item inside => by cases inside)
  | object opened inside ih =>
    exact ih (by simp [Stage.Begun]) ((saneFields []).mpr ⟨List.nodup_nil, trivial, by simp⟩)
  | plain known => exact (paidPlain known).2.sane
  | itemsEnd closed =>
    exact (saneItems _).mpr fun item inside => sane item (List.mem_reverse.mp inside)
  | item separated here others value items =>
    exact items trivial (List.forall_mem_cons.mpr ⟨value trivial trivial, sane⟩)
  | fieldsEnd closed => exact sane
  | field separated known parted plain here others worth fields =>
    have unmarked : _ = [] → _ ≠ embeddedField := fun none => plain (begun.mpr none)
    exact fields (begunNext _ _ _ _) (sanePut sane unmarked (worth trivial trivial))
  | embedded separated known parted inside ih => exact ih trivial trivial
  | document known here closed ih => exact ih trivial trivial

/-! How deep it is. -/

/-- Somewhere an object begins with the field of embedded documents. -/
def Embeds (text : Bytes) : Prop :=
  ∃ inner name rest, 0x7b :: inner <:+ text ∧ skipBlanks inner = 0x22 :: name ∧
    readString .empty name = .ok (embeddedField, rest)

def Stage.room : Stage → Nat
  | .value room => room
  | .items room _ => room + 1
  | .fields room _ _ => room + 1
  | .document => containerLimit

def Stage.Shallow : Stage → Prop
  | .value _ => True
  | .items room before => ∀ item ∈ before, depth item ≤ room
  | .fields room before _ => ∀ field ∈ before, depth field.2 ≤ room
  | .document => True

/-- The reader stands in the text, no document having been opened. -/
def Stage.Stands (text input : Bytes) : Stage → Prop
  | .value _ => input <:+ text
  | .items _ _ => input <:+ text
  | .fields _ _ first => (if first then 0x7b :: input else input) <:+ text
  | .document => False

theorem readDepth {stage : Stage} {text input rest : Bytes} {j : Json}
    (read : Reads stage input j rest) (begun : stage.Begun) (stands : stage.Stands text input)
    (shallow : stage.Shallow) (alone : ¬Embeds text) : depth j ≤ stage.room := by
  induction read with
  | string opened known => exact Nat.zero_le _
  | array opened inside ih =>
    exact ih trivial ((Paid.mark opened).tail.trans stands) (fun item inside => by cases inside)
  | @object room input inner rest j opened inside ih =>
    have here : 0x7b :: inner <:+ text := opened ▸ (skipBlanksTail input).trans stands
    exact ih (by simp [Stage.Begun]) here (fun field inside => by cases inside)
  | plain known => exact (paidPlain known).2.flat ▸ Nat.zero_le _
  | itemsEnd closed =>
    refine Nat.succ_le_succ ((depthItemsIff _ _).mpr fun item inside => ?_)
    exact shallow item (List.mem_reverse.mp inside)
  | item separated here others value items =>
    have behind := (paidItem separated).tail.trans stands
    have middle := (readWeight here trivial).1.trans behind
    exact items trivial middle (List.forall_mem_cons.mpr ⟨value trivial behind trivial, shallow⟩)
  | fieldsEnd closed => exact Nat.succ_le_succ ((depthFieldsIff _ _).mpr shallow)
  | @field room before first name value j input quoted named colon middle rest separated known
      parted plain here others worth fields =>
    have inside : input <:+ text := by
      cases first with
      | true => exact (List.suffix_cons _ _).trans stands
      | false => exact stands
    have paid := ((paidName separated).trans (paidString known)).trans (paidColon parted)
    have behind := paid.tail.trans inside
    have next := (readWeight here trivial).1.trans behind
    refine fields (begunNext _ _ _ _) next fun field inside => ?_
    rcases Table.memPut inside with rfl | inside
    · exact worth trivial behind trivial
    · exact shallow field inside
  | @embedded room before j input quoted named colon rest separated known parted inside ih =>
    refine absurd ⟨input, quoted, named, stands, ?_, known⟩ alone
    simp only [beforeName, if_true] at separated
    unfold firstName at separated
    split at separated
    · rename_i opened
      cases separated
      exact opened
    · cases separated
  | document known here closed ih => exact stands.elim

end Bayeux.Json
