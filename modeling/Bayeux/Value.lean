import Bayeux.Json
import Bayeux.Value.Record
import Bayeux.Value.Sequence
/-! Values of messages: scalars, sequences and records, whose layers may hold values that
are overlays themselves. `visible` forgets all layers and is what is written and decoded;
`same` compares two values without looking at layers. -/

namespace Bayeux

inductive Value where
  | null
  | bool (b : Bool)
  | number (n : Number)
  | string (s : String)
  | array (items : Sequence Value)
  | object (fields : Record Value)

inductive ValueType where
  | null | boolean | number | string | array | object
  deriving DecidableEq, Repr

def ValueType.name : ValueType → String
  | .null => "Null"
  | .boolean => "Boolean"
  | .number => "Number"
  | .string => "String"
  | .array => "Array"
  | .object => "Object"

namespace Value

instance : Inhabited Value := ⟨.null⟩

def type : Value → ValueType
  | .null => .null
  | .bool _ => .boolean
  | .number _ => .number
  | .string _ => .string
  | .array _ => .array
  | .object _ => .object

def isNull : Value → Bool
  | .null => true
  | _ => false

def asBool? : Value → Option Bool
  | .bool b => some b
  | _ => none

def asString? : Value → Option String
  | .string s => some s
  | _ => none

def asInt64? : Value → Option Int
  | .number n => n.asInt64
  | _ => none

def asNumber? : Value → Option Number
  | .number n => some n
  | _ => none

def asArray? : Value → Option (Sequence Value)
  | .array items => some items
  | _ => none

def asObject? : Value → Option (Record Value)
  | .object fields => some fields
  | _ => none

def integer (n : Int) : Value := .number (.integer n)

/-- Infinities and NaNs are no numbers of a message. -/
def ofFloat (x : Float) : Value := ((Number.ofFloat? x).map .number).getD .null

mutual
def ofJson : Json → Value
  | .null => .null
  | .bool b => .bool b
  | .number n => .number n
  | .string s => .string s
  | .array items => .array (.plain (ofItems items))
  | .object fields => .object (.plain (ofFields fields))
def ofItems : List Json → List Value
  | [] => []
  | item :: rest => ofJson item :: ofItems rest
def ofFields : Table Json → Table Value
  | [] => []
  | (name, value) :: rest => (name, ofJson value) :: ofFields rest
end

/-- Scalars cannot be changed in place and stand for themselves. -/
def overlay : Value → Value
  | .array items => .array items.overlay
  | .object fields => .object fields.overlay
  | scalar => scalar

mutual
/-- The content without its layers. -/
def visible : Value → Json
  | .null => .null
  | .bool b => .bool b
  | .number n => .number n
  | .string s => .string s
  | .array items => .array (visibleSequence items).items
  | .object fields => .object (visibleRecord fields).entries
def visibleSequence : Sequence Value → Sequence Json
  | .plain items => .plain (visibleItems items)
  | .view base => .view (visibleSequence base)
  | .copied base items => .copied (visibleSequence base) (visibleItems items)
def visibleRecord : Record Value → Record Json
  | .plain fields => .plain (visibleFields fields)
  | .view base => .view (visibleRecord base)
  | .patched base outer removed => .patched (visibleRecord base) (visibleFields outer) removed
def visibleItems : List Value → List Json
  | [] => []
  | item :: rest => visible item :: visibleItems rest
def visibleFields : Table Value → Table Json
  | [] => []
  | (name, value) :: rest => (name, visible value) :: visibleFields rest
end

/-- Every item passes the test of its place. -/
def passAll : List (Value → Bool) → List Value → Bool
  | [], [] => true
  | test :: tests, item :: rest => test item && passAll tests rest
  | _, _ => false

/-- As many fields, and every test passed by the field of its name. -/
def passEach (tests : Table (Value → Bool)) (fields : Record Value) : Bool :=
  tests.length == fields.size &&
    tests.all fun (name, test) =>
      match fields.get? name with
      | some value => test value
      | none => false

mutual
/-- Below an object the own field stays on the left of the comparison, though it is the field
found in the other object that is asked there: among values whose names are distinct at every
level the comparison is symmetric, and the sides do not matter. -/
def same : Value → Value → Bool
  | .null, .null => true
  | .bool a, .bool b => a == b
  | .number m, .number n => m.same n
  | .string s, .string t => s == t
  | .array items, .array others => passAll (sameSequence items).items others.items
  | .object fields, .object others => passEach (sameRecord fields).entries others
  | _, _ => false
def sameSequence : Sequence Value → Sequence (Value → Bool)
  | .plain items => .plain (sameItems items)
  | .view base => .view (sameSequence base)
  | .copied base items => .copied (sameSequence base) (sameItems items)
def sameRecord : Record Value → Record (Value → Bool)
  | .plain fields => .plain (sameFields fields)
  | .view base => .view (sameRecord base)
  | .patched base outer removed => .patched (sameRecord base) (sameFields outer) removed
def sameItems : List Value → List (Value → Bool)
  | [] => []
  | item :: rest => same item :: sameItems rest
def sameFields : Table Value → Table (Value → Bool)
  | [] => []
  | (name, value) :: rest => (name, same value) :: sameFields rest
end

theorem visibleItemsMap (items : List Value) : visibleItems items = items.map visible := by
  induction items with
  | nil => rfl
  | cons item rest ih => simp [visibleItems, ih]

theorem visibleFieldsMap (fields : Table Value) :
    visibleFields fields = fields.mapValues visible := by
  induction fields with
  | nil => rfl
  | cons entry rest ih =>
    simp only [Table.mapValues] at ih
    simp [visibleFields, Table.mapValues, ih]

theorem visibleSequenceMap (items : Sequence Value) :
    visibleSequence items = items.map visible := by
  induction items with
  | plain items => simp [visibleSequence, Sequence.map, visibleItemsMap]
  | view base ih => simp [visibleSequence, Sequence.map, ih]
  | copied base items ih => simp [visibleSequence, Sequence.map, ih, visibleItemsMap]

theorem visibleRecordMap (fields : Record Value) : visibleRecord fields = fields.map visible := by
  induction fields with
  | plain fields => simp [visibleRecord, Record.map, visibleFieldsMap]
  | view base ih => simp [visibleRecord, Record.map, ih]
  | patched base outer removed ih => simp [visibleRecord, Record.map, ih, visibleFieldsMap]

theorem visibleArray (items : Sequence Value) :
    (array items).visible = .array (items.items.map visible) := by
  simp [visible, visibleSequenceMap, Sequence.itemsMap]

theorem visibleObject (fields : Record Value) :
    (object fields).visible = .object (fields.entries.mapValues visible) := by
  simp [visible, visibleRecordMap, Record.entriesMap]

theorem visibleOverlay (v : Value) : v.overlay.visible = v.visible := by
  cases v <;> simp [overlay, visibleArray, visibleObject, Sequence.itemsOverlay,
    Record.entriesOverlay]

theorem sameItemsMap (items : List Value) : sameItems items = items.map same := by
  induction items with
  | nil => rfl
  | cons item rest ih => simp [sameItems, ih]

theorem sameFieldsMap (fields : Table Value) : sameFields fields = fields.mapValues same := by
  induction fields with
  | nil => rfl
  | cons entry rest ih =>
    simp only [Table.mapValues] at ih
    simp [sameFields, Table.mapValues, ih]

theorem sameSequenceMap (items : Sequence Value) : sameSequence items = items.map same := by
  induction items with
  | plain items => simp [sameSequence, Sequence.map, sameItemsMap]
  | view base ih => simp [sameSequence, Sequence.map, ih]
  | copied base items ih => simp [sameSequence, Sequence.map, ih, sameItemsMap]

theorem sameRecordMap (fields : Record Value) : sameRecord fields = fields.map same := by
  induction fields with
  | plain fields => simp [sameRecord, Record.map, sameFieldsMap]
  | view base ih => simp [sameRecord, Record.map, ih]
  | patched base outer removed ih => simp [sameRecord, Record.map, ih, sameFieldsMap]

mutual
theorem visibleOfJson : (j : Json) → (ofJson j).visible = j
  | .null | .bool _ | .number _ | .string _ => rfl
  | .array items => by
    simp only [ofJson, visible, visibleSequence, Sequence.items]
    exact congrArg Json.array (visibleOfItems items)
  | .object fields => by
    simp only [ofJson, visible, visibleRecord, Record.entries]
    exact congrArg Json.object (visibleOfFields fields)
theorem visibleOfItems : (items : List Json) → visibleItems (ofItems items) = items
  | [] => rfl
  | item :: rest => by
    simp only [ofItems, visibleItems, visibleOfJson item, visibleOfItems rest]
theorem visibleOfFields : (fields : List (String × Json)) → visibleFields (ofFields fields) = fields
  | [] => rfl
  | (name, value) :: rest => by
    simp only [ofFields, visibleFields, visibleOfJson value, visibleOfFields rest]
end

end Value
end Bayeux
