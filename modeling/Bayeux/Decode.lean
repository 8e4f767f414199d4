import Bayeux.Json.Reader
import Bayeux.Version
/-! Typed reading of JSON trees. A structure is read from an object, whose fields are taken in
the order in which they stand, or from a list, in the order of the structure; unknown
fields do not matter. Where any tree may stand, an object that begins with the field of embedded
documents stands for the document in that text. The first fault met is the one reported. -/

namespace Bayeux.Decode

inductive Fault where
  | wrongType (found : Json) (expected : String)
  | outOfRange (found : Int) (expected : String)
  | missing (field : String)
  | tooLong (size : Nat)
  | tooManyFields (size : Nat)
  | version (text : String)
  /-- Met in the text of an embedded document. -/
  | document (fault : Json.Fault)

def Fault.message : Fault → String
  | .wrongType found expected => "invalid type: " ++ found.outline.text ++ ", expected " ++ expected
  | .outOfRange found expected =>
    "invalid value: integer `" ++ toString found ++ "`, expected " ++ expected
  | .missing field => "missing field `" ++ field ++ "`"
  | .tooLong size => "invalid length " ++ toString size ++ ", expected fewer elements in array"
  | .tooManyFields size =>
    "invalid length " ++ toString size ++ ", expected fewer elements in map"
  | .version text => (ProtocolError.invalidVersion text).message
  | .document fault => fault.message

abbrev Reader (α : Type) := Json → Except Fault α

def text : Reader String
  | .string s => .ok s
  | found => .error (.wrongType found "a string")

def boolean : Reader Bool
  | .bool b => .ok b
  | found => .error (.wrongType found "a boolean")

structure IntegerType where
  name : String
  low : Int
  high : Int

namespace IntegerType

def u16 : IntegerType := ⟨"u16", 0, 65535⟩
def u64 : IntegerType := ⟨"u64", 0, Number.uint64Max⟩
def i64 : IntegerType := ⟨"i64", Number.int64Min, Number.int64Max⟩
def usize : IntegerType := ⟨"usize", 0, Number.uint64Max⟩

end IntegerType

def integer (type : IntegerType) : Reader Int
  | .number (.integer n) =>
    if type.low ≤ n ∧ n ≤ type.high then .ok n else .error (.outOfRange n type.name)
  | found => .error (.wrongType found type.name)

def word16 : Reader UInt16 := fun j => (integer .u16 j).map fun n => .ofNat n.toNat

def word64 : Reader UInt64 := fun j => (integer .u64 j).map fun n => .ofNat n.toNat

/-- A size in bytes or in items. -/
def wordSize : Reader UInt64 := fun j => (integer .usize j).map fun n => .ofNat n.toNat

def int64 : Reader Int64 := fun j => (integer .i64 j).map .ofInt

def version : Reader Version := fun j =>
  match text j with
  | .error fault => .error fault
  | .ok s => (Version.parse s).mapError fun _ => .version s

def texts : List Json → Except Fault (List String)
  | [] => .ok []
  | item :: rest =>
    match text item with
    | .error fault => .error fault
    | .ok s => (texts rest).map (s :: ·)

def textList : Reader (List String)
  | .array items => texts items
  | found => .error (.wrongType found "a sequence")

/-- Null reads as nothing. -/
def optional {α : Type} (reader : Reader α) : Reader (Option α)
  | .null => .ok none
  | j => (reader j).map some

/-- Faults of the document come before other fields of its object. -/
def document (content : Json) (size : Nat) : Except Fault Json :=
  match content with
  | .string source =>
    match Json.readText source with
    | .error fault => .error (.document fault)
    | .ok j => if size = 1 then .ok j else .error (.tooManyFields size)
  | found => .error (.wrongType found "raw value")

/-- The document that an object with these fields stands for. -/
def document? : Table Json → Option (Except Fault Json)
  | [] => none
  | (name, content) :: rest =>
    if name == Json.embeddedField then some (document content (rest.length + 1)) else none

mutual
def anything : Json → Except Fault Json
  | .array items => (anyItems items).map .array
  | .object fields =>
    match document? fields with
    | some read => read
    | none => (anyFields fields).map .object
  | j => .ok j
def anyItems : List Json → Except Fault (List Json)
  | [] => .ok []
  | item :: rest =>
    match anything item with
    | .error fault => .error fault
    | .ok j => (anyItems rest).map (j :: ·)
def anyFields : List (String × Json) → Except Fault (Table Json)
  | [] => .ok []
  | (name, value) :: rest =>
    match anything value with
    | .error fault => .error fault
    | .ok j => (anyFields rest).map ((name, j) :: ·)
end

/-- How one field of a structure of type `σ` is read into it, from trees of type `τ`. -/
structure Slot (τ ε σ : Type) where
  name : String
  store : τ → σ → Except ε σ

abbrev JsonSlot (σ : Type) := Slot Json Fault σ

section
variable {τ ε σ α : Type}

def slot (name : String) (reader : τ → Except ε α) (set : α → σ → σ) : Slot τ ε σ :=
  ⟨name, fun t s => (reader t).map fun a => set a s⟩

def Slot.find? (slots : List (Slot τ ε σ)) (name : String) : Option (Slot τ ε σ) :=
  slots.find? fun s => s.name == name

def fromFields (slots : List (Slot τ ε σ)) : Table τ → σ → Except ε σ
  | [], s => .ok s
  | (name, value) :: rest, s =>
    match Slot.find? slots name with
    | none => fromFields slots rest s
    | some slot =>
      match slot.store value s with
      | .error fault => .error fault
      | .ok s => fromFields slots rest s

/-- Stores the items in the order of the slots; what is left over is returned. -/
def fromItems : List (Slot τ ε σ) → List τ → σ → Except ε (σ × List τ)
  | _, [], s => .ok (s, [])
  | [], rest, s => .ok (s, rest)
  | slot :: slots, value :: rest, s =>
    match slot.store value s with
    | .error fault => .error fault
    | .ok s => fromItems slots rest s

end

/-- What is not stored keeps the value it has in `initial`. -/
def looseStruct {σ : Type} (name : String) (slots : List (JsonSlot σ)) (initial : σ) : Reader σ
  | .object fields => fromFields slots fields initial
  | .array items => (fromItems slots items initial).map Prod.fst
  | found => .error (.wrongType found ("struct " ++ name))

/-- A list with more items than there are slots is refused. -/
def struct {σ : Type} (name : String) (slots : List (JsonSlot σ)) (initial : σ) : Reader σ
  | .array items =>
    match fromItems slots items initial with
    | .error fault => .error fault
    | .ok (s, []) => .ok s
    | .ok (_, _ :: _) => .error (.tooLong items.length)
  | j => looseStruct name slots initial j

end Bayeux.Decode
