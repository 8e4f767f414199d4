import Bayeux.Protocol
import Bayeux.Value.Path
/-! Messages: records with accessors for the reserved fields. `editObject` and `editData`
make the field they change when it is missing, so they always reach one. -/

namespace Bayeux

structure Message where
  fields : Record Value

namespace Message

instance : Inhabited Message := ⟨⟨.empty⟩⟩

def empty : Message := ⟨.empty⟩

def get? (m : Message) (name : String) : Option Value := m.fields.get? name

def put (m : Message) (name : String) (value : Value) : Message := ⟨m.fields.put name value⟩

def putText (m : Message) (name text : String) : Message := m.put name (.string text)

def remove (m : Message) (name : String) : Option Value × Message :=
  ((m.fields.remove name).1, ⟨(m.fields.remove name).2⟩)

def overlay (m : Message) : Message := ⟨m.fields.overlay⟩

def isOverlay (m : Message) : Bool := m.fields.isOverlay

def visible (m : Message) : Json := (Value.object m.fields).visible

/-- What is not an object reads as a message without fields. -/
def ofValue : Value → Message
  | .object fields => ⟨fields⟩
  | _ => empty

def forChannel (path : String) : Message := empty.putText Field.channel path

def textField? (m : Message) (name : String) : Option String := (m.get? name).bind Value.asString?

def id? (m : Message) : Option String := m.textField? Field.id

def clientId? (m : Message) : Option String := m.textField? Field.clientId

/-- The empty path counts as none. -/
def channel? (m : Message) : Option String := (m.textField? Field.channel).filter (· ≠ "")

def error? (m : Message) : Option String := m.textField? Field.error

def isSuccessful (m : Message) : Bool :=
  ((m.get? Field.successful).bind Value.asBool?).getD false

def object? (m : Message) (name : String) : Option (Record Value) :=
  (m.get? name).bind Value.asObject?

def advice? (m : Message) : Option (Record Value) := m.object? Field.advice

def ext? (m : Message) : Option (Record Value) := m.object? Field.ext

def data? (m : Message) : Option Value := m.get? Field.data

def edit {β : Type} (m : Message) (name : String) (change : Value → Value × β) :
    Message × Option β :=
  let (fields, result) := m.fields.edit Value.overlay name change
  (⟨fields⟩, result)

/-- The message with the field present, `missing` being put where it is not. -/
def withField (m : Message) (present : Bool) (name : String) (missing : Value) : Message :=
  if present then m else m.put name missing

def onObject {β : Type} (change : Record Value → Record Value × β) : Value → Value × Option β
  | .object fields =>
    let (fields, result) := change fields
    (.object fields, some result)
  | v => (v, none)

/-- Change an object field, a missing one or one of another type being made empty first. -/
def editObject {β : Type} (m : Message) (name : String)
    (change : Record Value → Record Value × β) : Message × Option β :=
  let (m, result) := (m.withField (m.object? name).isSome name (.object .empty)).edit name
    (onObject change)
  (m, result.join)

/-- Change the payload, a missing one being made an empty object first. -/
def editData {β : Type} (m : Message) (change : Value → Value × β) : Message × Option β :=
  (m.withField m.data?.isSome Field.data (.object .empty)).edit Field.data change

def putWithin (m : Message) (name field : String) (value : Value) : Message :=
  (m.editObject name fun fields => (fields.put field value, ())).1

def putExt (m : Message) (field : String) (value : Value) : Message :=
  m.putWithin Field.ext field value

def putAdvice (m : Message) (field : String) (value : Value) : Message :=
  m.putWithin Field.advice field value

theorem getOverlay (m : Message) (name : String) : m.overlay.get? name = m.get? name :=
  Record.getOverlay m.fields name

theorem visibleOverlay (m : Message) : m.overlay.visible = m.visible :=
  Value.visibleOverlay (.object m.fields)

theorem getPutSame (m : Message) (name : String) (value : Value) :
    (m.put name value).get? name = some value := Record.getPutSame m.fields name value

end Message
end Bayeux
