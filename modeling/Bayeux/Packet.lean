import Bayeux.Message
import Bayeux.Json.Text
/-! Packets: messages with the reason they travel, the session they come from and the channel
they were routed on. -/

namespace Bayeux

inductive PacketType where
  | request
  | response
  | delivery
  deriving DecidableEq, Repr

def PacketType.name : PacketType → String
  | .request => "Request"
  | .response => "Response"
  | .delivery => "Delivery"

structure Packet where
  type : PacketType
  sender? : Option String
  route? : Option Channel
  messages : List Message

namespace Packet

instance : Inhabited Packet := ⟨.response, none, none, []⟩

def empty (type : PacketType) : Packet := ⟨type, none, none, []⟩

def single (type : PacketType) (m : Message) : Packet := ⟨type, none, none, [m]⟩

def response (messages : List Message) : Packet := ⟨.response, none, none, messages⟩

def withSender (p : Packet) (sender : String) : Packet := { p with sender? := some sender }

def withRoute (p : Packet) (route : Channel) : Packet := { p with route? := some route }

def isEmpty (p : Packet) : Bool := p.messages.isEmpty

/-- A message passes unless its channel is the filtered one. -/
def qualifies (filtered? : Option Channel) (m : Message) : Bool :=
  match filtered? with
  | some route => m.channel? != some route.path
  | none => true

/-- The joined packet, `none` when no message of the other one passes and the base stands. -/
def joined? (base other : Packet) (filtered? : Option Channel) : Option Packet :=
  if other.messages.any (qualifies filtered?) then
    some { base with messages := base.messages ++ other.messages.filter (qualifies filtered?) }
  else none

def merge (base other : Packet) (filtered? : Option Channel) : Packet :=
  (joined? base other filtered?).getD base

/-- Every message as an overlay, so that each recipient of a copy may change its own. -/
def freeze (p : Packet) : Packet := { p with messages := p.messages.map Message.overlay }

/-- Messages behind one another with a comma before each but the first, and whether none is
written yet. -/
def writeMessages (text : String) (first : Bool) : List Message → String × Bool
  | [] => (text, first)
  | m :: rest =>
    writeMessages (Json.write (if first then text else text.push ',') m.visible) false rest

def writePackets (text : String) (first : Bool) : List Packet → String × Bool
  | [] => (text, first)
  | p :: rest =>
    let (text, first) := writeMessages text first p.messages
    writePackets text first rest

def text (p : Packet) : String := (writeMessages "[" true p.messages).1.push ']'

/-- All messages of all packets as one list; `none` when there are none. -/
def textOfAll? (packets : List Packet) : Option String :=
  if packets.all isEmpty then none else some ((writePackets "[" true packets).1.push ']')

def messagesText (messages : List Message) : String :=
  Json.text (.array (messages.map Message.visible))

theorem writeMessagesItems (text : String) (first : Bool) (messages : List Message) :
    writeMessages text first messages =
      (Json.writeItems text first (messages.map Message.visible), first && messages.isEmpty) := by
  induction messages generalizing text first with
  | nil => simp [writeMessages, Json.writeItems]
  | cons m rest ih => simp [writeMessages, Json.writeItems, ih]

theorem writeMessagesAppend (text : String) (first : Bool) (messages others : List Message) :
    writeMessages text first (messages ++ others) =
      writeMessages (writeMessages text first messages).1
        (writeMessages text first messages).2 others := by
  induction messages generalizing text first with
  | nil => rfl
  | cons m rest ih => exact ih _ _

theorem writePacketsMessages (text : String) (first : Bool) (packets : List Packet) :
    writePackets text first packets = writeMessages text first (packets.flatMap messages) := by
  induction packets generalizing text first with
  | nil => rfl
  | cons p rest ih =>
    rw [List.flatMap_cons, writeMessagesAppend, ← ih]
    rfl

theorem textMessages (p : Packet) : p.text = messagesText p.messages := by
  rw [text, writeMessagesItems]
  rfl

theorem emptyIff (packets : List Packet) :
    packets.all isEmpty = true ↔ packets.flatMap messages = [] := by
  simp [isEmpty, List.flatMap_eq_nil_iff]

/- The packets do not matter, only the messages in them. -/
theorem textOfMessages (packets : List Packet) : textOfAll? packets =
    if packets.flatMap messages = [] then none
    else some (messagesText (packets.flatMap messages)) := by
  rw [textOfAll?, writePacketsMessages, writeMessagesItems]
  simp only [emptyIff]
  rfl

theorem mergeMessages (base other : Packet) (filtered? : Option Channel) :
    (base.merge other filtered?).messages =
      base.messages ++ other.messages.filter (qualifies filtered?) := by
  unfold merge joined?
  split
  · rfl
  · rename_i none_
    have nothing : other.messages.filter (qualifies filtered?) = [] := by
      rw [List.filter_eq_nil_iff]
      intro m inside passes
      exact none_ (List.any_eq_true.mpr ⟨m, inside, passes⟩)
    simp [nothing]

theorem freezeText (p : Packet) : p.freeze.text = p.text := by
  simp only [textMessages, messagesText, freeze, List.map_map]
  congr 2
  exact List.map_congr_left fun m _ => Message.visibleOverlay m

end Packet
end Bayeux
