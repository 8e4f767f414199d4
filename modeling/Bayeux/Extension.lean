import Bayeux.Context
import Bayeux.Server
/-! Extensions see each message that arrives and each one that leaves, may change it and may
refuse it. They are asked in turn, and the first refusal ends the pass. -/

namespace Bayeux

/-- What the extensions remember is a `σ`, the clock and the session come with each call. -/
structure Extension (σ : Type) where
  name : String
  incoming : Nat → String → Context → σ → Bool × Context × σ
  outgoing : Nat → String → Message → σ → Bool × Message × σ
  forget : String → σ → σ

namespace Extension
variable {σ τ : Type}

/-- Lets everything pass as it is. -/
def silent (name : String) : Extension σ where
  name := name
  incoming _ _ c memory := (true, c, memory)
  outgoing _ _ m memory := (true, m, memory)
  forget _ memory := memory

def incomingPass : List (Extension σ) → String → Context → Server σ → Bool × Context × Server σ
  | [], _, c, s => (true, c, s)
  | e :: rest, id, c, s =>
    let (accepted, c, memory) := e.incoming s.clock id c s.memory
    let s := { s.note (.incoming e.name) with memory }
    if accepted then incomingPass rest id c s else (false, c, s)

def outgoingPass : List (Extension σ) → String → Message → Server σ → Bool × Message × Server σ
  | [], _, m, s => (true, m, s)
  | e :: rest, id, m, s =>
    let (accepted, m, memory) := e.outgoing s.clock id m s.memory
    let s := { s.note (.outgoing e.name) with memory }
    if accepted then outgoingPass rest id m s else (false, m, s)

def forgetPass (extensions : List (Extension σ)) (id : String) (s : Server σ) : Server σ :=
  extensions.foldl (fun s e =>
    { s.note (.forgotten e.name id) with memory := e.forget id s.memory }) s

/-- The messages that pass, as the extensions left them. -/
def outgoingMessages (extensions : List (Extension σ)) (id : String) :
    List Message → Server σ → List Message × Server σ
  | [], s => ([], s)
  | m :: rest, s =>
    let (accepted, m, s) := outgoingPass extensions id m s
    let (others, s) := outgoingMessages extensions id rest s
    (if accepted then m :: others else others, s)

def outgoingPackets (extensions : List (Extension σ)) (id : String) :
    List Packet → Server σ → List Packet × Server σ
  | [], s => ([], s)
  | p :: rest, s =>
    let (messages, s) := outgoingMessages extensions id p.messages s
    let (others, s) := outgoingPackets extensions id rest s
    ({ p with messages } :: others, s)

theorem outgoingMessagesNone (id : String) (messages : List Message) (s : Server σ) :
    outgoingMessages [] id messages s = (messages, s) := by
  induction messages generalizing s with
  | nil => rfl
  | cons m rest ih => simp [outgoingMessages, outgoingPass, ih]

theorem outgoingPacketsNone (id : String) (packets : List Packet) (s : Server σ) :
    outgoingPackets [] id packets s = (packets, s) := by
  induction packets generalizing s with
  | nil => rfl
  | cons p rest ih => simp [outgoingPackets, outgoingMessagesNone, ih]

end Extension
end Bayeux
