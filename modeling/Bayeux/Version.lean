import Bayeux.Protocol
/-! Protocol versions `major.minor`. What stands behind a second point is ignored, and a
missing minor part is zero. -/

namespace Bayeux

structure Version where
  major : UInt8
  minor : UInt8
  deriving DecidableEq, Repr

namespace Version

def current : Version := ⟨1, 0⟩

/-- The oldest that a client may speak. -/
def minimum : Version := ⟨1, 0⟩

def isCompatibleWith (a b : Version) : Bool := a.major == b.major

def compare (a b : Version) : Ordering :=
  (Ord.compare a.major b.major).then (Ord.compare a.minor b.minor)

def text (v : Version) : String := toString v.major.toNat ++ "." ++ toString v.minor.toNat

def isDigit (c : Char) : Bool := '0' ≤ c && c ≤ '9'

def digitsValue (cs : List Char) : Nat := cs.foldl (fun n c => n * 10 + (c.toNat - '0'.toNat)) 0

/-- One part: digits, behind an optional plus, of a value below 256. -/
def part? (cs : List Char) : Option UInt8 :=
  let digits := match cs with
    | '+' :: rest => rest
    | cs => cs
  if digits ≠ [] ∧ digits.all isDigit ∧ digitsValue digits < 256 then
    some (digitsValue digits).toUInt8
  else none

def ofParts? : List (List Char) → Option Version
  | major :: minor :: _ => do return ⟨← part? major, ← part? minor⟩
  | [major] => do return ⟨← part? major, 0⟩
  | [] => none

def parse (s : String) : Except ProtocolError Version :=
  match ofParts? (Text.split '.' (Text.trim s.toList)) with
  | some v => .ok v
  | none => .error (.invalidVersion s)

end Version
end Bayeux
