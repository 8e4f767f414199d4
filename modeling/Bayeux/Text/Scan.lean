/-! Scanning of characters. A scan takes a beginning of the text, or fails; it returns what it
read and the rest. -/

namespace Bayeux.Text

abbrev Scan (α : Type) := List Char → Option (α × List Char)

namespace Scan

def char (c : Char) : Scan Unit
  | [] => none
  | d :: rest => if d = c then some ((), rest) else none

def word : List Char → Scan Unit
  | [], text => some ((), text)
  | _ :: _, [] => none
  | c :: cs, d :: rest => if c = d then word cs rest else none

def digit? (radix : Nat) (c : Char) : Option Nat :=
  let n :=
    if '0' ≤ c ∧ c ≤ '9' then c.toNat - '0'.toNat
    else if 'a' ≤ c ∧ c ≤ 'f' then c.toNat - 'a'.toNat + 10
    else if 'A' ≤ c ∧ c ≤ 'F' then c.toNat - 'A'.toNat + 10
    else radix
  if n < radix then some n else none

def digits (radix : Nat) : List Char → List Nat × List Char
  | [] => ([], [])
  | c :: rest =>
    match digit? radix c with
    | some d => (d :: (digits radix rest).1, (digits radix rest).2)
    | none => ([], c :: rest)

def valueOf (radix : Nat) (ds : List Nat) : Nat := ds.foldl (fun n d => n * radix + d) 0

/-- A number below `bound`, written with just so many digits. -/
def fixed (width bound : Nat) : Scan Nat := fun text =>
  let ds := (digits 10 (text.take width)).1
  if ds.length = width ∧ valueOf 10 ds < bound then some (valueOf 10 ds, text.drop width) else none

end Scan
end Bayeux.Text
