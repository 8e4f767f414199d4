import Bayeux.Text.Scan
/-! Socket addresses, an IP address with the number of an endpoint, as text and from text. -/

namespace Bayeux

inductive Address where
  | v4 (octets : List Nat) (endpoint : Nat)
  | v6 (groups : List Nat) (zone endpoint : Nat)
  deriving DecidableEq

namespace Address

open Text Scan

/-- A number below `bound`, with at most so many digits where a width is given. -/
def number (radix bound : Nat) (width? : Option Nat) (zeroPadded : Bool) : Scan Nat := fun text =>
  let (ds, rest) := digits radix text
  let fits := match width? with
    | some width => decide (ds.length ≤ width)
    | none => true
  let padded := decide (1 < ds.length) && ds.head? == some 0
  if ds.isEmpty || !fits || (padded && !zeroPadded) || decide (bound ≤ valueOf radix ds) then none
  else some (valueOf radix ds, rest)

def octet : Scan Nat := number 10 256 (some 3) false

def octets : Scan (List Nat) := fun text => do
  let (a, text) ← octet text
  let ((), text) ← char '.' text
  let (b, text) ← octet text
  let ((), text) ← char '.' text
  let (c, text) ← octet text
  let ((), text) ← char '.' text
  let (d, text) ← octet text
  return ([a, b, c, d], text)

def endpoint : Scan Nat := fun text => do
  let ((), text) ← char ':' text
  number 10 65536 none true text

def separated {α : Type} (first : Bool) (reader : Scan α) : Scan α := fun text =>
  if first then reader text
  else do
    let ((), text) ← char ':' text
    reader text

def group : Scan Nat := number 16 65536 (some 4) true

def pairs : List Nat → List Nat
  | [a, b, c, d] => [a * 256 + b, c * 256 + d]
  | _ => []

/-- Up to `limit` groups, the last two of which may be written as four octets. Says whether
they were. -/
def groups (first : Bool) : Nat → List Char → List Nat × Bool × List Char
  | 0, text => ([], false, text)
  | limit + 1, text =>
    match if limit = 0 then none else separated first octets text with
    | some (quad, rest) => (pairs quad, true, rest)
    | none =>
      match separated first group text with
      | some (g, rest) =>
        let (more, quad, rest) := groups false limit rest
        (g :: more, quad, rest)
      | none => ([], false, text)

def v6Groups : Scan (List Nat) := fun text =>
  let (head, quad, text) := groups true 8 text
  if head.length = 8 then some (head, text)
  else if quad then none
  else do
    let ((), text) ← char ':' text
    let ((), text) ← char ':' text
    let (tail, _, text) := groups true (7 - head.length) text
    return (head ++ List.replicate (8 - head.length - tail.length) 0 ++ tail, text)

def zone : Scan Nat := fun text => do
  let ((), text) ← char '%' text
  number 10 0x1_0000_0000 none true text

def readV4 : Scan Address := fun text => do
  let (quad, text) ← octets text
  let (e, text) ← endpoint text
  return (.v4 quad e, text)

def readV6 : Scan Address := fun text => do
  let ((), text) ← char '[' text
  let (gs, text) ← v6Groups text
  let (z, text) := (zone text).getD (0, text)
  let ((), text) ← char ']' text
  let (e, text) ← endpoint text
  return (.v6 gs z e, text)

def parse? (text : String) : Option Address :=
  match (readV4 text.toList).orElse fun _ => readV6 text.toList with
  | some (address, []) => some address
  | _ => none

def hex (n : Nat) : String := String.ofList (Nat.toDigits 16 n)

def quadText (octets : List Nat) : String := ".".intercalate (octets.map toString)

/-- Where the first longest run of zeros starts, and its length. -/
def longestZeros : List Nat → Nat → Nat × Nat → Nat × Nat → Nat × Nat
  | [], _, _, best => best
  | g :: rest, index, (start, size), best =>
    if g = 0 then
      let run := (if size = 0 then index else start, size + 1)
      longestZeros rest (index + 1) run (if best.2 < run.2 then run else best)
    else longestZeros rest (index + 1) (0, 0) best

def groupsText (gs : List Nat) : String := ":".intercalate (gs.map hex)

def v6Text (gs : List Nat) : String :=
  match gs with
  | [0, 0, 0, 0, 0, 65535, high, low] =>
    "::ffff:" ++ quadText [high / 256, high % 256, low / 256, low % 256]
  | _ =>
    let (start, size) := longestZeros gs 0 (0, 0) (0, 0)
    if 1 < size then groupsText (gs.take start) ++ "::" ++ groupsText (gs.drop (start + size))
    else groupsText gs

def text : Address → String
  | .v4 octets e => quadText octets ++ ":" ++ toString e
  | .v6 gs z e =>
    "[" ++ v6Text gs ++ (if z = 0 then "" else "%" ++ toString z) ++ "]:" ++ toString e

end Address
end Bayeux
