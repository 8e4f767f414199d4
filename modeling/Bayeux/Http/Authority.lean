/-! The part of a target that names a host: a name or a bracketed address, with a user in front of
an at sign and a port behind a colon where they are given. -/

namespace Bayeux.Http.Authority

def maxColons : Nat := 8

inductive Bracket where
  | absent
  | opened
  | closed
  deriving DecidableEq, Repr

/-- Colons and percent signs count from the last at sign or closing bracket. -/
structure Reading where
  colons : Nat
  bracket : Bracket
  hasPercent : Bool
  endsInAt : Bool
  deriving DecidableEq, Repr

def Reading.empty : Reading := ⟨0, .absent, false, false⟩

def isPlain (c : Char) : Bool := c.isAlphanum || "!$&'()*+,-.;=_~".toList.contains c

def step (r : Reading) (c : Char) : Option Reading :=
  let r := { r with endsInAt := false }
  match c, r.bracket with
  | ':', _ => if r.colons < maxColons then some { r with colons := r.colons + 1 } else none
  | '[', .absent => if r.hasPercent then none else some { r with bracket := .opened }
  | ']', .opened => some { r with bracket := .closed, colons := 0, hasPercent := false }
  | '@', _ => some { r with endsInAt := true, colons := 0, hasPercent := false }
  | '%', _ => some { r with hasPercent := true }
  | c, _ => if isPlain c then some r else none

/-- Only a user or what stands in brackets may hold a percent sign, or more than one colon. -/
def Reading.isComplete (r : Reading) : Bool :=
  r.colons ≤ 1 && r.bracket != .opened && !r.hasPercent && !r.endsInAt

def isSound (cs : List Char) : Bool := ((cs.foldlM step .empty).map Reading.isComplete).getD false

end Bayeux.Http.Authority
