import Bayeux.Config.Setting
/-! Layers of settings, each written over the ones before it. A name says where its setting
belongs: points lead into groups, numbers in square brackets into lists. -/

namespace Bayeux
namespace Setting

inductive Step where
  | name (name : String)
  /-- Counted from the end if below zero. -/
  | index (number : Int)
  deriving DecidableEq, Repr

/-! Names as paths. -/

def isNameChar (c : Char) : Bool := c.isAlphanum || c == ' ' || c == '_' || c == '-'

def isGap (c : Char) : Bool := c == ' ' || c == '\t'

def named (cs : List Char) : Option (Step × List Char) :=
  match cs.takeWhile isNameChar with
  | [] => none
  | name => some (.name (String.ofList name), cs.dropWhile isNameChar)

def number? (negative : Bool) (digits : List Char) : Option Int :=
  if digits = [] then none
  else
    let n := Version.digitsValue digits
    within Number.int64Min Number.int64Max (if negative then -n else n)

/-- Behind the opening bracket. -/
def indexed (cs : List Char) : Option (Step × List Char) :=
  let (negative, cs) := match cs.dropWhile isGap with
    | '-' :: rest => (true, rest)
    | rest => (false, rest)
  match number? negative (cs.takeWhile Version.isDigit),
      (cs.dropWhile Version.isDigit).dropWhile isGap with
  | some n, ']' :: rest => some (.index n, rest)
  | _, _ => none

def steps : (fuel : Nat) → List Char → Option (List Step)
  | _, [] => some []
  | 0, _ :: _ => none
  | fuel + 1, c :: rest =>
    let step? :=
      if c = '.' then named rest
      else if c = '[' then indexed rest
      else none
    match step? with
    | some (step, rest) => (steps fuel rest).map (step :: ·)
    | none => none

/-- A name that is no path stands for itself. -/
def pathOf (name : String) : List Step :=
  match named name.toList with
  | some (first, rest) => ((steps rest.length rest).map (first :: ·)).getD [.name name]
  | none => [.name name]

/-! Writing. -/

/-- The other letters have no place in the names that are looked for. -/
def lowerChar (c : Char) : Char := if c = '\u212a' then 'k' else c.toLower

def lowered (name : String) : String := String.ofList (name.toList.map lowerChar)

mutual
/-- Names do not distinguish case, and groups are merged. -/
def assign (fields : Table Setting) (name : String) : Setting → Table Setting
  | .group incoming =>
    fields.put (lowered name)
      (assignInto ((fields.get? (lowered name)).getD (.group [])) incoming)
  | .nothing => fields.put (lowered name) .nothing
  | .boolean b => fields.put (lowered name) (.boolean b)
  | .integer n => fields.put (lowered name) (.integer n)
  | .real x => fields.put (lowered name) (.real x)
  | .text s => fields.put (lowered name) (.text s)
  | .list items => fields.put (lowered name) (.list items)

/-- What is no group stays as it is if there is nothing to write into it. -/
def assignInto (old : Setting) : List (String × Setting) → Setting
  | [] => old
  | (name, value) :: rest => assignInto (.group (assign old.fields name value)) rest
end

/-- Every list is smaller. -/
def listLimit : Nat := 4294967296

/-- There is no place in front of the first item. -/
def position? (index : Int) (size : Nat) : Option Nat :=
  if 0 ≤ index then if index.toNat < listLimit then some index.toNat else none
  else if index.natAbs ≤ size then some (size - index.natAbs)
  else none

/-- There are as many places as it takes. -/
def setItem (items : List Setting) (n : Nat) (value : Setting) : List Setting :=
  (items ++ List.replicate (n + 1 - items.length) nothing).set n value

/-- What stands in the way of a path makes room for it. -/
def write (value : Setting) : List Step → Setting → Option Setting
  | [], _ => some value
  | [.name name], old => some (.group (assign old.fields name value))
  | .name name :: path, old =>
    (write value path ((old.fields.get? (lowered name)).getD .nothing)).map fun inner =>
      .group (old.fields.put (lowered name) inner)
  | .index index :: path, old =>
    (position? index old.items.length).bind fun n =>
      (write value path (old.items[n]?.getD .nothing)).map fun inner =>
        .list (setItem old.items n inner)

def writeAll : List (String × Setting) → Setting → Option Setting
  | [], old => some old
  | (name, value) :: rest, old => (write value (pathOf name) old).bind (writeAll rest)

def gather : List (List (String × Setting)) → Setting → Option Setting
  | [], old => some old
  | layer :: rest, old => (writeAll layer old).bind (gather rest)

/-- The outermost names of what was gathered are taken for paths once more. -/
def layered (layers : List (List (String × Setting))) : Option Setting :=
  (gather layers (.group [])).bind fun gathered => writeAll gathered.fields (.group [])

end Setting
end Bayeux
