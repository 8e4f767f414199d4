import Bayeux.Number.Text
import Bayeux.Toml
import Bayeux.Toml.Date
import Bayeux.Version
/-! Settings: trees whose leaves may be written in other ways than the one asked for. Texts
stand for numbers and truth values, numbers for texts, and so on. -/

namespace Bayeux

inductive Setting where
  /-- A place that was made room for and never filled. -/
  | nothing
  | boolean (b : Bool)
  | integer (n : Int)
  | real (x : Float)
  | text (s : String)
  | list (items : List Setting)
  | group (fields : List (String × Setting))

namespace Setting

def fields : Setting → Table Setting
  | .group fields => fields
  | _ => []

def items : Setting → List Setting
  | .list items => items
  | _ => []

/-! From documents. -/

/-- What the first field makes of the whole table: a date, if it is the field of dates. -/
def marked : Table Toml → Option (Option Toml.Moment)
  | (name, .string s) :: _ => if name = Toml.dateField then some (Toml.Moment.read? s) else none
  | (name, _) :: _ => if name = Toml.dateField then some none else none
  | [] => none

mutual
/-- Dates are texts. A table marked as a date that is none cannot be read. -/
def ofToml : Toml → Option Setting
  | .string s => some (.text s)
  | .integer n => some (.integer n)
  | .real x => some (.real x)
  | .boolean b => some (.boolean b)
  | .date spelling => some (.text spelling)
  | .list items => (ofItems items).map .list
  | .table fields =>
    match marked fields with
    | some (some moment) => some (.text moment.text)
    | some none => none
    | none => (ofFields fields).map .group

def ofItems : List Toml → Option (List Setting)
  | [] => some []
  | t :: rest =>
    match ofToml t, ofItems rest with
    | some s, some rest => some (s :: rest)
    | _, _ => none

def ofFields : List (String × Toml) → Option (List (String × Setting))
  | [] => some []
  | (name, t) :: rest =>
    match ofToml t, ofFields rest with
    | some s, some rest => some ((name, s) :: rest)
    | _, _ => none
end

/-- The document as a whole is no date. -/
def ofDocument (fields : Table Toml) : Option (Table Setting) :=
  (ofToml (.table fields)).bind fun
    | .group fields => some fields
    | _ => none

/-! Leaves. -/

def truth? (s : String) : Option Bool :=
  if s ∈ ["true", "on", "yes"] then some true
  else if s ∈ ["false", "off", "no"] then some false
  else none

def sizeText? (cs : List Char) : Option Nat :=
  let digits := match cs with
    | '+' :: rest => rest
    | _ => cs
  if digits ≠ [] ∧ digits.all Version.isDigit then some (Version.digitsValue digits) else none

def integerText? : List Char → Option Int
  | '-' :: '+' :: _ => none
  | '-' :: rest => (sizeText? rest).map fun n => -(n : Int)
  | cs => (sizeText? cs).map Int.ofNat

def within (low high n : Int) : Option Int := if low ≤ n ∧ n ≤ high then some n else none

/-- Reals are rounded, a half away from zero, and cut off at the ends of the range; what is not a
number is zero. -/
def unsigned? : Setting → Option Nat
  | .integer n => (within 0 Number.uint64Max n).map Int.toNat
  | .real x => some x.round.toUInt64.toNat
  | .boolean b => some b.toNat
  | .text s =>
    match truth? s.toLower with
    | some b => some b.toNat
    | none => (sizeText? s.toList).bind fun n => (within 0 Number.uint64Max n).map Int.toNat
  | _ => none

def signed? : Setting → Option Int
  | .integer n => within Number.int64Min Number.int64Max n
  | .real x => some x.round.toInt64.toInt
  | .boolean b => some b.toNat
  | .text s =>
    match truth? s.toLower with
    | some b => some b.toNat
    | none => (integerText? s.toList).bind (within Number.int64Min Number.int64Max)
  | _ => none

def boolean? : Setting → Option Bool
  | .boolean b => some b
  | .integer n => some (n != 0)
  | .real x => some (x != 0)
  | .text s =>
    if s = "1" then some true
    else if s = "0" then some false
    else truth? s.toLower
  | _ => none

def realText (x : Float) : String :=
  match Double.ofFloat? x with
  | some d => Number.plainText d
  | none => if x.isNaN then "NaN" else if x < 0 then "-inf" else "inf"

def text? : Setting → Option String
  | .text s => some s
  | .boolean b => some (toString b)
  | .integer n => some (toString n)
  | .real x => some (realText x)
  | _ => none

end Setting
end Bayeux
