import Bayeux.Table
import Bayeux.Number
/-! Plain JSON trees. Objects keep the order of their fields. `Same` reads objects as
unordered maps and arrays element by element. -/

namespace Bayeux

inductive Json where
  | null
  | bool (b : Bool)
  | number (n : Number)
  | string (s : String)
  | array (items : List Json)
  | object (fields : List (String × Json))

namespace Json

instance : Inhabited Json := ⟨.null⟩

def field? : Json → String → Option Json
  | .object fields, name => Table.get? fields name
  | _, _ => none

mutual
/-- Every object below this tree names each field once. -/
def Distinct : Json → Prop
  | .array items => DistinctItems items
  | .object fields => (Table.keys fields).Nodup ∧ DistinctFields fields
  | _ => True
def DistinctItems : List Json → Prop
  | [] => True
  | item :: rest => Distinct item ∧ DistinctItems rest
def DistinctFields : Table Json → Prop
  | [] => True
  | (_, value) :: rest => Distinct value ∧ DistinctFields rest
end

mutual
/-- Containers nested in one another, the outermost one included. -/
def depth : Json → Nat
  | .array items => depthItems items + 1
  | .object fields => depthFields fields + 1
  | _ => 0
def depthItems : List Json → Nat
  | [] => 0
  | item :: rest => max (depth item) (depthItems rest)
def depthFields : Table Json → Nat
  | [] => 0
  | (_, value) :: rest => max (depth value) (depthFields rest)
end

mutual
/-- Equal as data: the order of fields does not count. -/
inductive Same : Json → Json → Prop
  | null : Same .null .null
  | bool (b : Bool) : Same (.bool b) (.bool b)
  | number {m n : Number} (same : m.same n = true) : Same (.number m) (.number n)
  | string (s : String) : Same (.string s) (.string s)
  | array {xs ys : List Json} (items : SameItems xs ys) : Same (.array xs) (.array ys)
  | object {f g : Table Json}
      (names : ∀ name, f.has name = g.has name)
      (values : ∀ name x y, f.get? name = some x → g.get? name = some y → Same x y) :
      Same (.object f) (.object g)
inductive SameItems : List Json → List Json → Prop
  | nil : SameItems [] []
  | cons {x y : Json} {xs ys : List Json} (head : Same x y) (tail : SameItems xs ys) :
      SameItems (x :: xs) (y :: ys)
end

end Json
end Bayeux
