import Bayeux.Value
/-! Values below a value. Looking at a path reads through all layers; changing what stands
there goes down by `edit`, so every overlay on the way has its patch or copy made, even
where a later step of the path finds nothing. -/

namespace Bayeux

inductive Step where
  | field (name : String)
  | index (position : Nat)
  deriving DecidableEq, Repr

abbrev Path := List Step

namespace Value

def child? : Value → Step → Option Value
  | .object fields, .field name => fields.get? name
  | .array items, .index position => items.get? position
  | _, _ => none

def at? (v : Value) : Path → Option Value
  | [] => some v
  | step :: rest => (v.child? step).bind (at? · rest)

/-- `none` when the path leads nowhere. -/
def editAt {β : Type} (change : Value → Value × β) : Path → Value → Value × Option β
  | [], v =>
    let (v, result) := change v
    (v, some result)
  | .field name :: rest, .object fields =>
    let (fields, result) := fields.edit overlay name (editAt change rest)
    (.object fields, result.join)
  | .index position :: rest, .array items =>
    let (items, result) := items.edit overlay position (editAt change rest)
    (.array items, result.join)
  | _ :: _, v => (v, none)

/-- How a value is layered at its top. -/
inductive Layering where
  | scalar | plain | overlay | patched | copied
  deriving DecidableEq, Repr

def layering : Value → Layering
  | .object (.plain _) | .array (.plain _) => .plain
  | .object (.view _) | .array (.view _) => .overlay
  | .object (.patched _ _ _) => .patched
  | .array (.copied _ _) => .copied
  | _ => .scalar

def size : Value → Nat
  | .object fields => fields.size
  | .array items => items.size
  | _ => 0

end Value
end Bayeux
