/-! Arrays in layers. A sequence is a plain list, or a copy-on-write overlay over a base that
it never changes: an untouched `view`, or `copied`. The first change of a view copies all
items; after that the base is out of sight. -/

namespace Bayeux

inductive Sequence (α : Type) where
  | plain (items : List α)
  | view (base : Sequence α)
  | copied (base : Sequence α) (items : List α)

namespace Sequence
variable {α β : Type}

def empty : Sequence α := .plain []

instance : Inhabited (Sequence α) := ⟨empty⟩

def isOverlay : Sequence α → Bool
  | .plain _ => false
  | _ => true

def isView : Sequence α → Bool
  | .view _ => true
  | _ => false

def overlay (s : Sequence α) : Sequence α := if s.isView then s else .view s

def items : Sequence α → List α
  | .plain items => items
  | .view base => base.items
  | .copied _ items => items

def size (s : Sequence α) : Nat := s.items.length

def isEmpty (s : Sequence α) : Bool := s.size == 0

def get? (s : Sequence α) (index : Nat) : Option α := s.items[index]?

/-- The same layers with these items, a view becoming a copy. -/
def withItems : Sequence α → List α → Sequence α
  | .plain _, items => .plain items
  | .view base, items => .copied base items
  | .copied base _, items => .copied base items

def push (s : Sequence α) (value : α) : Sequence α := s.withItems (s.items ++ [value])

def extend (s : Sequence α) (values : List α) : Sequence α := s.withItems (s.items ++ values)

/-- The value replaced; out of bounds nothing happens. -/
def set (s : Sequence α) (index : Nat) (value : α) : Option α × Sequence α :=
  match s.get? index with
  | none => (none, s)
  | some old => (some old, s.withItems (s.items.set index value))

/-- Whether the index was in bounds. A view makes its copy either way. -/
def insert (s : Sequence α) (index : Nat) (value : α) : Bool × Sequence α :=
  if index ≤ s.size then
    (true, s.withItems (s.items.take index ++ value :: s.items.drop index))
  else (false, s.withItems s.items)

def remove (s : Sequence α) (index : Nat) : Option α × Sequence α :=
  match s.get? index with
  | none => (none, s)
  | some old => (some old, s.withItems (s.items.eraseIdx index))

def clear : Sequence α → Sequence α
  | .plain _ => .plain []
  | .view base => .copied base []
  | .copied base _ => .copied base []

/-- Change an item in place. A view makes its copy and puts the item in as `fresh` makes it;
the copy is made whatever the change does. `none` out of bounds. -/
def edit (fresh : α → α) (index : Nat) (change : α → α × β) (s : Sequence α) :
    Sequence α × Option β :=
  match s.get? index with
  | none => (s, none)
  | some value =>
    let (value, result) := change (if s.isView then fresh value else value)
    (s.withItems (s.items.set index value), some result)

def map (f : α → β) : Sequence α → Sequence β
  | .plain items => .plain (items.map f)
  | .view base => .view (base.map f)
  | .copied base items => .copied (base.map f) (items.map f)

/-- No base is an untouched overlay. -/
def WellFormed : Sequence α → Prop
  | .plain _ => True
  | .view base => base.WellFormed ∧ base.isView = false
  | .copied base _ => base.WellFormed ∧ base.isView = false

theorem itemsOverlay (s : Sequence α) : s.overlay.items = s.items := by
  unfold overlay; split <;> rfl

theorem overlayIsOverlay (s : Sequence α) : s.overlay.isOverlay = true := by
  cases s <;> rfl

theorem overlayTwice (s : Sequence α) : s.overlay.overlay = s.overlay := by
  cases s <;> simp [overlay, isView]

theorem itemsWithItems (s : Sequence α) (items : List α) : (s.withItems items).items = items := by
  cases s <;> rfl

theorem itemsPush (s : Sequence α) (value : α) : (s.push value).items = s.items ++ [value] :=
  itemsWithItems s _

theorem itemsExtend (s : Sequence α) (values : List α) :
    (s.extend values).items = s.items ++ values := itemsWithItems s _

theorem itemsClear (s : Sequence α) : s.clear.items = [] := by cases s <;> rfl

theorem itemsMap (f : α → β) (s : Sequence α) : (s.map f).items = s.items.map f := by
  induction s with
  | plain items => rfl
  | view base ih => exact ih
  | copied base items ih => rfl

end Sequence
end Bayeux
