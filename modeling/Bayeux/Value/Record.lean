import Bayeux.Table
/-! Objects in layers. A record is a plain table, or a copy-on-write overlay over a base
record that it never changes: an untouched `view`, or `patched` by an own table of
written fields and the names removed from the base. Reading merges the two; the written
fields come first. `WellFormed` is the shape that the operations keep. -/

namespace Bayeux

inductive Record (α : Type) where
  | plain (fields : List (String × α))
  | view (base : Record α)
  | patched (base : Record α) (outer : List (String × α)) (removed : List String)

namespace Record
variable {α β : Type}

def empty : Record α := .plain []

instance : Inhabited (Record α) := ⟨empty⟩

def isOverlay : Record α → Bool
  | .plain _ => false
  | _ => true

def isView : Record α → Bool
  | .view _ => true
  | _ => false

/-- An untouched overlay stands for its own overlay. -/
def overlay (r : Record α) : Record α := if r.isView then r else .view r

def get? : Record α → String → Option α
  | .plain fields, name => Table.get? fields name
  | .view base, name => base.get? name
  | .patched base outer removed, name =>
    match Table.get? outer name with
    | some value => some value
    | none => if name ∈ removed then none else base.get? name

def has (r : Record α) (name : String) : Bool := (r.get? name).isSome

/-- The visible fields in the order in which they are written. -/
def entries : Record α → Table α
  | .plain fields => fields
  | .view base => base.entries
  | .patched base outer removed =>
    outer ++ base.entries.filter fun (name, _) => !(decide (name ∈ removed) || Table.has outer name)

def names (r : Record α) : List String := Table.keys r.entries

def size (r : Record α) : Nat := List.length r.entries

def isEmpty (r : Record α) : Bool := r.size == 0

def put : Record α → String → α → Record α
  | .plain fields, name, value => .plain (Table.put fields name value)
  | .view base, name, value => .patched base [(name, value)] []
  | .patched base outer removed, name, value =>
    .patched base (Table.put outer name value) (removed.erase name)

/-- The value that was visible, and the record without it. Removing what the base does not
show leaves a view untouched. -/
def remove : Record α → String → Option α × Record α
  | .plain fields, name => (Table.get? fields name, .plain (Table.remove fields name))
  | .view base, name =>
    match base.get? name with
    | none => (none, .view base)
    | some value => (some value, .patched base [] [name])
  | .patched base outer removed, name =>
    let inner := if name ∈ removed then none else base.get? name
    ((Table.get? outer name).or inner,
      .patched base (Table.remove outer name) (if inner.isSome then name :: removed else removed))

def clear : Record α → Record α
  | .plain _ => .plain []
  | .view base => .patched base [] base.names
  | .patched base _ removed =>
    .patched base [] (removed ++ base.names.filter fun name => !decide (name ∈ removed))

/-- Change a visible field in place. A field that only the base shows is first written into
the patch as `fresh` makes it, so that the base keeps its own; the record is
patched then, whatever the change does. `none` when the field is not visible. -/
def edit (fresh : α → α) (name : String) (change : α → α × β) : Record α → Record α × Option β
  | .plain fields =>
    match Table.get? fields name with
    | none => (.plain fields, none)
    | some value =>
      let (value, result) := change value
      (.plain (Table.put fields name value), some result)
  | .view base =>
    match base.get? name with
    | none => (.view base, none)
    | some value =>
      let (value, result) := change (fresh value)
      (.patched base [(name, value)] [], some result)
  | .patched base outer removed =>
    match Table.get? outer name with
    | some value =>
      let (value, result) := change value
      (.patched base (Table.put outer name value) removed, some result)
    | none =>
      if name ∈ removed then (.patched base outer removed, none)
      else
        match base.get? name with
        | none => (.patched base outer removed, none)
        | some value =>
          let (value, result) := change (fresh value)
          (.patched base (Table.put outer name value) removed, some result)

def map (f : α → β) : Record α → Record β
  | .plain fields => .plain (Table.mapValues f fields)
  | .view base => .view (base.map f)
  | .patched base outer removed => .patched (base.map f) (Table.mapValues f outer) removed

/-- Patches and tombstones are disjoint, tombstones name what the base shows, and no base is
an untouched overlay. -/
def WellFormed : Record α → Prop
  | .plain fields => Table.Distinct fields
  | .view base => base.WellFormed ∧ base.isView = false
  | .patched base outer removed =>
    base.WellFormed ∧ base.isView = false ∧ Table.Distinct outer ∧ removed.Nodup ∧
      (∀ name ∈ removed, Table.get? outer name = none) ∧ (∀ name ∈ removed, base.has name = true)

theorem getOverlay (r : Record α) (name : String) : r.overlay.get? name = r.get? name := by
  unfold overlay; split <;> rfl

theorem entriesOverlay (r : Record α) : r.overlay.entries = r.entries := by
  unfold overlay; split <;> rfl

theorem overlayIsOverlay (r : Record α) : r.overlay.isOverlay = true := by
  unfold overlay
  cases r <;> rfl

theorem overlayTwice (r : Record α) : r.overlay.overlay = r.overlay := by
  cases r <;> simp [overlay, isView]

theorem entriesMap (f : α → β) (r : Record α) : (r.map f).entries = r.entries.mapValues f := by
  induction r with
  | plain fields => rfl
  | view base ih => exact ih
  | patched base outer removed ih =>
    have same : ∀ name, (Table.mapValues f outer).has name = Table.has outer name := by
      intro name; simp [Table.has, Table.getMapValues]
    simp only [map, entries, ih, Table.mapValues, List.map_append, List.filter_map]
    refine congrArg _ (congrArg _ (List.filter_congr fun entry _ => ?_))
    have here := same entry.1
    simp only [Table.mapValues] at here
    simp only [Function.comp_apply, here]

theorem getPutSame (r : Record α) (name : String) (value : α) :
    (r.put name value).get? name = some value := by
  cases r with
  | plain fields => exact Table.getPutSame fields name value
  | view base => simp [put, get?, Table.get?]
  | patched base outer removed => simp [put, get?, Table.getPutSame]

theorem overlayWellFormed {r : Record α} (h : r.WellFormed) : r.overlay.WellFormed := by
  cases r with
  | plain fields => exact ⟨h, rfl⟩
  | view base => exact h
  | patched base outer removed => exact ⟨h, rfl⟩

end Record
end Bayeux
