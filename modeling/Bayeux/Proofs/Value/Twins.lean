import Bayeux.Proofs.Value.Layers
import Bayeux.Value
import Mathlib.Data.List.Forall2
/-! Two values are twins when they show the same tree but for the order of fields, however each is
layered. Every value is a twin of its overlay and of its plain copy. -/

namespace Bayeux

namespace Json

mutual
/-- The same tree but for the order of fields; numbers are the same to the last bit. -/
inductive Reordered : Json → Json → Prop
  | null : Reordered .null .null
  | bool (b : Bool) : Reordered (.bool b) (.bool b)
  | number (n : Number) : Reordered (.number n) (.number n)
  | string (s : String) : Reordered (.string s) (.string s)
  | array {xs ys : List Json} (items : ReorderedItems xs ys) : Reordered (.array xs) (.array ys)
  | object {f g : Table Json} (names : (Table.keys f).Perm (Table.keys g))
      (values : ∀ name x y, f.get? name = some x → g.get? name = some y → Reordered x y) :
      Reordered (.object f) (.object g)
inductive ReorderedItems : List Json → List Json → Prop
  | nil : ReorderedItems [] []
  | cons {x y : Json} {xs ys : List Json} (head : Reordered x y) (tail : ReorderedItems xs ys) :
      ReorderedItems (x :: xs) (y :: ys)
end

theorem reorderedItems {xs ys : List Json} (pairs : List.Forall₂ Reordered xs ys) :
    ReorderedItems xs ys := by
  induction pairs with
  | nil => exact .nil
  | cons head _ tail => exact .cons head tail

end Json

namespace Value

/-- No object that can be seen has a table with a name twice. -/
inductive Sound : Value → Prop
  | null : Sound .null
  | bool (b : Bool) : Sound (.bool b)
  | number (n : Number) : Sound (.number n)
  | string (s : String) : Sound (.string s)
  | array {items : Sequence Value} (each : ∀ item ∈ items.items, Sound item) : Sound (.array items)
  | object {fields : Record Value} (distinct : fields.Distinct)
      (each : ∀ name value, fields.get? name = some value → Sound value) : Sound (.object fields)

inductive Twins : Value → Value → Prop
  | null : Twins .null .null
  | bool (b : Bool) : Twins (.bool b) (.bool b)
  | number (n : Number) : Twins (.number n) (.number n)
  | string (s : String) : Twins (.string s) (.string s)
  | array {a b : Sequence Value} (sizes : a.items.length = b.items.length)
      (items : ∀ (i : Nat) x y, a.items[i]? = some x → b.items[i]? = some y → Twins x y) :
      Twins (.array a) (.array b)
  | object {f g : Record Value} (left : f.Distinct) (right : g.Distinct)
      (names : ∀ name, (f.get? name).isSome = (g.get? name).isSome)
      (values : ∀ name x y, f.get? name = some x → g.get? name = some y → Twins x y) :
      Twins (.object f) (.object g)

theorem soundShown {fields : Record Value} (distinct : fields.Distinct)
    (each : ∀ field ∈ fields.entries, field.2.Sound) : (Value.object fields).Sound := by
  refine .object distinct fun name value found => ?_
  rw [← Record.getEntries] at found
  exact each _ (Table.memOfGet found)

def plainCopy (v : Value) : Value := ofJson v.visible

theorem twinsOfItems {a b : Sequence Value} (pairs : List.Forall₂ Twins a.items b.items) :
    Twins (.array a) (.array b) := by
  obtain ⟨sizes, each⟩ := List.forall₂_iff_get.mp pairs
  refine .array sizes fun i x y left right => ?_
  obtain ⟨inLeft, rfl⟩ := List.getElem?_eq_some_iff.mp left
  obtain ⟨inRight, rfl⟩ := List.getElem?_eq_some_iff.mp right
  exact each i inLeft inRight

theorem itemsOfTwins {a b : Sequence Value} (twins : Twins (.array a) (.array b)) :
    List.Forall₂ Twins a.items b.items := by
  cases twins with
  | array sizes items =>
    refine List.forall₂_iff_get.mpr ⟨sizes, fun i inLeft inRight => ?_⟩
    exact items i _ _ (List.getElem?_eq_getElem inLeft) (List.getElem?_eq_getElem inRight)

theorem twinsOfFields {f g : Record Value} (left : f.Distinct) (right : g.Distinct)
    (fields : ∀ name, Option.Rel Twins (f.get? name) (g.get? name)) :
    Twins (.object f) (.object g) := by
  refine .object left right (fun name => ?_) (fun name x y inLeft inRight => ?_)
  · have pair := fields name
    generalize f.get? name = x, g.get? name = y at pair ⊢
    cases pair <;> rfl
  · have pair := fields name
    rw [inLeft, inRight] at pair
    cases pair with
    | some twins => exact twins

theorem fieldsOfTwins {f g : Record Value} (twins : Twins (.object f) (.object g)) (name : String) :
    Option.Rel Twins (f.get? name) (g.get? name) := by
  cases twins with
  | object left right names values =>
    have shown := names name
    cases inLeft : f.get? name with
    | none =>
      rw [inLeft] at shown
      have inRight : g.get? name = none := by simpa using shown.symm
      rw [inRight]
      exact .none
    | some x =>
      rw [inLeft] at shown
      obtain ⟨y, inRight⟩ := Option.isSome_iff_exists.mp shown.symm
      rw [inRight]
      exact .some (values name x y inLeft inRight)

theorem distinctOfTwins {f g : Record Value} (twins : Twins (.object f) (.object g)) :
    f.Distinct ∧ g.Distinct := by
  cases twins with
  | object left right => exact ⟨left, right⟩

theorem twinsRefl {v : Value} (sound : v.Sound) : Twins v v := by
  induction sound with
  | null => exact .null
  | bool b => exact .bool b
  | number n => exact .number n
  | string s => exact .string s
  | array each ih =>
    refine .array rfl fun i x y left right => ?_
    cases left.symm.trans right
    exact ih x (List.mem_of_getElem? left)
  | object distinct each ih =>
    refine .object distinct distinct (fun name => rfl) fun name x y left right => ?_
    cases left.symm.trans right
    exact ih name x left

theorem twinsSymm {v w : Value} (twins : Twins v w) : Twins w v := by
  induction twins with
  | null => exact .null
  | bool b => exact .bool b
  | number n => exact .number n
  | string s => exact .string s
  | array sizes items ih => exact .array sizes.symm fun i x y left right => ih i y x right left
  | object left right names values ih =>
    exact .object right left (fun name => (names name).symm) fun name x y inRight inLeft =>
      ih name y x inLeft inRight

theorem twinsReordered {v w : Value} (twins : Twins v w) : v.visible.Reordered w.visible := by
  induction twins with
  | null => exact .null
  | bool b => exact .bool b
  | number n => exact .number n
  | string s => exact .string s
  | @array a b sizes items ih =>
    rw [visibleArray, visibleArray]
    refine .array (Json.reorderedItems (List.forall₂_iff_get.mpr ⟨by simp [sizes], ?_⟩))
    intro i inLeft inRight
    simp only [List.length_map] at inLeft inRight
    simpa using ih i _ _ (List.getElem?_eq_getElem inLeft) (List.getElem?_eq_getElem inRight)
  | @object f g left right names values ih =>
    rw [visibleObject, visibleObject]
    refine .object ?_ fun name x y inLeft inRight => ?_
    · rw [Table.keysMapValues, Table.keysMapValues]
      refine (List.perm_ext_iff_of_nodup (Record.namesOnce left) (Record.namesOnce right)).mpr ?_
      intro name
      rw [Record.memNames, Record.memNames, names]
    · rw [Table.getMapValues, Record.getEntries] at inLeft inRight
      obtain ⟨p, atLeft, rfl⟩ := Option.map_eq_some_iff.mp inLeft
      obtain ⟨q, atRight, rfl⟩ := Option.map_eq_some_iff.mp inRight
      exact ih name p q atLeft atRight

theorem sizesOfTwins {f g : Record Value} (twins : Twins (.object f) (.object g)) :
    f.size = g.size := by
  have shown := twinsReordered twins
  rw [visibleObject, visibleObject] at shown
  cases shown with
  | object names values =>
    simpa [Table.keys, Table.mapValues, Record.size] using names.length_eq

theorem twinsOverlay {v w : Value} (twins : Twins v w) : Twins v.overlay w := by
  cases twins with
  | null => exact .null
  | bool b => exact .bool b
  | number n => exact .number n
  | string s => exact .string s
  | array sizes items =>
    refine .array (by rw [Sequence.itemsOverlay, sizes]) fun i x y left right => ?_
    rw [Sequence.itemsOverlay] at left
    exact items i x y left right
  | object left right names values =>
    refine .object (Record.distinctOverlay left) right (fun name => ?_)
      fun name x y inLeft inRight => ?_
    · rw [Record.getOverlay, names]
    · rw [Record.getOverlay] at inLeft
      exact values name x y inLeft inRight

/-- An edit starts at a value or at an overlay of it. -/
theorem startTwins {v w start other : Value} (twins : Twins v w)
    (left : start = v ∨ start = v.overlay) (right : other = w ∨ other = w.overlay) :
    Twins start other := by
  have first : Twins start w := by
    rcases left with rfl | rfl
    · exact twins
    · exact twinsOverlay twins
  rcases right with rfl | rfl
  · exact first
  · exact twinsSymm (twinsOverlay (twinsSymm first))

theorem ofItemsMap (items : List Json) : ofItems items = items.map ofJson := by
  induction items with
  | nil => rfl
  | cons item rest ih => rw [ofItems, ih, List.map_cons]

theorem ofFieldsMap (fields : Table Json) : ofFields fields = fields.mapValues ofJson := by
  induction fields with
  | nil => rfl
  | cons entry rest ih => rw [ofFields, ih, Table.mapValues, Table.mapValues, List.map_cons]

theorem twinsPlainCopy {v : Value} (sound : v.Sound) : Twins v v.plainCopy := by
  induction sound with
  | null => exact .null
  | bool b => exact .bool b
  | number n => exact .number n
  | string s => exact .string s
  | @array items each ih =>
    rw [plainCopy, visibleArray, ofJson, ofItemsMap, List.map_map]
    refine .array (by simp [Sequence.items]) fun i x y left right => ?_
    simp only [Sequence.items, List.getElem?_map, left, Option.map_some, Option.some.injEq] at right
    exact right ▸ ih x (List.mem_of_getElem? left)
  | @object fields distinct each ih =>
    rw [plainCopy, visibleObject, ofJson, ofFieldsMap]
    have found : ∀ name, (Record.plain (Table.mapValues ofJson
        (Table.mapValues visible fields.entries))).get? name =
        (fields.get? name).map plainCopy := by
      intro name
      simp only [Record.get?, Table.getMapValues, Record.getEntries, Option.map_map]
      rfl
    refine .object distinct ?_ (fun name => ?_) fun name x y left right => ?_
    · unfold Record.Distinct Table.Distinct
      rw [Table.keysMapValues, Table.keysMapValues]
      exact Record.namesOnce distinct
    · rw [found, Option.isSome_map]
    · rw [found, left, Option.map_some, Option.some.injEq] at right
      exact right ▸ ih name x left

end Value
end Bayeux
