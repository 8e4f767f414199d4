import Bayeux.Json
import Bayeux.Proofs.Table
import Mathlib.Data.List.Forall2
/-! Trees whose objects are read as unordered maps. To be the same in this sense is an equivalence;
arrays are compared item by item. -/

namespace Bayeux.Json

/-- Induction on trees, with all items and all fields at once. -/
theorem membersInduct {P : Json → Prop} (null : P .null) (bool : ∀ b, P (.bool b))
    (number : ∀ n, P (.number n)) (string : ∀ s, P (.string s))
    (array : ∀ items, (∀ item ∈ items, P item) → P (.array items))
    (object : ∀ fields : Table Json, (∀ entry ∈ fields, P entry.2) → P (.object fields)) :
    ∀ j, P j :=
  @Json.rec P (fun items => ∀ item ∈ items, P item) (fun fields => ∀ entry ∈ fields, P entry.2)
    (fun entry => P entry.2) null bool number string array object
    (fun _ inside => absurd inside List.not_mem_nil)
    (fun _ _ head rest => List.forall_mem_cons.mpr ⟨head, rest⟩)
    (fun _ inside => absurd inside List.not_mem_nil)
    (fun _ _ head rest => List.forall_mem_cons.mpr ⟨head, rest⟩) (fun _ _ value => value)

theorem distinctItemsIff (items : List Json) :
    DistinctItems items ↔ ∀ item ∈ items, Distinct item := by
  induction items with
  | nil => simp [DistinctItems]
  | cons item items ih => simp [DistinctItems, ih]

theorem distinctFieldsIff (fields : Table Json) :
    DistinctFields fields ↔ ∀ field ∈ fields, Distinct field.2 := by
  induction fields with
  | nil => simp [DistinctFields]
  | cons field fields ih => simp [DistinctFields, ih]

theorem sameItems {xs ys : List Json} : SameItems xs ys ↔ List.Forall₂ Same xs ys := by
  constructor
  · intro items
    induction xs generalizing ys with
    | nil =>
      cases items
      exact .nil
    | cons x xs ih =>
      cases items with
      | cons head tail => exact .cons head (ih tail)
  · intro pairs
    induction pairs with
    | nil => exact .nil
    | cons head _ tail => exact .cons head tail

theorem sameRefl (j : Json) : j.Same j := by
  induction j using membersInduct with
  | null => exact .null
  | bool b => exact .bool b
  | number n => exact .number (Number.sameRefl n)
  | string s => exact .string s
  | array items ih => exact .array (sameItems.mpr (List.forall₂_same.mpr ih))
  | object fields ih =>
    refine .object (fun _ => rfl) fun name x y left right => ?_
    cases left.symm.trans right
    exact ih _ (Table.memOfGet left)

theorem sameSymm {j k : Json} (same : j.Same k) : k.Same j := by
  induction j using membersInduct generalizing k with
  | null =>
    cases same
    exact .null
  | bool b =>
    cases same
    exact .bool b
  | number n =>
    cases same with
    | number same => exact .number (Number.sameSymm same)
  | string s =>
    cases same
    exact .string s
  | array items ih =>
    cases same with
    | array same =>
      have turned := List.forall₂_and_left _ _ |>.mpr ⟨ih, sameItems.mp same⟩
      exact .array (sameItems.mpr (turned.imp fun _ _ pair => pair.1 pair.2).flip)
  | object fields ih =>
    cases same with
    | object names values =>
      refine .object (fun name => (names name).symm) fun name y x right left => ?_
      exact ih _ (Table.memOfGet left) (values name x y left right)

theorem sameTrans {j k l : Json} (first : j.Same k) (second : k.Same l) : j.Same l := by
  induction j using membersInduct generalizing k l with
  | null =>
    cases first
    exact second
  | bool b =>
    cases first
    exact second
  | number n =>
    cases first with
    | number before =>
      cases second with
      | number after => exact .number (Number.sameTrans before after)
  | string s =>
    cases first
    exact second
  | array items ih =>
    cases first with
    | array before =>
      cases second with
      | @array _ zs after =>
        refine .array (sameItems.mpr ?_)
        have early := List.forall₂_and_left _ _ |>.mpr ⟨ih, sameItems.mp before⟩
        have late := sameItems.mp after
        clear ih before after
        induction early generalizing zs with
        | nil =>
          cases late
          exact .nil
        | cons pair _ tail =>
          cases late with
          | cons next others => exact .cons (pair.1 pair.2 next) (tail others)
  | object fields ih =>
    cases first with
    | object names values =>
      cases second with
      | object others rest =>
        refine .object (fun name => (names name).trans (others name)) fun name x z left right => ?_
        obtain ⟨y, middle⟩ : ∃ y, Table.get? _ name = some y :=
          Option.isSome_iff_exists.mp ((names name).symm.trans (Option.isSome_of_eq_some left))
        exact ih _ (Table.memOfGet left) (values name x y left middle) (rest name y z middle right)

end Bayeux.Json
