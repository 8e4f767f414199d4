import Bayeux.Proofs.Json.Sameness
import Bayeux.Proofs.Value.Twins
import Mathlib.Data.List.Perm.Subperm
/-! Equality of values. It compares what is shown: arrays item by item, objects by equal sizes and
one look-up for each field of the left side. Names are distinct on both sides, so the look-ups
find every field of the right side too, and equality is that of trees with unordered
objects, which is an equivalence. -/

namespace Bayeux

namespace Json

theorem itemsOfReordered {xs ys : List Json} (items : ReorderedItems xs ys) :
    List.Forall₂ Reordered xs ys := by
  induction xs generalizing ys with
  | nil =>
    cases items
    exact .nil
  | cons x xs ih =>
    cases items with
    | cons head tail => exact .cons head (ih tail)

theorem sameOfReordered {j k : Json} (reordered : j.Reordered k) : j.Same k := by
  induction j using membersInduct generalizing k with
  | null =>
    cases reordered
    exact .null
  | bool b =>
    cases reordered
    exact .bool b
  | number n =>
    cases reordered
    exact .number (Number.sameRefl n)
  | string s =>
    cases reordered
    exact .string s
  | array items ih =>
    cases reordered with
    | array reordered =>
      have pairs := List.forall₂_and_left _ _ |>.mpr ⟨ih, itemsOfReordered reordered⟩
      exact .array (sameItems.mpr (pairs.imp fun _ _ pair => pair.1 pair.2))
  | object fields ih =>
    cases reordered with
    | object names values =>
      refine .object (fun name => ?_) fun name x y left right =>
        ih _ (Table.memOfGet left) (values name x y left right)
      rw [Bool.eq_iff_iff, Table.hasIff, Table.hasIff]
      exact names.mem_iff

end Json

namespace Record
variable {α β : Type} {f : Record α} {g : Record β}

/- A record of the same size that has all these names has no others. -/
theorem namesAgree (distinct : f.Distinct) (sizes : f.size = g.size)
    (shown : ∀ name, f.has name = true → g.has name = true) (name : String) :
    f.has name = g.has name := by
  have within : f.names ⊆ g.names := fun name inside =>
    (memNames g name).mpr (shown name ((memNames f name).mp inside))
  have lengths : g.names.length ≤ f.names.length := by
    simp only [names, Table.keys, List.length_map]
    exact sizes.ge
  have all := (List.subperm_of_subset (namesOnce distinct) within).perm_of_length_le lengths
  rw [Bool.eq_iff_iff, has, has, ← memNames, ← memNames]
  exact all.mem_iff

theorem sizesAgree (left : f.Distinct) (right : g.Distinct)
    (names : ∀ name, f.has name = g.has name) : f.size = g.size := by
  have all : f.names.Perm g.names := by
    refine (List.perm_ext_iff_of_nodup (namesOnce left) (namesOnce right)).mpr fun name => ?_
    rw [memNames, memNames]
    exact (Bool.eq_iff_iff.mp (names name))
  simpa [Record.names, Table.keys, size] using all.length_eq

end Record

namespace Value
variable {v w : Value}

theorem sameArrays (a b : Sequence Value) : (array a).same (array b) = true ↔
    List.Forall₂ (fun x y => x.same y = true) a.items b.items := by
  simp only [same, sameSequenceMap, Sequence.itemsMap]
  generalize a.items = xs, b.items = ys
  induction xs generalizing ys with
  | nil => cases ys <;> simp [passAll]
  | cons x xs ih => cases ys <;> simp [passAll, ih]

theorem sameObjects {f : Record Value} (distinct : f.Distinct) (g : Record Value) :
    (object f).same (object g) = true ↔ f.size = g.size ∧
      ∀ name x, f.get? name = some x → ∃ y, g.get? name = some y ∧ x.same y = true := by
  simp only [same, sameRecordMap, Record.entriesMap, passEach, Bool.and_eq_true, beq_iff_eq,
    List.all_eq_true, Table.mapValues, List.length_map, List.forall_mem_map]
  refine and_congr Iff.rfl ⟨fun passed name x found => ?_, fun each entry inside => ?_⟩
  · rw [← Record.getEntries] at found
    have here := passed _ (Table.memOfGet found)
    cases there : g.get? name with
    | none => simp [there] at here
    | some y => exact ⟨y, rfl, by simpa [there] using here⟩
  · have found := Table.getOfMem (Record.namesOnce distinct) inside
    rw [Record.getEntries] at found
    obtain ⟨y, there, passes⟩ := each entry.1 entry.2 found
    simp [there, passes]

theorem fieldsSame {f g : Record Value} (distinct : f.Distinct)
    (same : (object f).same (object g) = true) :
    (∀ name, f.has name = g.has name) ∧ f.size = g.size := by
  obtain ⟨sizes, passed⟩ := (sameObjects distinct g).mp same
  refine ⟨Record.namesAgree distinct sizes fun name shown => ?_, sizes⟩
  obtain ⟨x, found⟩ := Option.isSome_iff_exists.mp shown
  obtain ⟨y, there, -⟩ := passed name x found
  exact Option.isSome_of_eq_some there

theorem hasShown (f : Record Value) (name : String) :
    Table.has (f.entries.mapValues visible) name = f.has name := by
  simp only [Table.has, Record.has, Table.getMapValues, Record.getEntries, Option.isSome_map]

theorem shownGet {f : Record Value} {name : String} {x : Value} (found : f.get? name = some x) :
    Table.get? (f.entries.mapValues visible) name = some x.visible := by
  rw [Table.getMapValues, Record.getEntries, found, Option.map_some]

theorem sameShown (left : v.Sound) (right : w.Sound) (same : v.same w = true) :
    v.visible.Same w.visible := by
  induction left generalizing w with
  | null =>
    cases right with
    | null => exact .null
    | bool | number | string | array | object => simp [Value.same] at same
  | bool b =>
    cases right with
    | bool c =>
      obtain rfl : b = c := by simpa [Value.same] using same
      exact .bool b
    | null | number | string | array | object => simp [Value.same] at same
  | number n =>
    cases right with
    | number => exact .number same
    | null | bool | string | array | object => simp [Value.same] at same
  | string s =>
    cases right with
    | string t =>
      obtain rfl : s = t := by simpa [Value.same] using same
      exact .string s
    | null | bool | number | array | object => simp [Value.same] at same
  | @array a each ih =>
    cases right with
    | @array b others =>
      rw [visibleArray, visibleArray]
      refine .array (Json.sameItems.mpr ?_)
      have pairs := (sameArrays a b).mp same
      rw [List.forall₂_map_left_iff, List.forall₂_map_right_iff]
      refine List.forall₂_iff_get.mpr ⟨pairs.length_eq, fun i inLeft inRight => ?_⟩
      exact ih _ (List.get_mem a.items ⟨i, inLeft⟩) (others _ (List.get_mem b.items ⟨i, inRight⟩))
        (pairs.get inLeft inRight)
    | null | bool | number | string | object => simp [Value.same] at same
  | @object f distinct each ih =>
    cases right with
    | @object g distinct' others =>
      obtain ⟨-, passed⟩ := (sameObjects distinct g).mp same
      rw [visibleObject, visibleObject]
      refine .object (fun name => ?_) fun name x y inLeft inRight => ?_
      · rw [hasShown, hasShown, (fieldsSame distinct same).1]
      · rw [Table.getMapValues, Record.getEntries] at inLeft inRight
        obtain ⟨p, here, rfl⟩ := Option.map_eq_some_iff.mp inLeft
        obtain ⟨q, there, rfl⟩ := Option.map_eq_some_iff.mp inRight
        obtain ⟨y, found, passes⟩ := passed name p here
        cases there.symm.trans found
        exact ih name p here (others name q there) passes
    | null | bool | number | string | array => simp [Value.same] at same

theorem shownSame (left : v.Sound) (right : w.Sound) (shown : v.visible.Same w.visible) :
    v.same w = true := by
  induction left generalizing w with
  | null =>
    cases right with
    | null => rfl
    | bool | number | string | array | object => cases shown
  | bool b =>
    cases right with
    | bool c =>
      cases shown
      simp [Value.same]
    | null | number | string | array | object => cases shown
  | number n =>
    cases right with
    | number =>
      cases shown with
      | number same => exact same
    | null | bool | string | array | object => cases shown
  | string s =>
    cases right with
    | string t =>
      cases shown
      simp [Value.same]
    | null | bool | number | array | object => cases shown
  | @array a each ih =>
    cases right with
    | @array b others =>
      rw [visibleArray, visibleArray] at shown
      cases shown with
      | array items =>
        have pairs := Json.sameItems.mp items
        rw [List.forall₂_map_left_iff, List.forall₂_map_right_iff] at pairs
        refine (sameArrays a b).mpr ?_
        refine List.forall₂_iff_get.mpr ⟨pairs.length_eq, fun i inLeft inRight => ?_⟩
        exact ih _ (List.get_mem a.items ⟨i, inLeft⟩)
          (others _ (List.get_mem b.items ⟨i, inRight⟩)) (pairs.get inLeft inRight)
    | null | bool | number | string | object => cases shown
  | @object f distinct each ih =>
    cases right with
    | @object g distinct' others =>
      rw [visibleObject, visibleObject] at shown
      cases shown with
      | object names values =>
        have agree : ∀ name, f.has name = g.has name := fun name => by
          rw [← hasShown f, ← hasShown g, names]
        refine (sameObjects distinct g).mpr
          ⟨Record.sizesAgree distinct distinct' agree, fun name x here => ?_⟩
        obtain ⟨y, there⟩ : ∃ y, g.get? name = some y :=
          Option.isSome_iff_exists.mp ((agree name).symm.trans (Option.isSome_of_eq_some here))
        exact ⟨y, there, ih name x here (others name y there)
          (values name _ _ (shownGet here) (shownGet there))⟩
    | null | bool | number | string | array => cases shown

theorem twinsOfReordered (left : v.Sound) (right : w.Sound)
    (alike : v.visible.Reordered w.visible) : Twins v w := by
  induction left generalizing w with
  | null =>
    cases right with
    | null => exact .null
    | bool | number | string | array | object => cases alike
  | bool b =>
    cases right with
    | bool c =>
      cases alike
      exact .bool b
    | null | number | string | array | object => cases alike
  | number n =>
    cases right with
    | number m =>
      cases alike
      exact .number n
    | null | bool | string | array | object => cases alike
  | string s =>
    cases right with
    | string t =>
      cases alike
      exact .string s
    | null | bool | number | array | object => cases alike
  | @array a each ih =>
    cases right with
    | @array b others =>
      rw [visibleArray, visibleArray] at alike
      cases alike with
      | array items =>
        have pairs := Json.itemsOfReordered items
        rw [List.forall₂_map_left_iff, List.forall₂_map_right_iff] at pairs
        refine twinsOfItems (List.forall₂_iff_get.mpr ⟨pairs.length_eq, fun i inLeft inRight => ?_⟩)
        exact ih _ (List.get_mem a.items ⟨i, inLeft⟩)
          (others _ (List.get_mem b.items ⟨i, inRight⟩)) (pairs.get inLeft inRight)
    | null | bool | number | string | object => cases alike
  | @object f distinct each ih =>
    cases right with
    | @object g distinct' others =>
      rw [visibleObject, visibleObject] at alike
      cases alike with
      | object names values =>
        refine .object distinct distinct' (fun name => ?_) fun name x y here there =>
          ih name x here (others name y there)
            (values name _ _ (shownGet here) (shownGet there))
        rw [Table.keysMapValues, Table.keysMapValues] at names
        rw [Bool.eq_iff_iff, ← Record.memNames, ← Record.memNames]
        exact names.mem_iff
    | null | bool | number | string | array => cases alike

theorem soundOfTwins (twins : Twins v w) : v.Sound := by
  induction twins with
  | null => exact .null
  | bool b => exact .bool b
  | number n => exact .number n
  | string s => exact .string s
  | @array a b sizes items ih =>
    refine .array fun item inside => ?_
    obtain ⟨i, inLeft, here⟩ := List.getElem_of_mem inside
    have inRight : i < b.items.length := sizes ▸ inLeft
    exact ih i item _ (List.getElem?_eq_some_iff.mpr ⟨inLeft, here⟩)
      (List.getElem?_eq_getElem inRight)
  | @object f g left right names values ih =>
    refine .object left fun name x here => ?_
    obtain ⟨y, there⟩ : ∃ y, g.get? name = some y :=
      Option.isSome_iff_exists.mp ((names name).symm.trans (Option.isSome_of_eq_some here))
    exact ih name x y here there

theorem soundOfJson {j : Json} (distinct : j.Distinct) : (ofJson j).Sound := by
  induction j using Json.membersInduct with
  | null => exact .null
  | bool b => exact .bool b
  | number n => exact .number n
  | string s => exact .string s
  | array items ih =>
    rw [ofJson, ofItemsMap]
    refine .array fun item inside => ?_
    obtain ⟨j, member, rfl⟩ := List.mem_map.mp inside
    exact ih j member ((Json.distinctItemsIff items).mp distinct j member)
  | object fields ih =>
    rw [ofJson, ofFieldsMap]
    refine soundShown ?_ fun field inside => ?_
    · unfold Record.Distinct Table.Distinct
      rw [Table.keysMapValues]
      exact distinct.1
    · obtain ⟨entry, member, rfl⟩ := List.mem_map.mp inside
      exact ih entry member ((Json.distinctFieldsIff fields).mp distinct.2 entry member)

/- Numbers to the last bit are more than the equality of values asks for. -/
theorem twinsSame (twins : Twins v w) : v.same w = true :=
  shownSame (soundOfTwins twins) (soundOfTwins (twinsSymm twins))
    (Json.sameOfReordered (twinsReordered twins))

end Value
end Bayeux
