import Bayeux.Proofs.Value.Overlays
/-! Values that are equal may stand for one another. Whatever is looked up in the one is looked up
in the other with an equal answer, at every path. This holds of all values that come of
reading a tree and editing it, layered or not. -/

namespace Bayeux.Value
variable {v w : Value}

theorem soundEditAll (sound : v.Sound) {edits : List Placed} (given : ∀ e ∈ edits, e.Sound) :
    (v.editAll edits).Sound :=
  soundOfTwins (editAllTwins (twinsRefl sound)
    (List.forall₂_same.mpr fun e inside => ⟨given e inside, .inl rfl⟩))

theorem soundChild (sound : v.Sound) {step : Step} {x : Value} (found : v.child? step = some x) :
    x.Sound := by
  cases sound with
  | null | bool | number | string => cases step <;> cases found
  | array each =>
    cases step with
    | field => cases found
    | index position => exact each x (List.mem_of_getElem? found)
  | object distinct each =>
    cases step with
    | field name => exact each name x found
    | index => cases found

theorem soundAt (path : Path) (sound : v.Sound) {x : Value} (found : v.at? path = some x) :
    x.Sound := by
  induction path generalizing v with
  | nil =>
    cases found
    exact sound
  | cons step rest ih =>
    obtain ⟨child, here, below⟩ := Option.bind_eq_some_iff.mp found
    exact ih (soundChild sound here) below

theorem childSame (left : v.Sound) (right : w.Sound) (same : v.same w = true) (step : Step) :
    Option.Rel (fun x y => x.same y = true) (v.child? step) (w.child? step) := by
  cases left with
  | null | bool | number | string =>
    cases right with
    | null | bool | number | string => cases step <;> exact .none
    | array | object => simp [Value.same] at same
  | @array a each =>
    cases right with
    | @array b others =>
      cases step with
      | field => exact .none
      | index position => exact Pairs.pairAt ((sameArrays a b).mp same) position
    | null | bool | number | string | object => simp [Value.same] at same
  | @object f distinct each =>
    cases right with
    | @object g distinct' others =>
      cases step with
      | index => exact .none
      | field name =>
        have names := (fieldsSame distinct same).1 name
        obtain ⟨-, passed⟩ := (sameObjects distinct g).mp same
        simp only [child?]
        cases here : f.get? name with
        | none =>
          rw [Record.has, Record.has, here] at names
          rw [Option.isNone_iff_eq_none.mp (Option.isSome_eq_false_iff.mp names.symm)]
          exact .none
        | some x =>
          obtain ⟨y, there, passes⟩ := passed name x here
          rw [there]
          exact .some passes
    | null | bool | number | string | array => simp [Value.same] at same

theorem atSame (path : Path) (left : v.Sound) (right : w.Sound) (same : v.same w = true) :
    Option.Rel (fun x y => x.same y = true) (v.at? path) (w.at? path) := by
  induction path generalizing v w with
  | nil => exact .some same
  | cons step rest ih =>
    unfold at?
    obtain ⟨here, there⟩ | ⟨x, y, here, there, below⟩ :=
      Pairs.relCases (childSame left right same step)
    · rw [here, there]
      exact .none
    · rw [here, there]
      exact ih (soundChild left here) (soundChild right there) below

/-- Wherever the one is looked at, the other may be looked at instead. -/
structure Interchanges (v w : Value) : Prop where
  get : ∀ path, Option.Rel (fun x y => x.same y = true) (v.at? path) (w.at? path)
  object : ∀ path f g, v.at? path = some (.object f) → w.at? path = some (.object g) →
    (∀ name, f.has name = g.has name) ∧ f.size = g.size
  array : ∀ path a b, v.at? path = some (.array a) → w.at? path = some (.array b) →
    a.size = b.size

theorem interchangesSame (left : v.Sound) (right : w.Sound) (same : v.same w = true) :
    Interchanges v w where
  get path := atSame path left right same
  object path f g here there := by
    have below := atSame path left right same
    rw [here, there, Option.rel_some_some] at below
    cases soundAt path left here with
    | object distinct => exact fieldsSame distinct below
  array path a b here there := by
    have below := atSame path left right same
    rw [here, there, Option.rel_some_some] at below
    exact ((sameArrays a b).mp below).length_eq

theorem sameIff (left : v.Sound) (right : w.Sound) :
    v.same w = true ↔ v.visible.Same w.visible :=
  ⟨sameShown left right, shownSame left right⟩

/- Trees that are read are sound, and edits keep values so. -/
theorem equalAsShown {u v w : Value} (first : u.Sound) (second : v.Sound) (third : w.Sound) :
    (u.same v = true ↔ u.visible.Same v.visible) ∧
    (u.same u = true ∧ u.same v = v.same u ∧
      (u.same v = true → v.same w = true → u.same w = true)) ∧
    (u.overlay.same u = true ∧ u.same u.overlay = true) ∧
    (u.same v = true → Interchanges u v) ∧ (Alike u v → SeenAlike u v) ∧
    (∀ j : Json, j.Distinct → (ofJson j).Sound) ∧
    ∀ edits : List Placed, (∀ e ∈ edits, e.Sound) → (u.editAll edits).Sound := by
  have exact_ := sameIff first second
  have turned : v.same u = true ↔ v.visible.Same u.visible := sameIff second first
  have overlaid := twinsOverlay (twinsRefl first)
  refine ⟨exact_, ⟨?refl, ?symm, ?trans⟩, ⟨twinsSame overlaid, twinsSame (twinsSymm overlaid)⟩,
    interchangesSame first second, fun alike => twinsSeen (twinsOfReordered first second alike),
    fun j => soundOfJson, fun edits => soundEditAll first⟩
  case refl => exact twinsSame (twinsRefl first)
  case symm =>
    rw [Bool.eq_iff_iff, exact_, turned]
    exact ⟨Json.sameSymm, Json.sameSymm⟩
  case trans =>
    intro early late
    exact shownSame first third
      (Json.sameTrans (exact_.mp early) (sameShown second third late))

/- The same fields in another order, under a patch that hides one, and with the zeros unlike. -/
theorem equalAsShownLayered :
    let zero : Value := .number (.real ⟨0, by decide⟩)
    let negative : Value := .number (.real ⟨0x8000_0000_0000_0000, by decide⟩)
    let u : Value := .object (.patched (.plain [("a", .null), ("gone", .bool true)])
      [("list", .array (.copied (.plain []) [.null])), ("a", zero)] ["gone"])
    let v : Value := .object (.plain [("a", negative), ("list", .array (.plain [.null]))])
    let w : Value := v.overlay
    u.Sound ∧ v.Sound ∧ w.Sound ∧ u.same v = true ∧ v.same w = true ∧
      u.visible.Same v.visible ∧ v.same u = true ∧ u.same w = true ∧ Interchanges u v ∧
      ∀ edits : List Placed, (∀ e ∈ edits, e.Sound) → (u.editAll edits).Sound := by
  intro zero negative u v w
  have list : ∀ items : Sequence Value, items.items = [.null] → (array items).Sound := by
    intro items shown
    refine .array fun item inside => ?_
    rw [shown, List.mem_singleton] at inside
    exact inside ▸ .null
  have first : u.Sound := by
    refine soundShown (by decide : ["a", "gone"].Nodup ∧ ["list", "a"].Nodup) ?_
    exact List.forall_mem_cons.mpr ⟨list _ rfl, List.forall_mem_singleton.mpr (.number _)⟩
  have second : v.Sound := by
    refine soundShown (by decide : ["a", "list"].Nodup) ?_
    exact List.forall_mem_cons.mpr ⟨.number _, List.forall_mem_singleton.mpr (list _ rfl)⟩
  have third : w.Sound := soundOfTwins (twinsOverlay (twinsRefl second))
  have same : u.same v = true := by decide
  have later : v.same w = true := by decide
  obtain ⟨shown, ⟨-, turned, chained⟩, -, stands, -, -, built⟩ := equalAsShown first second third
  exact ⟨first, second, third, same, later, shown.mp same, turned ▸ same, chained same later,
    stands same, built⟩

end Bayeux.Value
