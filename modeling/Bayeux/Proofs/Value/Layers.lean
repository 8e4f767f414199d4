import Bayeux.Proofs.Table
import Bayeux.Value.Record
import Bayeux.Value.Sequence
/-! Layered records and sequences as what they show: a record is a finite function from names,
a sequence is a list, and each operation is said once as a change of these, whatever the
layers below. -/

namespace Bayeux

namespace Table
variable {α : Type}

theorem getAppend (t u : Table α) (key : String) :
    Table.get? (t ++ u) key = (t.get? key).or (u.get? key) := by
  induction t with
  | nil => rfl
  | cons entry rest ih =>
    obtain ⟨k, v⟩ := entry
    by_cases h : k = key
    · simp [get?, h]
    · simpa [get?, h] using ih

theorem getFilter (keep : String → Bool) (t : Table α) (key : String) :
    Table.get? (t.filter fun entry => keep entry.1) key =
      if keep key = true then t.get? key else none := by
  induction t with
  | nil => simp [get?]
  | cons entry rest ih =>
    obtain ⟨k, v⟩ := entry
    by_cases h : k = key
    · subst k
      by_cases kept : keep key = true
      · simp [get?, kept]
      · rw [List.filter_cons, if_neg kept, ih]
        simp [kept]
    · rw [List.filter_cons]
      split <;> simp [get?, h, ih]

end Table

namespace Record
variable {α β : Type}

/-- Every table of the layers names each field once. -/
def Distinct : Record α → Prop
  | .plain fields => Table.Distinct fields
  | .view base => base.Distinct
  | .patched base outer _ => base.Distinct ∧ Table.Distinct outer

theorem getEntries (r : Record α) (name : String) : r.entries.get? name = r.get? name := by
  induction r with
  | plain fields => rfl
  | view base ih => exact ih
  | patched base outer removed ih =>
    have kept := Table.getFilter
      (fun name => !(decide (name ∈ removed) || Table.has outer name)) base.entries name
    have written : Table.has outer name = (Table.get? outer name).isSome := rfl
    simp only [entries, get?]
    rw [Table.getAppend, kept, ih, written]
    cases Table.get? outer name with
    | some value => rfl
    | none => by_cases gone : name ∈ removed <;> simp [gone]

theorem memNames (r : Record α) (name : String) : name ∈ r.names ↔ (r.get? name).isSome = true := by
  rw [names, ← Table.isSomeIff, getEntries]

theorem namesOnce {r : Record α} (distinct : r.Distinct) : r.names.Nodup := by
  induction r with
  | plain fields => exact distinct
  | view base ih => exact ih distinct
  | patched base outer removed ih =>
    obtain ⟨below, above⟩ := distinct
    unfold names Table.keys entries
    rw [List.map_append]
    refine List.nodup_append.mpr ⟨above, ?_, ?_⟩
    · exact List.Sublist.nodup (List.filter_sublist.map _) (ih below)
    · rintro a written b shown rfl
      obtain ⟨entry, kept, rfl⟩ := List.mem_map.mp shown
      have fresh := (List.mem_filter.mp kept).2
      have there := (Table.hasIff outer entry.1).mpr written
      simp [there] at fresh

theorem distinctOverlay {r : Record α} (distinct : r.Distinct) : r.overlay.Distinct := by
  unfold overlay
  split <;> exact distinct

theorem distinctPut {r : Record α} (distinct : r.Distinct) (name : String) (value : α) :
    (r.put name value).Distinct := by
  cases r with
  | plain fields => exact Table.distinctPut distinct name value
  | view base => exact ⟨distinct, by simp [Table.Distinct, Table.keys]⟩
  | patched base outer removed => exact ⟨distinct.1, Table.distinctPut distinct.2 name value⟩

theorem getPut (r : Record α) (name other : String) (value : α) :
    (r.put name value).get? other = if other = name then some value else r.get? other := by
  cases r with
  | plain fields => exact Table.getPut fields name other value
  | view base =>
    by_cases h : other = name
    · simp [put, get?, Table.get?, h]
    · simp [put, get?, Table.get?, h, Ne.symm h]
  | patched base outer removed =>
    simp only [put, get?, Table.getPut]
    by_cases h : other = name
    · simp [h]
    · simp [h, List.mem_erase_of_ne h]

theorem distinctRemove {r : Record α} (distinct : r.Distinct) (name : String) :
    (r.remove name).2.Distinct := by
  cases r with
  | plain fields => exact Table.distinctRemove distinct name
  | view base =>
    simp only [remove]
    cases base.get? name with
    | none => exact distinct
    | some value => exact ⟨distinct, List.nodup_nil⟩
  | patched base outer removed => exact ⟨distinct.1, Table.distinctRemove distinct.2 name⟩

theorem removed (r : Record α) (name : String) : (r.remove name).1 = r.get? name := by
  cases r with
  | plain fields => rfl
  | view base =>
    simp only [remove, get?]
    cases base.get? name <;> rfl
  | patched base outer removed =>
    simp only [remove, get?]
    cases Table.get? outer name <;> rfl

theorem getRemove {r : Record α} (distinct : r.Distinct) (name other : String) :
    (r.remove name).2.get? other = if other = name then none else r.get? other := by
  cases r with
  | plain fields => exact Table.getRemove distinct name other
  | view base =>
    simp only [remove]
    cases found : base.get? name with
    | none =>
      by_cases h : other = name
      · simp [h, get?, found]
      · simp [h]
    | some value => by_cases h : other = name <;> simp [get?, Table.get?, h]
  | patched base outer removed =>
    simp only [remove, get?, Table.getRemove distinct.2]
    by_cases h : other = name
    · -- What is removed is gone from the patch; below it there was nothing or there is a
      -- tombstone, an old one or the one just made.
      subst other
      by_cases gone : name ∈ removed
      · simp [gone]
      · cases found : base.get? name <;> simp [gone]
    · have tombstones : ∀ inner : Option α,
          (other ∈ if inner.isSome then name :: removed else removed) ↔ other ∈ removed := by
        intro inner
        split <;> simp [h]
      simp only [if_neg h, tombstones]

theorem distinctClear {r : Record α} (distinct : r.Distinct) : r.clear.Distinct := by
  cases r with
  | plain fields => exact List.nodup_nil
  | view base => exact ⟨distinct, List.nodup_nil⟩
  | patched base outer removed => exact ⟨distinct.1, List.nodup_nil⟩

theorem getClear (r : Record α) (name : String) : r.clear.get? name = none := by
  have hidden : ∀ base : Record α, name ∉ base.names → base.get? name = none := by
    intro base absent
    rw [memNames, Bool.not_eq_true, Option.isSome_eq_false_iff, Option.isNone_iff_eq_none] at absent
    exact absent
  cases r with
  | plain fields => rfl
  | view base =>
    simp only [clear, get?, Table.get?]
    split
    · rfl
    · rename_i absent
      exact hidden base absent
  | patched base outer removed =>
    simp only [clear, get?, Table.get?]
    split
    · rfl
    · rename_i absent
      refine hidden base fun inside => absent ?_
      by_cases gone : name ∈ removed <;> simp [gone, inside]

theorem editAbsent (fresh : α → α) {name : String} (change : α → α × β) {r : Record α}
    (absent : r.get? name = none) : r.edit fresh name change = (r, none) := by
  cases r with
  | plain fields => simp only [get?] at absent; simp [edit, absent]
  | view base => simp only [get?] at absent; simp [edit, absent]
  | patched base outer removed =>
    simp only [get?] at absent
    cases written : Table.get? outer name with
    | some value => simp [written] at absent
    | none =>
      rw [written] at absent
      by_cases gone : name ∈ removed
      · simp [edit, written, gone]
      · simp only [if_neg gone] at absent
        simp [edit, written, gone, absent]

/- The change starts from the field as it was or as `fresh` made it. -/
theorem editPresent (fresh : α → α) {name : String} (change : α → α × β) {r : Record α} {value : α}
    (present : r.get? name = some value) :
    ∃ start, (start = value ∨ start = fresh value) ∧
      (r.edit fresh name change).2 = some (change start).2 ∧
      (r.Distinct → (r.edit fresh name change).1.Distinct) ∧
      ∀ other, (r.edit fresh name change).1.get? other =
        if other = name then some (change start).1 else r.get? other := by
  cases r with
  | plain fields =>
    simp only [get?] at present
    refine ⟨value, .inl rfl, by simp [edit, present], ?_, fun other => ?_⟩
    · simp only [edit, present]
      exact fun distinct => Table.distinctPut distinct _ _
    · simp only [edit, present]
      exact Table.getPut fields name other _
  | view base =>
    simp only [get?] at present
    refine ⟨fresh value, .inr rfl, by simp [edit, present], ?_, fun other => ?_⟩
    · simp only [edit, present]
      exact fun distinct => ⟨distinct, by simp [Table.Distinct, Table.keys]⟩
    · simp only [edit, present]
      exact getPut (view base) name other _
  | patched base outer removed =>
    have rewritten : ∀ (changed : α) (other : String),
        (patched base (Table.put outer name changed) removed).get? other =
          if other = name then some changed else (patched base outer removed).get? other := by
      intro changed other
      simp only [get?, Table.getPut]
      by_cases h : other = name <;> simp [h]
    simp only [get?] at present
    cases written : Table.get? outer name with
    | some own =>
      simp only [written, Option.some.injEq] at present
      subst own
      refine ⟨value, .inl rfl, by simp [edit, written], ?_, ?_⟩
      · simp only [edit, written]
        exact fun distinct => ⟨distinct.1, Table.distinctPut distinct.2 _ _⟩
      · simp only [edit, written]
        exact rewritten _
    | none =>
      simp only [written] at present
      split at present
      · cases present
      · rename_i shown
        refine ⟨fresh value, .inr rfl, by simp [edit, written, shown, present], ?_, ?_⟩
        · simp only [edit, written, if_neg shown, present]
          exact fun distinct => ⟨distinct.1, Table.distinctPut distinct.2 _ _⟩
        · simp only [edit, written, if_neg shown, present]
          exact rewritten _

end Record

namespace Sequence
variable {α β : Type}

theorem editOutside (fresh : α → α) {index : Nat} (change : α → α × β) {s : Sequence α}
    (absent : s.items[index]? = none) : s.edit fresh index change = (s, none) := by
  simp [edit, get?, absent]

theorem editInside (fresh : α → α) {index : Nat} (change : α → α × β) {s : Sequence α} {value : α}
    (present : s.items[index]? = some value) :
    ∃ start, (start = value ∨ start = fresh value) ∧
      (s.edit fresh index change).2 = some (change start).2 ∧
      (s.edit fresh index change).1.items = s.items.set index (change start).1 := by
  refine ⟨if s.isView then fresh value else value, ?_, ?_, ?_⟩
  · split
    · exact .inr rfl
    · exact .inl rfl
  · simp [edit, get?, present]
  · simp [edit, get?, present, itemsWithItems]

theorem setItems (s : Sequence α) (index : Nat) (value : α) :
    (s.set index value).1 = s.items[index]? ∧
      (s.set index value).2.items = s.items.set index value := by
  unfold set get?
  cases found : s.items[index]? with
  | none =>
    have beyond := List.getElem?_eq_none_iff.mp found
    exact ⟨rfl, (List.set_eq_of_length_le beyond).symm⟩
  | some old => exact ⟨rfl, itemsWithItems s _⟩

theorem insertItems (s : Sequence α) (index : Nat) (value : α) :
    (s.insert index value).1 = decide (index ≤ s.items.length) ∧
      (s.insert index value).2.items = if index ≤ s.items.length
        then s.items.take index ++ value :: s.items.drop index else s.items := by
  unfold insert size
  split
  · rename_i inside
    exact ⟨by simp [inside], itemsWithItems s _⟩
  · rename_i outside
    exact ⟨by simp [outside], itemsWithItems s _⟩

theorem removeItems (s : Sequence α) (index : Nat) :
    (s.remove index).1 = s.items[index]? ∧
      (s.remove index).2.items = s.items.eraseIdx index := by
  unfold remove get?
  cases found : s.items[index]? with
  | none =>
    have beyond := List.getElem?_eq_none_iff.mp found
    exact ⟨rfl, (List.eraseIdx_of_length_le beyond).symm⟩
  | some old => exact ⟨rfl, itemsWithItems s _⟩

end Sequence
end Bayeux
