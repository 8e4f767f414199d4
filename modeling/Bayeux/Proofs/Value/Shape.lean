import Bayeux.Proofs.Value.Layers
/-! The shape of layers under each operation. No operation writes a field and leaves its tombstone,
makes a tombstone of what the base does not show, or puts an overlay over an untouched one; and
what a layer holds afterwards was held before or has just been written. -/

namespace Bayeux

theorem Table.removeWithin {α : Type} {t : Table α} {key : String} {entry : String × α}
    (inside : entry ∈ t.remove key) : entry ∈ t := by
  induction t with
  | nil => cases inside
  | cons first rest ih =>
    obtain ⟨k, v⟩ := first
    unfold remove at inside
    split at inside
    · exact List.mem_cons_of_mem _ inside
    · rcases List.mem_cons.mp inside with rfl | inside
      · exact List.mem_cons_self
      · exact List.mem_cons_of_mem _ (ih inside)

namespace Record
variable {α β : Type} {r base : Record α} {outer : Table α} {removed : List String} {name : String}

theorem hasNames (r : Record α) (name : String) : r.has name = true ↔ name ∈ r.names :=
  (memNames r name).symm

theorem wellFormedDistinct (shape : r.WellFormed) : r.Distinct := by
  induction r with
  | plain fields => exact shape
  | view base ih => exact ih shape.1
  | patched base outer removed ih =>
    obtain ⟨below, -, distinct, -⟩ := shape
    exact ⟨ih below, distinct⟩

theorem patchedStart (below : base.WellFormed) (written : base.isView = false) :
    (patched base [] []).WellFormed :=
  ⟨below, written, List.nodup_nil, List.nodup_nil, nofun, nofun⟩

theorem patchedPut (shape : (patched base outer removed).WellFormed) (alive : name ∉ removed)
    (value : α) : (patched base (Table.put outer name value) removed).WellFormed := by
  obtain ⟨below, written, distinct, once, apart, shown⟩ := shape
  refine ⟨below, written, Table.distinctPut distinct name value, once, fun other gone => ?_, shown⟩
  have different : other ≠ name := fun same => alive (same ▸ gone)
  rw [Table.getPutOther outer value different, apart other gone]

theorem patchedRevive (shape : (patched base outer removed).WellFormed) (name : String) :
    (patched base outer (removed.erase name)).WellFormed := by
  obtain ⟨below, written, distinct, once, apart, shown⟩ := shape
  exact ⟨below, written, distinct, once.erase name,
    fun other gone => apart other (List.mem_of_mem_erase gone),
    fun other gone => shown other (List.mem_of_mem_erase gone)⟩

theorem patchedDrop (shape : (patched base outer removed).WellFormed) (name : String) :
    (patched base (Table.remove outer name) removed).WellFormed := by
  obtain ⟨below, written, distinct, once, apart, shown⟩ := shape
  refine ⟨below, written, Table.distinctRemove distinct name, once, fun other gone => ?_, shown⟩
  rw [Table.getRemove distinct]
  split
  · rfl
  · exact apart other gone

theorem patchedBury (shape : (patched base outer removed).WellFormed)
    (unwritten : Table.get? outer name = none) (alive : name ∉ removed)
    (there : base.has name = true) : (patched base outer (name :: removed)).WellFormed := by
  obtain ⟨below, written, distinct, once, apart, shown⟩ := shape
  exact ⟨below, written, distinct, List.nodup_cons.mpr ⟨alive, once⟩,
    List.forall_mem_cons.mpr ⟨unwritten, apart⟩, List.forall_mem_cons.mpr ⟨there, shown⟩⟩

theorem putWellFormed (shape : r.WellFormed) (name : String) (value : α) :
    (r.put name value).WellFormed := by
  cases r with
  | plain fields => exact Table.distinctPut shape name value
  | view base => exact patchedPut (patchedStart shape.1 shape.2) List.not_mem_nil value
  | patched base outer removed =>
    obtain ⟨-, -, -, once, -⟩ := id shape
    refine patchedPut (patchedRevive shape name) ?_ value
    exact fun gone => ((List.Nodup.mem_erase_iff once).mp gone).1 rfl

theorem removeWellFormed (shape : r.WellFormed) (name : String) :
    (r.remove name).2.WellFormed := by
  cases r with
  | plain fields => exact Table.distinctRemove shape name
  | view base =>
    simp only [remove]
    cases there : base.get? name with
    | none => exact shape
    | some value =>
      refine patchedBury (patchedStart shape.1 shape.2) rfl List.not_mem_nil ?_
      rw [has, there]
      rfl
  | patched base outer removed =>
    obtain ⟨-, -, distinct, -⟩ := id shape
    have dropped := patchedDrop shape name
    by_cases gone : name ∈ removed
    · simp only [remove, gone, if_pos, Option.isSome_none, Bool.false_eq_true, if_false]
      exact dropped
    · simp only [remove, if_neg gone]
      split
      · exact patchedBury dropped (Table.getRemoveSame distinct name) gone ‹_›
      · exact dropped

theorem clearWellFormed (shape : r.WellFormed) : r.clear.WellFormed := by
  have once : ∀ {base : Record α}, base.WellFormed → base.names.Nodup :=
    fun below => namesOnce (wellFormedDistinct below)
  cases r with
  | plain fields => exact List.nodup_nil
  | view base =>
    exact ⟨shape.1, shape.2, List.nodup_nil, once shape.1, fun _ _ => rfl,
      fun name gone => (hasNames base name).mpr gone⟩
  | patched base outer removed =>
    obtain ⟨below, written, -, tombstones, -, shown⟩ := shape
    refine ⟨below, written, List.nodup_nil, ?_, fun _ _ => rfl, fun name gone => ?_⟩
    · refine List.nodup_append.mpr ⟨tombstones, (once below).filter _, ?_⟩
      rintro a old b new rfl
      simp [old] at new
    · rcases List.mem_append.mp gone with old | new
      · exact shown name old
      · exact (hasNames base name).mpr (List.mem_filter.mp new).1

theorem editWellFormed (shape : r.WellFormed) (fresh : α → α) (name : String)
    (change : α → α × β) : (r.edit fresh name change).1.WellFormed := by
  cases r with
  | plain fields =>
    simp only [edit]
    split
    · exact shape
    · exact Table.distinctPut shape name _
  | view base =>
    simp only [edit]
    split
    · exact shape
    · exact patchedPut (patchedStart shape.1 shape.2) List.not_mem_nil _
  | patched base outer removed =>
    simp only [edit]
    split
    · rename_i value own
      obtain ⟨-, -, -, -, apart, -⟩ := id shape
      refine patchedPut shape (fun gone => ?_) _
      rw [apart name gone] at own
      cases own
    · split
      · exact shape
      · rename_i alive
        split
        · exact shape
        · exact patchedPut shape alive _

/-- Every value in any layer, the hidden ones too. -/
def held : Record α → List α
  | .plain fields => fields.map Prod.snd
  | .view base => base.held
  | .patched base outer _ => outer.map Prod.snd ++ base.held

theorem getHeld {value : α} (found : r.get? name = some value) : value ∈ r.held := by
  induction r with
  | plain fields => exact List.mem_map_of_mem (Table.memOfGet found)
  | view base ih => exact ih found
  | patched base outer removed ih =>
    simp only [get?] at found
    split at found
    · rename_i own
      cases found
      exact List.mem_append_left _ (List.mem_map_of_mem (Table.memOfGet own))
    · split at found
      · cases found
      · exact List.mem_append_right _ (ih found)

theorem heldOverlay (r : Record α) : r.overlay.held = r.held := by
  unfold overlay
  split <;> rfl

theorem heldWritten {t : Table α} {value v : α}
    (inside : v ∈ (Table.put t name value).map Prod.snd) : v = value ∨ v ∈ t.map Prod.snd := by
  obtain ⟨entry, member, rfl⟩ := List.mem_map.mp inside
  rcases Table.memPut member with rfl | old
  · exact .inl rfl
  · exact .inr (List.mem_map_of_mem old)

theorem heldPatched {value v : α} {left : List String}
    (inside : v ∈ (patched base (Table.put outer name value) left).held) :
    v = value ∨ v ∈ (patched base outer removed).held := by
  rcases List.mem_append.mp inside with own | below
  · exact (heldWritten own).imp_right (List.mem_append_left _)
  · exact .inr (List.mem_append_right _ below)

theorem heldPut {value v : α} (inside : v ∈ (r.put name value).held) : v = value ∨ v ∈ r.held := by
  cases r with
  | plain fields => exact heldWritten inside
  | view base => exact List.mem_cons.mp inside
  | patched base outer removed => exact heldPatched inside

theorem heldRemove {v : α} (inside : v ∈ (r.remove name).2.held) : v ∈ r.held := by
  have dropped : ∀ {t : Table α}, v ∈ (t.remove name).map Prod.snd → v ∈ t.map Prod.snd := by
    intro t inside
    obtain ⟨entry, member, rfl⟩ := List.mem_map.mp inside
    exact List.mem_map_of_mem (Table.removeWithin member)
  cases r with
  | plain fields => exact dropped inside
  | view base =>
    simp only [remove] at inside
    split at inside <;> exact inside
  | patched base outer removed =>
    exact List.mem_append.mpr ((List.mem_append.mp inside).imp_left dropped)

theorem heldClear {v : α} (inside : v ∈ r.clear.held) : v ∈ r.held := by
  cases r with
  | plain fields => cases inside
  | view base => exact inside
  | patched base outer removed => exact List.mem_append_right _ inside

/- What a change is given was visible, or has been made of what was. -/
theorem heldEdit {fresh : α → α} {change : α → α × β} {v : α}
    (inside : v ∈ (r.edit fresh name change).1.held) :
    v ∈ r.held ∨ ∃ value start, r.get? name = some value ∧
      (start = value ∨ start = fresh value) ∧ v = (change start).1 := by
  cases r with
  | plain fields =>
    simp only [edit] at inside
    split at inside
    · exact .inl inside
    · rename_i value found
      exact (heldWritten inside).symm.imp_right fun made => ⟨value, value, found, .inl rfl, made⟩
  | view base =>
    simp only [edit] at inside
    split at inside
    · exact .inl inside
    · rename_i value found
      exact (List.mem_cons.mp inside).symm.imp_right
        fun made => ⟨value, fresh value, found, .inr rfl, made⟩
  | patched base outer removed =>
    simp only [edit] at inside
    split at inside
    · rename_i value own
      have found : (patched base outer removed).get? name = some value := by simp only [get?, own]
      exact (heldPatched inside).symm.imp_right fun made => ⟨value, value, found, .inl rfl, made⟩
    · rename_i unwritten
      split at inside
      · exact .inl inside
      · rename_i alive
        split at inside
        · exact .inl inside
        · rename_i value there
          have found : (patched base outer removed).get? name = some value := by
            simp only [get?, unwritten, if_neg alive, there]
          exact (heldPatched inside).symm.imp_right
            fun made => ⟨value, fresh value, found, .inr rfl, made⟩

theorem editAnswer {fresh : α → α} {change : α → α × β} {b : β}
    (answer : (r.edit fresh name change).2 = some b) : ∃ value start, r.get? name = some value ∧
      (start = value ∨ start = fresh value) ∧ b = (change start).2 := by
  cases found : r.get? name with
  | none =>
    rw [editAbsent fresh change found] at answer
    cases answer
  | some value =>
    obtain ⟨start, stems, given, -⟩ := editPresent fresh change found
    rw [given] at answer
    cases answer
    exact ⟨value, start, rfl, stems, rfl⟩

end Record

namespace Sequence
variable {α β : Type} {s : Sequence α}

/-- Every item of any layer, the hidden ones too. -/
def held : Sequence α → List α
  | .plain items => items
  | .view base => base.held
  | .copied base items => items ++ base.held

theorem itemsHeld {v : α} (inside : v ∈ s.items) : v ∈ s.held := by
  induction s with
  | plain items => exact inside
  | view base ih => exact ih inside
  | copied base items ih => exact List.mem_append_left _ inside

theorem heldOverlay (s : Sequence α) : s.overlay.held = s.held := by
  unfold overlay
  split <;> rfl

theorem overlayWellFormed (shape : s.WellFormed) : s.overlay.WellFormed := by
  cases s with
  | plain items => exact ⟨shape, rfl⟩
  | view base => exact shape
  | copied base items => exact ⟨shape, rfl⟩

theorem withItemsWellFormed (shape : s.WellFormed) (items : List α) :
    (s.withItems items).WellFormed := by
  cases s <;> exact shape

theorem heldWithItems {items : List α} {v : α} (inside : v ∈ (s.withItems items).held) :
    v ∈ items ∨ v ∈ s.held := by
  cases s with
  | plain old => exact .inl inside
  | view base => exact List.mem_append.mp inside
  | copied base old => exact (List.mem_append.mp inside).imp_right (List.mem_append_right _)

theorem editWellFormed (shape : s.WellFormed) (fresh : α → α) (index : Nat)
    (change : α → α × β) : (s.edit fresh index change).1.WellFormed := by
  unfold edit
  split
  · exact shape
  · exact withItemsWellFormed shape _

theorem heldEdit {fresh : α → α} {index : Nat} {change : α → α × β} {v : α}
    (inside : v ∈ (s.edit fresh index change).1.held) :
    v ∈ s.held ∨ ∃ value start, s.items[index]? = some value ∧
      (start = value ∨ start = fresh value) ∧ v = (change start).1 := by
  unfold edit at inside
  split at inside
  · exact .inl inside
  · rename_i value found
    rcases heldWithItems inside with inside | old
    · rcases List.mem_or_eq_of_mem_set inside with kept | made
      · exact .inl (itemsHeld kept)
      · refine .inr ⟨value, _, found, ?_, made⟩
        split
        · exact .inr rfl
        · exact .inl rfl
    · exact .inl old

theorem editAnswer {fresh : α → α} {index : Nat} {change : α → α × β} {b : β}
    (answer : (s.edit fresh index change).2 = some b) : ∃ value start,
      s.items[index]? = some value ∧ (start = value ∨ start = fresh value) ∧
        b = (change start).2 := by
  cases found : s.items[index]? with
  | none =>
    rw [editOutside fresh change found] at answer
    cases answer
  | some value =>
    obtain ⟨start, stems, given, -⟩ := editInside fresh change found
    rw [given] at answer
    cases answer
    exact ⟨value, start, rfl, stems, rfl⟩

end Sequence
end Bayeux
