import Bayeux.Table
import Mathlib.Data.Finset.Card
/-! Tables with distinct keys are finite functions: what a key finds after each operation, and
the entries read as a set of pairs when the values are lists. -/

namespace Bayeux.Table
variable {α : Type}

theorem getPut (t : Table α) (key other : String) (value : α) :
    (t.put key value).get? other = if other = key then some value else t.get? other := by
  by_cases h : other = key
  · rw [if_pos h, h, getPutSame]
  · rw [if_neg h, getPutOther t value h]

theorem getRemove {t : Table α} (distinct : t.Distinct) (key other : String) :
    (t.remove key).get? other = if other = key then none else t.get? other := by
  by_cases h : other = key
  · rw [if_pos h, h, getRemoveSame distinct]
  · rw [if_neg h, getRemoveOther t h]

theorem removeAbsent {t : Table α} {key : String} (absent : t.get? key = none) :
    t.remove key = t := by
  induction t with
  | nil => rfl
  | cons entry rest ih =>
    obtain ⟨k, v⟩ := entry
    by_cases same : k = key
    · simp [get?, same] at absent
    · simp only [get?, if_neg same] at absent
      simp only [remove, if_neg same, ih absent]

theorem isSomeIff (t : Table α) (key : String) : (t.get? key).isSome = true ↔ key ∈ t.keys :=
  hasIff t key

theorem memOfGet {t : Table α} {key : String} {value : α} (found : t.get? key = some value) :
    (key, value) ∈ t := by
  induction t with
  | nil => cases found
  | cons entry rest ih =>
    obtain ⟨k, v⟩ := entry
    by_cases h : k = key
    · simp only [get?, if_pos h] at found
      cases found
      exact h ▸ List.mem_cons_self
    · simp only [get?, if_neg h] at found
      exact List.mem_cons_of_mem _ (ih found)

theorem getOfMem {t : Table α} (distinct : t.Distinct) {key : String} {value : α}
    (inside : (key, value) ∈ t) : t.get? key = some value := by
  induction t with
  | nil => cases inside
  | cons entry rest ih =>
    obtain ⟨k, v⟩ := entry
    obtain ⟨fresh, distinct⟩ := List.nodup_cons.mp distinct
    rcases List.mem_cons.mp inside with same | inside
    · cases same
      simp [get?]
    · have other : k ≠ key := fun same => fresh (same ▸ List.mem_map.mpr ⟨_, inside, rfl⟩)
      simp only [get?, if_neg other]
      exact ih distinct inside

/- The order of the entries does not count. -/
theorem getPerm {t u : Table α} (distinct : t.Distinct) (perm : t.Perm u) (key : String) :
    t.get? key = u.get? key := by
  cases found : u.get? key with
  | none =>
    have absent := (getNoneIff u key).mp found
    exact (getNoneIff t key).mpr fun inside => absent ((perm.map Prod.fst).mem_iff.mp inside)
  | some value => exact getOfMem distinct (perm.mem_iff.mpr (memOfGet found))

theorem putPresent {t : Table α} {key : String} (value : α) (present : key ∈ t.keys) :
    (t.put key value).keys = t.keys := by
  rw [keysPut, if_pos present]

theorem memPut {t : Table α} {key : String} {value : α} {entry : String × α}
    (inside : entry ∈ t.put key value) : entry = (key, value) ∨ entry ∈ t := by
  induction t with
  | nil => exact .inl (List.mem_singleton.mp inside)
  | cons first rest ih =>
    obtain ⟨k, held⟩ := first
    unfold put at inside
    split at inside
    · rename_i same
      rcases List.mem_cons.mp inside with rfl | inside
      · exact .inl (same ▸ rfl)
      · exact .inr (List.mem_cons_of_mem _ inside)
    · rcases List.mem_cons.mp inside with rfl | inside
      · exact .inr List.mem_cons_self
      · exact (ih inside).imp_right (List.mem_cons_of_mem _)

theorem putFresh {t : Table α} {key : String} (fresh : key ∉ t.keys) (value : α) :
    t.put key value = t ++ [(key, value)] := by
  induction t with
  | nil => rfl
  | cons entry rest ih =>
    obtain ⟨k, held⟩ := entry
    simp only [keys, List.map_cons, List.mem_cons, not_or] at fresh
    rw [put, if_neg (Ne.symm fresh.1), ih fresh.2]
    rfl

theorem putComm {t : Table α} {a b : String} (x y : α) (different : a ≠ b)
    (left : a ∈ t.keys) (right : b ∈ t.keys) :
    (t.put a x).put b y = (t.put b y).put a x := by
  induction t with
  | nil => simp [keys] at left
  | cons entry rest ih =>
    obtain ⟨k, v⟩ := entry
    simp only [keys, List.map_cons, List.mem_cons] at left right
    by_cases ha : k = a
    · have hb : k ≠ b := ha ▸ different
      simp [put, ha, different]
    · by_cases hb : k = b
      · simp [put, hb, different.symm]
      · have inRest := ih (left.resolve_left (Ne.symm ha)) (right.resolve_left (Ne.symm hb))
        simp [put, ha, hb, inRest]

/-- Each key with each item of its list. -/
def pairs (t : Table (List String)) : List (String × String) :=
  t.flatMap fun entry => entry.2.map (Prod.mk entry.1)

theorem memPairs {t : Table (List String)} (distinct : t.Distinct) (key item : String) :
    (key, item) ∈ t.pairs ↔ ∃ items, t.get? key = some items ∧ item ∈ items := by
  simp only [pairs, List.mem_flatMap, List.mem_map]
  constructor
  · rintro ⟨⟨k, items⟩, inside, x, member, same⟩
    cases same
    exact ⟨items, getOfMem distinct inside, member⟩
  · rintro ⟨items, found, member⟩
    exact ⟨(key, items), memOfGet found, item, member, rfl⟩

theorem lengthPairs (t : Table (List String)) :
    t.pairs.length = (t.flatMap fun entry => entry.2).length := by
  simp [pairs, List.length_flatMap]

theorem nodupPairs {t : Table (List String)} (distinct : t.Distinct)
    (once : ∀ key items, t.get? key = some items → items.Nodup) : t.pairs.Nodup := by
  refine List.nodup_flatMap.mpr ⟨?_, ?_⟩
  · rintro ⟨key, items⟩ inside
    exact (once key items (getOfMem distinct inside)).map fun _ _ same => (Prod.mk.inj same).2
  · have apart : List.Pairwise (fun a b : String × List String => a.1 ≠ b.1) t :=
      List.pairwise_map.mp distinct
    refine apart.imp ?_
    rintro ⟨a, xs⟩ ⟨b, ys⟩ different pair left right
    obtain ⟨x, _, rfl⟩ := List.mem_map.mp left
    obtain ⟨y, _, same⟩ := List.mem_map.mp right
    exact different (Prod.mk.inj same).1.symm

theorem cardPairs {t : Table (List String)} (distinct : t.Distinct)
    (once : ∀ key items, t.get? key = some items → items.Nodup) :
    t.pairs.toFinset.card = (t.flatMap fun entry => entry.2).length := by
  rw [List.toFinset_card_of_nodup (nodupPairs distinct once), lengthPairs]

end Bayeux.Table
