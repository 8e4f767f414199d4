/-! Insertion-ordered tables keyed by text.
Writing a key that is present keeps its place, writing a new one appends it, and
removing a key keeps the order of the others. Keys are distinct in every table
built by these operations; `Distinct` says so where a statement needs it. -/

namespace Bayeux

abbrev Table (α : Type) := List (String × α)

namespace Table
variable {α β : Type}

def get? : Table α → String → Option α
  | [], _ => none
  | (k, v) :: rest, key => if k = key then some v else get? rest key

def has (t : Table α) (key : String) : Bool := (t.get? key).isSome

def put : Table α → String → α → Table α
  | [], key, value => [(key, value)]
  | (k, v) :: rest, key, value =>
    if k = key then (k, value) :: rest else (k, v) :: put rest key value

def remove : Table α → String → Table α
  | [], _ => []
  | (k, v) :: rest, key => if k = key then rest else (k, v) :: remove rest key

def keys (t : Table α) : List String := t.map Prod.fst

def Distinct (t : Table α) : Prop := t.keys.Nodup

def mapValues (f : α → β) (t : Table α) : Table β := t.map fun (k, v) => (k, f v)

theorem getPutSame (t : Table α) (key : String) (value : α) :
    (t.put key value).get? key = some value := by
  induction t with
  | nil => simp [put, get?]
  | cons entry rest ih =>
    obtain ⟨k, v⟩ := entry
    by_cases h : k = key <;> simp [put, get?, h, ih]

theorem getPutOther (t : Table α) {key other : String} (value : α) (h : other ≠ key) :
    (t.put key value).get? other = t.get? other := by
  induction t with
  | nil => simp [put, get?, Ne.symm h]
  | cons entry rest ih =>
    obtain ⟨k, v⟩ := entry
    by_cases hk : k = key
    · simp [put, get?, hk, Ne.symm h]
    · simp [put, get?, hk, ih]

theorem getRemoveOther (t : Table α) {key other : String} (h : other ≠ key) :
    (t.remove key).get? other = t.get? other := by
  induction t with
  | nil => rfl
  | cons entry rest ih =>
    obtain ⟨k, v⟩ := entry
    by_cases hk : k = key
    · simp [remove, get?, hk, Ne.symm h]
    · simp [remove, get?, hk, ih]

theorem getNoneIff (t : Table α) (key : String) : t.get? key = none ↔ key ∉ t.keys := by
  induction t with
  | nil => simp [get?, keys]
  | cons entry rest ih =>
    obtain ⟨k, v⟩ := entry
    simp only [keys] at ih
    by_cases hk : k = key
    · simp [get?, keys, hk]
    · simp [get?, keys, hk, ih, Ne.symm hk]

theorem hasIff (t : Table α) (key : String) : t.has key = true ↔ key ∈ t.keys := by
  have h := getNoneIff t key
  unfold has
  cases hg : t.get? key with
  | none => simpa using h.mp hg
  | some v => simpa [hg] using h

theorem keysPut (t : Table α) (key : String) (value : α) :
    (t.put key value).keys = if key ∈ t.keys then t.keys else t.keys ++ [key] := by
  induction t with
  | nil => simp [put, keys]
  | cons entry rest ih =>
    obtain ⟨k, v⟩ := entry
    simp only [keys] at ih
    by_cases hk : k = key
    · simp [put, keys, hk]
    · simp only [put, if_neg hk, keys, List.map_cons, ih, List.mem_cons, Ne.symm hk, false_or]
      by_cases hm : key ∈ List.map Prod.fst rest <;> simp [hm]

theorem keysRemove (t : Table α) (key : String) : (t.remove key).keys = t.keys.erase key := by
  induction t with
  | nil => rfl
  | cons entry rest ih =>
    obtain ⟨k, v⟩ := entry
    simp only [keys] at ih
    by_cases hk : k = key
    · simp [remove, keys, hk]
    · simp [remove, keys, hk, ih]

theorem distinctPut {t : Table α} (h : t.Distinct) (key : String) (value : α) :
    (t.put key value).Distinct := by
  unfold Distinct at *
  rw [keysPut]
  split
  · exact h
  · rename_i absent
    refine List.nodup_append.mpr ⟨h, by simp, ?_⟩
    intro a ha b hb
    rw [List.mem_singleton.mp hb]
    exact fun same => absent (same ▸ ha)

theorem distinctRemove {t : Table α} (h : t.Distinct) (key : String) :
    (t.remove key).Distinct := by
  unfold Distinct at *
  rw [keysRemove]
  exact h.erase key

theorem getRemoveSame {t : Table α} (h : t.Distinct) (key : String) :
    (t.remove key).get? key = none := by
  rw [getNoneIff, keysRemove]
  exact fun inside => (h.mem_erase_iff.mp inside).1 rfl

theorem getMapValues (f : α → β) (t : Table α) (key : String) :
    (t.mapValues f).get? key = (t.get? key).map f := by
  induction t with
  | nil => rfl
  | cons entry rest ih =>
    obtain ⟨k, v⟩ := entry
    simp only [mapValues] at ih
    by_cases hk : k = key <;> simp [mapValues, get?, hk, ih]

theorem keysMapValues (f : α → β) (t : Table α) : (t.mapValues f).keys = t.keys := by
  simp [mapValues, keys, Function.comp_def]

end Table
end Bayeux
