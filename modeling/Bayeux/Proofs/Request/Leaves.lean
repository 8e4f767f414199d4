import Bayeux.Proofs.Request.Slots
/-! Structures as the leaves they are made of, each with its name, its reader and its place. A
structure is read from an object if every leaf is read from the field of its name, and then
that is all there is to it. -/

namespace Bayeux.Decode
variable {σ α : Type} {find : String → Option Json} {absent s after : σ}

structure Leaf (σ : Type) where
  {α : Type}
  name : String
  reader : Reader α
  get : σ → α
  set : α → σ → σ

namespace Leaf

def slot (leaf : Leaf σ) : JsonSlot σ := Decode.slot leaf.name leaf.reader leaf.set

structure Lawful (leaf : Leaf σ) : Prop where
  given : ∀ a s, leaf.get (leaf.set a s) = a
  kept : ∀ s, leaf.set (leaf.get s) s = s

/-- Two leaves at different places. -/
structure Beside (a b : Leaf σ) : Prop where
  names : a.name ≠ b.name
  free : ∀ x y s, b.set y (a.set x s) = a.set x (b.set y s)

variable {a b leaf : Leaf σ}

theorem Beside.symm (beside : a.Beside b) : b.Beside a :=
  ⟨beside.names.symm, fun x y s => (beside.free y x s).symm⟩

theorem Beside.stays (beside : a.Beside b) (lawful : b.Lawful) (x : a.α) (s : σ) :
    b.get (a.set x s) = b.get s := by
  calc b.get (a.set x s) = b.get (a.set x (b.set (b.get s) s)) := by rw [lawful.kept]
    _ = b.get (b.set (b.get s) (a.set x s)) := by rw [beside.free]
    _ = b.get s := lawful.given _ _

end Leaf

/-- The leaves are of different places, and the structure is nothing but them. -/
structure Covers (leaves : List (Leaf σ)) : Prop where
  lawful : ∀ leaf ∈ leaves, leaf.Lawful
  beside : leaves.Pairwise Leaf.Beside
  whole : ∀ s t, (∀ leaf ∈ leaves, leaf.get s = leaf.get t) → s = t

/-- Every leaf is read from the field of its name, or stays as it was where there is none. -/
def ReadFrom (leaves : List (Leaf σ)) (find : String → Option Json) (absent s : σ) : Prop :=
  ∀ leaf ∈ leaves, Reads leaf.reader (leaf.get absent) (find leaf.name) (leaf.get s)

theorem readsOnce {reader : Reader α} {absent a b : α} {found : Option Json}
    (first : Reads reader absent found a) (second : Reads reader absent found b) : a = b := by
  cases found with
  | none => exact Eq.trans first (Eq.symm second)
  | some j => exact Except.ok.inj (Eq.trans (Eq.symm first) second)

variable {leaves : List (Leaf σ)}

/- Induction on the leaves: what is stored first is not written over by the others. -/
theorem leavesTaken (lawful : ∀ leaf ∈ leaves, leaf.Lawful) (beside : leaves.Pairwise Leaf.Beside)
    (taken : takeAll find (leaves.map Leaf.slot) s = some after) :
    ReadFrom leaves find s after ∧ ∀ other : Leaf σ, other.Lawful →
      (∀ leaf ∈ leaves, leaf.Beside other) → other.get after = other.get s := by
  induction leaves generalizing s with
  | nil =>
    cases taken
    exact ⟨nofun, fun _ _ _ => rfl⟩
  | cons leaf rest ih =>
    obtain ⟨own, lawful⟩ := List.forall_mem_cons.mp lawful
    obtain ⟨ahead, beside⟩ := List.pairwise_cons.mp beside
    obtain ⟨a, reads, taken⟩ := (takenIff leaf.get (own.kept s)).mp taken
    obtain ⟨read, others⟩ := ih lawful beside taken
    refine ⟨List.forall_mem_cons.mpr ⟨?first, fun next inside => ?later⟩, fun other fit apart => ?_⟩
    case first =>
      have stays : leaf.get after = a :=
        (others leaf own fun next inside => (ahead next inside).symm).trans (own.given a s)
      rwa [stays]
    case later =>
      have same := (ahead next inside).stays (lawful next inside) a s
      exact same ▸ read next inside
    · obtain ⟨first, apart⟩ := List.forall_mem_cons.mp apart
      exact (others other fit apart).trans (first.stays fit a s)

theorem leavesTake (lawful : ∀ leaf ∈ leaves, leaf.Lawful) (beside : leaves.Pairwise Leaf.Beside)
    (each : ∀ leaf ∈ leaves, ∃ a, Reads leaf.reader (leaf.get s) (find leaf.name) a) :
    ∃ after, takeAll find (leaves.map Leaf.slot) s = some after := by
  induction leaves generalizing s with
  | nil => exact ⟨s, rfl⟩
  | cons leaf rest ih =>
    obtain ⟨own, lawful⟩ := List.forall_mem_cons.mp lawful
    obtain ⟨ahead, beside⟩ := List.pairwise_cons.mp beside
    obtain ⟨⟨a, reads⟩, each⟩ := List.forall_mem_cons.mp each
    have later : ∀ next ∈ rest,
        ∃ b, Reads next.reader (next.get (leaf.set a s)) (find next.name) b := fun next inside => by
      rw [(ahead next inside).stays (lawful next inside)]
      exact each next inside
    obtain ⟨after, taken⟩ := ih lawful beside later
    exact ⟨after, (takenIff leaf.get (own.kept s)).mpr ⟨a, reads, taken⟩⟩

theorem Covers.apart (covers : Covers leaves) : (leaves.map Leaf.slot).Pairwise Apart :=
  List.pairwise_map.mpr (covers.beside.imp fun beside => slotsApart beside.names beside.free)

theorem Covers.takenIff (covers : Covers leaves) :
    takeAll find (leaves.map Leaf.slot) absent = some s ↔ ReadFrom leaves find absent s := by
  constructor
  · exact fun taken => (leavesTaken covers.lawful covers.beside taken).1
  · intro read
    obtain ⟨after, taken⟩ := leavesTake covers.lawful covers.beside
      fun leaf inside => ⟨_, read leaf inside⟩
    have same : after = s := covers.whole after s fun leaf inside =>
      readsOnce ((leavesTaken covers.lawful covers.beside taken).1 leaf inside) (read leaf inside)
    rw [taken, same]

theorem Covers.structIff (covers : Covers leaves) (name : String) {fields : Table Json}
    (distinct : fields.Distinct) :
    struct name (leaves.map Leaf.slot) absent (.object fields) = .ok s ↔
      ReadFrom leaves fields.get? absent s := by
  rw [← covers.takenIff, ← fromFieldsTaken covers.apart distinct, okOfToOption]
  rfl

/-! Objects written leaf by leaf. -/

/-- The entry stands under the name of the leaf and reads as the leaf of `s`. -/
def Leaf.Carries (leaf : Leaf σ) (s : σ) (entry : String × Json) : Prop :=
  entry.1 = leaf.name ∧ leaf.reader entry.2 = .ok (leaf.get s)

theorem carriesEach {fields : Table Json}
    (carries : List.Forall₂ (fun leaf => leaf.Carries s) leaves fields) :
    fields.keys = leaves.map Leaf.name ∧
      ∀ leaf ∈ leaves, ∃ entry ∈ fields, leaf.Carries s entry := by
  induction carries with
  | nil => exact ⟨rfl, nofun⟩
  | cons own _ ih =>
    refine ⟨congrArg₂ List.cons own.1 ih.1, List.forall_mem_cons.mpr ⟨?_, fun leaf inside => ?_⟩⟩
    · exact ⟨_, List.mem_cons_self, own⟩
    · obtain ⟨entry, member, carried⟩ := ih.2 leaf inside
      exact ⟨entry, List.mem_cons_of_mem _ member, carried⟩

theorem Covers.written (covers : Covers leaves) (name : String) {fields : Table Json}
    (carries : List.Forall₂ (fun leaf => leaf.Carries s) leaves fields) :
    struct name (leaves.map Leaf.slot) absent (.object fields) = .ok s := by
  obtain ⟨keys, each⟩ := carriesEach carries
  have distinct : fields.Distinct := by
    rw [Table.Distinct, keys]
    exact List.pairwise_map.mpr (covers.beside.imp Leaf.Beside.names)
  refine (covers.structIff name distinct).mpr fun leaf inside => ?_
  obtain ⟨⟨name, j⟩, member, named, reads⟩ := each leaf inside
  rw [← named, Table.getOfMem distinct member]
  exact reads

end Bayeux.Decode
