import Bayeux.Decode
import Bayeux.Proofs.Json.ReadBack
import Bayeux.Proofs.Json.Sameness
/-! What is read where any tree may stand. A tree stands for itself, unless an object in it begins
with the field of embedded documents: it must hold the text of one, and nothing else, and stands
for the tree in that text. -/

namespace Bayeux.Json

mutual
inductive Stands : Json → Json → Prop
  | null : Stands .null .null
  | bool (b : Bool) : Stands (.bool b) (.bool b)
  | number (n : Number) : Stands (.number n) (.number n)
  | string (s : String) : Stands (.string s) (.string s)
  | array {items read : List Json} (each : StandItems items read) :
      Stands (.array items) (.array read)
  | object {fields read : List (String × Json)} (plain : Unembedded (.object fields))
      (each : StandFields fields read) : Stands (.object fields) (.object read)
  /-- The tree is not read once more. -/
  | document {source : String} {j : Json} (parsed : readText source = .ok j) :
      Stands (.object [(embeddedField, .string source)]) j
inductive StandItems : List Json → List Json → Prop
  | nil : StandItems [] []
  | cons {j k : Json} {items read : List Json} (head : Stands j k)
      (tail : StandItems items read) : StandItems (j :: items) (k :: read)
inductive StandFields : List (String × Json) → List (String × Json) → Prop
  | nil : StandFields [] []
  | cons {name : String} {j k : Json} {fields read : List (String × Json)} (head : Stands j k)
      (tail : StandFields fields read) : StandFields ((name, j) :: fields) ((name, k) :: read)
end

/-- Nowhere an object stands for a document. -/
def Plain (j : Json) : Prop := Throughout Unembedded j

theorem standsSelf {j : Json} (plain : j.Plain) : j.Stands j := by
  induction j using membersInduct with
  | null => exact .null
  | bool b => exact .bool b
  | number n => exact .number n
  | string s => exact .string s
  | array items ih =>
    refine .array ?_
    obtain ⟨-, each⟩ := plain
    induction items with
    | nil => exact .nil
    | cons item rest ihRest =>
      obtain ⟨head, others⟩ := List.forall_mem_cons.mp ih
      exact .cons (head each.1) (ihRest others each.2)
  | object fields ih =>
    obtain ⟨here, each⟩ := plain
    refine .object here ?_
    clear here
    induction fields with
    | nil => exact .nil
    | cons field rest ihRest =>
      obtain ⟨head, others⟩ := List.forall_mem_cons.mp ih
      exact .cons (head each.1) (ihRest others each.2)

theorem standsPlain {j k : Json} (plain : j.Plain) (stands : j.Stands k) : k = j := by
  induction j using membersInduct generalizing k with
  | null | bool | number | string =>
    cases stands
    rfl
  | array items ih =>
    obtain ⟨-, inside⟩ := plain
    cases stands with
    | @array _ read each =>
      refine congrArg Json.array ?_
      induction items generalizing read with
      | nil =>
        cases each
        rfl
      | cons item rest ihRest =>
        obtain ⟨first, others⟩ := List.forall_mem_cons.mp ih
        cases each with
        | cons head tail => rw [first inside.1 head, ihRest others inside.2 tail]
  | object fields ih =>
    obtain ⟨here, inside⟩ := plain
    cases stands with
    | @object _ read unembedded each =>
      refine congrArg Json.object ?_
      clear here unembedded
      induction fields generalizing read with
      | nil =>
        cases each
        rfl
      | cons field rest ihRest =>
        obtain ⟨first, others⟩ := List.forall_mem_cons.mp ih
        cases each with
        | cons head tail => rw [first inside.1 head, ihRest others inside.2 tail]
    | document => exact absurd rfl here

end Bayeux.Json

namespace Bayeux.Decode
open Json (Stands StandItems StandFields Unembedded embeddedField)
variable {ε α β γ : Type} {j k : Json} {fields : List (String × Json)}

theorem mappedIff {x : Except ε α} {f : α → β} {b : β} :
    x.map f = .ok b ↔ ∃ a, x = .ok a ∧ f a = b := by
  cases x <;> simp [Except.map]

theorem documentNone : document? fields = none ↔ Unembedded (.object fields) := by
  cases fields with
  | nil => simp [document?, Unembedded]
  | cons field rest => simp [document?, Unembedded]

theorem documentIff (plain : ¬Unembedded (.object fields)) :
    document? fields = some (.ok k) ↔ (Json.object fields).Stands k := by
  obtain ⟨content, rest, rfl⟩ : ∃ content rest, fields = (embeddedField, content) :: rest := by
    cases fields with
    | nil => exact absurd trivial plain
    | cons field rest =>
      obtain ⟨name, content⟩ := field
      obtain rfl := not_not.mp plain
      exact ⟨content, rest, rfl⟩
  simp only [document?, beq_self_eq_true, if_true, Option.some.injEq]
  constructor
  · intro read
    cases content with
    | string source =>
      simp only [document] at read
      cases parsed : Json.readText source with
      | error fault =>
        rw [parsed] at read
        cases read
      | ok j =>
        simp only [parsed] at read
        split at read
        · rename_i alone
          obtain rfl : rest = [] := List.length_eq_zero_iff.mp (Nat.succ.inj alone)
          cases read
          exact .document parsed
        · cases read
    | null | bool | number | array | object => cases read
  · intro stands
    cases stands with
    | object unembedded => exact absurd unembedded plain
    | document parsed => simp [document, parsed]

theorem anyItemsIff {items read : List Json}
    (each : ∀ item ∈ items, ∀ {k}, anything item = .ok k ↔ item.Stands k) :
    anyItems items = .ok read ↔ StandItems items read := by
  induction items generalizing read with
  | nil =>
    constructor
    · rintro ⟨⟩
      exact .nil
    · rintro ⟨⟩
      rfl
  | cons item rest ih =>
    obtain ⟨head, others⟩ := List.forall_mem_cons.mp each
    constructor
    · intro whole
      cases first : anything item with
      | error fault => simp [anyItems, first] at whole
      | ok j =>
        simp only [anyItems, first, mappedIff, ih others] at whole
        obtain ⟨tail, last, rfl⟩ := whole
        exact .cons (head.mp first) last
    · rintro (_ | ⟨first, last⟩)
      simp only [anyItems, head.mpr first, (ih others).mpr last, Except.map]

theorem anyFieldsIff {fields read : List (String × Json)}
    (each : ∀ field ∈ fields, ∀ {k}, anything field.2 = .ok k ↔ field.2.Stands k) :
    anyFields fields = .ok read ↔ StandFields fields read := by
  induction fields generalizing read with
  | nil =>
    constructor
    · rintro ⟨⟩
      exact .nil
    · rintro ⟨⟩
      rfl
  | cons field rest ih =>
    obtain ⟨name, value⟩ := field
    obtain ⟨head, others⟩ := List.forall_mem_cons.mp each
    constructor
    · intro whole
      cases first : anything value with
      | error fault => simp [anyFields, first] at whole
      | ok j =>
        simp only [anyFields, first, mappedIff, ih others] at whole
        obtain ⟨tail, last, rfl⟩ := whole
        exact .cons (head.mp first) last
    · rintro (_ | ⟨first, last⟩)
      simp only [anyFields, head.mpr first, (ih others).mpr last, Except.map]

theorem anythingIff : anything j = .ok k ↔ j.Stands k := by
  induction j using Json.membersInduct generalizing k with
  | null | bool | number | string =>
    constructor
    · rintro ⟨⟩
      constructor
    · rintro ⟨⟩
      rfl
  | array items ih =>
    simp only [anything, mappedIff, anyItemsIff ih]
    constructor
    · rintro ⟨read, each, rfl⟩
      exact .array each
    · rintro (_ | _ | _ | _ | each)
      exact ⟨_, each, rfl⟩
  | object fields ih =>
    by_cases plain : Unembedded (.object fields)
    · simp only [anything, documentNone.mpr plain, mappedIff, anyFieldsIff ih]
      constructor
      · rintro ⟨read, each, rfl⟩
        exact .object plain each
      · intro stands
        cases stands with
        | object _ each => exact ⟨_, each, rfl⟩
        | document => exact absurd rfl plain
    · rw [← documentIff plain]
      cases found : document? fields with
      | none => exact absurd (documentNone.mp found) plain
      | some read => simp only [anything, found, Option.some.injEq]

end Bayeux.Decode
