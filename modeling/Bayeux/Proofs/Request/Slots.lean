import Bayeux.Proofs.Request.Documents
/-! Structures read from the fields of an object. Slots of different names that do not write over
each other may be filled in any order, so they are filled in their own, each from the field of
its name. What is not looked up does not matter. -/

namespace Bayeux

theorem okOfToOption {ε α : Type} {x : Except ε α} {a : α} : x.toOption = some a ↔ x = .ok a := by
  cases x <;> simp [Except.toOption]

theorem toOptionMapError {ε ζ α : Type} (f : ε → ζ) (x : Except ε α) :
    (x.mapError f).toOption = x.toOption := by
  cases x <;> rfl

theorem toOptionMap {ε α β : Type} (f : α → β) (x : Except ε α) :
    (x.map f).toOption = x.toOption.map f := by
  cases x <;> rfl

namespace Decode
variable {τ ε σ α β : Type} {fields : Table τ} {find : String → Option τ}
  {slot : Slot τ ε σ} {slots : List (Slot τ ε σ)} {s : σ}

/-- What was found under the name of the slot, stored; nothing found changes nothing. -/
def Slot.take (slot : Slot τ ε σ) (found : Option τ) (s : σ) : Option σ :=
  match found with
  | none => some s
  | some t => (slot.store t s).toOption

def takeAll (find : String → Option τ) : List (Slot τ ε σ) → σ → Option σ
  | [], s => some s
  | slot :: slots, s => (slot.take (find slot.name) s).bind (takeAll find slots)

/-- Two fields that may be stored in either order. -/
structure Apart (a b : Slot τ ε σ) : Prop where
  names : a.name ≠ b.name
  commute : ∀ t u s, ((a.store t s).toOption.bind fun s => (b.store u s).toOption) =
    (b.store u s).toOption.bind fun s => (a.store t s).toOption

theorem slotsApart {name other : String} {reader : τ → Except ε α} {set : α → σ → σ}
    {reader' : τ → Except ε β} {set' : β → σ → σ} (names : name ≠ other)
    (free : ∀ a b s, set' b (set a s) = set a (set' b s)) :
    Apart (Decode.slot name reader set) (Decode.slot other reader' set') where
  names := names
  commute t u s := by
    simp only [Decode.slot]
    cases reader t with
    | error fault => cases reader' u <;> rfl
    | ok a =>
      cases reader' u with
      | error fault => rfl
      | ok b => exact congrArg some (free a b s)

theorem takeAllCongr {find' : String → Option τ}
    (alike : ∀ slot ∈ slots, find slot.name = find' slot.name) (s : σ) :
    takeAll find slots s = takeAll find' slots s := by
  induction slots generalizing s with
  | nil => rfl
  | cons slot slots ih =>
    simp only [takeAll, alike slot List.mem_cons_self]
    refine Option.bind_congr fun next _ => ?_
    exact ih (fun slot inside => alike slot (List.mem_cons_of_mem _ inside)) next

theorem takeCommutes {other : Slot τ ε σ} (apart : Apart slot other) (found : Option τ) (t : τ)
    (s : σ) : ((slot.take found s).bind fun s => (other.store t s).toOption) =
      (other.store t s).toOption.bind (slot.take found) := by
  cases found with
  | none => exact (Option.bind_fun_some _).symm
  | some u => exact apart.commute u t s

/- Induction on the slots: those before the one that was found are passed by commuting. -/
theorem takeFirst (apart : slots.Pairwise Apart) {name : String}
    (found : Slot.find? slots name = some slot) (absent : find name = none) (t : τ) (s : σ) :
    takeAll (fun other => if name = other then some t else find other) slots s =
      (slot.store t s).toOption.bind (takeAll find slots) := by
  induction slots generalizing s with
  | nil => cases found
  | cons head rest ih =>
    obtain ⟨ahead, apart⟩ := List.pairwise_cons.mp apart
    by_cases own : head.name = name
    · have isHead : head = slot := by simpa [Slot.find?, own] using found
      subst isHead
      have others : ∀ slot ∈ rest,
          (if name = slot.name then some t else find slot.name) = find slot.name :=
        fun slot inside => if_neg fun same => (ahead slot inside).names (own.trans same)
      simp only [takeAll, own, if_pos, absent, Slot.take, Option.bind_some]
      exact Option.bind_congr fun next _ => takeAllCongr others next
    · have found : Slot.find? rest name = some slot := by simpa [Slot.find?, own] using found
      have inside : slot ∈ rest := List.mem_of_find?_eq_some found
      calc takeAll (fun other => if name = other then some t else find other) (head :: rest) s
          = (head.take (find head.name) s).bind fun s =>
              (slot.store t s).toOption.bind (takeAll find rest) := by
            simp only [takeAll, if_neg (Ne.symm own)]
            exact Option.bind_congr fun next _ => ih apart found next
        _ = ((head.take (find head.name) s).bind fun s => (slot.store t s).toOption).bind
              (takeAll find rest) := (Option.bind_assoc _ _ _).symm
        _ = (slot.store t s).toOption.bind (takeAll find (head :: rest)) := by
            rw [takeCommutes (ahead slot inside), Option.bind_assoc]
            rfl

theorem fromFieldsTaken (apart : slots.Pairwise Apart) (distinct : fields.Distinct) (s : σ) :
    (fromFields slots fields s).toOption = takeAll fields.get? slots s := by
  induction fields generalizing s with
  | nil =>
    induction slots with
    | nil => rfl
    | cons slot slots ih =>
      exact ih (List.pairwise_cons.mp apart).2
  | cons entry rest ih =>
    obtain ⟨name, t⟩ := entry
    obtain ⟨fresh, distinct⟩ := List.nodup_cons.mp distinct
    have absent : Table.get? rest name = none := (Table.getNoneIff rest name).mpr fresh
    have lookup : Table.get? ((name, t) :: rest) =
        fun other => if name = other then some t else Table.get? rest other := rfl
    rw [lookup]
    cases found : Slot.find? slots name with
    | none =>
      have unknown : ∀ slot ∈ slots,
          (if name = slot.name then some t else Table.get? rest slot.name) =
            Table.get? rest slot.name := fun slot inside =>
        if_neg fun same => by
          have differs := List.find?_eq_none.mp found slot inside
          simp [same] at differs
      rw [takeAllCongr unknown, ← ih distinct]
      simp only [fromFields, found]
    | some slot =>
      rw [takeFirst apart found absent]
      simp only [fromFields, found]
      cases slot.store t s with
      | error fault => rfl
      | ok next => exact ih distinct next

/-! The readers that the requests use. -/

section
variable {name : String} {reader : Reader α} {set : α → σ → σ} {slots : List (JsonSlot σ)}
  {find : String → Option Json} {after : σ}

/-- What is absent stays as it was. -/
def Reads (reader : Reader α) (absent : α) : Option Json → α → Prop
  | none, a => a = absent
  | some j, a => reader j = .ok a

theorem takenIff (get : σ → α) (keeps : set (get s) s = s) :
    takeAll find (Decode.slot name reader set :: slots) s = some after ↔
      ∃ a, Reads reader (get s) (find name) a ∧ takeAll find slots (set a s) = some after := by
  simp only [takeAll, Decode.slot, Option.bind_eq_some_iff]
  cases find name with
  | none => simp [Slot.take, Reads, keeps]
  | some j => cases read : reader j <;> simp [Slot.take, Reads, read, Except.map, Except.toOption]

/-- An optional field: null counts as absent. -/
inductive Given (as : Json → α → Prop) : Option Json → Option α → Prop where
  | absent : Given as none none
  | null : Given as (some .null) none
  | carried {j : Json} {a : α} (given : j ≠ .null) (value : as j a) : Given as (some j) (some a)

abbrev AnyGiven : Option Json → Option Json → Prop := Given Json.Stands

/-- As it stands in the message. -/
abbrev Verbatim : Option Json → Option Json → Prop := Given fun j k => k = j

abbrev TextGiven : Option Json → Option String → Prop := Given fun j s => j = .string s

/-- A list of texts: null does not count as absent. -/
inductive Listed : Option Json → List String → Prop where
  | absent : Listed none []
  | carried (read : List String) : Listed (some (.array (read.map .string))) read

theorem textIff (j : Json) (s : String) : text j = .ok s ↔ j = .string s := by
  cases j <;> simp [text]

theorem textsStrings (read : List String) : texts (read.map .string) = .ok read := by
  induction read with
  | nil => rfl
  | cons s rest ih => simp only [List.map_cons, texts, text, ih, Except.map]

theorem stringsOfTexts {items : List Json} {read : List String} (ok : texts items = .ok read) :
    items = read.map .string := by
  induction items generalizing read with
  | nil =>
    cases ok
    rfl
  | cons item rest ih =>
    simp only [texts] at ok
    split at ok
    · cases ok
    · rename_i s isText
      cases tail : texts rest with
      | error fault =>
        rw [tail] at ok
        cases ok
      | ok others =>
        rw [tail] at ok
        cases ok
        rw [(textIff item s).mp isText, ih tail]
        rfl

theorem givenIff {as : Json → α → Prop} (exact_ : ∀ {j a}, reader j = .ok a ↔ as j a)
    {found : Option Json} {read : Option α} :
    Reads (optional reader) none found read ↔ Given as found read := by
  have mapped : ∀ j, j ≠ .null → optional reader j = (reader j).map some := by
    intro j given
    cases j <;> first | rfl | exact absurd rfl given
  constructor
  · intro reads
    cases found with
    | none =>
      cases reads
      exact .absent
    | some j =>
      by_cases isNull : j = .null
      · subst isNull
        cases reads
        exact .null
      · rw [Reads, mapped j isNull] at reads
        obtain ⟨a, value, rfl⟩ := mappedIff.mp reads
        exact .carried isNull (exact_.mp value)
  · rintro (_ | _ | ⟨given, value⟩)
    · rfl
    · rfl
    · rw [Reads, mapped _ given]
      exact mappedIff.mpr ⟨_, exact_.mpr value, rfl⟩

theorem listedIff {found : Option Json} {read : List String} :
    Reads textList [] found read ↔ Listed found read := by
  constructor
  · intro reads
    cases found with
    | none =>
      cases reads
      exact .absent
    | some j =>
      cases j with
      | array items =>
        obtain rfl := stringsOfTexts reads
        exact .carried read
      | null | bool | number | string | object => cases reads
  · rintro (_ | _)
    · rfl
    · exact textsStrings read

theorem anyGivenIff {found : Option Json} {read : Option Json} :
    Reads (optional anything) none found read ↔ AnyGiven found read :=
  givenIff anythingIff

theorem textGivenIff {found : Option Json} {read : Option String} :
    Reads (optional text) none found read ↔ TextGiven found read :=
  givenIff (textIff _ _)

end

end Decode
end Bayeux
