import Bayeux.Proofs.Json.Integers
import Bayeux.Proofs.Json.Strings
import Bayeux.Proofs.Table
/-! Trees that were written are read back, unless they are too deep to be read at all. -/

namespace Bayeux.Json

mutual
/-- Holds of the tree and of every tree in it. -/
def Throughout (holds : Json → Prop) : Json → Prop
  | .array items => holds (.array items) ∧ ThroughoutItems holds items
  | .object fields => holds (.object fields) ∧ ThroughoutFields holds fields
  | j => holds j
def ThroughoutItems (holds : Json → Prop) : List Json → Prop
  | [] => True
  | item :: rest => Throughout holds item ∧ ThroughoutItems holds rest
def ThroughoutFields (holds : Json → Prop) : Table Json → Prop
  | [] => True
  | (_, value) :: rest => Throughout holds value ∧ ThroughoutFields holds rest
end

/-- No number with a point. -/
def Integral : Json → Prop
  | .number (.real _) => False
  | _ => True

/-- No integer out of the 64-bit ranges. -/
def Ranged : Json → Prop
  | .number (.integer n) => Number.InRange n
  | _ => True

/-- No object that begins with the field of embedded documents. -/
def Unembedded : Json → Prop
  | .object ((name, _) :: _) => name ≠ embeddedField
  | _ => True

/-- What stands for itself once it is written. -/
structure Legible (j : Json) : Prop where
  integral : j.Integral
  ranged : j.Ranged
  unembedded : j.Unembedded

instance : DecidablePred Integral
  | .number (.real _) => isFalse id
  | .null | .bool _ | .number (.integer _) | .string _ | .array _ | .object _ => isTrue trivial

instance : DecidablePred Ranged
  | .number (.integer n) => inferInstanceAs (Decidable (Number.InRange n))
  | .null | .bool _ | .number (.real _) | .string _ | .array _ | .object _ => isTrue trivial

instance : DecidablePred Unembedded
  | .object ((name, _) :: _) => inferInstanceAs (Decidable (name ≠ embeddedField))
  | .null | .bool _ | .number _ | .string _ | .array _ | .object [] => isTrue trivial

instance : DecidablePred Legible := fun _ =>
  decidable_of_iff (Integral _ ∧ Ranged _ ∧ Unembedded _)
    ⟨fun ⟨a, b, c⟩ => ⟨a, b, c⟩, fun ⟨a, b, c⟩ => ⟨a, b, c⟩⟩

mutual
def decideThroughout (holds : Json → Prop) [DecidablePred holds] :
    (j : Json) → Decidable (Throughout holds j)
  | .array items => @instDecidableAnd _ _ _ (decideItems holds items)
  | .object fields => @instDecidableAnd _ _ _ (decideFields holds fields)
  | .null => inferInstanceAs (Decidable (holds .null))
  | .bool b => inferInstanceAs (Decidable (holds (.bool b)))
  | .number n => inferInstanceAs (Decidable (holds (.number n)))
  | .string s => inferInstanceAs (Decidable (holds (.string s)))
def decideItems (holds : Json → Prop) [DecidablePred holds] :
    (items : List Json) → Decidable (ThroughoutItems holds items)
  | [] => isTrue trivial
  | item :: rest => @instDecidableAnd _ _ (decideThroughout holds item) (decideItems holds rest)
def decideFields (holds : Json → Prop) [DecidablePred holds] :
    (fields : List (String × Json)) → Decidable (ThroughoutFields holds fields)
  | [] => isTrue trivial
  | (_, value) :: rest =>
    @instDecidableAnd _ _ (decideThroughout holds value) (decideFields holds rest)
end

instance (holds : Json → Prop) [DecidablePred holds] : DecidablePred (Throughout holds) :=
  decideThroughout holds

theorem skipOpen {b : UInt8} (rest : Bytes) (visible : isBlank b = false) :
    skipBlanks (b :: rest) = b :: rest := by
  simp [skipBlanks, visible]

/-- The first byte of a value. -/
structure Opening (b : UInt8) : Prop where
  visible : isBlank b = false
  bracket : b ≠ 0x5d

theorem openingDigit {b : UInt8} (digit : isDigit b = true) : Opening b := by
  constructor
  · unfold isBlank
    simp only [Bool.or_eq_false_iff, beq_eq_false_iff_ne]
    refine ⟨⟨⟨?_, ?_⟩, ?_⟩, ?_⟩
    all_goals
      rintro rfl
      exact absurd digit (by decide)
  · rintro rfl
    exact absurd digit (by decide)

theorem spelledFirst {j : Json} (legible : j.Legible) :
    ∃ b bs, spelled j = b :: bs ∧ Opening b := by
  cases j with
  | null => exact ⟨_, _, rfl, by decide, by decide⟩
  | bool b => cases b <;> exact ⟨_, _, rfl, by decide, by decide⟩
  | number n =>
    cases n with
    | real d => exact legible.integral.elim
    | integer n =>
      cases n with
      | ofNat m =>
        obtain ⟨b, bs, first, digit⟩ := spelledNatFirst m
        exact ⟨b, bs, first, openingDigit digit⟩
      | negSucc m => exact ⟨_, _, spelledNegative m, by decide, by decide⟩
  | string s => exact ⟨_, _, rfl, by decide, by decide⟩
  | array items => exact ⟨_, _, rfl, by decide, by decide⟩
  | object fields => exact ⟨_, _, rfl, by decide, by decide⟩

/- One step of the reader on what was written. -/

theorem readScalar {j : Json} (legible : j.Legible) (flat : depth j = 0) (fuel room : Nat)
    {rest : Bytes} (closed : Closed rest) :
    readValue (fuel + 1) room (spelled j ++ rest) = .ok (j, rest) := by
  cases j with
  | null => rfl
  | bool b => cases b <;> rfl
  | number n =>
    cases n with
    | real d => exact legible.integral.elim
    | integer n =>
      have read := readSpelledInteger legible.ranged closed
      obtain ⟨b, bs, first, opening⟩ := spelledFirst legible
      have first : spelledNumber (.integer n) = b :: bs := first
      rw [spelled, first, List.cons_append, readValue, skipOpen _ opening.visible]
      rw [first, List.cons_append] at read
      have other : b ≠ 0x22 ∧ b ≠ 0x5b ∧ b ≠ 0x7b := by
        refine ⟨?_, ?_, ?_⟩
        all_goals
          rintro rfl
          cases read
      split
      · simp_all
      · simp_all
      · simp_all
      · exact read
  | string s =>
    have read := readSpelledString s rest
    rw [spelled, spelledString, List.cons_append, List.cons_append, List.append_assoc, readValue,
      skipOpen _ (by decide)]
    simp only [List.singleton_append, read]
  | array items => simp [depth] at flat
  | object fields => simp [depth] at flat

theorem itemsEnd (fuel room : Nat) (before : List Json) (rest : Bytes) :
    readItems (fuel + 1) room before (0x5d :: rest) = .ok (.array before.reverse, rest) := by
  rw [readItems, skipOpen _ (by decide)]
  rfl

theorem listSeparated {b : UInt8} (opening : Opening b) (rest : Bytes) :
    listSeparator (0x2c :: b :: rest) = .ok (b :: rest) := by
  have bracket := opening.bracket
  simp only [listSeparator]
  rw [skipOpen _ opening.visible]
  split <;> simp_all

theorem itemsNext (fuel room : Nat) (before : List Json) {b : UInt8} (opening : Opening b)
    (rest : Bytes) :
    readItems (fuel + 1) room before
        ((if before.isEmpty then [] else [0x2c]) ++ b :: rest) =
      (readValue fuel room (b :: rest)).bind
        fun (item, rest) => readItems fuel room (item :: before) rest := by
  have bracket := opening.bracket
  cases before with
  | nil =>
    simp only [List.isEmpty_nil, if_true, List.nil_append]
    rw [readItems, skipOpen _ opening.visible]
    split
    · simp_all
    · simp_all
    · simp only [List.isEmpty_nil, if_true]
      cases readValue fuel room (b :: rest) <;> rfl
  | cons item before =>
    simp only [List.isEmpty_cons, Bool.false_eq_true, if_false, List.singleton_append]
    rw [readItems, skipOpen _ (by decide)]
    split
    · simp_all
    · simp_all
    · simp only [List.isEmpty_cons, Bool.false_eq_true, if_false, listSeparated opening]
      cases readValue fuel room (b :: rest) <;> rfl

theorem fieldsEnd (fuel room : Nat) (before : Table Json) (first : Bool) (rest : Bytes) :
    readFields (fuel + 1) room before first (0x7d :: rest) = .ok (.object before, rest) := by
  rw [readFields, skipOpen _ (by decide)]
  rfl

theorem fieldsNext (fuel room : Nat) (before : Table Json) (first : Bool) {name : String}
    (plain : (first && name == embeddedField) = false) (rest : Bytes) :
    readFields (fuel + 1) room before first
        ((if first then [] else [0x2c]) ++ spelledString name ++ 0x3a :: rest) =
      (readValue fuel room rest).bind
        fun (value, rest) => readFields fuel room (before.put name value) false rest := by
  have named := readSpelledString name (0x3a :: rest)
  have colon : readColon (0x3a :: rest) = .ok rest := by
    rw [readColon, skipOpen _ (by decide)]
    rfl
  have quoted : spelledString name ++ 0x3a :: rest =
      0x22 :: (name.toList.flatMap spelledChar ++ 0x22 :: 0x3a :: rest) := by
    simp [spelledString]
  cases first with
  | true =>
    simp only [if_true, List.nil_append]
    rw [quoted, readFields, skipOpen _ (by decide)]
    split
    · simp_all
    · simp_all
    · simp only [if_true, firstName, named, colon, plain, Bool.false_eq_true, if_false]
      cases readValue fuel room rest <;> rfl
  | false =>
    simp only [Bool.false_eq_true, if_false, List.singleton_append]
    rw [List.cons_append, quoted, readFields, skipOpen _ (by decide)]
    have separated : ∀ rest, objectSeparator (0x2c :: 0x22 :: rest) = .ok rest := by
      intro rest
      rw [objectSeparator, skipOpen _ (by decide)]
      rfl
    split
    · simp_all
    · simp_all
    · simp only [Bool.false_eq_true, if_false, separated, named, colon, Bool.false_and]
      cases readValue fuel room rest <;> rfl

theorem closedItems (items : List Json) (rest : Bytes) :
    Closed (spelledItems false items ++ 0x5d :: rest) := by
  cases items with
  | nil => exact .marked rest (by decide)
  | cons item items => exact .marked _ (by decide)

theorem closedFields (fields : Table Json) (rest : Bytes) :
    Closed (spelledFields false fields ++ 0x7d :: rest) := by
  cases fields with
  | nil => exact .marked rest (by decide)
  | cons field fields => exact .marked _ (by decide)

theorem throughoutHere {holds : Json → Prop} {j : Json} (all : Throughout holds j) : holds j := by
  cases j with
  | array items => exact all.1
  | object fields => exact all.1
  | null => exact all
  | bool b => exact all
  | number n => exact all
  | string s => exact all

/- Twice as many calls as there are bytes are enough. -/
mutual
theorem readSpelled : (j : Json) → Throughout Legible j → Distinct j →
    ∀ (fuel room : Nat) {rest : Bytes},
    2 * (spelled j).length ≤ fuel → Closed rest → readValue fuel room (spelled j ++ rest) =
      if depth j ≤ room then .ok (j, rest) else .error .tooDeep
  | .array items, ⟨_, each⟩, distinct, fuel, room, rest, enough, _ => by
    simp only [spelled, List.length_append, List.length_cons] at enough
    obtain ⟨fuel, rfl⟩ := Nat.exists_eq_add_of_le (show 1 ≤ fuel by omega)
    rw [spelled, List.cons_append, List.cons_append, List.append_assoc, List.singleton_append,
      Nat.add_comm, readValue, skipOpen _ (by decide), depth]
    cases room with
    | zero => rfl
    | succ room =>
      have read := readSpelledItems items each distinct fuel room [] rest
        (by simp only [List.isEmpty_nil]; omega)
      simp only [Nat.add_le_add_iff_right]
      exact read
  | .object fields, ⟨here, each⟩, ⟨names, distinct⟩, fuel, room, rest, enough, _ => by
    simp only [spelled, List.length_append, List.length_cons] at enough
    obtain ⟨fuel, rfl⟩ := Nat.exists_eq_add_of_le (show 1 ≤ fuel by omega)
    rw [spelled, List.cons_append, List.cons_append, List.append_assoc, List.singleton_append,
      Nat.add_comm, readValue, skipOpen _ (by decide), depth]
    cases room with
    | zero => rfl
    | succ room =>
      have read := readSpelledFields fields each distinct fuel room [] true rest names
        (fun _ => here.unembedded) (by omega)
      simp only [Nat.add_le_add_iff_right]
      exact read
  | .null, here, _, fuel, room, rest, enough, closed
  | .bool _, here, _, fuel, room, rest, enough, closed
  | .number _, here, _, fuel, room, rest, enough, closed
  | .string _, here, _, fuel, room, rest, enough, closed => by
    obtain ⟨b, bs, first, -⟩ := spelledFirst here
    rw [first, List.length_cons] at enough
    obtain ⟨fuel, rfl⟩ := Nat.exists_eq_add_of_le (show 1 ≤ fuel by omega)
    rw [Nat.add_comm, readScalar here rfl fuel room closed]
    rfl
theorem readSpelledItems : (items : List Json) → ThroughoutItems Legible items →
    DistinctItems items →
    ∀ (fuel room : Nat) (before : List Json) (rest : Bytes),
    2 * (spelledItems before.isEmpty items).length + 1 ≤ fuel →
    readItems fuel room before (spelledItems before.isEmpty items ++ 0x5d :: rest) =
      if depthItems items ≤ room then .ok (.array (before.reverse ++ items), rest)
      else .error .tooDeep
  | [], _, _, fuel, room, before, rest, enough => by
    obtain ⟨fuel, rfl⟩ := Nat.exists_eq_add_of_le (show 1 ≤ fuel by omega)
    rw [Nat.add_comm, spelledItems, List.nil_append, itemsEnd]
    simp [depthItems]
  | item :: items, ⟨here, others⟩, ⟨distinct, apart⟩, fuel, room, before, rest, enough => by
    obtain ⟨b, bs, first, opening⟩ := spelledFirst (throughoutHere here)
    simp only [spelledItems, List.length_append] at enough
    have some : 1 ≤ (spelled item).length := by simp [first]
    obtain ⟨fuel, rfl⟩ := Nat.exists_eq_add_of_le (show 1 ≤ fuel by omega)
    have value := readSpelled item here distinct fuel room (by omega) (closedItems items rest)
    have whole : spelledItems before.isEmpty (item :: items) ++ 0x5d :: rest =
        (if before.isEmpty then [] else [0x2c]) ++ b :: (bs ++ (spelledItems false items ++
          0x5d :: rest)) := by
      simp [spelledItems, first]
    rw [first, List.cons_append] at value
    rw [whole, Nat.add_comm, itemsNext fuel room before opening, value, depthItems]
    by_cases fits : depth item ≤ room
    · have tail := readSpelledItems items others apart fuel room (item :: before) rest
        (by simp only [List.isEmpty_cons]; omega)
      simp only [List.isEmpty_cons, List.reverse_cons, List.append_assoc,
        List.singleton_append] at tail
      simp [fits, Except.bind, tail]
    · simp [fits, Except.bind]
theorem readSpelledFields : (fields : List (String × Json)) → ThroughoutFields Legible fields →
    DistinctFields fields →
    ∀ (fuel room : Nat) (before : Table Json) (first : Bool) (rest : Bytes),
    (Table.keys (before ++ fields)).Nodup →
    (first = true → Unembedded (.object fields)) →
    2 * (spelledFields first fields).length + 1 ≤ fuel →
    readFields fuel room before first (spelledFields first fields ++ 0x7d :: rest) =
      if depthFields fields ≤ room then .ok (.object (before ++ fields), rest)
      else .error .tooDeep
  | [], _, _, fuel, room, before, first, rest, _, _, enough => by
    obtain ⟨fuel, rfl⟩ := Nat.exists_eq_add_of_le (show 1 ≤ fuel by omega)
    rw [Nat.add_comm, spelledFields, List.nil_append, fieldsEnd]
    simp [depthFields]
  | (name, value) :: fields, ⟨here, others⟩, ⟨distinct, apart⟩, fuel, room, before, first, rest,
      names, unembedded, enough => by
    simp only [spelledFields, List.length_append, List.length_cons] at enough
    obtain ⟨fuel, rfl⟩ := Nat.exists_eq_add_of_le (show 1 ≤ fuel by omega)
    have read := readSpelled value here distinct fuel room (by omega) (closedFields fields rest)
    have plain : (first && name == embeddedField) = false := by
      cases first with
      | false => rfl
      | true => exact beq_false_of_ne (unembedded rfl)
    have fresh : name ∉ Table.keys before := by
      rw [Table.keys, List.map_append, List.nodup_append] at names
      intro inside
      exact names.2.2 name inside name List.mem_cons_self rfl
    have whole : spelledFields first ((name, value) :: fields) ++ 0x7d :: rest =
        (if first then [] else [0x2c]) ++ spelledString name ++ 0x3a :: (spelled value ++
          (spelledFields false fields ++ 0x7d :: rest)) := by
      simp [spelledFields]
    rw [whole, Nat.add_comm, fieldsNext fuel room before first plain, read, depthFields]
    by_cases fits : depth value ≤ room
    · have tail := readSpelledFields fields others apart fuel room (before ++ [(name, value)])
        false rest (by simpa using names) (by simp) (by omega)
      simp only [List.append_assoc, List.singleton_append] at tail
      simp [fits, Except.bind, Table.putFresh fresh, tail]
    · simp [fits, Except.bind]
end

end Bayeux.Json
