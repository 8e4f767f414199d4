import Bayeux.Proofs.Json.Costs
import Bayeux.Proofs.Json.Literals
import Bayeux.Proofs.Json.ReadBack
import Bayeux.Proofs.Json.Readings
/-! What is read weighs no more than its text: each value, with the marks around it, has been paid
for by the bytes that were taken. -/

namespace Bayeux.Json

mutual
/-- The bytes of the written form, real numbers left out. -/
def weight : Json → Nat
  | .null => 4
  | .bool true => 4
  | .bool false => 5
  | .number (.integer n) => (spelledNumber (.integer n)).length
  | .number (.real _) => 0
  | .string s => (spelledString s).length
  | .array items => max 2 (weightItems items + 1)
  | .object fields => max 2 (weightFields fields + 1)
/-- With a byte for the mark behind each item. -/
def weightItems : List Json → Nat
  | [] => 0
  | item :: rest => weight item + 1 + weightItems rest
def weightFields : Table Json → Nat
  | [] => 0
  | (name, value) :: rest =>
    (spelledString name).length + 1 + weight value + 1 + weightFields rest
end

mutual
theorem spelledWeight : (j : Json) → Throughout Integral j → (spelled j).length = weight j
  | .null, _ => rfl
  | .bool true, _ => rfl
  | .bool false, _ => rfl
  | .number (.integer _), _ => rfl
  | .number (.real _), here => here.elim
  | .string _, _ => rfl
  | .array items, ⟨_, each⟩ => by
    have inner := spelledItemsWeight true items each
    cases items with
    | nil => rfl
    | cons item items =>
      simp only [spelled, weight, List.length_append, List.length_cons, List.length_nil]
      simp only [Bool.true_and, List.isEmpty_cons, Bool.not_false, if_true] at inner
      simp only [weightItems] at inner ⊢
      omega
  | .object fields, ⟨_, each⟩ => by
    have inner := spelledFieldsWeight true fields each
    cases fields with
    | nil => rfl
    | cons field fields =>
      simp only [spelled, weight, List.length_append, List.length_cons, List.length_nil]
      simp only [Bool.true_and, List.isEmpty_cons, Bool.not_false, if_true] at inner
      simp only [weightFields] at inner ⊢
      omega
theorem spelledItemsWeight (first : Bool) : (items : List Json) → ThroughoutItems Integral items →
    (spelledItems first items).length + (if first && !items.isEmpty then 1 else 0) =
      weightItems items
  | [], _ => by simp [spelledItems, weightItems]
  | item :: items, ⟨here, others⟩ => by
    have head := spelledWeight item here
    have tail := spelledItemsWeight false items others
    simp only [Bool.false_and, Bool.false_eq_true, if_false] at tail
    cases first <;>
      · simp only [spelledItems, weightItems, List.length_append, List.isEmpty_cons]
        simp
        omega
theorem spelledFieldsWeight (first : Bool) : (fields : List (String × Json)) →
    ThroughoutFields Integral fields →
    (spelledFields first fields).length + (if first && !fields.isEmpty then 1 else 0) =
      weightFields fields
  | [], _ => by simp [spelledFields, weightFields]
  | (name, value) :: fields, ⟨here, others⟩ => by
    have head := spelledWeight value here
    have tail := spelledFieldsWeight false fields others
    simp only [Bool.false_and, Bool.false_eq_true, if_false] at tail
    cases first <;>
      · simp only [spelledFields, weightFields, List.length_append, List.length_cons,
          List.isEmpty_cons]
        simp
        omega
end

theorem weightSnoc (items : List Json) (item : Json) :
    weightItems (items ++ [item]) = weightItems items + (weight item + 1) := by
  induction items with
  | nil => simp [weightItems]
  | cons other items ih =>
    simp only [List.cons_append, weightItems, ih]
    omega

/- A name that is there already gives up its old value. -/
theorem weightPut (fields : Table Json) (name : String) (value : Json) :
    weightFields (fields.put name value) ≤
      weightFields fields + ((spelledString name).length + 1 + weight value + 1) := by
  induction fields with
  | nil => simp [Table.put, weightFields]
  | cons field fields ih =>
    obtain ⟨other, held⟩ := field
    unfold Table.put
    split
    · rename_i same
      cases same
      simp only [weightFields]
      omega
    · simp only [weightFields]
      omega

theorem skipBlanksTail (input : Bytes) : skipBlanks input <:+ input := by
  induction input with
  | nil => exact List.suffix_rfl
  | cons b input ih =>
    unfold skipBlanks
    split
    · exact ih.trans (List.suffix_cons b input)
    · exact List.suffix_rfl

/-- What is left ends the input, and the value weighs no more than what was taken. -/
structure Paid (due : Nat) (input rest : Bytes) : Prop where
  tail : rest <:+ input
  weight : due + rest.length ≤ input.length

theorem Paid.refl (input : Bytes) : Paid 0 input input := ⟨List.suffix_rfl, by simp⟩

theorem Paid.trans {some more : Nat} {input middle rest : Bytes} (first : Paid some input middle)
    (second : Paid more middle rest) : Paid (some + more) input rest :=
  ⟨second.tail.trans first.tail, by have := first.weight; have := second.weight; omega⟩

theorem Paid.blanks {due : Nat} {input rest : Bytes} (paid : Paid due (skipBlanks input) rest) :
    Paid due input rest := by
  have tail := skipBlanksTail input
  exact ⟨paid.tail.trans tail, paid.weight.trans tail.length_le⟩

theorem Paid.mark {b : UInt8} {input rest : Bytes} (opened : skipBlanks input = b :: rest) :
    Paid 1 input rest :=
  Paid.blanks ⟨opened ▸ List.suffix_cons b rest, by rw [opened, List.length_cons]; omega⟩

theorem paidItem {first : Bool} {input behind : Bytes}
    (known : beforeItem first (skipBlanks input) = .ok behind) :
    Paid (if first then 0 else 1) input behind := by
  cases first with
  | true =>
    cases known
    exact Paid.blanks (Paid.refl _)
  | false =>
    simp only [beforeItem, Bool.false_eq_true, if_false] at known ⊢
    unfold listSeparator at known
    split at known
    · rename_i comma
      have one := Paid.mark comma
      split at known
      · cases known
      · cases known
      · cases known
        exact one.trans (Paid.blanks (Paid.refl _))
    · cases known

theorem paidName {first : Bool} {input quoted : Bytes}
    (known : beforeName first (skipBlanks input) = .ok quoted) :
    Paid (if first then 1 else 2) input quoted := by
  cases first with
  | true =>
    simp only [beforeName, if_true] at known ⊢
    unfold firstName at known
    split at known
    · rename_i quote
      cases known
      exact Paid.mark quote
    · cases known
  | false =>
    simp only [beforeName, Bool.false_eq_true, if_false] at known ⊢
    unfold objectSeparator at known
    split at known
    · rename_i comma
      have one := Paid.mark comma
      split at known
      · cases known
      · rename_i quote
        cases known
        exact one.trans (Paid.mark quote)
      · cases known
      · cases known
    · cases known

theorem paidColon {input rest : Bytes} (known : readColon input = .ok rest) :
    Paid 1 input rest := by
  unfold readColon at known
  split at known
  · rename_i colon
    cases known
    exact Paid.mark colon
  · cases known
  · cases known

theorem paidString {input rest : Bytes} {s : String}
    (known : readString .empty input = .ok (s, rest)) :
    Paid ((spelledString s).length - 1) input rest := by
  obtain ⟨tail, short⟩ := stringTail known
  have nothing : cost ByteArray.empty.toList = 0 := by simp [toListData, cost]
  refine ⟨tail, ?_⟩
  rw [spelledStringCost]
  omega

theorem paidWord {j found : Json} {letters input rest : Bytes}
    (known : readWord j letters input = .ok (found, rest)) :
    found = j ∧ Paid letters.length input rest := by
  induction letters generalizing input with
  | nil =>
    cases known
    exact ⟨rfl, List.suffix_rfl, by simp⟩
  | cons letter letters ih =>
    cases input with
    | nil => cases known
    | cons b input =>
      simp only [readWord] at known
      split at known
      · obtain ⟨same, paid⟩ := ih known
        have one : Paid 1 (b :: input) input := ⟨List.suffix_cons b input, by simp; omega⟩
        exact ⟨same, by simpa [Nat.add_comm] using one.trans paid⟩
      · cases known

theorem signedShort (negative : Bool) (m : Nat) :
    (spelledNumber (.integer (signed negative m))).length ≤
      (spelledNat m).length + if negative then 1 else 0 := by
  cases negative with
  | false => exact Nat.le_refl _
  | true =>
    cases m with
    | zero => exact Nat.le_add_right _ _
    | succ m => exact (congrArg List.length (spelledNegative m)).le

theorem paidNumber {negative : Bool} {input rest : Bytes} {n : Number}
    (known : readNumber negative input = .ok (n, rest)) :
    rest <:+ input ∧ weight (.number n) + rest.length ≤ input.length + (if negative then 1 else 0) ∧
      Ranged (.number n) := by
  cases readNumberLiteral known with
  | real d tail =>
    refine ⟨tail, ?_, trivial⟩
    have shorter := tail.length_le
    rw [weight]
    omega
  | @integer m _ tail ranged some short =>
    have shorter := tail.length_le
    have digits := spelledNatShort short some
    have whole := signedShort negative m
    refine ⟨tail, ?_, ranged⟩
    rw [weight]
    omega

inductive Leaf : Json → Prop where
  | null : Leaf .null
  | bool (b : Bool) : Leaf (.bool b)
  | number {n : Number} (ranged : Ranged (.number n)) : Leaf (.number n)
  | string (s : String) : Leaf (.string s)

theorem Leaf.flat {j : Json} (leaf : Leaf j) : depth j = 0 := by
  cases leaf <;> rfl

theorem paidPlain {input rest : Bytes} {j : Json} (known : readPlain input = .ok (j, rest)) :
    Paid (weight j) input rest ∧ Leaf j := by
  have word : ∀ {letters behind : Bytes} {k : Json} {b : UInt8}, input = b :: behind →
      readWord k letters behind = .ok (j, rest) → letters.length + 1 = weight k → Leaf k →
      Paid (weight j) input rest ∧ Leaf j := by
    intro letters behind k b opened known whole leaf
    obtain ⟨rfl, paid⟩ := paidWord known
    have one : Paid 1 (b :: behind) behind := ⟨List.suffix_cons b behind, by simp; omega⟩
    rw [opened, ← whole, Nat.add_comm]
    exact ⟨one.trans paid, leaf⟩
  unfold readPlain at known
  split at known
  · cases known
  · exact word rfl known rfl .null
  · exact word rfl known rfl (.bool true)
  · exact word rfl known rfl (.bool false)
  · split at known
    · rename_i found
      cases known
      obtain ⟨tail, weighs, ranged⟩ := paidNumber found
      exact ⟨⟨tail.trans (List.suffix_cons _ _), by simpa using weighs⟩, .number ranged⟩
    · cases known
  · split at known
    · split at known
      · rename_i found
        cases known
        obtain ⟨tail, weighs, ranged⟩ := paidNumber found
        exact ⟨⟨tail, by simpa using weighs⟩, .number ranged⟩
      · cases known
    · cases known

theorem lengthCost (bs : Bytes) : bs.length ≤ cost bs := by
  induction bs with
  | nil => exact Nat.le_refl 0
  | cons b bs ih =>
    have one : 1 ≤ byteCost b := by
      unfold byteCost
      split_ifs <;> decide
    simp only [cost, List.map_cons, List.sum_cons, List.length_cons] at ih ⊢
    omega

theorem paidDocument {input rest : Bytes} {text : String}
    (known : documentText input = .ok (text, rest)) : Paid (bytesOf text).length input rest := by
  unfold documentText at known
  split at known
  · rename_i quote
    obtain ⟨tail, weighs⟩ := (Paid.mark quote).trans (paidString known)
    have longer := lengthCost (bytesOf text)
    rw [spelledStringCost] at weighs
    exact ⟨tail, by omega⟩
  · cases known
  · cases known
  · split at known
    · cases known
    · cases known

theorem paidDocumentEnd {input rest : Bytes} (known : documentEnd input = .ok rest) :
    Paid 1 input rest := by
  unfold documentEnd at known
  split at known
  · rename_i closed
    cases known
    exact Paid.mark closed
  all_goals cases known

/-- What was paid before the reader stood there; the closing mark is still to come. -/
def Stage.credit : Stage → Nat
  | .value _ => 0
  | .items _ before => weight (.array before.reverse) - 1
  | .fields _ before _ => weight (.object before) - 1
  | .document => 0

/-- The first field is the one before which there is none. -/
def Stage.Begun : Stage → Prop
  | .fields _ before first => (first = true ↔ before = [])
  | _ => True

theorem putSome (fields : Table Json) (name : String) (value : Json) :
    Table.put fields name value ≠ [] := by
  cases fields with
  | nil => simp [Table.put]
  | cons field fields =>
    unfold Table.put
    split <;> simp

theorem begunNext (room : Nat) (before : Table Json) (name : String) (value : Json) :
    (Stage.fields room (before.put name value) false).Begun :=
  ⟨fun first => absurd first (by decide), fun empty => absurd empty (putSome before name value)⟩

theorem readWeight {stage : Stage} {input rest : Bytes} {j : Json}
    (read : Reads stage input j rest) (begun : stage.Begun) :
    rest <:+ input ∧ weight j + rest.length ≤ input.length + stage.credit := by
  induction read with
  | string opened known =>
    have paid := (Paid.mark opened).trans (paidString known)
    have := paid.weight
    refine ⟨paid.tail, ?_⟩
    rw [weight, Stage.credit]
    omega
  | array opened inside ih =>
    obtain ⟨tail, weighs⟩ := ih trivial
    have mark := Paid.mark opened
    have one := mark.weight
    refine ⟨tail.trans mark.tail, ?_⟩
    simp only [Stage.credit, List.reverse_nil, weight, weightItems] at weighs ⊢
    omega
  | object opened inside ih =>
    obtain ⟨tail, weighs⟩ := ih (by simp [Stage.Begun])
    have mark := Paid.mark opened
    have one := mark.weight
    refine ⟨tail.trans mark.tail, ?_⟩
    simp only [Stage.credit, weight, weightFields] at weighs ⊢
    omega
  | plain known =>
    have paid := (paidPlain known).1.blanks
    exact ⟨paid.tail, paid.weight⟩
  | itemsEnd closed =>
    have mark := Paid.mark closed
    have one := mark.weight
    refine ⟨mark.tail, ?_⟩
    simp only [Stage.credit, weight]
    omega
  | @item room before input behind middle rest item j separated here others value items =>
    obtain ⟨tail, weighs⟩ := value trivial
    obtain ⟨left, more⟩ := items trivial
    have paid := paidItem separated
    have mark := paid.weight
    refine ⟨(left.trans tail).trans paid.tail, ?_⟩
    simp only [Stage.credit, List.reverse_cons, weight, weightSnoc] at weighs more ⊢
    cases before with
    | nil =>
      simp only [List.isEmpty_nil, if_true, List.reverse_nil, weightItems] at mark more ⊢
      omega
    | cons other before =>
      have some : 1 ≤ weightItems (other :: before).reverse := by
        rw [List.reverse_cons, weightSnoc]
        omega
      simp only [List.isEmpty_cons, Bool.false_eq_true, if_false] at mark
      omega
  | fieldsEnd closed =>
    have mark := Paid.mark closed
    have one := mark.weight
    refine ⟨mark.tail, ?_⟩
    simp only [Stage.credit, weight]
    omega
  | @field room before first name value j input quoted named colon middle rest separated known
      parted plain here others worth fields =>
    obtain ⟨tail, weighs⟩ := worth trivial
    obtain ⟨left, more⟩ := fields (begunNext room before name value)
    have paid := ((paidName separated).trans (paidString known)).trans (paidColon parted)
    have mark := paid.weight
    have put := weightPut before name value
    have quotes : 2 ≤ (spelledString name).length := by rw [spelledStringCost]; omega
    refine ⟨(left.trans tail).trans paid.tail, ?_⟩
    simp only [Stage.credit, weight] at weighs more ⊢
    cases first with
    | true =>
      cases begun.mp rfl
      simp only [if_true, weightFields] at mark put ⊢
      omega
    | false =>
      have some : 1 ≤ weightFields before := by
        cases before with
        | nil => cases begun.mpr rfl
        | cons field before =>
          simp only [weightFields]
          omega
      simp only [Bool.false_eq_true, if_false] at mark
      omega
  | embedded separated known parted inside ih =>
    obtain ⟨tail, weighs⟩ := ih trivial
    have paid := ((paidName separated).trans (paidString known)).trans (paidColon parted)
    have mark := paid.weight
    refine ⟨tail.trans paid.tail, ?_⟩
    simp only [Stage.credit] at weighs ⊢
    omega
  | document known here closed ih =>
    obtain ⟨-, weighs⟩ := ih trivial
    have paid := (paidDocument known).trans (paidDocumentEnd closed)
    have mark := paid.weight
    refine ⟨paid.tail, ?_⟩
    simp only [Stage.credit] at weighs ⊢
    omega

end Bayeux.Json
