import Bayeux.Proofs.Json.Spelling
import Mathlib.Tactic.IntervalCases
/-! An integer that was written is read back digit by digit. -/

namespace Bayeux.Json

def spelledNat (n : Nat) : Bytes := bytesOf (toString n)

/-- What may follow a value: the end, or the mark that ends it or its container. -/
inductive Closed : Bytes → Prop where
  | finished : Closed []
  | marked {b : UInt8} (rest : Bytes) (mark : b = 0x2c ∨ b = 0x5d ∨ b = 0x7d) : Closed (b :: rest)

theorem spelledDigit {n : Nat} (small : n < 10) : spelledNat n = [UInt8.ofNat (0x30 + n)] := by
  rw [spelledNat, Nat.toString_eq_ofList_toDigits, Nat.toDigits_of_lt_base small, bytesChars,
    String.toList_ofList]
  interval_cases n <;> rfl

theorem spelledDigits {n : Nat} (large : 10 ≤ n) :
    spelledNat n = spelledNat (n / 10) ++ spelledNat (n % 10) := by
  simp only [spelledNat, Nat.toString_eq_ofList_toDigits, bytesChars, String.toList_ofList]
  rw [Nat.toDigits_of_base_le (by decide) large, List.flatMap_append,
    Nat.toDigits_of_lt_base (Nat.mod_lt n (by decide))]

theorem digitByte {n : Nat} (small : n < 10) :
    isDigit (UInt8.ofNat (0x30 + n)) = true ∧ digitValue (UInt8.ofNat (0x30 + n)) = n ∧
      (UInt8.ofNat (0x30 + n) = 0x30 → n = 0) := by
  interval_cases n <;> decide

theorem integerDigit (negative : Bool) {significand : Nat} {b : UInt8} (rest : Bytes)
    (digit : isDigit b = true) (fits : significand * 10 + digitValue b < significandLimit) :
    integerDigits negative significand (b :: rest) =
      integerDigits negative (significand * 10 + digitValue b) rest := by
  rw [integerDigits, if_pos digit]
  exact if_neg (Nat.not_le.mpr fits)

theorem readDigits (negative : Bool) {n : Nat} (positive : 0 < n) (fits : n < significandLimit)
    (rest : Bytes) :
    readNumber negative (spelledNat n ++ rest) = integerDigits negative n rest := by
  induction n using Nat.strong_induction_on generalizing rest with
  | _ n ih =>
    by_cases small : n < 10
    · obtain ⟨digit, value, zero⟩ := digitByte small
      have other : UInt8.ofNat (0x30 + n) ≠ 0x30 := fun same => Nat.ne_of_gt positive (zero same)
      rw [spelledDigit small, List.singleton_append]
      generalize UInt8.ofNat (0x30 + n) = b at *
      unfold readNumber
      split <;> simp_all
    · have last : n % 10 < 10 := Nat.mod_lt n (by decide)
      have whole : n / 10 * 10 + n % 10 = n := by omega
      obtain ⟨digit, value, -⟩ := digitByte last
      rw [spelledDigits (Nat.not_lt.mp small), List.append_assoc,
        ih (n / 10) (by omega) (by omega) (by omega), spelledDigit last, List.singleton_append,
        integerDigit negative rest digit (by omega), value, whole]

theorem integerDigitsClosed (negative : Bool) (n : Nat) {rest : Bytes} (closed : Closed rest) :
    integerDigits negative n rest = finishInteger negative n rest := by
  cases closed with
  | finished => rfl
  | marked rest mark => rcases mark with rfl | rfl | rfl <;> rfl

theorem readSpelledNat (negative : Bool) {n : Nat} (fits : n < significandLimit) {rest : Bytes}
    (closed : Closed rest) :
    readNumber negative (spelledNat n ++ rest) = finishInteger negative n rest := by
  rcases Nat.eq_zero_or_pos n with rfl | positive
  · rw [spelledDigit (by decide), List.singleton_append]
    cases closed with
    | finished => rfl
    | marked rest mark => rcases mark with rfl | rfl | rfl <;> rfl
  · rw [readDigits negative positive fits, integerDigitsClosed negative n closed]

theorem spelledNatFirst (n : Nat) : ∃ b bs, spelledNat n = b :: bs ∧ isDigit b = true := by
  induction n using Nat.strong_induction_on with
  | _ n ih =>
    by_cases small : n < 10
    · exact ⟨_, [], spelledDigit small, (digitByte small).1⟩
    · obtain ⟨b, bs, first, digit⟩ := ih (n / 10) (by omega)
      exact ⟨b, bs ++ spelledNat (n % 10), by rw [spelledDigits (Nat.not_lt.mp small), first]; rfl,
        digit⟩

theorem readPlainDigit {b : UInt8} (digit : isDigit b = true) (rest : Bytes) :
    readPlain (b :: rest) =
      (readNumber false (b :: rest)).map fun (n, rest) => (.number n, rest) := by
  have marks : b ≠ 0x6e ∧ b ≠ 0x74 ∧ b ≠ 0x66 ∧ b ≠ 0x2d := by
    refine ⟨?_, ?_, ?_, ?_⟩
    all_goals
      rintro rfl
      exact absurd digit (by decide)
  unfold readPlain
  split <;> simp_all
  cases readNumber false (_ :: _) <;> rfl

theorem spelledNegative (m : Nat) :
    spelledNumber (.integer (.negSucc m)) = 0x2d :: spelledNat (m + 1) := by
  have text : (Number.integer (.negSucc m)).text = "-" ++ toString (m + 1) := rfl
  rw [spelledNumber, text, bytesAppend, bytesChars "-"]
  rfl

theorem readSpelledInteger {n : Int} (fits : Number.InRange n) {rest : Bytes}
    (closed : Closed rest) :
    readPlain (spelledNumber (.integer n) ++ rest) = .ok (.number (.integer n), rest) := by
  obtain ⟨low, high⟩ := fits
  cases n with
  | ofNat m =>
    have fits : m < significandLimit := by
      simp only [Number.uint64Max, Int.ofNat_eq_natCast] at high
      unfold significandLimit
      omega
    have read := readSpelledNat false fits closed
    have spelled : spelledNumber (.integer (.ofNat m)) = spelledNat m := rfl
    obtain ⟨b, bs, first, digit⟩ := spelledNatFirst m
    rw [spelled]
    rw [first] at read ⊢
    rw [List.cons_append, readPlainDigit digit, ← List.cons_append, read]
    rfl
  | negSucc m =>
    have small : m + 1 ≤ 0x8000_0000_0000_0000 := by
      simp only [Number.int64Min, Int.negSucc_eq] at low
      omega
    have fits : m + 1 < significandLimit := by
      unfold significandLimit
      omega
    have within : ¬(m + 1 = 0 ∨ m + 1 > 0x8000_0000_0000_0000) := by omega
    have read := readSpelledNat true fits closed
    simp only [finishInteger, if_true, if_neg within] at read
    rw [spelledNegative, List.cons_append, readPlain, read, Int.negSucc_eq]
    rfl

end Bayeux.Json
