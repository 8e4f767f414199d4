import Bayeux.Proofs.Json.Integers
/-! What is left behind a number that was read ends the input, and an integer is written with no
more digits than it was read from. -/

namespace Bayeux.Json

/-- The number is real, and what is left ends the input. -/
def RealFrom (input : Bytes) (read : Read Number) : Prop :=
  ∀ n rest, read = .ok (n, rest) → (∃ d, n = .real d) ∧ rest <:+ input

theorem RealFrom.failed (input : Bytes) (fault : Fault) : RealFrom input (.error fault) :=
  fun _ _ read => by cases read

theorem RealFrom.within {input wider : Bytes} {read : Read Number} (here : RealFrom input read)
    (inside : input <:+ wider) : RealFrom wider read := by
  intro n rest read
  obtain ⟨real, tail⟩ := here n rest read
  exact ⟨real, tail.trans inside⟩

theorem RealFrom.behind {b : UInt8} {input : Bytes} {read : Read Number}
    (here : RealFrom input read) : RealFrom (b :: input) read :=
  here.within (List.suffix_cons b input)

theorem realNumberReal {negative : Bool} {x : Float} {n : Number}
    (known : realNumber negative x = .ok n) : ∃ d, n = .real d := by
  unfold realNumber at known
  split at known
  · rename_i found
    cases known
    obtain ⟨d, -, rfl⟩ := Option.map_eq_some_iff.mp found
    exact ⟨d, rfl⟩
  · cases known

theorem realOf {α : Type} (result : Except Fault α) {number : α → Except Fault Number}
    (real : ∀ x n, number x = .ok n → ∃ d, n = .real d) (rest : Bytes) :
    RealFrom rest ((result.bind number).map (·, rest)) := by
  intro n left read
  cases result with
  | error fault => cases read
  | ok x =>
    simp only [Except.bind] at read
    cases known : number x with
    | error fault =>
      rw [known] at read
      cases read
    | ok m =>
      rw [known] at read
      cases read
      exact ⟨real x n known, List.suffix_rfl⟩

theorem finishRealFrom (negative : Bool) (significand : Nat) (exponent : Int) (rest : Bytes) :
    RealFrom rest (finishReal negative significand exponent rest) :=
  realOf _ (fun _ _ => realNumberReal) rest

theorem skipDigitsTail (input : Bytes) : skipDigits input <:+ input := by
  induction input with
  | nil => exact List.suffix_rfl
  | cons b input ih =>
    unfold skipDigits
    split
    · exact ih.trans (List.suffix_cons b input)
    · exact List.suffix_rfl

theorem hugeExponentFrom (negative : Bool) (significand : Nat) (growing : Bool) (rest : Bytes) :
    RealFrom rest (finishHugeExponent negative significand growing rest) := by
  unfold finishHugeExponent
  split
  · exact .failed _ _
  · exact (realOf (.ok (0 : Float)) (fun _ _ => realNumberReal) (skipDigits rest)).within
      (skipDigitsTail rest)

theorem exponentDigitsFrom (negative : Bool) (significand : Nat) (start : Int) (growing : Bool)
    (exponent : Nat) (input : Bytes) :
    RealFrom input (exponentDigits negative significand start growing exponent input) := by
  induction input generalizing exponent with
  | nil => exact finishRealFrom _ _ _ _
  | cons b rest ih =>
    simp only [exponentDigits]
    split
    · split
      · exact (hugeExponentFrom _ _ _ _).behind
      · exact (ih _).behind
    · exact finishRealFrom _ _ _ _

theorem exponentFirstFrom (negative : Bool) (significand : Nat) (start : Int) (growing : Bool)
    (input : Bytes) : RealFrom input (exponentFirst negative significand start growing input) := by
  cases input with
  | nil => exact .failed _ _
  | cons b rest =>
    simp only [exponentFirst]
    split
    · exact (exponentDigitsFrom _ _ _ _ _ _).behind
    · exact .failed _ _

theorem exponentPartFrom (negative : Bool) (significand : Nat) (start : Int) (input : Bytes) :
    RealFrom input (exponentPart negative significand start input) := by
  unfold exponentPart
  split
  · exact (exponentFirstFrom _ _ _ _ _).behind
  · exact (exponentFirstFrom _ _ _ _ _).behind
  · exact exponentFirstFrom _ _ _ _ _

theorem fractionOverflowFrom (negative : Bool) (significand : Nat) (exponent : Int)
    (input : Bytes) : RealFrom input (fractionOverflow negative significand exponent input) := by
  have tail := skipDigitsTail input
  unfold fractionOverflow
  split
  · rename_i b rest behind
    rw [behind] at tail
    split
    · exact (exponentPartFrom _ _ _ _).behind.within tail
    · exact (finishRealFrom _ _ _ _).within tail
  · rename_i behind
    rw [behind] at tail
    exact (finishRealFrom _ _ _ _).within tail

theorem fractionFrom (negative : Bool) (before : Int) (seen significand : Nat) (input : Bytes) :
    RealFrom input (fraction negative before seen significand input) := by
  induction input generalizing seen significand with
  | nil =>
    unfold fraction
    split
    · exact .failed _ _
    · exact finishRealFrom _ _ _ _
  | cons b rest ih =>
    simp only [fraction]
    split_ifs
    · exact fractionOverflowFrom _ _ _ _
    · exact (ih _ _).behind
    · exact .failed _ _
    · exact (exponentPartFrom _ _ _ _).behind
    · exact finishRealFrom _ _ _ _

theorem longIntegerFrom (negative : Bool) (significand exponent : Nat) (input : Bytes) :
    RealFrom input (longInteger negative significand exponent input) := by
  induction input generalizing exponent with
  | nil => exact finishRealFrom _ _ _ _
  | cons b rest ih =>
    simp only [longInteger]
    split_ifs
    · exact (ih _).behind
    · exact (fractionFrom _ _ _ _ _).behind
    · exact (exponentPartFrom _ _ _ _).behind
    · exact finishRealFrom _ _ _ _

def signed (negative : Bool) (m : Nat) : Int := if negative then -m else m

/-- Behind `taken` digits a number is read: a real one, or an integer that takes no more digits
than were read. -/
inductive LiteralFrom (negative : Bool) (taken : Nat) (input : Bytes) : Number → Bytes → Prop where
  | real (d : Double) {rest : Bytes} (tail : rest <:+ input) :
      LiteralFrom negative taken input (.real d) rest
  | integer {m : Nat} {rest : Bytes} (tail : rest <:+ input)
      (ranged : Number.InRange (signed negative m))
      (some : 1 ≤ taken + (input.length - rest.length))
      (short : m < 10 ^ (taken + (input.length - rest.length))) :
      LiteralFrom negative taken input (.integer (signed negative m)) rest

theorem literalInteger (negative : Bool) {taken m : Nat} {input rest : Bytes}
    (tail : rest <:+ input) (ranged : Number.InRange (signed negative m))
    (some : 1 ≤ taken + (input.length - rest.length))
    (short : m < 10 ^ (taken + (input.length - rest.length))) :
    LiteralFrom negative taken input (.integer (signed negative m)) rest :=
  .integer tail ranged some short

theorem RealFrom.literal {negative : Bool} {taken : Nat} {input rest : Bytes} {n : Number}
    {read : Read Number} (here : RealFrom input read) (known : read = .ok (n, rest)) :
    LiteralFrom negative taken input n rest := by
  obtain ⟨⟨d, rfl⟩, tail⟩ := here n rest known
  exact .real d tail

theorem literalBehind {negative : Bool} {taken : Nat} {b : UInt8} {input rest : Bytes} {n : Number}
    (literal : LiteralFrom negative (taken + 1) input n rest) :
    LiteralFrom negative taken (b :: input) n rest := by
  cases literal with
  | real d tail => exact .real d (tail.trans (List.suffix_cons b input))
  | integer tail ranged some short =>
    have longer := tail.length_le
    refine .integer (tail.trans (List.suffix_cons b input)) ranged
      (by rw [List.length_cons]; omega) (short.trans_le ?_)
    exact Nat.pow_le_pow_right (by decide) (by rw [List.length_cons]; omega)

theorem finishIntegerLiteral {negative : Bool} {significand taken : Nat} {input rest : Bytes}
    {n : Number} (fits : significand < significandLimit) (some : 1 ≤ taken)
    (short : significand < 10 ^ taken)
    (known : finishInteger negative significand input = .ok (n, rest)) :
    LiteralFrom negative taken input n rest := by
  have digits : significand < 10 ^ (taken + (input.length - input.length)) := by simpa using short
  unfold significandLimit at fits
  unfold finishInteger at known
  split at known
  · rename_i minus
    subst minus
    split at known
    · exact (finishRealFrom _ _ _ _).literal known
    · rename_i small
      cases known
      refine literalInteger true List.suffix_rfl ⟨?_, ?_⟩ (by omega) digits
      all_goals
        simp only [signed, if_true, Number.int64Min, Number.uint64Max]
        omega
  · rename_i plus
    cases (Bool.not_eq_true negative).mp plus
    cases known
    refine literalInteger false List.suffix_rfl ⟨?_, ?_⟩ (by omega) digits
    all_goals
      simp only [signed, Bool.false_eq_true, if_false, Number.int64Min, Number.uint64Max]
      omega

theorem integerEndLiteral {negative : Bool} {significand taken : Nat} {input rest : Bytes}
    {n : Number} (fits : significand < significandLimit) (some : 1 ≤ taken)
    (short : significand < 10 ^ taken)
    (known : integerEnd negative significand input = .ok (n, rest)) :
    LiteralFrom negative taken input n rest := by
  cases input with
  | nil => exact finishIntegerLiteral fits some short known
  | cons b behind =>
    simp only [integerEnd] at known
    split at known
    · exact (fractionFrom _ _ _ _ _).behind.literal known
    · split at known
      · exact (exponentPartFrom _ _ _ _).behind.literal known
      · exact finishIntegerLiteral fits some short known

theorem digitBelow {b : UInt8} (digit : isDigit b = true) : digitValue b < 10 := by
  simp only [isDigit, Bool.and_eq_true, decide_eq_true_eq, UInt8.le_iff_toNat_le] at digit
  have high : b.toNat ≤ 57 := digit.2
  unfold digitValue
  omega

theorem integerDigitsLiteral {negative : Bool} {significand taken : Nat} {input rest : Bytes}
    {n : Number} (fits : significand < significandLimit) (some : 1 ≤ taken)
    (short : significand < 10 ^ taken)
    (known : integerDigits negative significand input = .ok (n, rest)) :
    LiteralFrom negative taken input n rest := by
  induction input generalizing significand taken with
  | nil => exact integerEndLiteral fits some short known
  | cons b behind ih =>
    simp only [integerDigits] at known
    split at known
    · rename_i digit
      have small := digitBelow digit
      split at known
      · exact (longIntegerFrom _ _ _ _).literal known
      · rename_i next
        exact literalBehind (ih (Nat.not_le.mp next) (by omega) (by rw [Nat.pow_succ]; omega) known)
    · exact integerEndLiteral fits some short known

theorem readNumberLiteral {negative : Bool} {input rest : Bytes} {n : Number}
    (known : readNumber negative input = .ok (n, rest)) : LiteralFrom negative 0 input n rest := by
  unfold readNumber at known
  split at known
  · cases known
  · split at known
    · cases known
    · exact literalBehind (integerEndLiteral (by decide) (by decide) (by decide) known)
  · exact literalBehind (integerEndLiteral (by decide) (by decide) (by decide) known)
  · split at known
    · rename_i digit
      have small := digitBelow digit
      have fits : digitValue _ < significandLimit := small.trans (by decide)
      exact literalBehind (integerDigitsLiteral fits (by decide) (by simpa using small) known)
    · cases known

theorem spelledNatShort {n k : Nat} (short : n < 10 ^ k) (some : 1 ≤ k) :
    (spelledNat n).length ≤ k := by
  induction k generalizing n with
  | zero => cases some
  | succ k ih =>
    by_cases small : n < 10
    · rw [spelledDigit small]
      exact some
    · have last : n % 10 < 10 := Nat.mod_lt n (by decide)
      rw [Nat.pow_succ] at short
      have more : 1 ≤ k := by
        by_contra none
        have zero : k = 0 := by omega
        rw [zero] at short
        omega
      rw [spelledDigits (Nat.not_lt.mp small), List.length_append, spelledDigit last]
      exact Nat.add_le_add_right (ih (by omega) more) 1

end Bayeux.Json
